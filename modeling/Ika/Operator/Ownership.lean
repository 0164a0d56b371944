import Ika.Operator.PreRegistration

/-! Whose a pre-registration is, in every interleaving of handlers and devices. -/

set_option autoImplicit false

namespace Ika.Operator

open Transition List Function Option

def Handler.Waits (handler : Handler) (id : String) (index : Nat) : Prop :=
  handler.stage = .accepted index ∨ id ∈ handler.idSet ∧ handler.stage ≠ .returned

def State.Listed (state : State) (id : String) (pending : PreDevice) : Prop :=
  ∃ handler d, state.handlers pending.regCh.handler = some handler ∧
    handler.msg.devices[pending.regCh.index]? = some d ∧ d.id = id ∧
      pending.desc = handler.msg.describe d

structure State.Kept (state : State) : Prop where
  apart : ∀ id, (state.pool.preDevices id).isSome → state.pool.devices id = none
  /-- Whoever has checked an id holds the mutex, and the id is still free. -/
  free : ∀ h handler next, state.handlers h = some handler → handler.stage = .checked next →
    state.pool.preDevicesMtx = some h ∧ ∀ d, handler.msg.devices[next]? = some d →
      state.pool.preDevices d.id = none ∧ state.pool.devices d.id = none
  listed : ∀ id pending, state.pool.preDevices id = some pending → state.Listed id pending
  waits : ∀ id pending, state.pool.preDevices id = some pending →
    ∀ handler, state.handlers pending.regCh.handler = some handler →
      handler.Waits id pending.regCh.index
  described : ∀ registration ∈ state.registrations, ∀ pending,
    registration.pending = some pending →
      registration.descriptor = pending.desc ∧ state.Listed registration.id pending
  own : ∀ cancellation ∈ state.cancellations,
    cancellation.pending.regCh.handler = cancellation.handler

theorem State.Kept.sound {state : State} (kept : state.Kept) : state.Sound where
  apart := kept.apart
  described := kept.described
  withdrawn h handler known returned id pending stands same := by
    have waits := kept.waits id pending stands handler (same ▸ known)
    rcases waits with accepted | ⟨-, still⟩
    · rw [returned] at accepted
      cases accepted
    · exact still returned
  own := kept.own

theorem State.Kept.empty : State.empty.Kept where
  apart _ _ := rfl
  free _ _ _ known := nomatch known
  listed _ _ pending := nomatch pending
  waits _ _ pending := nomatch pending
  described _ listed := nomatch listed
  own _ listed := nomatch listed

variable {state : State} {h : Nat} {handler after : Handler}

theorem setHandler_self : (state.setHandler h after).handlers h = some after :=
  update_self ..

theorem setHandler_other {other : Nat} (apart : other ≠ h) :
    (state.setHandler h after).handlers other = state.handlers other :=
  update_of_ne apart ..

variable {id : String} {pending : PreDevice} {index : Nat} {next : State}

theorem listed_setHandler (known : state.handlers h = some handler)
    (same : after.msg = handler.msg) (listed : state.Listed id pending) :
    (state.setHandler h after).Listed id pending := by
  obtain ⟨before, d, here, at_, named, desc⟩ := listed
  by_cases mine : pending.regCh.handler = h
  · rw [mine, known] at here
    cases here
    exact ⟨after, d, mine ▸ setHandler_self, same ▸ at_, named, same ▸ desc⟩
  · exact ⟨before, d, (setHandler_other mine).trans here, at_, named, desc⟩

/-- A handler may go on as long as it still waits for what is pending for it. -/
theorem State.Kept.setHandler (kept : state.Kept) (known : state.handlers h = some handler)
    (same : after.msg = handler.msg)
    (checks : ∀ next, after.stage = .checked next → state.pool.preDevicesMtx = some h ∧
      ∀ d, after.msg.devices[next]? = some d →
        state.pool.preDevices d.id = none ∧ state.pool.devices d.id = none)
    (waiting : ∀ id pending, state.pool.preDevices id = some pending →
      pending.regCh.handler = h → handler.Waits id pending.regCh.index →
        after.Waits id pending.regCh.index) :
    (state.setHandler h after).Kept where
  apart := kept.apart
  free other before next here checked := by
    by_cases mine : other = h
    · subst mine
      rw [setHandler_self] at here
      cases here
      exact checks next checked
    · rw [setHandler_other mine] at here
      exact kept.free other before next here checked
  listed id pending stands := listed_setHandler known same (kept.listed id pending stands)
  waits id pending stands before here := by
    by_cases mine : pending.regCh.handler = h
    · rw [mine, setHandler_self] at here
      cases here
      exact waiting id pending stands mine
        (kept.waits id pending stands handler (mine ▸ known))
    · rw [setHandler_other mine] at here
      exact kept.waits id pending stands before here
  described registration logged pending was :=
    have both := kept.described registration logged pending was
    ⟨both.1, listed_setHandler known same both.2⟩
  own := kept.own

theorem State.Kept.progress (kept : state.Kept) (known : state.handlers h = some handler)
    (same : after.msg = handler.msg) (set : after.idSet = handler.idSet)
    (stage : after.stage = handler.stage) : (state.setHandler h after).Kept := by
  refine kept.setHandler known same (fun next checked => ?_) fun id pending _ _ waits => ?_
  · rw [same]
    exact kept.free h handler next known (stage ▸ checked)
  · unfold Handler.Waits at waits ⊢
    rw [set, stage]
    exact waits

theorem State.Kept.settle (kept : state.Kept) (regCh : RegCh) (outcome : Outcome) :
    (state.settle regCh outcome).Kept := by
  cases known : state.handlers regCh.handler with
  | none =>
    have same : state.settle regCh outcome = state := by
      unfold State.settle State.modifyHandler
      rw [known, map_none, ← known, update_eq_self]
    rw [same]
    exact kept
  | some handler =>
    have same : state.settle regCh outcome = state.setHandler regCh.handler
        {handler with regChs := update handler.regChs regCh.index outcome} := by
      unfold State.settle State.modifyHandler State.setHandler
      rw [known, map_some]
    rw [same]
    exact kept.progress known rfl rfl rfl

theorem State.Kept.unchecked (kept : state.Kept) (free : state.pool.preDevicesMtx = none)
    {next : Nat} (known : state.handlers h = some handler) : handler.stage ≠ .checked next := by
  intro checked
  rw [(kept.free h handler next known checked).1] at free
  cases free

theorem update_none_eq_some {Value : Type} {entries : String → Option Value} {other : String}
    {value : Value} (stands : update entries id none other = some value) :
    other ≠ id ∧ entries other = some value := by
  by_cases same : other = id
  · subst same
    rw [update_self] at stands
    cases stands
  · rw [update_of_ne same] at stands
    exact ⟨same, stands⟩

theorem update_some_eq_some {Value : Type} {entries : String → Option Value} {id other : String}
    {new value : Value} (stands : update entries id (some new) other = some value) :
    other = id ∧ new = value ∨ entries other = some value := by
  by_cases same : other = id
  · subst same
    rw [update_self] at stands
    exact .inl ⟨rfl, Option.some.inj stands⟩
  · rw [update_of_ne same] at stands
    exact .inr stands

section

variable (kept : state.Kept)
include kept

theorem State.Kept.withdraw (free : state.pool.preDevicesMtx = none) (id : String) :
    State.Kept {state with pool := state.pool.CancelPreRegistration id} where
  apart other stands := by
    obtain ⟨pending, stands⟩ := isSome_iff_exists.mp stands
    exact kept.apart other (isSome_iff_exists.mpr ⟨pending, (update_none_eq_some stands).2⟩)
  free _ _ _ known checked := absurd checked (kept.unchecked free known)
  listed other pending stands := kept.listed other pending (update_none_eq_some stands).2
  waits other pending stands := kept.waits other pending (update_none_eq_some stands).2
  described := kept.described
  own := kept.own

theorem State.Kept.register (free : state.pool.preDevicesMtx = none) (e : Nat) (id : String) :
    State.Kept
      {state with
        pool := state.pool.Register id
        endpoints := update state.endpoints e (some id)
        registrations := state.registrations ++
          [{id, pending := state.pool.preDevices id, descriptor := state.pool.describe id}]} where
  apart other stands := by
    obtain ⟨pending, stands⟩ := isSome_iff_exists.mp stands
    obtain ⟨apart, before⟩ := update_none_eq_some stands
    change update state.pool.devices id _ other = none
    rw [update_of_ne apart]
    exact kept.apart other (isSome_iff_exists.mpr ⟨pending, before⟩)
  free _ _ _ known checked := absurd checked (kept.unchecked free known)
  listed other pending stands := kept.listed other pending (update_none_eq_some stands).2
  waits other pending stands := kept.waits other pending (update_none_eq_some stands).2
  described registration logged pending was := by
    rcases mem_append.mp logged with before | new
    · exact kept.described registration before pending was
    · cases mem_singleton.mp new
      have stands : state.pool.preDevices id = some pending := was
      refine ⟨?_, kept.listed id pending stands⟩
      change state.pool.describe id = pending.desc
      unfold DevicePool.describe
      rw [stands]
  own := kept.own

theorem State.Kept.unregister (e : Nat) (id : String) :
    State.Kept
      {state with
        pool := state.pool.Unregister id
        endpoints := update state.endpoints e none} where
  apart other stands := by
    change update state.pool.devices id none other = none
    by_cases same : other = id
    · rw [same, update_self]
    · rw [update_of_ne same]
      exact kept.apart other stands
  free h handler next known checked := by
    obtain ⟨held, free⟩ := kept.free h handler next known checked
    refine ⟨held, fun d listed => ⟨(free d listed).1, ?_⟩⟩
    change update state.pool.devices id none d.id = none
    by_cases same : d.id = id
    · rw [same, update_self]
    · rw [update_of_ne same]
      exact (free d listed).2
  listed := kept.listed
  waits := kept.waits
  described := kept.described
  own := kept.own

theorem State.Kept.lock (free : state.pool.preDevicesMtx = none) (h : Nat) :
    State.Kept {state with pool := {state.pool with preDevicesMtx := some h}} :=
  {kept with
    free := fun _ _ _ known checked => absurd checked (kept.unchecked free known)}

theorem State.Kept.insert
    (unchecked : ∀ who handler next, state.handlers who = some handler →
      handler.stage ≠ .checked next)
    (unregistered : state.pool.devices pending.desc.deviceId = none)
    (listed : state.Listed pending.desc.deviceId pending)
    (waits : ∀ handler, state.handlers pending.regCh.handler = some handler →
      handler.Waits pending.desc.deviceId pending.regCh.index) :
    State.Kept {state with pool := state.pool.PreRegister pending} where
  apart other stands := by
    by_cases same : other = pending.desc.deviceId
    · exact same ▸ unregistered
    · change (update state.pool.preDevices _ _ other).isSome at stands
      rw [update_of_ne same] at stands
      exact kept.apart other stands
  free _ _ _ known checked := absurd checked (unchecked _ _ _ known)
  listed other entry stands := by
    rcases update_some_eq_some stands with ⟨rfl, rfl⟩ | before
    · exact listed
    · exact kept.listed other entry before
  waits other entry stands := by
    rcases update_some_eq_some stands with ⟨rfl, rfl⟩ | before
    · exact waits
    · exact kept.waits other entry before
  described := kept.described
  own := kept.own

theorem State.Kept.start (fresh : state.handlers h = none)
    (msg : PreRegisterMsg) : (state.setHandler h (.start msg)).Kept := by
  have other : ∀ id pending, state.pool.preDevices id = some pending →
      pending.regCh.handler ≠ h := by
    intro id pending stands same
    obtain ⟨handler, d, known, -⟩ := kept.listed id pending stands
    rw [same, fresh] at known
    cases known
  have listed : ∀ id pending, state.Listed id pending →
      (state.setHandler h (.start msg)).Listed id pending := by
    rintro id pending ⟨handler, d, known, rest⟩
    have apart : pending.regCh.handler ≠ h := by
      intro same
      rw [same, fresh] at known
      cases known
    exact ⟨handler, d, (setHandler_other apart).trans known, rest⟩
  exact
    {kept with
      free := fun who handler next known checked => by
        by_cases mine : who = h
        · subst mine
          rw [setHandler_self] at known
          cases known
          cases checked
        · rw [setHandler_other mine] at known
          exact kept.free who handler next known checked
      listed := fun id pending stands => listed id pending (kept.listed id pending stands)
      waits := fun id pending stands handler known => by
        rw [setHandler_other (other id pending stands)] at known
        exact kept.waits id pending stands handler known
      described := fun registration logged pending was =>
        have both := kept.described registration logged pending was
        ⟨both.1, listed _ _ both.2⟩}

end

theorem refusal_eq_none (none_ : state.pool.refusal id = none) :
    state.pool.preDevices id = none ∧ state.pool.devices id = none := by
  unfold DevicePool.refusal at none_
  split_ifs at none_ with pending registered
  exact ⟨not_isSome_iff_eq_none.mp pending, not_isSome_iff_eq_none.mp registered⟩

theorem Handler.Waits.noted (waits : handler.Waits id index)
    (elsewhere : handler.stage ≠ .accepted index) : id ∈ handler.idSet :=
  (waits.resolve_left elsewhere).1

theorem State.Kept.check (kept : state.Kept) (known : state.handlers h = some handler)
    (moved : state.check h handler = some next) : next.Kept := by
  unfold State.check at moved
  split at moved
  · rename_i position stage mutex
    cases listed : handler.msg.devices[position]? with
    | none =>
      rw [listed] at moved
      cases moved
    | some d =>
      rw [listed] at moved
      dsimp only at moved
      cases refused : state.pool.refusal d.id with
      | some msg =>
        rw [refused] at moved
        cases moved
        exact kept.setHandler known rfl nofun fun id pending stands _ waits =>
          .inr ⟨waits.noted (stage ▸ nofun), nofun⟩
      | none =>
        rw [refused] at moved
        cases moved
        have free := refusal_eq_none refused
        refine (kept.lock mutex h).setHandler known rfl (fun at_ checked => ?_)
          fun id pending stands _ waits => .inr ⟨waits.noted (stage ▸ nofun), nofun⟩
        cases checked
        refine ⟨rfl, fun other here => ?_⟩
        cases listed.symm.trans here
        exact free
  · cases moved

theorem State.Kept.store (kept : state.Kept) (known : state.handlers h = some handler)
    (moved : state.store h handler = some next) : next.Kept := by
  unfold State.store at moved
  split at moved
  · rename_i position stage
    cases listed : handler.msg.devices[position]? with
    | none =>
      rw [listed] at moved
      cases moved
    | some d =>
      rw [listed] at moved
      cases moved
      obtain ⟨held, free⟩ := kept.free h handler position known stage
      have accepted : (state.setHandler h {handler with stage := .accepted position}).Kept :=
        kept.setHandler known rfl nofun fun id pending stands _ waits =>
          .inr ⟨waits.noted (stage ▸ nofun), nofun⟩
      refine accepted.insert (fun who other at_ here checked => ?_) (free d listed).2
        ⟨_, d, setHandler_self, listed, rfl, rfl⟩ fun other here => ?_
      · by_cases mine : who = h
        · subst mine
          rw [setHandler_self] at here
          cases here
          cases checked
        · -- The mutex has one holder.
          rw [setHandler_other mine] at here
          have other := (kept.free who other at_ here checked).1
          rw [held] at other
          exact mine (Option.some.inj other).symm
      · rw [setHandler_self] at here
        cases here
        exact .inl rfl
  · cases moved

theorem State.Kept.note (kept : state.Kept) (known : state.handlers h = some handler)
    (moved : state.note h handler = some next) : next.Kept := by
  unfold State.note at moved
  split at moved
  · rename_i position stage
    cases listed : handler.msg.devices[position]? with
    | none =>
      rw [listed] at moved
      cases moved
    | some d =>
      rw [listed] at moved
      cases moved
      refine kept.setHandler known rfl nofun fun id pending stands mine waits => .inr ⟨?_, nofun⟩
      rcases waits with accepted | ⟨noted, -⟩
      · rw [stage] at accepted
        obtain ⟨other, here, same, at_, rfl, -⟩ := kept.listed id pending stands
        rw [mine, known] at same
        cases same
        cases accepted
        cases listed.symm.trans at_
        exact mem_insert_self
      · exact mem_insert_of_mem noted
  · cases moved

theorem pendingFor (stands : state.pool.preDevices id = some pending)
    (mine : pending.regCh.handler = h) : state.PendingFor id h := by
  unfold State.PendingFor
  rw [stands, any_some]
  exact decide_eq_true mine

section

variable (kept : state.Kept)
include kept

section

variable (known : state.handlers h = some handler)
include known

theorem State.Kept.send {ok : Bool}
    (allowed : Allowed state (.send h ok)) (moved : state.send h handler ok = some next) :
    next.Kept := by
  have stage : handler.stage = .registering handler.msg.devices.length := by
    by_contra other
    rw [State.send, if_neg other] at moved
    cases moved
  have noted : ∀ id index, handler.Waits id index → id ∈ handler.idSet :=
    fun id index waits => waits.noted (stage ▸ nofun)
  rw [State.send, if_pos stage] at moved
  cases moved
  cases ok with
  | true =>
    exact kept.setHandler known rfl nofun fun id pending _ _ waits =>
      .inr ⟨noted id _ waits, nofun⟩
  | false =>
    exact kept.setHandler known rfl nofun fun id pending stands mine waits =>
      absurd (pendingFor stands mine) (allowed handler known id (noted id _ waits))

theorem State.Kept.takeEvent
    (allowed : Allowed state (.takeEvent h)) (moved : state.takeEvent h handler = some next) :
    next.Kept := by
  unfold State.takeEvent at moved
  split at moved
  · rename_i id devCh stage queued
    cases moved
    refine kept.setHandler known rfl (by rw [stage]; exact nofun)
      fun other pending stands mine waits => ?_
    have apart : other ≠ id := by
      rintro rfl
      exact allowed handler known other (by rw [queued]; rfl) (pendingFor stands mine)
    exact .inr ⟨mem_filter.mpr ⟨waits.noted (stage ▸ nofun), decide_eq_true apart⟩,
      by rw [stage]; exact nofun⟩
  · cases moved

theorem State.Kept.cancel
    (allowed : Allowed state (.cancel h id)) (moved : state.cancel h handler id = some next) :
    next.Kept := by
  unfold State.cancel at moved
  split_ifs at moved with ready
  obtain ⟨stage, listed, free⟩ := ready
  have still : ∀ other pending, other ≠ id → handler.Waits other pending →
      Handler.Waits
        {handler with idSet := handler.idSet.filter fun other => other ≠ id} other pending :=
    fun other pending apart waits =>
      .inr ⟨mem_filter.mpr ⟨waits.noted (stage ▸ nofun), decide_eq_true apart⟩,
        by rw [stage]; exact nofun⟩
  dsimp only at moved
  cases stands : state.pool.preDevices id with
  | none =>
    rw [stands] at moved
    cases moved
    refine kept.setHandler known rfl (by rw [stage]; exact nofun)
      fun other pending here _ waits => still other _ ?_ waits
    rintro rfl
    cases stands.symm.trans here
  | some pending =>
    rw [stands] at moved
    cases moved
    have noted : (State.setHandler {state with pool := state.pool.CancelPreRegistration id} h
        {handler with idSet := handler.idSet.filter fun other => other ≠ id}).Kept :=
      (kept.withdraw free id).setHandler known rfl (by rw [stage]; exact nofun)
        fun other entry here _ waits => still other _ (update_none_eq_some here).1 waits
    have settled := noted.settle pending.regCh .closed
    refine {settled with own := fun cancellation logged => ?_}
    rcases mem_append.mp logged with before | new
    · exact kept.own cancellation before
    · cases mem_singleton.mp new
      by_contra other
      refine allowed ?_
      unfold State.PendingElsewhere
      rw [stands, any_some]
      exact decide_eq_true other

theorem State.Kept.takeClose (moved : state.takeClose h handler = some next) : next.Kept := by
  unfold State.takeClose at moved
  split_ifs at moved with ready
  cases moved
  exact kept.setHandler known rfl nofun fun id pending _ _ waits =>
    .inr ⟨waits.noted (ready.1 ▸ nofun), nofun⟩

theorem State.Kept.finish (moved : state.finish h handler = some next) : next.Kept := by
  unfold State.finish at moved
  split_ifs at moved with ready
  cases moved
  refine kept.setHandler known rfl nofun fun id pending _ _ waits => ?_
  have listed := waits.noted (ready.1 ▸ nofun)
  rw [ready.2] at listed
  cases listed

theorem State.Kept.recvFails (moved : state.recvFails h handler = some next) : next.Kept := by
  unfold State.recvFails at moved
  split_ifs at moved
  cases moved
  exact kept.progress known rfl rfl rfl

theorem State.Kept.receive (moved : state.receive h handler index = some next) : next.Kept := by
  unfold State.receive at moved
  split at moved
  · cases moved
    exact kept.progress known rfl rfl rfl
  · cases moved
    exact kept.progress known rfl rfl rfl
  · cases moved

theorem State.Kept.deliver (moved : state.deliver h handler index = some next) : next.Kept := by
  unfold State.deliver at moved
  split at moved
  · split_ifs at moved
    cases moved
    exact kept.progress known rfl rfl rfl
  · cases moved

end

theorem State.Kept.registers {e : Nat} (moved : state.register e id = some next) : next.Kept := by
  unfold State.register at moved
  split_ifs at moved with ready taken
  · cases moved
    exact kept
  · dsimp only at moved
    have registered := kept.register ready.2 e id
    cases stands : state.pool.preDevices id with
    | none =>
      rw [stands] at moved registered
      cases moved
      exact registered
    | some pending =>
      rw [stands] at moved registered
      cases moved
      exact registered.settle pending.regCh .registered

theorem State.Kept.step {next : State} {event : Event}
    (allowed : Allowed state event) (moved : state.step event = some next) : next.Kept := by
  cases event with
  | start h msg =>
    change (if (state.handlers h).isSome then none else _) = some next at moved
    split_ifs at moved with known
    cases moved
    exact kept.start (not_isSome_iff_eq_none.mp known) msg
  | check h =>
    obtain ⟨handler, known, moved⟩ := bind_eq_some_iff.mp moved
    exact kept.check known moved
  | store h =>
    obtain ⟨handler, known, moved⟩ := bind_eq_some_iff.mp moved
    exact kept.store known moved
  | note h =>
    obtain ⟨handler, known, moved⟩ := bind_eq_some_iff.mp moved
    exact kept.note known moved
  | send h ok =>
    obtain ⟨handler, known, moved⟩ := bind_eq_some_iff.mp moved
    exact kept.send known allowed moved
  | recvFails h =>
    obtain ⟨handler, known, moved⟩ := bind_eq_some_iff.mp moved
    exact kept.recvFails known moved
  | takeEvent h =>
    obtain ⟨handler, known, moved⟩ := bind_eq_some_iff.mp moved
    exact kept.takeEvent known allowed moved
  | takeClose h =>
    obtain ⟨handler, known, moved⟩ := bind_eq_some_iff.mp moved
    exact kept.takeClose known moved
  | cancel h id =>
    obtain ⟨handler, known, moved⟩ := bind_eq_some_iff.mp moved
    exact kept.cancel known allowed moved
  | finish h =>
    obtain ⟨handler, known, moved⟩ := bind_eq_some_iff.mp moved
    exact kept.finish known moved
  | receive h index =>
    obtain ⟨handler, known, moved⟩ := bind_eq_some_iff.mp moved
    exact kept.receive known moved
  | deliver h index =>
    obtain ⟨handler, known, moved⟩ := bind_eq_some_iff.mp moved
    exact kept.deliver known moved
  | register e id => exact kept.registers moved
  | unregister e =>
    change state.unregister e = some next at moved
    unfold State.unregister at moved
    split at moved
    · cases moved
    · cases moved
      exact kept.unregister e _

end

/-- Every pre-registration has one owner, who withdraws it, while responses can be sent and no id
comes back to the pool under a handler's nose. -/
theorem preRegistration_owned {state : State} (reached : preRegistration.Reaches Allowed state) :
    state.Sound :=
  have kept : state.Kept :=
    reached.invariant (fun _ first => first ▸ State.Kept.empty)
      fun _ _ _ kept allowed moved => State.Kept.step kept allowed moved
  kept.sound

instance (state : State) (event : Event) : Decidable (Allowed state event) := by
  cases event with
  | send h ok => cases ok <;> unfold Allowed <;> infer_instance
  | _ => unfold Allowed; infer_instance

def twoDevices : PreRegisterMsg where
  groupName := "cvd"
  owner := "user"
  devices :=
    [{ id := "cvd-1", name := "first", adbPort := 6520},
      { id := "cvd-2", name := "second", adbPort := 6521}]

def oneRegisters : List Event :=
  [.start 0 twoDevices, .check 0, .store 0, .note 0, .check 0, .store 0, .note 0, .send 0 true,
    .register 5 "cvd-1", .receive 0 0, .deliver 0 0, .takeEvent 0, .recvFails 0, .takeClose 0,
    .cancel 0 "cvd-2", .receive 0 1, .finish 0, .unregister 5]

theorem preRegistration_owned_oneRegisters :
    ((preRegistration.runAllowed Allowed .empty oneRegisters).getD .empty).Sound :=
  preRegistration_owned (.getD_runAllowed _ (.start rfl) (by decide +kernel))

def oneDevice : PreRegisterMsg :=
  {twoDevices with devices := [{ id := "cvd-1", name := "first", adbPort := 6520}]}

def unsent : List Event :=
  [.start 0 oneDevice, .check 0, .store 0, .note 0, .send 0 false]

/-- The device comes and goes, and another pre-registers its id, before the handler looks. -/
def overtaken : List Event :=
  [.start 0 oneDevice, .check 0, .store 0, .note 0, .send 0 true, .register 5 "cvd-1",
    .unregister 5, .start 1 oneDevice, .check 1, .store 1, .note 1, .recvFails 0, .takeClose 0,
    .cancel 0 "cvd-1"]

/-- One handler leaves its pre-registration behind, and one cancels that of another. -/
theorem preRegistration_disowned :
    (∃ state, preRegistration.Reachable state ∧
      (state.handlers 0).map Handler.stage = some .returned ∧ state.PendingFor "cvd-1" 0) ∧
    ∃ state, preRegistration.Reachable state ∧
      (state.cancellations.map fun cancellation =>
        (cancellation.handler, cancellation.pending.regCh.handler)) = [(0, 1)] := by
  constructor
  · exact ⟨_, .of_run unsent (.start rfl) (some_get (by decide +kernel)).symm,
      by decide +kernel, by decide +kernel⟩
  · exact ⟨_, .of_run overtaken (.start rfl) (some_get (by decide +kernel)).symm,
      by decide +kernel⟩

end Ika.Operator
