import Ika.Operator.Clients

/-! What survives a device and a connection.

An entry of a device that names a WebSocket client is the one `device.Register` has returned the id
of, and it goes before the read pump ends. An entry that names a polled client is never deleted.
-/

set_option autoImplicit false

namespace Ika.Operator.Clients

open Transition List Function Option Nat

/-! ## Entries of devices -/

theorem Device.mem_clientsCopy {d : Device} {id : Nat} {client : Client}
    (entry : d.clients id = some client) (bound : id ≤ d.clientCount) : client ∈ d.clientsCopy :=
  mem_filterMap.mpr ⟨id, mem_range.mpr (by omega), entry⟩

namespace State

variable {state : State} {dev : Nat}

theorem clients_register {c : Client}
    (free : (state.devices dev).clients ((state.devices dev).clientCount + 1) = none)
    (device id : Nat) (client : Client) :
    ((state.setDevice dev ((state.devices dev).Register c)).devices device).clients id =
        some client ↔ (device = dev ∧ id = (state.devices dev).clientCount + 1 ∧ client = c) ∨
        (state.devices device).clients id = some client := by
  by_cases same : device = dev
  · subst same
    by_cases last : id = (state.devices device).clientCount + 1
    · subst last
      simp [setDevice, Device.Register, free, eq_comm]
    · simp [setDevice, Device.Register, last]
  · simp [setDevice, same]

variable (number : Nat) (c : Client) (device : Nat)

theorem clients_unregister (id : Nat) (client : Client) :
    ((state.setDevice dev ((state.devices dev).Unregister number)).devices device).clients id =
        some client ↔
      (state.devices device).clients id = some client ∧ ¬ (device = dev ∧ id = number) := by
  by_cases same : device = dev
  · subst same
    by_cases last : id = number
    · simp [setDevice, Device.Unregister, last]
    · simp [setDevice, Device.Unregister, last]
  · simp [setDevice, same]

theorem clientCount_register :
    (state.devices device).clientCount ≤
      ((state.setDevice dev ((state.devices dev).Register c)).devices device).clientCount := by
  by_cases same : device = dev
  · subst same
    simp [setDevice, Device.Register]
  · simp [setDevice, same]

theorem same_setDevice {Value : Type} {d : Device} (field : Device → Value)
    (same : field d = field (state.devices dev)) (device : Nat) :
    field ((state.setDevice dev d).devices device) = field (state.devices device) := by
  by_cases there : device = dev
  · subst there
    exact (congrArg field (update_self ..)).trans same
  · exact congrArg field (update_of_ne there ..)

theorem gone_register :
    ((state.setDevice dev ((state.devices dev).Register c)).devices device).gone =
      (state.devices device).gone := same_setDevice Device.gone (by rfl) device

theorem clientCount_unregister :
    ((state.setDevice dev ((state.devices dev).Unregister number)).devices device).clientCount =
      (state.devices device).clientCount := same_setDevice Device.clientCount (by rfl) device

theorem gone_unregister :
    ((state.setDevice dev ((state.devices dev).Unregister number)).devices device).gone =
      (state.devices device).gone := same_setDevice Device.gone (by rfl) device

theorem setDevice_other {device : Nat} (d : Device) (other : device ≠ dev) :
    (state.setDevice dev d).devices device = state.devices device :=
  update_of_ne other _ _

end State

variable {other : Nat} {after : WsClient}

theorem State.setWs_eq_some {state : State} {ws : Nat} {found : WsClient} :
    (state.setWs ws after).webSockets other = some found ↔
      (other = ws ∧ after = found) ∨ (other ≠ ws ∧ state.webSockets other = some found) := by
  unfold State.setWs
  by_cases same : other = ws
  · simp [same]
  · simp [same]

theorem State.exists_setWs {state : State} {ws : Nat} {P : WsClient → Prop}
    (known : ∃ found, state.webSockets other = some found ∧ P found)
    (stays : ∀ found, state.webSockets ws = some found → other = ws → P found → P after) :
    ∃ found, (state.setWs ws after).webSockets other = some found ∧ P found := by
  obtain ⟨found, known, holds⟩ := known
  by_cases same : other = ws
  · exact ⟨after, setWs_eq_some.mpr (.inl ⟨same, rfl⟩), stays found (same ▸ known) same holds⟩
  · exact ⟨found, setWs_eq_some.mpr (.inr ⟨same, known⟩), holds⟩

/-! ## What every step keeps -/

/-- Behind `device.Unregister` in the read pump. -/
def WsClient.Leaving (client : WsClient) : Prop :=
  client.readPump = .closing ∨ client.readPump = .ended

def WsClient.Staged (client : WsClient) : Prop :=
  match client.connecting with
  | .looked => client.returned = none ∧ client.readPump = .absent
  | .started =>
    client.returned = none ∧ (client.readPump = .running ∨ client.readPump = .unregistering)
  | .registered => client.readPump = .running ∨ client.readPump = .unregistering
  | .finished =>
    (client.readPump = .absent → client.returned = none) ∧
      (client.readPump ≠ .absent → client.returned = some client.clientId)

def State.Sealed (state : State) (device : Nat) : Prop :=
  (state.devices device).gone = true ∨
    ∃ call, state.unregistering = some call ∧ call.device = device

structure State.Kept (state : State) : Prop where
  fresh : ∀ device, state.deviceCount ≤ device → state.devices device = .new
  pooled : ∀ id device, state.pool id = some device →
    device < state.deviceCount ∧ (state.devices device).gone = false
  owned : ∀ id other device, state.pool id = some device → state.pool other = some device →
    id = other
  held : ∀ call, state.unregistering = some call → state.pool call.id = some call.device
  bounded : ∀ device id client, (state.devices device).clients id = some client →
    id ≤ (state.devices device).clientCount
  connected : ∀ connId client, state.connections connId = some client →
    (state.devices client.device).clients client.clientId = some (.polled connId)
  settled : ∀ device, state.Sealed device → .looked device ∉ state.requests ∧
    ∀ id client, (state.devices device).clients id = some client → client.isPolled = false
  looked : ∀ device, .looked device ∈ state.requests → device < state.deviceCount
  staged : ∀ ws client, state.webSockets ws = some client →
    client.Staged ∧ client.device < state.deviceCount
  entry : ∀ device id ws, (state.devices device).clients id = some (.webSocket ws) →
    ∃ client, state.webSockets ws = some client ∧ client.device = device ∧
      client.returned = some id ∧ ¬ client.Leaving
  registered : ∀ ws client id, state.webSockets ws = some client → client.returned = some id →
    id ≤ (state.devices client.device).clientCount ∧
      ∀ found, (state.devices client.device).clients id = some found → found = .webSocket ws
  forwarded : ∀ message ∈ state.forwarded, ∃ client,
    state.webSockets message.ws = some client ∧ client.returned = some message.clientId

namespace State

variable {state : State}

theorem Kept.empty : empty.Kept where
  fresh _ _ := rfl
  pooled _ _ stored := nomatch stored
  owned _ _ _ stored := nomatch stored
  held _ running := nomatch running
  bounded _ _ _ entry := nomatch entry
  connected _ _ stored := nomatch stored
  settled _ _ := ⟨not_mem_nil, fun _ _ entry => nomatch entry⟩
  looked _ listed := nomatch listed
  staged _ _ stored := nomatch stored
  entry _ _ _ stored := nomatch stored
  registered _ _ _ stored := nomatch stored
  forwarded _ listed := nomatch listed

theorem Kept.sound (kept : state.Kept) : state.Sound where
  gone device gone quiet := by
    obtain ⟨_, webSockets⟩ := kept.settled device (.inl gone)
    constructor
    · rintro connId client stored rfl
      exact nomatch webSockets _ _ (kept.connected connId client stored)
    · intro id
      cases stored : (state.devices device).clients id with
      | none => rfl
      | some found =>
        exfalso
        cases found with
        | polled connId => exact nomatch webSockets id _ stored
        | webSocket ws =>
          obtain ⟨client, known, sameDevice, returned, staying⟩ := kept.entry device id ws stored
          obtain ⟨finished, absent | ended⟩ := quiet.webSockets ws client known sameDevice
          · have staged := (kept.staged ws client known).1
            simp only [WsClient.Staged, finished] at staged
            rw [staged.1 absent] at returned
            cases returned
          · exact staying (.inr ended)
  forwarded := kept.forwarded
  ended ws client known ended id stored := by
    obtain ⟨client', known', _, _, staying⟩ := kept.entry client.device id ws stored
    rw [known] at known'
    cases known'
    exact staying (.inr ended)

/-! ## Steps of one WebSocket client -/

variable {after : WsClient} {id : String}

theorem Kept.staged_setWs (kept : state.Kept) {ws : Nat}
    (stages : after.Staged ∧ after.device < state.deviceCount) :
    ∀ other client, (state.setWs ws after).webSockets other = some client →
      client.Staged ∧ client.device < state.deviceCount := by
  intro other client known
  rcases setWs_eq_some.mp known with ⟨-, rfl⟩ | ⟨-, before⟩
  · exact stages
  · exact kept.staged other client before

/-- A step of a client that leaves its device alone. -/
theorem Kept.setWs (kept : state.Kept) {ws : Nat} {client : WsClient}
    (known : state.webSockets ws = some client) (device : after.device = client.device)
    (returned : after.returned = client.returned) (staged : after.Staged)
    (stays : after.Leaving → client.Leaving) : (state.setWs ws after).Kept :=
  {kept with
    settled := fun device is => kept.settled device is
    staged := kept.staged_setWs ⟨staged, device ▸ (kept.staged ws client known).2⟩
    entry := by
      intro dev id other stored
      refine exists_setWs (kept.entry dev id other stored) fun found known' _ held => ?_
      cases known.symm.trans known'
      exact ⟨device.trans held.1, returned.trans held.2.1, fun leaving => held.2.2 (stays leaving)⟩
    registered := by
      intro other client' id known' given
      rcases setWs_eq_some.mp known' with ⟨rfl, rfl⟩ | ⟨-, before⟩
      · rw [device]
        exact kept.registered other client id known (returned ▸ given)
      · exact kept.registered other client' id before given
    forwarded := by
      intro message listed
      refine exists_setWs (kept.forwarded message listed) fun found known' _ given => ?_
      cases known.symm.trans known'
      exact returned.trans given}

variable {next : State} {ws : Nat} {client : WsClient}

section

variable (kept : state.Kept)
include kept

theorem Kept.NewWsClient (known : state.webSockets ws = some client)
    (moved : state.NewWsClient ws client = some next) : next.Kept := by
  unfold State.NewWsClient at moved
  split_ifs at moved with looked
  cases moved
  have staged := (kept.staged ws client known).1
  simp only [WsClient.Staged, looked] at staged
  apply kept.setWs known
  · rfl
  · rfl
  · exact ⟨staged.1, .inl rfl⟩
  · rintro (leaving | leaving) <;> cases leaving

theorem Kept.upgradeFails (known : state.webSockets ws = some client)
    (moved : state.upgradeFails ws client = some next) : next.Kept := by
  unfold State.upgradeFails at moved
  split_ifs at moved with looked
  cases moved
  have staged := (kept.staged ws client known).1
  simp only [WsClient.Staged, looked] at staged
  apply kept.setWs known
  · rfl
  · rfl
  · exact ⟨fun _ => staged.1, fun started => absurd staged.2 started⟩
  · exact fun leaving => leaving

theorem Kept.assign (known : state.webSockets ws = some client)
    (moved : state.assign ws client = some next) : next.Kept := by
  unfold State.assign at moved
  split at moved
  · rename_i clientId registered returned
    cases moved
    have staged := (kept.staged ws client known).1
    simp only [WsClient.Staged, registered] at staged
    apply kept.setWs known
    · rfl
    · rfl
    · constructor
      · intro absent
        obtain running | unregistering := staged
        · exact nomatch running.symm.trans absent
        · exact nomatch unregistering.symm.trans absent
      · exact fun _ => returned
    · exact fun leaving => leaving
  · cases moved

theorem Kept.readStops (known : state.webSockets ws = some client)
    (moved : state.readStops ws client = some next) : next.Kept := by
  unfold State.readStops at moved
  split_ifs at moved with running
  cases moved
  have staged := (kept.staged ws client known).1
  apply kept.setWs known
  · rfl
  · rfl
  · unfold WsClient.Staged at staged ⊢
    dsimp only
    split at staged
    · exact nomatch running.symm.trans staged.2
    · exact ⟨staged.1, .inr rfl⟩
    · exact .inr rfl
    · exact ⟨nofun, fun _ => staged.2 (by rw [running]; decide)⟩
  · rintro (leaving | leaving) <;> cases leaving

theorem Kept.close (known : state.webSockets ws = some client)
    (moved : state.close ws client = some next) : next.Kept := by
  unfold State.close at moved
  split_ifs at moved with closing
  cases moved
  have staged := (kept.staged ws client known).1
  apply kept.setWs known
  · rfl
  · rfl
  · unfold WsClient.Staged at staged ⊢
    dsimp only
    split at staged
    · exact nomatch closing.symm.trans staged.2
    · rcases staged.2 with running | unregistering
      · exact nomatch closing.symm.trans running
      · exact nomatch closing.symm.trans unregistering
    · rcases staged with running | unregistering
      · exact nomatch closing.symm.trans running
      · exact nomatch closing.symm.trans unregistering
    · exact ⟨nofun, fun _ => staged.2 (by rw [closing]; decide)⟩
  · exact fun _ => .inl closing

theorem Kept.writeStops (known : state.webSockets ws = some client)
    (moved : state.writeStops ws client = some next) : next.Kept := by
  unfold State.writeStops at moved
  split_ifs at moved with running
  cases moved
  exact kept.setWs known rfl rfl (kept.staged ws client known).1 fun leaving => leaving

end

theorem WsClient.Staged.returned {client : WsClient} (staged : client.Staged)
    (finished : client.connecting = .finished) (pumping : client.readPump ≠ .absent) :
    client.returned = some client.clientId := by
  simp only [WsClient.Staged, finished] at staged
  exact staged.2 pumping

theorem Kept.forward (kept : state.Kept) (known : state.webSockets ws = some client)
    (finished : client.connecting = .finished)
    (moved : state.forward ws client = some next) : next.Kept := by
  unfold State.forward at moved
  split_ifs at moved with running
  cases moved
  have returned : client.returned = some client.clientId :=
    WsClient.Staged.returned (kept.staged ws client known).1 finished (by rw [running.1]; decide)
  exact
    {kept with
      settled := fun device is => kept.settled device is
      forwarded := by
        intro message listed
        rcases mem_append.mp listed with before | new
        · exact kept.forwarded message before
        · cases mem_singleton.mp new
          exact ⟨client, known, returned⟩}

theorem Kept.connectWebSocket (kept : state.Kept)
    (moved : state.connectWebSocket ws id = some next) : next.Kept := by
  unfold State.connectWebSocket at moved
  split at moved
  · rename_i device new found
    cases moved
    have present : state.pool id = some device := by
      unfold GetDevice at found
      split_ifs at found
      exact found
    exact
      {kept with
        settled := fun device is => kept.settled device is
        staged := kept.staged_setWs ⟨⟨rfl, rfl⟩, (kept.pooled id device present).1⟩
        entry := fun dev number other stored =>
          exists_setWs (kept.entry dev number other stored) fun _ known' =>
            nomatch new.symm.trans known'
        registered := by
          intro other client' number known' given
          rcases setWs_eq_some.mp known' with ⟨-, rfl⟩ | ⟨-, before⟩
          · cases given
          · exact kept.registered other client' number before given
        forwarded := fun message listed =>
          exists_setWs (kept.forwarded message listed) fun _ known' =>
            nomatch new.symm.trans known'}
  · cases moved

/-! ## Steps at the clients of a device -/

variable {dev : Nat}

theorem Kept.unused (kept : state.Kept) (dev : Nat) :
    (state.devices dev).clients ((state.devices dev).clientCount + 1) = none := by
  cases stored : (state.devices dev).clients ((state.devices dev).clientCount + 1) with
  | none => rfl
  | some found =>
    have := kept.bounded _ _ _ stored
    omega

theorem Kept.fresh_setDevice (kept : state.Kept) (d : Device) (known : dev < state.deviceCount)
    (device : Nat) (unused : state.deviceCount ≤ device) :
    (state.setDevice dev d).devices device = .new := by
  rw [setDevice_other d (by omega)]
  exact kept.fresh device unused

theorem Kept.bounded_register (kept : state.Kept) (c : Client) (device id : Nat) (client : Client)
    (stored : ((state.setDevice dev ((state.devices dev).Register c)).devices device).clients id =
      some client) :
    id ≤ ((state.setDevice dev ((state.devices dev).Register c)).devices device).clientCount := by
  rcases (clients_register (kept.unused dev) device id client).mp stored with
    ⟨rfl, rfl, -⟩ | before
  · simp [setDevice, Device.Register]
  · exact Nat.le_trans (kept.bounded device id client before) (clientCount_register c device)

theorem sealed_register {c : Client} {device : Nat}
    (is : (state.setDevice dev ((state.devices dev).Register c)).Sealed device) :
    state.Sealed device := by
  unfold Sealed at is
  rwa [gone_register] at is

theorem sealed_unregister {number device : Nat}
    (is : (state.setDevice dev ((state.devices dev).Unregister number)).Sealed device) :
    state.Sealed device := by
  unfold Sealed at is
  rwa [gone_unregister] at is

section

variable (kept : state.Kept)
include kept

theorem Kept.registerClient (known : state.webSockets ws = some client)
    (moved : state.registerClient ws client = some next) : next.Kept := by
  unfold State.registerClient at moved
  split_ifs at moved with started
  cases moved
  obtain ⟨staged, held⟩ := kept.staged ws client known
  simp only [WsClient.Staged, started] at staged
  obtain ⟨unregistered, pumping⟩ := staged
  have free := kept.unused client.device
  exact
    {kept with
      fresh := kept.fresh_setDevice _ held
      pooled := by
        intro id device stored
        refine ⟨(kept.pooled id device stored).1, ?_⟩
        exact (gone_register _ device).trans (kept.pooled id device stored).2
      bounded := kept.bounded_register _
      connected := fun connId conn stored =>
        (clients_register free ..).mpr (.inr (kept.connected connId conn stored))
      settled := by
        intro device is
        obtain ⟨none, webSockets⟩ := kept.settled device (sealed_register is)
        refine ⟨none, fun id found stored => ?_⟩
        rcases (clients_register free device id found).mp stored with ⟨-, -, rfl⟩ | before
        · rfl
        · exact webSockets id found before
      staged := kept.staged_setWs ⟨pumping, held⟩
      entry := by
        intro device id other stored
        rcases (clients_register free device id _).mp stored with ⟨rfl, rfl, same⟩ | before
        · cases same
          refine ⟨_, setWs_eq_some.mpr (.inl ⟨rfl, rfl⟩), rfl, rfl, ?_⟩
          rintro (closing | ended)
          · rcases pumping with running | unregistering
            · exact nomatch running.symm.trans closing
            · exact nomatch unregistering.symm.trans closing
          · rcases pumping with running | unregistering
            · exact nomatch running.symm.trans ended
            · exact nomatch unregistering.symm.trans ended
        · refine exists_setWs (kept.entry device id other before) fun found known' _ held => ?_
          -- The device has returned nothing for the client before.
          cases known.symm.trans known'
          exact nomatch unregistered.symm.trans held.2.1
      registered := by
        intro other client' id known' given
        rcases setWs_eq_some.mp known' with ⟨rfl, rfl⟩ | ⟨-, known'⟩
        · cases given
          constructor
          · change _ ≤ ((state.setDevice _ _).devices _).clientCount
            simp [setDevice, Device.Register]
          · intro found stored
            rcases (clients_register free _ _ found).mp stored with ⟨-, -, rfl⟩ | before
            · rfl
            · exact nomatch free.symm.trans before
        · obtain ⟨bound, only⟩ := kept.registered other client' id known' given
          refine ⟨Nat.le_trans bound (clientCount_register _ _), fun found stored => ?_⟩
          rcases (clients_register free _ id found).mp stored with ⟨sameDevice, rfl, -⟩ | before
          · rw [sameDevice] at bound
            omega
          · exact only found before
      forwarded := by
        intro message listed
        refine exists_setWs (kept.forwarded message listed) fun found known' _ given => ?_
        cases known.symm.trans known'
        exact nomatch unregistered.symm.trans given}

theorem Kept.unregisterClient (known : state.webSockets ws = some client)
    (finished : client.connecting = .finished)
    (moved : state.unregisterClient ws client = some next) : next.Kept := by
  unfold State.unregisterClient at moved
  split_ifs at moved with unregistering
  cases moved
  obtain ⟨staged, held⟩ := kept.staged ws client known
  have returned := WsClient.Staged.returned staged finished (by rw [unregistering]; decide)
  obtain ⟨bound, only⟩ := kept.registered ws client client.clientId known returned
  exact
    {kept with
      fresh := kept.fresh_setDevice _ held
      pooled := by
        intro id device stored
        refine ⟨(kept.pooled id device stored).1, ?_⟩
        exact (gone_unregister _ device).trans (kept.pooled id device stored).2
      bounded := by
        intro device id found stored
        have before := ((clients_unregister _ device id found).mp stored).1
        exact Nat.le_trans (kept.bounded device id found before)
          (Nat.le_of_eq (clientCount_unregister _ _).symm)
      connected := by
        intro connId conn stored
        have before := kept.connected connId conn stored
        refine (clients_unregister _ _ _ _).mpr ⟨before, ?_⟩
        -- The number is that of a WebSocket client.
        rintro ⟨sameDevice, sameId⟩
        rw [sameDevice, sameId] at before
        exact nomatch only _ before
      settled := by
        intro device is
        obtain ⟨none, webSockets⟩ := kept.settled device (sealed_unregister is)
        exact ⟨none, fun id found stored =>
          webSockets id found ((clients_unregister _ device id found).mp stored).1⟩
      staged := by
        apply kept.staged_setWs
        simp only [WsClient.Staged, finished]
        exact ⟨⟨nofun, fun _ => returned⟩, held⟩
      entry := by
        intro device id other stored
        obtain ⟨before, remains⟩ := (clients_unregister _ device id _).mp stored
        refine exists_setWs (kept.entry device id other before) fun found known' _ held => ?_
        -- Its own entry has been deleted.
        cases known.symm.trans known'
        cases returned.symm.trans held.2.1
        exact absurd ⟨held.1.symm, rfl⟩ remains
      registered := by
        intro other client' id known' given
        have before : ∃ previous, state.webSockets other = some previous ∧
            previous.device = client'.device ∧ previous.returned = some id := by
          rcases setWs_eq_some.mp known' with ⟨rfl, rfl⟩ | ⟨-, known'⟩
          · exact ⟨client, known, rfl, given⟩
          · exact ⟨client', known', rfl, given⟩
        obtain ⟨previous, known', sameDevice, given⟩ := before
        obtain ⟨bound, only⟩ := kept.registered other previous id known' given
        rw [sameDevice] at bound only
        exact ⟨Nat.le_trans bound (Nat.le_of_eq (clientCount_unregister _ _).symm), fun found stored =>
          only found ((clients_unregister _ _ _ _).mp stored).1⟩
      forwarded := by
        intro message listed
        refine exists_setWs (kept.forwarded message listed) fun found known' _ given => ?_
        cases known.symm.trans known'
        exact given}

theorem Kept.NewConnection {request : Nat} {connId : String}
    (moved : state.NewConnection request connId = some next) : next.Kept := by
  unfold State.NewConnection at moved
  split at moved
  · rename_i device listed new
    cases moved
    have listed := mem_of_getElem? listed
    have held := kept.looked device listed
    have free := kept.unused device
    exact
      {kept with
        fresh := kept.fresh_setDevice _ held
        pooled := by
          intro id device stored
          refine ⟨(kept.pooled id device stored).1, ?_⟩
          exact (gone_register _ device).trans (kept.pooled id device stored).2
        bounded := kept.bounded_register _
        connected := by
          intro other conn stored
          by_cases same : other = connId
          · subst same
            dsimp only at stored
            rw [update_self] at stored
            cases stored
            exact (clients_register free ..).mpr (.inl ⟨rfl, rfl, rfl⟩)
          · dsimp only at stored
            rw [update_of_ne same] at stored
            exact (clients_register free ..).mpr (.inr (kept.connected other conn stored))
        settled := by
          intro other is
          obtain ⟨none, webSockets⟩ := kept.settled other (sealed_register is)
          have different : other ≠ device := by
            rintro rfl
            exact none listed
          constructor
          · intro still
            rcases mem_or_eq_of_mem_set still with before | done
            · exact none before
            · cases done
          · intro id found stored
            rcases (clients_register free other id found).mp stored with ⟨same, -, -⟩ | before
            · exact absurd same different
            · exact webSockets id found before
        looked := by
          intro other still
          rcases mem_or_eq_of_mem_set still with before | done
          · exact kept.looked other before
          · cases done
        entry := by
          intro other id ws stored
          rcases (clients_register free other id _).mp stored with ⟨-, -, polled⟩ | before
          · cases polled
          · exact kept.entry other id ws before
        registered := by
          intro ws client id known given
          obtain ⟨bound, only⟩ := kept.registered ws client id known given
          refine ⟨Nat.le_trans bound (clientCount_register _ _), fun found stored => ?_⟩
          rcases (clients_register free _ id found).mp stored with ⟨same, rfl, -⟩ | before
          · rw [same] at bound
            omega
          · exact only found before}
  · cases moved

/-! ## Steps of the pool -/

theorem Kept.register (moved : state.register id = some next) : next.Kept := by
  unfold State.register at moved
  split_ifs at moved with ready
  cases moved
  obtain ⟨idle, free⟩ := ready
  have same : state.setDevice state.deviceCount .new = state := by
    have new := kept.fresh state.deviceCount (Nat.le_refl _)
    rw [setDevice, ← new, update_eq_self]
  rw [same]
  have stored {other : String} {device : Nat}
      (found : Function.update state.pool id (some state.deviceCount) other = some device) :
      (other = id ∧ device = state.deviceCount) ∨ state.pool other = some device := by
    by_cases sameId : other = id
    · subst sameId
      rw [update_self] at found
      cases found
      exact .inl ⟨rfl, rfl⟩
    · rw [update_of_ne sameId] at found
      exact .inr found
  exact
    {kept with
      fresh := fun device unused => kept.fresh device (by dsimp only at unused; omega)
      pooled := by
        intro other device found
        rcases stored found with ⟨-, rfl⟩ | before
        · refine ⟨lt_succ_self _, ?_⟩
          change (state.devices state.deviceCount).gone = false
          rw [kept.fresh state.deviceCount (Nat.le_refl _)]
          rfl
        · exact ⟨lt_succ_of_lt (kept.pooled other device before).1,
            (kept.pooled other device before).2⟩
      owned := by
        intro first second device found found'
        rcases stored found with ⟨rfl, rfl⟩ | before <;>
          rcases stored found' with ⟨rfl, same⟩ | before'
        · rfl
        · exact absurd (kept.pooled _ _ before').1 (Nat.lt_irrefl _)
        · subst same
          exact absurd (kept.pooled _ _ before).1 (Nat.lt_irrefl _)
        · exact kept.owned first second device before before'
      held := by
        intro call running
        rw [isNone_iff_eq_none.mp idle] at running
        cases running
      settled := fun device is => kept.settled device is
      looked := fun device listed => lt_succ_of_lt (kept.looked device listed)
      staged := fun ws client known =>
        ⟨(kept.staged ws client known).1, lt_succ_of_lt (kept.staged ws client known).2⟩}

theorem Kept.unregister (allowed : Allowed state (.unregister id))
    (moved : state.unregister id = some next) : next.Kept := by
  unfold State.unregister at moved
  split at moved
  · cases moved
  · rename_i device found
    cases moved
    have present : state.pool id = some device := by
      unfold GetDevice at found
      split_ifs at found
      exact found
    exact
      {kept with
        held := by
          intro call running
          cases running
          exact present
        settled := by
          intro other is
          rcases is with gone | ⟨call, running, rfl⟩
          · exact kept.settled other (.inl gone)
          · cases running
            obtain ⟨webSockets, none⟩ := allowed device present
            exact ⟨none, fun number client stored =>
              webSockets client (Device.mem_clientsCopy stored (kept.bounded _ _ _ stored))⟩}

theorem Kept.createPolledConnection
    (moved : state.createPolledConnection id = some next) : next.Kept := by
  unfold State.createPolledConnection at moved
  split at moved
  · cases moved
  · rename_i device found
    cases moved
    unfold GetDevice at found
    split_ifs at found with idle
    obtain ⟨bound, present⟩ := kept.pooled id device found
    have listed {other : Nat} (still : .looked other ∈ state.requests ++ [.looked device]) :
        .looked other ∈ state.requests ∨ other = device := by
      rcases mem_append.mp still with before | new
      · exact .inl before
      · cases mem_singleton.mp new
        exact .inr rfl
    exact
      {kept with
        settled := by
          intro other is
          obtain ⟨none, webSockets⟩ := kept.settled other is
          refine ⟨fun still => ?_, webSockets⟩
          rcases listed still with before | rfl
          · exact none before
          · rcases is with gone | ⟨call, running, -⟩
            · exact nomatch present.symm.trans gone
            · change state.unregistering = some call at running
              rw [running] at idle
              cases idle
        looked := by
          intro other still
          rcases listed still with before | rfl
          · exact kept.looked other before
          · exact bound}

theorem Kept.disconnect (moved : state.disconnect = some next) : next.Kept := by
  unfold State.disconnect at moved
  split at moved
  · rename_i id device client remaining running
    cases moved
    have told : (state.OnDeviceDisconnected client).Kept := by
      cases client with
      | polled connId =>
        exact
          {kept with
            connected := by
              intro other conn stored
              by_cases same : other = connId
              · subst same
                simp [OnDeviceDisconnected] at stored
              · simp only [OnDeviceDisconnected, update_of_ne same] at stored
                exact kept.connected other conn stored
            settled := fun device is => kept.settled device is}
      | webSocket ws =>
        cases known : state.webSockets ws with
        | none =>
          have same : state.OnDeviceDisconnected (.webSocket ws) = state := by
            rw [OnDeviceDisconnected, known, map_none, ← known, update_eq_self]
          rwa [same]
        | some client =>
          have same : state.OnDeviceDisconnected (.webSocket ws) =
              state.setWs ws {client with done := true} := by
            rw [OnDeviceDisconnected, known]
            rfl
          rw [same]
          apply kept.setWs known
          · rfl
          · rfl
          · exact (kept.staged ws client known).1
          · exact fun leaving => leaving
    have still : (state.OnDeviceDisconnected client).unregistering = state.unregistering := by
      cases client <;> rfl
    have pool : (state.OnDeviceDisconnected client).pool = state.pool := by
      cases client <;> rfl
    exact
      {told with
        held := by
          intro call now
          cases now
          exact (congrFun pool id).trans (kept.held _ running)
        settled := by
          intro other is
          refine told.settled other (is.imp_right ?_)
          rintro ⟨call, now, same⟩
          cases now
          exact ⟨_, still.trans running, same⟩}
  · cases moved

theorem Kept.unregistered (moved : state.unregistered = some next) : next.Kept := by
  unfold State.unregistered at moved
  split at moved
  · rename_i id device running
    cases moved
    have present := kept.held _ running
    have bound := (kept.pooled id device present).1
    have clients := @same_setDevice state device _ {state.devices device with gone := true}
      Device.clients rfl
    have clientCount := @same_setDevice state device _ {state.devices device with gone := true}
      Device.clientCount rfl
    have stays {other : String} {number : Nat}
        (found : Function.update state.pool id none other = some number) :
        state.pool other = some number ∧ number ≠ device := by
      by_cases same : other = id
      · subst same
        simp at found
      · rw [update_of_ne same] at found
        refine ⟨found, ?_⟩
        rintro rfl
        exact same (kept.owned _ _ _ found present)
    exact
      {kept with
        fresh := kept.fresh_setDevice _ bound
        pooled := by
          intro other number found
          obtain ⟨before, different⟩ := stays found
          refine ⟨(kept.pooled other number before).1, ?_⟩
          change ((state.setDevice _ _).devices number).gone = false
          rw [setDevice_other _ different]
          exact (kept.pooled other number before).2
        owned := fun first second number found found' =>
          kept.owned first second number (stays found).1 (stays found').1
        held := fun call idle => nomatch idle
        bounded := by
          intro other number client stored
          change ((state.setDevice _ _).devices other).clients number = _ at stored
          change _ ≤ ((state.setDevice _ _).devices other).clientCount
          rw [clients] at stored
          rw [clientCount]
          exact kept.bounded other number client stored
        connected := fun connId conn stored =>
          (congrFun (clients conn.device) _).trans (kept.connected connId conn stored)
        settled := by
          intro other is
          have before : state.Sealed other := by
            rcases is with gone | ⟨call, running, -⟩
            · by_cases same : other = device
              · exact .inr ⟨_, running, same.symm⟩
              · change ((state.setDevice _ _).devices other).gone = true at gone
                rw [setDevice_other _ same] at gone
                exact .inl gone
            · cases running
          obtain ⟨none, webSockets⟩ := kept.settled other before
          exact ⟨none, fun number client stored =>
            webSockets number client ((congrFun (clients other) number).symm.trans stored)⟩
        entry := fun other number ws stored =>
          kept.entry other number ws ((congrFun (clients other) number).symm.trans stored)
        registered := by
          intro ws client number known given
          obtain ⟨bound, only⟩ := kept.registered ws client number known given
          exact ⟨Nat.le_trans bound (Nat.le_of_eq (clientCount client.device).symm),
            fun found stored =>
              only found ((congrFun (clients client.device) number).symm.trans stored)⟩}
  · cases moved

end

/-! ## Runs -/

theorem atClient {act : WsClient → Option State} (moved : (state.webSockets ws).bind act = some next)
    (keeps : ∀ client, state.webSockets ws = some client → act client = some next → next.Kept) :
    next.Kept := by
  obtain ⟨client, known, moved⟩ := bind_eq_some_iff.mp moved
  exact keeps client known moved

theorem Kept.step (kept : state.Kept) {event : Event} (allowed : Allowed state event)
    (moved : state.step event = some next) : next.Kept := by
  cases event with
  | register id => exact kept.register moved
  | unregister id => exact kept.unregister allowed moved
  | disconnect => exact kept.disconnect moved
  | unregistered => exact kept.unregistered moved
  | createPolledConnection id => exact kept.createPolledConnection moved
  | NewConnection request connId => exact kept.NewConnection moved
  | connectWebSocket ws id => exact kept.connectWebSocket moved
  | NewWsClient ws => exact atClient moved fun _ => kept.NewWsClient
  | upgradeFails ws => exact atClient moved fun _ => kept.upgradeFails
  | registerClient ws => exact atClient moved fun _ => kept.registerClient
  | assign ws => exact atClient moved fun _ => kept.assign
  | forward ws =>
    exact atClient moved fun client known => kept.forward known (allowed client known)
  | readStops ws => exact atClient moved fun _ => kept.readStops
  | unregisterClient ws =>
    exact atClient moved fun client known => kept.unregisterClient known (allowed client known)
  | close ws => exact atClient moved fun _ => kept.close
  | writeStops ws => exact atClient moved fun _ => kept.writeStops

end State

/-- In every run in which devices go without polled clients, and read pumps wait for the id of their
client. -/
theorem clients_sound {state : State} (reached : operator.Reaches Allowed state) : state.Sound :=
  State.Kept.sound <|
    reached.invariant (fun _ first => first ▸ State.Kept.empty)
      fun _ _ _ kept allowed moved => State.Kept.step kept allowed moved

instance (state : State) (event : Event) : Decidable (Allowed state event) := by
  cases event with
  | _ => unfold Allowed; infer_instance

/-- A WebSocket and a polled client; the device of the first goes. -/
def oneGoes : List Event :=
  [.register "cvd-1", .register "cvd-2", .createPolledConnection "cvd-2", .NewConnection 0 "conn",
    .connectWebSocket 0 "cvd-1", .NewWsClient 0, .registerClient 0, .assign 0, .forward 0,
    .unregister "cvd-1", .disconnect, .unregistered, .writeStops 0, .readStops 0,
    .unregisterClient 0, .close 0]

theorem clients_sound_oneGoes : ((operator.runAllowed Allowed .empty oneGoes).getD .empty).Sound :=
  clients_sound (.getD_runAllowed _ (.start rfl) (by decide +kernel))

def registeredLate : List Event :=
  [.register "cvd-1", .createPolledConnection "cvd-1", .unregister "cvd-1", .unregistered,
    .NewConnection 0 "conn"]

def notDeleted : List Event :=
  [.register "cvd-1", .createPolledConnection "cvd-1", .NewConnection 0 "conn",
    .unregister "cvd-1", .disconnect, .unregistered]

def forwardedEarly : List Event :=
  [.register "cvd-1", .connectWebSocket 0 "cvd-1", .NewWsClient 0, .forward 0, .registerClient 0,
    .assign 0]

def endedEarly : List Event :=
  [.register "cvd-1", .connectWebSocket 0 "cvd-1", .NewWsClient 0, .readStops 0,
    .unregisterClient 0, .close 0, .registerClient 0, .assign 0]

theorem clients_unsound :
    (∃ state, operator.Reachable state ∧ (state.devices 0).gone = true ∧ state.Quiet 0 ∧
      (state.connections "conn").map PolledClient.device = some 0) ∧
    (∃ state, operator.Reachable state ∧ (state.devices 0).gone = true ∧ state.Quiet 0 ∧
      (state.devices 0).clients 1 = some (.polled "conn")) ∧
    (∃ state, operator.Reachable state ∧
      (state.forwarded.map fun message => (message.ws, message.clientId)) = [(0, 0)] ∧
      (state.webSockets 0).map WsClient.returned = some (some 1)) ∧
    ∃ state, operator.Reachable state ∧ (state.webSockets 0).map WsClient.readPump = some .ended ∧
      (state.devices 0).clients 1 = some (.webSocket 0) := by
  refine ⟨?_, ?_, ?_, ?_⟩
  · exact ⟨_, .of_run registeredLate (.start rfl) (some_get (by decide +kernel)).symm,
      by decide +kernel, ⟨by decide +kernel, fun _ _ known => nomatch known⟩, by decide +kernel⟩
  · exact ⟨_, .of_run notDeleted (.start rfl) (some_get (by decide +kernel)).symm,
      by decide +kernel, ⟨by decide +kernel, fun _ _ known => nomatch known⟩, by decide +kernel⟩
  · exact ⟨_, .of_run forwardedEarly (.start rfl) (some_get (by decide +kernel)).symm,
      by decide +kernel, by decide +kernel⟩
  · exact ⟨_, .of_run endedEarly (.start rfl) (some_get (by decide +kernel)).symm,
      by decide +kernel, by decide +kernel⟩

end Ika.Operator.Clients
