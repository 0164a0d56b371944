import Ika.VhuInput.Flow

/-! The guest, the device's thread and the runs of the vhost-user input server. -/

set_option autoImplicit false

namespace Ika.VhuInput

open List

namespace State.Kept

variable {state after : State}

theorem update_memory (kept : state.Kept) : state.update_memory.Kept :=
  {kept with
    ready := fun token listed => isReady_mono (kept.ready token listed) (fun _ some => some)
      (fun _ some => some) fun _ one found => ⟨one, found, fun some => some, fun shut => shut⟩
    unmapped := nofun}

variable {kick event_idx : Bool}

theorem post {size : Nat} (kept : state.Kept) (moved : state.post size kick = some after) :
    after.Kept := by
  unfold State.post at moved
  split_ifs at moved with mapped
  cases moved
  exact {kept with
    pending := fun where' some => by
      -- the guest kicks, as the device asked it to when it ran out of buffers
      have open' := (kept.pending where' some).1
      exact ⟨open', fun _ => by simp [open']⟩
    unmapped := fun none => absurd (mapped.symm.trans none) (by decide)}

theorem postStatus {bytes : List UInt8} (kept : state.Kept)
    (moved : state.postStatus bytes kick = some after) : after.Kept := by
  unfold State.postStatus at moved
  split_ifs at moved with mapped
  cases moved
  exact {kept with
    feeds := fun feeding notifying => by
      have open' := (kept.feeds feeding notifying).1
      exact ⟨open', fun _ => by simp [open']⟩
    unmapped := fun none => absurd (mapped.symm.trans none) (by decide)}

theorem moves {one other : Device} {place : Device} {rest : Prop} (here : one = other)
    (differ : other ≠ place) : one = place ∨ rest → rest :=
  fun known => known.resolve_left fun same => differ (here.symm.trans same)

theorem handle_event {queue : State.Queue} (kept : state.Kept)
    (moved : state.handle_event queue event_idx = some after) : after.Kept := by
  unfold State.handle_event at moved
  have idle : state.device = .idle := by
    by_contra busy
    rw [if_neg busy] at moved
    cases moved
  rw [if_pos idle] at moved
  have wakes : state.cells .eventBytes ≠ [] →
      0 < state.toDevice ∨ state.server.isNotifying = true := fun some =>
    (kept.wakes some).imp_right (moves idle (by decide))
  have owes : state.owed ≠ [] → 0 < state.toServer ∨ state.server.isTaking = true := fun some =>
    (kept.owes some).imp_right (moves idle (by decide))
  obtain ⟨quiet, kicked⟩ := kept.feeds (by simp [idle]) (by simp [idle])
  cases queue with
  | EVENT_QUEUE =>
    dsimp only at moved
    split_ifs at moved with buffers
    cases moved
    exact {kept with
      wakes := fun some => (wakes some).imp_right .inr
      owes := fun some => (owes some).imp_right .inr
      pending := nofun
      feeds := fun _ _ => ⟨quiet, kicked⟩}
  | STATUS_QUEUE =>
    dsimp only at moved
    split_ifs at moved with buffers mapped
    · cases moved
      exact {kept with
        wakes := fun some => (wakes some).imp_right .inr
        owes := fun some => (owes some).imp_right .inr
        pending := fun _ => kept.pending (.inl idle)
        feeds := fun elsewhere => absurd rfl elsewhere
        unmapped := fun none => absurd (mapped.symm.trans none) (by decide)}
    · cases moved
      exact {kept with
        feeds := fun _ _ => ⟨quiet, fun some =>
          absurd (kept.unmapped (Bool.eq_false_iff.mpr mapped)).2.1 some⟩}
  | EVENTS_AVAILABLE =>
    dsimp only at moved
    split_ifs at moved with notified
    cases moved
    exact {kept with
      wakes := fun _ => .inl notified
      owes := fun some => (owes some).imp_right .inr
      pending := nofun
      feeds := fun _ _ => ⟨quiet, kicked⟩}

theorem send_pending (kept : state.Kept) (sending : state.device = .sending) :
    (state.send_pending event_idx).Kept := by
  have wakes : state.cells .eventBytes ≠ [] →
      0 < state.toDevice ∨ state.server.isNotifying = true := fun some =>
    (kept.wakes some).imp_right (moves sending (by decide))
  have owes : state.owed ≠ [] → 0 < state.toServer ∨ state.server.isTaking = true := fun some =>
    (kept.owes some).imp_right (moves sending (by decide))
  have feeds := kept.feeds (by simp [sending]) (by simp [sending])
  unfold State.send_pending
  split_ifs with done
  · exact {kept with
      wakes := fun some => (wakes some).imp_right .inr
      owes := fun some => (owes some).imp_right .inr
      pending := fun _ some => by
        obtain ⟨none, -, open'⟩ := kept.unmapped (done.resolve_left some)
        exact ⟨open', fun posted => absurd none posted⟩
      feeds := fun _ _ => feeds}
  · have mapped : state.mem ≠ false := fun none => done (.inr none)
    split
    · rename_i none
      exact {kept with
        wakes := fun some => (wakes some).imp_right .inr
        owes := fun some => (owes some).imp_right .inr
        pending := fun _ _ => ⟨rfl, fun posted => absurd none posted⟩
        feeds := fun _ _ => feeds
        unmapped := fun none => absurd none mapped}
    · exact {kept with
        flow := by
          have flow := kept.flow
          dsimp only
          rw [append_assoc state.guest, take_append_drop]
          exact flow
        pending := fun elsewhere => by simp [sending] at elsewhere
        unmapped := fun none => absurd none mapped}

theorem feed (kept : state.Kept) (feeding : state.device = .feeding) : state.feed.Kept := by
  have wakes : state.cells .eventBytes ≠ [] →
      0 < state.toDevice ∨ state.server.isNotifying = true := fun some =>
    (kept.wakes some).imp_right (moves feeding (by decide))
  have owes : state.owed ≠ [] → 0 < state.toServer ∨ state.server.isTaking = true := fun some =>
    (kept.owes some).imp_right (moves feeding (by decide))
  unfold State.feed
  split
  · rename_i none
    exact {kept with
      wakes := fun some => (wakes some).imp_right .inr
      owes := fun some => (owes some).imp_right .inr
      pending := fun _ => kept.pending (.inr (.inl feeding))
      feeds := fun _ _ => ⟨rfl, fun some => absurd none some⟩}
  · rename_i bytes statusAvail fed
    exact {kept with
      wakes := fun some => (wakes some).imp_right .inr
      owes := fun _ => .inr (.inl rfl)
      pending := fun _ => kept.pending (.inr (.inl feeding))
      feeds := fun _ elsewhere => absurd rfl elsewhere
      unmapped := fun none => by
        cases fed.symm.trans (kept.unmapped none).2.1}

theorem proceed {room : Bool} (kept : state.Kept)
    (moved : state.proceed event_idx room = some after) : after.Kept := by
  unfold State.proceed at moved
  cases device : state.device with
  | idle =>
    simp only [device] at moved
    cases moved
  | draining =>
    simp only [device] at moved
    cases moved
    exact {kept with
      wakes := fun _ => .inr (.inl rfl)
      owes := fun some => (kept.owes some).imp_right fun rest => .inr (moves device (by decide) rest)
      pending := nofun
      feeds := fun _ _ => kept.feeds (by simp [device]) (by simp [device])}
  | taking =>
    simp only [device] at moved
    cases moved
    exact {kept with
      flow := by
        have flow := kept.flow
        change state.guest ++ (state.event_queue ++ state.cells .eventBytes) ++ [] ++ _ = _
        rw [append_nil, ← append_assoc]
        exact flow
      wakes := fun some => absurd rfl some
      owes := fun some => (kept.owes some).imp_right fun rest => .inr (moves device (by decide) rest)
      pending := nofun
      feeds := fun _ _ => kept.feeds (by simp [device]) (by simp [device])}
  | sending =>
    simp only [device] at moved
    cases moved
    exact kept.send_pending device
  | feeding =>
    simp only [device] at moved
    cases moved
    exact kept.feed device
  | notifying =>
    simp only [device] at moved
    have wakes : state.cells .eventBytes ≠ [] →
        0 < state.toDevice ∨ state.server.isNotifying = true := fun some =>
      (kept.wakes some).imp_right (moves device (by decide))
    split_ifs at moved with fits waits
    · cases moved
      exact {kept with
        ready := fun token listed => isReady_mono (kept.ready token listed) (fun _ some => some)
          (fun _ _ => Nat.succ_pos _) fun _ one found =>
            ⟨one, found, fun some => some, fun shut => shut⟩
        wakes := fun some => (wakes some).imp_right .inr
        owes := fun _ => .inl (Nat.succ_pos _)
        pending := fun _ => kept.pending (.inr (.inr device))
        feeds := fun elsewhere => absurd rfl elsewhere}
    · cases moved
      exact {kept with
        wakes := fun some => (wakes some).imp_right .inr
        owes := fun _ => .inl waits
        pending := fun _ => kept.pending (.inr (.inr device))
        feeds := fun elsewhere => absurd rfl elsewhere}

end State.Kept

theorem State.Kept.init : State.Kept {} where
  flow := rfl
  groups := nofun
  streams := fun _ => ⟨[], fun _ report => absurd report.1 (by simp [VIRTIO_INPUT_EVENT_SIZE]), rfl⟩
  served := fun _ some => absurd rfl some
  readers := nofun
  waiting := fun _ _ => ⟨rfl, rfl⟩
  alive := fun _ known => absurd known (Nat.not_lt_zero _)
  owners := nodup_nil
  known := nofun
  tokens := nodup_nil
  clientTokens := nofun
  ready := nofun
  distinct := nodup_nil
  fits := fun _ first long => absurd long (by simp [BUFFER_SIZE])
  status := fun _ => rfl
  wakes := fun some => absurd rfl some
  owes := fun some => absurd rfl some
  pending := fun _ some => absurd rfl some
  feeds := fun _ _ => ⟨rfl, fun some => absurd rfl some⟩
  unmapped := fun _ => ⟨rfl, rfl, rfl⟩
  calm := nofun

/-- Groups fit the buffer, and no status is taken while events wait. -/
def Allowed (state : State) : Event → Prop
  | .clientSend id bytes => Fits ((state.sockets id).sent ++ bytes)
  | .take _ => state.cells .eventBytes = [] ∧ (state.owed = [] ∨ state.clients = [])
  | .notify room => room = true
  | _ => True

theorem State.Kept.step {event_idx : Bool} {state after : State} {event : Event}
    (kept : state.Kept) (allowed : Allowed state event)
    (moved : step event_idx state event = some after) : after.Kept := by
  cases event with
  | connect =>
    cases moved
    exact kept.connect
  | clientSend id bytes => exact kept.clientSend allowed moved
  | clientClose id => exact kept.clientClose moved
  | wait ready => exact kept.wait moved
  | accept ok => exact kept.accept moved
  | drain => exact kept.drain moved
  | take accepts => exact kept.take allowed.1 allowed.2 moved
  | read count => exact kept.read moved
  | append => exact kept.append moved
  | notify room =>
    cases allowed
    exact kept.notify moved
  | update_memory =>
    cases moved
    exact kept.update_memory
  | post size kick => exact kept.post moved
  | postStatus bytes kick => exact kept.postStatus moved
  | handle_event queue => exact kept.handle_event moved
  | proceed room => exact kept.proceed moved

/-- Every group of events reaches the guest once and in order, and the status only the clients, in
runs in which the two never meet. -/
theorem events_delivered {event_idx : Bool} {state : State}
    (reached : (machine event_idx).Reaches Allowed state) : state.Faithful :=
  (reached.invariant (fun _ first => first ▸ .init)
    fun _ _ _ kept allowed moved => State.Kept.step kept allowed moved).faithful

instance (bytes : List UInt8) : Decidable (Fits bytes) :=
  decidable_of_iff (∀ first < bytes.length + 1,
      VIRTIO_INPUT_EVENT_SIZE * first + BUFFER_SIZE ≤ bytes.length →
        ∃ event < bytes.length, first ≤ event ∧ IsReport bytes event ∧
          VIRTIO_INPUT_EVENT_SIZE * (event + 1) ≤ VIRTIO_INPUT_EVENT_SIZE * first + BUFFER_SIZE) <| by
    constructor
    · intro bounded first long
      obtain ⟨event, -, found⟩ := bounded first (by unfold VIRTIO_INPUT_EVENT_SIZE at long; omega) long
      exact ⟨event, found⟩
    · intro fits first _ long
      obtain ⟨event, after, report, before⟩ := fits first long
      have inside := report.1
      exact ⟨event, by unfold VIRTIO_INPUT_EVENT_SIZE at inside; omega, after, report, before⟩

instance (state : State) (event : Event) : Decidable (Allowed state event) := by
  cases event <;> unfold Allowed <;> infer_instance

def keyPress : List UInt8 := [1, 0, 30, 0, 1, 0, 0, 0, 0, 0, 0, 0, 0, 0, 0, 0]

/-- The group of a client comes in two chunks and reaches the guest when there is a buffer. -/
theorem events_delivered_oneClient :
    (((machine true).runAllowed Allowed {} [.connect, .clientSend 0 (keyPress.take 5), .wait [0],
      .accept true, .wait [2], .read 5, .append, .notify true, .clientSend 0 (keyPress.drop 5),
      .wait [2], .read 11, .append, .notify true, .update_memory, .post 64 true,
      .handle_event .EVENTS_AVAILABLE, .proceed true, .proceed true, .proceed true,
      .proceed true]).getD {}).Faithful :=
  events_delivered (.getD_runAllowed _ (.start rfl) (by decide +kernel))

/-- The status comes while events wait, which go back to the client in its place. -/
theorem events_echoed :
    (machine true).Reachable (((machine true).run {} [.connect, .clientSend 0 keyPress, .wait [0],
      .accept true, .wait [2], .read 16, .append, .notify true, .update_memory,
      .postStatus [1] true, .handle_event .STATUS_QUEUE, .proceed true, .proceed true, .wait [1],
      .drain, .take fun _ => 16]).getD {}) ∧
    ¬(((machine true).run {} [.connect, .clientSend 0 keyPress, .wait [0],
      .accept true, .wait [2], .read 16, .append, .notify true, .update_memory,
      .postStatus [1] true, .handle_event .STATUS_QUEUE, .proceed true, .proceed true, .wait [1],
      .drain, .take fun _ => 16]).getD {}).Faithful := by
  refine ⟨.getD_run _ (.start rfl) (by decide +kernel), fun faithful => ?_⟩
  have echoed := faithful.status 0
  revert echoed
  decide +kernel

end Ika.VhuInput
