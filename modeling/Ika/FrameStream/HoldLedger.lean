import Ika.FrameStream.Shape

/-! The ledger of the dma-buf holds: each is outstanding in one place or was released.

A hold is taken over from the latest frame by the client's thread, and from
there by the list of what the client holds.
-/

set_option autoImplicit false

namespace Ika.FrameStream

open Transition List

def ClientPc.hold : ClientPc → List UInt32
  | .taken frame | .sending frame | .holding frame => releaseDmabufHold frame.holdId
  | _ => []

/-- The hold of a frame the client was sent and is not yet recorded to hold. -/
def ClientPc.handing : ClientPc → List UInt32
  | .holding frame => releaseDmabufHold frame.holdId
  | _ => []

def ClientShm.held (shm : ClientShm) : List UInt32 := shm.heldDmabufs.flatMap releaseDmabufHold

def State.outstanding (state : State) : List UInt32 :=
  state.display.latestFrame.untakenHold ++ (state.pc.hold ++ state.display.shm.held)

/-- What the client was shown and did not hand back, in messages read or not, it holds. -/
def State.Covered (state : State) (id : UInt32) : Prop :=
  state.history.shown.count id +
      state.toServer.countP (fun message => message.isDmabufRelease ∧ message.arg0 = id) ≤
    state.history.handedBack.count id + (state.pc.handing ++ state.display.shm.held).count id

structure Ledger (state : State) : Prop where
  balanced : ∀ id, state.history.released.count id + state.outstanding.count id =
    (state.history.holdsEnded ++ state.history.holds).count id
  /-- What is outstanding came while the client of now was connected. -/
  current : ∀ id, state.outstanding.count id ≤ state.history.holds.count id
  covered : state.display.clientFd.isSome → ∀ id, state.Covered id
  idle : state.pc = .idle → state.history.holds = []

/-- The timestamps of a held frame are not refused by the client's socket. -/
def KeepsHold (state : State) : Event → Prop
  | .sendTimestamps false _ => state.display.shm.wantsTimestamps = true → state.pc.hold = []
  | _ => True

instance (state : State) (event : Event) : Decidable (KeepsHold state event) := by
  unfold KeepsHold
  split <;> infer_instance

namespace Ledger

variable {displayNumber : UInt32} {state after : State}

theorem count_held_append (ids : List UInt32) (holdId id : UInt32) :
    ((ids ++ [holdId]).flatMap releaseDmabufHold).count id =
      (ids.flatMap releaseDmabufHold).count id + (releaseDmabufHold holdId).count id := by
  simp [flatMap_append, count_append]

variable {shm : ClientShm} {frame : Frame} (latest : Frame)

theorem count_held_erase {holdId : UInt32} (member : holdId ∈ shm.heldDmabufs) (id : UInt32) :
    (releaseDmabufHold holdId).count id +
      ((shm.heldDmabufs.erase holdId).flatMap releaseDmabufHold).count id = shm.held.count id := by
  have moved := (perm_cons_erase member).flatMap_right releaseDmabufHold
  rw [ClientShm.held, moved.count_eq, flatMap_cons, count_append]

theorem hold_raw (shape : FrameShape shm frame) (other : frame.type ≠ .dmabuf) :
    releaseDmabufHold frame.holdId = [] := by
  simp [releaseDmabufHold, shape.unheld other]

theorem untakenHold_frame (call : OnFrameCall) : call.frame.untakenHold = [] :=
  if_neg fun held => held.1 rfl

theorem untakenHold_released (frame : Frame) :
    {frame with holdId := 0, holdTaken := false : Frame}.untakenHold = [] :=
  if_neg fun held => held.1 rfl

theorem untakenHold_arrival (arrival : DmabufArrival) (display : DisplayStream)
    (displayNumber : UInt32) (call : Nat) :
    { arrival.frame displayNumber call with
      holdId := if arrival.isHeld display then arrival.frameId else 0 : Frame}.untakenHold =
      if arrival.isHeld display then [arrival.frameId] else [] := by
  unfold Frame.untakenHold DmabufArrival.frame
  cases held : arrival.isHeld display with
  | false => simp
  | true =>
    have named : arrival.frameId ≠ 0 := by
      simp only [DmabufArrival.isHeld, Bool.and_eq_true, bne_iff_ne] at held
      exact held.2
    simp [named]

theorem untakenHold_markTaken : (markTaken latest).untakenHold = [] := by
  unfold Frame.untakenHold markTaken
  rw [if_neg]
  rintro ⟨held, untaken⟩
  simp only [Bool.or_eq_false_iff, decide_eq_false_iff_not] at untaken
  exact untaken.2 ⟨held, untaken.1⟩

theorem releaseDmabufHold_takenFrame (duplicated : Bool) :
    releaseDmabufHold (takenFrame latest duplicated).holdId = latest.untakenHold := by
  unfold releaseDmabufHold takenFrame Frame.untakenHold
  split <;> simp_all

theorem untakenHold_detached (memory : Memory) (display : DisplayStream) :
    (detachedFrame memory display).untakenHold = display.latestFrame.untakenHold := by
  obtain ⟨holdId, holdTaken⟩ := detachedFrame_hold memory display
  simp only [Frame.untakenHold, holdId, holdTaken]

theorem changed (ledger : Ledger state) (freed issued : List UInt32)
    (released : after.history.released = state.history.released ++ freed)
    (ended : after.history.holdsEnded = state.history.holdsEnded)
    (holds : after.history.holds = state.history.holds ++ issued)
    (passed : ∀ id, freed.count id + after.outstanding.count id =
      state.outstanding.count id + issued.count id)
    (fd : after.display.clientFd = state.display.clientFd)
    (covered : ∀ id, state.Covered id → after.Covered id)
    (idle : after.pc = .idle → state.pc = .idle ∧ issued = []) : Ledger after := by
  refine ⟨fun id => ?_, fun id => ?_, fun connected id => ?_, fun rests => ?_⟩
  · have balanced := ledger.balanced id
    have passed := passed id
    simp only [released, ended, holds, count_append] at balanced ⊢
    omega
  · have current := ledger.current id
    have passed := passed id
    rw [holds, count_append]
    omega
  · exact covered id (ledger.covered (fd ▸ connected) id)
  · obtain ⟨rested, none⟩ := idle rests
    rw [holds, ledger.idle rested, none]
    rfl

theorem repositioned (ledger : Ledger state) (fd : after.display.clientFd = state.display.clientFd)
    (latest : after.display.latestFrame.untakenHold = state.display.latestFrame.untakenHold)
    (held : after.display.shm.heldDmabufs = state.display.shm.heldDmabufs)
    (released : after.history.released = state.history.released)
    (ended : after.history.holdsEnded = state.history.holdsEnded)
    (holds : after.history.holds = state.history.holds)
    (shown : after.history.shown = state.history.shown)
    (handedBack : after.history.handedBack = state.history.handedBack)
    (toServer : after.toServer = state.toServer)
    (same : after.pc.hold = state.pc.hold) (handing : after.pc.handing = state.pc.handing)
    (idle : after.pc = .idle → state.pc = .idle) : Ledger after := by
  refine ledger.changed [] [] (by simp [released]) ended (by simp [holds])
    (fun id => ?_) fd (fun id before => ?_) (fun rests => ⟨idle rests, rfl⟩)
  · simp only [State.outstanding, latest, ClientShm.held, held, same, count_nil]
    omega
  · simpa only [State.Covered, ClientShm.held, held, shown, handedBack, toServer, handing]
      using before

theorem gives_hold (shape : state.Shape) (gives : State.ClientPc.gives state.pc) :
    state.pc.hold = [] ∧ state.pc.handing = [] := by
  have current := shape.pc
  cases here : state.pc <;> simp only [here, State.ClientPc.gives] at gives current ⊢ <;>
    first | exact ⟨rfl, rfl⟩ | exact ⟨hold_raw current.2 gives, rfl⟩

theorem connected (ledger : Ledger state) (idle : state.pc = .idle) (clientFd : Nat)
    (hello : List ClientMessage) :
    Ledger {state with
      display := {state.display with clientFd := some clientFd, shm := helloShm hello}
      pc := .reading
      sentGeneration := 0
      toServer := []
      history := {state.history with
        sent := [], announced := [], unreleased := [], shown := [], handedBack := []}} := by
  have empty : ∀ id, state.outstanding.count id = 0 := fun id => by
    have := ledger.current id
    rw [ledger.idle idle] at this
    simpa using this
  have left : ∀ id, (state.display.latestFrame.untakenHold ++
      (ClientPc.reading.hold ++ (helloShm hello).held)).count id = 0 := fun id => by
    have none := empty id
    simp only [State.outstanding, count_append, ClientShm.held, (helloShm_spec hello).2,
      ClientPc.hold, flatMap_nil, count_nil] at none ⊢
    omega
  refine ⟨fun id => ?_, fun id => ?_, fun _ id => ?_, nofun⟩
  · have balanced := ledger.balanced id
    rw [empty id] at balanced
    exact (congrArg _ (left id)).trans balanced
  · exact Nat.le_trans (Nat.le_of_eq (left id)) (Nat.zero_le _)
  · exact Nat.zero_le _

theorem read (ledger : Ledger state) {message : ClientMessage} {rest : List ClientMessage}
    (queued : state.toServer = message :: rest) (busy : state.pc ≠ .idle) :
    Ledger {state with
      display := {state.display with shm := (applyClientMessage state.display.shm message).1}
      toServer := rest
      history := State.noteReleased state.history
        (applyClientMessage state.display.shm message).2} := by
  refine ledger.changed _ [] rfl rfl (append_nil _).symm (fun id => ?_) rfl
    (fun id before => ?_) (fun idle => absurd idle busy)
  · simp only [State.outstanding, ClientShm.held, count_append, count_nil,
      Frame.untakenHold]
    rcases applyClientMessage_holds state.display.shm message with
      ⟨_, member, held, freed⟩ | ⟨held, freed⟩
    · have erased := count_held_erase member id
      simp only [held, freed, ClientShm.held] at erased ⊢
      omega
    · simp only [held, freed, count_nil]
      omega
  · simp only [State.Covered, State.noteReleased, queued, countP_cons,
      count_append, ClientShm.held] at before ⊢
    rcases applyClientMessage_holds state.display.shm message with
      ⟨release, member, held, freed⟩ | ⟨held, freed⟩
    · have erased := count_held_erase member id
      have one : (releaseDmabufHold message.arg0).count id ≤
          if message.arg0 = id then 1 else 0 := by
        unfold releaseDmabufHold
        split <;> simp [count_singleton]
      simp only [held, ClientShm.held, release, true_and, decide_eq_true_eq] at erased before ⊢
      omega
    · simp only [held]
      omega

theorem sending_raw (shape : state.Shape) (sending : state.pc = .sending frame)
    (raw : frame.type = .raw) : state.pc.hold = [] := by
  have current := shape.pc
  rw [sending] at current ⊢
  exact hold_raw current.2 (by rw [raw]; nofun)

theorem dmabufSent (ledger : Ledger state) {frame : Frame} (sending : state.pc = .sending frame)
    {history : History} {withFrameId : Bool} (released : history.released = state.history.released)
    (ended : history.holdsEnded = state.history.holdsEnded)
    (holds : history.holds = state.history.holds)
    (shown : history.shown = if withFrameId ∧ frame.holdId ≠ 0 then
      state.history.shown ++ [frame.holdId] else state.history.shown)
    (handedBack : history.handedBack = state.history.handedBack) :
    Ledger {state with
      pc := if frame.holdId ≠ 0 then .holding frame else .reading
      history := history} := by
  refine ledger.changed [] [] (by simp [released]) ended (by simp [holds])
    (fun id => ?_) rfl (fun id before => ?_) (fun idle => ?_)
  · by_cases named : frame.holdId = 0 <;>
      simp [State.outstanding, sending, named, ClientPc.hold, releaseDmabufHold]
  · by_cases named : frame.holdId = 0
    · simpa [State.Covered, sending, named, ClientPc.handing, shown, handedBack] using before
    · simp only [State.Covered, sending, ClientPc.handing, releaseDmabufHold, shown, handedBack,
        ne_eq, named, not_false_eq_true, if_true, and_true, count_append] at before ⊢
      split <;> simp only [count_append, count_nil] at before ⊢ <;> omega
  · by_cases named : frame.holdId = 0 <;> simp [named] at idle

theorem ended (ledger : Ledger state) (ending : state.pc = .ending) :
    Ledger {state with
      display := {state.display with
        latestFrame := { detachedFrame state.memory state.display with
          holdId := 0, holdTaken := false}
        shm := closeClientShm {state.display.shm with heldDmabufs := []}
        clientFd := none}
      pc := .idle
      toServer := []
      history := { State.noteReleased state.history
          (state.display.shm.heldDmabufs.flatMap releaseDmabufHold ++
            state.display.latestFrame.untakenHold) with
        holdsEnded := state.history.holdsEnded ++ state.history.holds
        holds := []}} := by
  refine ⟨fun id => ?_, fun id => Nat.zero_le _, nofun, fun _ => rfl⟩
  have balanced := ledger.balanced id
  simp only [State.noteReleased, State.outstanding, ending, ClientPc.hold, ClientShm.held,
    count_append, count_nil, closeClientShm, flatMap_nil] at balanced ⊢
  rw [untakenHold_released, count_nil]
  omega

theorem moves {event : Event} (ledger : Ledger state) (shape : state.Shape)
    (keeps : KeepsHold state event) (moved : State.Moves displayNumber state event after) :
    Ledger after := by
  cases moved with
  | stays => exact ledger
  | stopped =>
    exact ledger.repositioned rfl rfl rfl rfl rfl rfl rfl rfl rfl rfl rfl id
  | swallowed | reserved | unslotted | copied | dropped =>
    exact ledger.changed [] [] (append_nil _).symm rfl
      (append_nil _).symm (fun id => Nat.zero_add _) rfl (fun _ before => before)
      (fun idle => ⟨idle, rfl⟩)
  | published =>
    refine ledger.changed _ [] rfl rfl (append_nil _).symm (fun id => ?_) rfl
      (fun _ before => before) (fun idle => ⟨idle, rfl⟩)
    simp only [State.outstanding, untakenHold_frame, count_append, count_nil,
      ClientShm.held]
    omega
  | @dmabuf arrival =>
    refine ledger.changed _ _ rfl rfl rfl (fun id => ?_) rfl
      (fun _ before => before) (fun idle => ⟨idle, ?_⟩)
    · simp only [State.outstanding, untakenHold_arrival, count_append, ClientShm.held]
      omega
    · have absent := shape.pc.connected.mpr idle
      simp [DmabufArrival.isHeld, absent]
  | connected idle free => exact ledger.connected idle _ _
  | @clientSent message =>
    refine ledger.changed [] [] (append_nil _).symm rfl
      (append_nil _).symm (fun id => Nat.zero_add _) rfl (fun id before => ?_)
      (fun idle => ⟨idle, rfl⟩)
    simp only [State.Covered, countP_append, countP_singleton] at before ⊢
    by_cases release : message.isDmabufRelease
    · simp only [release, if_true, count_append, count_singleton, true_and,
        decide_eq_true_eq, beq_iff_eq] at before ⊢
      omega
    · simp only [release, if_false, false_and, decide_false, Bool.false_eq_true] at before ⊢
      omega
  | read reads queued =>
    refine ledger.read queued fun idle => ?_
    simp [State.reads, idle] at reads
  | gaveUp gives =>
    obtain ⟨hold, handing⟩ := gives_hold shape gives
    exact ledger.repositioned rfl rfl rfl rfl rfl rfl rfl rfl rfl hold.symm handing.symm (by rintro ⟨⟩)
  | nothingNew here | woke here | slotInTurn here | slotAcquired here | copiedToSlot here
  | inlineSent here | slotNotified here =>
    exact ledger.repositioned rfl rfl rfl rfl rfl rfl rfl rfl rfl (by rw [here]; rfl)
      (by rw [here]; rfl) (by rintro ⟨⟩)
  | timestampsSkipped taken | timestampsSent taken =>
    exact ledger.repositioned rfl rfl rfl rfl rfl rfl rfl rfl rfl (by rw [taken]; rfl)
      (by rw [taken]; rfl) (by rintro ⟨⟩)
  | timestampsFailed taken wanted =>
    exact ledger.repositioned rfl rfl rfl rfl rfl rfl rfl rfl rfl (keeps wanted).symm
      (by rw [taken]; rfl) (by rintro ⟨⟩)
  | tookNone reading empty =>
    have unheld := shape.latest.unheld (by rw [empty]; rintro ⟨⟩)
    have untaken : state.display.latestFrame.untakenHold = [] := if_neg fun held => held.1 unheld
    exact ledger.repositioned rfl (by rw [untaken]; exact untakenHold_markTaken _) rfl rfl rfl rfl
      rfl rfl rfl (by rw [reading]; rfl) (by rw [reading]; rfl) (by rintro ⟨⟩)
  | took reading filled new =>
    refine ledger.changed [] [] (append_nil _).symm rfl
      (append_nil _).symm (fun id => ?_) rfl (fun id before => ?_) (by rintro ⟨⟩)
    · simp only [State.outstanding, reading, untakenHold_markTaken, ClientPc.hold,
        releaseDmabufHold_takenFrame, nil_append]
      omega
    · simpa only [State.Covered, reading, ClientPc.handing] using before
  | notified sending raw =>
    have unheld := sending_raw shape sending raw
    exact ledger.repositioned rfl rfl rfl rfl rfl rfl rfl rfl rfl (by rw [unheld]; rfl)
      (by rw [sending]; rfl) (by rintro ⟨⟩)
  | readyForSlot sending raw | inlineInstead sending raw | initialised sending raw =>
    have unheld := sending_raw shape sending raw
    exact ledger.repositioned rfl rfl rfl rfl rfl rfl rfl rfl rfl (by rw [unheld]; rfl)
      (by rw [sending]; rfl) (by rintro ⟨⟩)
  | dmabufSent sending dmabuf => exact ledger.dmabufSent sending rfl rfl rfl rfl rfl
  | dmabufFailed sending dmabuf =>
    refine ledger.changed _ [] rfl rfl (append_nil _).symm (fun id => ?_) rfl
      (fun id before => ?_) (by rintro ⟨⟩)
    · simp only [State.outstanding, sending, ClientPc.hold, count_append, count_nil]
      omega
    · simpa only [State.Covered, State.noteReleased, sending, ClientPc.handing] using before
  | held holding =>
    refine ledger.changed [] [] (append_nil _).symm rfl
      (append_nil _).symm (fun id => ?_) rfl (fun id before => ?_) (by rintro ⟨⟩)
    · simp only [State.outstanding, holding, ClientPc.hold, count_append, count_nil,
        ClientShm.held, count_held_append]
      omega
    · simp only [State.Covered, holding, ClientPc.handing, count_append, count_nil,
        ClientShm.held, count_held_append] at before ⊢
      omega
  | installed installing next =>
    refine ledger.repositioned rfl (untakenHold_detached _ _) rfl rfl rfl rfl rfl rfl rfl ?_ ?_ ?_ <;>
      rcases next with rfl | rfl <;> first | (rw [installing]; rfl) | rintro ⟨⟩
  | ended ending => exact ledger.ended ending

theorem of_reaches (reached : (displayMachine displayNumber).Reaches KeepsHold state) :
    Ledger state := by
  refine reached.invariant_with State.Shape (fun _ => State.Shape.of_reaches) ?_ ?_
  · rintro _ rfl
    exact ⟨fun _ => rfl, fun _ => Nat.zero_le _, nofun, fun _ => rfl⟩
  · exact fun state event after shape ledger keeps moved =>
      ledger.moves shape keeps (State.step_moves moved)

end Ledger

/-- The holds issued so far are released once each, when they should be. -/
structure HoldsSettled (state : State) : Prop where
  once : ∀ id, state.history.released.count id ≤
    (state.history.holdsEnded ++ state.history.holds).count id
  /-- What a connected client received and did not hand back is not released. -/
  kept : state.display.clientFd.isSome → ∀ id,
    state.history.released.count id +
      (state.history.shown.count id - state.history.handedBack.count id) ≤
    (state.history.holdsEnded ++ state.history.holds).count id
  /-- A hold of clients gone, not issued again for this one, was released. -/
  ended : ∀ id ∉ state.history.holds,
    state.history.released.count id = state.history.holdsEnded.count id

theorem Ledger.settled {state : State} (ledger : Ledger state) : HoldsSettled state := by
  refine ⟨fun id => ?_, fun connected id => ?_, fun id absent => ?_⟩
  · have balanced := ledger.balanced id
    omega
  · have balanced := ledger.balanced id
    have covered := ledger.covered connected id
    have handing : state.pc.handing.count id ≤ state.pc.hold.count id := by
      cases state.pc <;> simp [ClientPc.handing, ClientPc.hold]
    simp only [State.Covered, State.outstanding, count_append] at balanced covered ⊢
    omega
  · have balanced := ledger.balanced id
    have current := ledger.current id
    rw [count_append, count_eq_zero.mpr absent] at balanced
    rw [count_eq_zero.mpr absent] at current
    omega

/-- While no held frame is lost to a failed send of its timestamps, every hold is settled. -/
theorem holds_settled {states : UInt32 → State}
    (reached : streamer.Reaches (Machine.each fun _ => KeepsHold) states) (displayNumber : UInt32) :
    HoldsSettled (states displayNumber) :=
  (Ledger.of_reaches (reached.component displayNumber)).settled

def heldFrameEvents (timestampsSent : Bool) : List Event :=
  [.connect 3 [⟨kClientHelloMagic, kClientHelloFlagsVersion, 7, 0⟩],
    .onDmabufFrame ⟨64, 64, 0, some (.dmabuf 0), 0, 256, 0, 0, 9, 1⟩ true, .takeFrame true,
    .sendTimestamps timestampsSent 2]

def settledStates : UInt32 → State :=
  (streamer.runAllowed (Machine.each fun _ => KeepsHold) (fun _ => {})
    (onFirstDisplay (heldFrameEvents true ++
      [.sendDmabuf true, .holdDmabuf, .connectionLost, .endClient]))).getD fun _ => {}

theorem holds_settled_disconnect :
    (settledStates 0).history.holdsEnded = [9] ∧ (settledStates 0).history.released = [9] ∧
      HoldsSettled (settledStates 0) := by
  refine ⟨by decide +kernel, by decide +kernel, holds_settled (.getD_runAllowed _ ?_ ?_) 0⟩
  · exact .start fun _ => rfl
  · decide +kernel

def lostStates : UInt32 → State :=
  (streamer.run (fun _ => {}) (onFirstDisplay (heldFrameEvents false ++ [.endClient]))).getD fun _ => {}

/-- The client leaves as its timestamps are sent, and the hold it took is never released. -/
theorem hold_lost : streamer.Reachable lostStates ∧
    (lostStates 0).display.clientFd = none ∧ (lostStates 0).history.holdsEnded = [9] ∧
    (lostStates 0).history.released = [] ∧ ¬ HoldsSettled (lostStates 0) := by
  have ended : (lostStates 0).history.holdsEnded = [9] := by decide +kernel
  have holds : (lostStates 0).history.holds = [] := by decide +kernel
  have released : (lostStates 0).history.released = [] := by decide +kernel
  refine ⟨.getD_run _ (.start fun _ => rfl) (by decide +kernel), by decide +kernel, ended, released,
    fun settled => ?_⟩
  have once := settled.ended 9 (by simp [holds])
  rw [released, ended] at once
  exact absurd once (by decide)

end Ika.FrameStream
