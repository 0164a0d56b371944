import Ika.FrameStream.Shape

/-! The client that has caught up was told of the frame submitted last.

This holds as long as no call finds its slots unmapped when it publishes: the
frame of such a call is dropped, and no other may follow it.

And a client is told of a frame once at most, after the call with it returned.
-/

set_option autoImplicit false

namespace Ika.FrameStream

open Transition List

def Announces (history : History) : ClientPc → Prop
  | .idle | .ending => True
  | .reading | .waiting | .holding _ => history.announced.getLast? = history.lastSubmitted
  | .taken frame | .sending frame | .installing frame .. | .sendingInline frame
  | .acquiring frame | .copying frame .. => some frame.call = history.lastSubmitted

structure CaughtUp (state : State) : Prop where
  empty : state.display.generation = 0 → state.history.lastSubmitted = none
  filled : state.display.generation ≠ 0 → state.display.latestFrame.type ≠ .none ∧
    state.history.lastSubmitted = some state.display.latestFrame.call
  announces : state.sentGeneration = state.display.generation → Announces state.history state.pc

def Publishes (state : State) : Event → Prop
  | .onFramePublish index => ∀ call ∈ state.calls[index]?, call.target.isSome →
    call.target.map (·.1) = state.display.shm.mapping
  | _ => True

instance (state : State) (event : Event) : Decidable (Publishes state event) := by
  unfold Publishes
  split <;> infer_instance

namespace CaughtUp

variable {displayNumber : UInt32} {state after : State}

theorem kept (caught : CaughtUp state)
    (generation : after.display.generation = state.display.generation)
    (type : after.display.latestFrame.type = state.display.latestFrame.type)
    (call : after.display.latestFrame.call = state.display.latestFrame.call)
    (submitted : after.history.lastSubmitted = state.history.lastSubmitted)
    (announces : after.sentGeneration = state.display.generation →
      Announces after.history after.pc) : CaughtUp after := by
  refine ⟨?_, ?_, ?_⟩
  · rw [generation, submitted]
    exact caught.empty
  · rw [generation, type, submitted, call]
    exact caught.filled
  · rw [generation]
    exact announces

theorem replaced (shape : state.Shape)
    (generation : after.display.generation = state.display.generation + 1)
    (sent : after.sentGeneration = state.sentGeneration)
    (filled : after.display.latestFrame.type ≠ .none)
    (submitted : after.history.lastSubmitted = some after.display.latestFrame.call) :
    CaughtUp after := by
  have behind := shape.behind
  refine ⟨fun zero => ?_, fun _ => ⟨filled, submitted⟩, fun equal => ?_⟩ <;> omega

theorem generation_ne_zero (shape : state.Shape)
    (new : state.display.generation ≠ state.sentGeneration) : state.display.generation ≠ 0 := by
  have := shape.behind
  omega

theorem moves {event : Event} (caught : CaughtUp state) (shape : state.Shape)
    (publishes : Publishes state event) (moved : State.Moves displayNumber state event after) :
    CaughtUp after := by
  cases moved with
  | stays | stopped | swallowed | reserved | unslotted | copied | clientSent | read =>
    exact caught.kept rfl rfl rfl rfl caught.announces
  | dropped found target remade =>
    have current := publishes _ (Option.mem_def.mpr found) (by simp [target])
    exact absurd (by simpa [target] using current.symm) remade
  | published found complete current =>
    exact replaced shape rfl rfl nofun rfl
  | dmabuf => exact replaced shape rfl rfl nofun rfl
  | connected idle free =>
    exact caught.kept rfl rfl rfl rfl fun zero => (caught.empty zero.symm).symm
  | gaveUp | timestampsFailed | dmabufFailed =>
    exact caught.kept rfl rfl rfl rfl fun _ => trivial
  | nothingNew here | woke here | timestampsSkipped here | timestampsSent here | readyForSlot here
  | inlineInstead here | initialised here | slotInTurn here | slotAcquired here
  | copiedToSlot here | held here =>
    refine caught.kept rfl rfl rfl rfl fun equal => ?_
    have announces := caught.announces equal
    rw [here] at announces
    exact announces
  | tookNone reading empty new =>
    exact absurd empty (caught.filled (generation_ne_zero shape new)).1
  | took reading filled new =>
    refine caught.kept rfl rfl rfl rfl fun _ => ?_
    exact (caught.filled (generation_ne_zero shape new)).2.symm
  | notified here | slotNotified here | inlineSent here =>
    refine caught.kept rfl rfl rfl rfl fun equal => ?_
    have announces := caught.announces equal
    rw [here] at announces
    exact getLast?_concat.trans announces
  | @dmabufSent frame _ here =>
    refine caught.kept rfl rfl rfl rfl fun equal => ?_
    have announces := caught.announces equal
    rw [here] at announces
    dsimp only
    rcases ite_eq_or_eq (frame.holdId ≠ 0) (ClientPc.holding frame) .reading with next | next
    · rw [next]
      exact getLast?_concat.trans announces
    · rw [next]
      exact getLast?_concat.trans announces
  | installed here next =>
    refine caught.kept rfl (shape.latest.detached_type shape.shm _) (detachedFrame_call _ _) rfl
      fun equal => ?_
    have announces := caught.announces equal
    rw [here] at announces
    rcases next with rfl | rfl
    · trivial
    · exact announces
  | ended =>
    exact caught.kept rfl (shape.latest.detached_type shape.shm _) (detachedFrame_call _ _) rfl
      fun _ => trivial

theorem of_reaches (reached : (displayMachine displayNumber).Reaches Publishes state) :
    CaughtUp state := by
  refine reached.invariant_with State.Shape (fun _ => State.Shape.of_reaches) ?_ ?_
  · rintro _ rfl
    exact ⟨fun _ => rfl, fun filled => absurd rfl filled, fun _ => trivial⟩
  · exact fun state event after shape caught publishes moved =>
      caught.moves shape publishes (State.step_moves moved)

end CaughtUp

/-- With no call running and nothing left to send, the client was told of the last frame. -/
def LastFrameSent (state : State) : Prop :=
  state.calls = [] → state.display.clientFd.isSome → state.display.shm.paused = false →
    state.pc = .waiting → state.sentGeneration = state.display.generation →
    state.history.announced.getLast? = state.history.lastSubmitted

/-- While every frame finds its slots still mapped, the last frame is sent. -/
theorem last_frame_sent {states : UInt32 → State}
    (reached : streamer.Reaches (Machine.each fun _ => Publishes) states) (displayNumber : UInt32) :
    LastFrameSent (states displayNumber) := by
  intro _ _ _ waiting equal
  have announces := (CaughtUp.of_reaches (reached.component displayNumber)).announces equal
  rw [waiting] at announces
  exact announces

def lastFrameStates : UInt32 → State :=
  (streamer.runAllowed (Machine.each fun _ => Publishes) (fun _ => {})
    (onFirstDisplay firstFrameEvents)).getD fun _ => {}

theorem last_frame_sent_first :
    (lastFrameStates 0).pc = .waiting ∧ (lastFrameStates 0).history.announced = [0] ∧
      LastFrameSent (lastFrameStates 0) := by
  refine ⟨by decide +kernel, by decide +kernel, last_frame_sent (.getD_runAllowed _ ?_ ?_) 0⟩
  · exact .start fun _ => rfl
  · decide +kernel

/-- A larger frame waits to be sent as the slots are made for a smaller one. -/
def droppedFrameEvents : List Event :=
  firstFrameEvents ++ [.onFrame 2 1 0 8 (some [1, 1, 1, 1, 2, 2, 2, 2]) 0, .onFramePublish 0, .wake,
    .takeFrame true, .sendTimestamps true 0, .sendRaw .sent,
    .onFrame 1 1 0 4 (some [5, 6, 7, 8]) 0, .onFrameCopy 0 4, .installShm, .onFramePublish 0,
    .acquireSlot, .copyToSlot 8, .notifySlot true, .takeFrame true]

def droppedFrameStates : UInt32 → State :=
  (streamer.run (fun _ => {}) (onFirstDisplay droppedFrameEvents)).getD fun _ => {}

theorem last_frame_dropped : streamer.Reachable droppedFrameStates ∧
    (droppedFrameStates 0).history.announced = [0, 1] ∧
    (droppedFrameStates 0).history.lastSubmitted = some 2 ∧
    ¬ LastFrameSent (droppedFrameStates 0) := by
  have announced : (droppedFrameStates 0).history.announced = [0, 1] := by decide +kernel
  have submitted : (droppedFrameStates 0).history.lastSubmitted = some 2 := by decide +kernel
  refine ⟨.getD_run _ (.start fun _ => rfl) (by decide +kernel), announced, submitted,
    fun sent => ?_⟩
  have last := sent (by decide +kernel) (by decide +kernel) (by decide +kernel) (by decide +kernel)
    (by decide +kernel)
  rw [announced, submitted] at last
  exact absurd last (by decide)

/-! ## Frames and what a client is told of them -/

def ClientPc.telling : ClientPc → List Nat
  | .taken frame | .sending frame | .installing frame .. | .sendingInline frame
  | .acquiring frame | .copying frame .. => [frame.call]
  | _ => []

def State.running (state : State) : List Nat := state.calls.map (·.call)

def State.told (state : State) : List Nat := state.pc.telling ++ state.history.announced

structure ToldOnce (state : State) : Prop where
  distinct : (state.running ++ state.told).Nodup
  past : ∀ call ∈ state.running ++ state.told, call < state.history.calls
  latest : state.display.generation ≠ 0 →
    state.display.latestFrame.call < state.history.calls ∧
      state.display.latestFrame.call ∉ state.running
  untaken : state.display.generation ≠ state.sentGeneration →
    state.display.latestFrame.call ∉ state.told

namespace ToldOnce

variable {displayNumber : UInt32} {state after : State} (once : ToldOnce state)
include once

theorem kept (calls : after.history.calls = state.history.calls)
    (generation : after.display.generation = state.display.generation)
    (call : after.display.latestFrame.call = state.display.latestFrame.call)
    (sent : after.sentGeneration = state.sentGeneration)
    (running : after.running.Sublist state.running) (told : after.told.Subperm state.told) :
    ToldOnce after := by
  have fewer : (after.running ++ after.told).Subperm (state.running ++ state.told) :=
    ((subperm_append_right _).2 running.subperm).trans ((subperm_append_left _).2 told)
  refine ⟨?_, fun one member => ?_, fun filled => ?_, fun new member => ?_⟩
  · obtain ⟨same, perm, within⟩ := fewer
    exact perm.nodup_iff.1 (once.distinct.sublist within)
  · rw [calls]
    exact once.past one (fewer.subset member)
  · rw [call, calls]
    have := once.latest (generation ▸ filled)
    exact ⟨this.1, fun member => this.2 (running.subset member)⟩
  · rw [call] at member
    rw [generation, sent] at new
    exact once.untaken new (told.subset member)

theorem fresh : (state.history.calls :: (state.running ++ state.told)).Nodup ∧
    ∀ call ∈ state.history.calls :: (state.running ++ state.told),
      call < state.history.calls + 1 :=
  ⟨nodup_cons.2 ⟨fun member => lt_irrefl _ (once.past _ member), once.distinct⟩,
    forall_mem_cons.2 ⟨Nat.lt_succ_self _, fun call member =>
      Nat.lt_succ_of_lt (once.past call member)⟩⟩

theorem started (calls : after.history.calls = state.history.calls + 1)
    (display : after.display.generation = state.display.generation ∧
      after.display.latestFrame = state.display.latestFrame)
    (sent : after.sentGeneration = state.sentGeneration)
    (running : after.running = state.running ++ [state.history.calls])
    (told : after.told = state.told) : ToldOnce after := by
  have perm : (after.running ++ after.told).Perm
      (state.history.calls :: (state.running ++ state.told)) := by
    rw [running, told, append_assoc]
    exact perm_middle
  refine ⟨perm.nodup_iff.2 once.fresh.1, fun call member => ?_, fun filled => ?_, fun new => ?_⟩
  · rw [calls]
    exact once.fresh.2 call (perm.mem_iff.1 member)
  · have last := once.latest (display.1 ▸ filled)
    rw [calls, display.2, running, mem_append, mem_singleton, not_or]
    exact ⟨Nat.lt_succ_of_lt last.1, last.2, last.1.ne⟩
  · rw [display.2, told]
    exact once.untaken (by rwa [display.1, sent] at new)

omit once in
theorem replaced {before : List Nat} (distinct : (before ++ state.told).Nodup)
    (past : ∀ call ∈ before ++ state.told, call < after.history.calls)
    (latest : before.Perm (after.display.latestFrame.call :: after.running))
    (told : after.told = state.told) : ToldOnce after := by
  have perm := latest.append_right after.told
  rw [cons_append] at perm
  rw [← told] at distinct past
  have apart := nodup_cons.1 (perm.nodup_iff.1 distinct)
  rw [mem_append, not_or] at apart
  exact ⟨apart.2, fun call member => past call (perm.mem_iff.2 (mem_cons_of_mem _ member)),
    fun _ => ⟨past _ (perm.mem_iff.2 mem_cons_self), apart.1.1⟩, fun _ => apart.1.2⟩

omit once in
theorem running_perm {index : Nat} {call : OnFrameCall} (found : state.calls[index]? = some call) :
    state.running.Perm (call.call :: (state.calls.eraseIdx index).map (·.call)) := by
  obtain ⟨short, rfl⟩ := List.getElem?_eq_some_iff.1 found
  exact ((getElem_cons_eraseIdx_perm short).map OnFrameCall.call).symm

theorem moves {event : Event} (shape : state.Shape)
    (moved : State.Moves displayNumber state event after) : ToldOnce after := by
  cases moved with
  | stays | stopped | swallowed | clientSent | read =>
    exact once.kept rfl rfl rfl rfl (.refl _) (.refl _)
  | reserved | unslotted => exact once.started rfl ⟨rfl, rfl⟩ rfl map_append rfl
  | copied found =>
    refine once.kept rfl rfl rfl rfl ?_ (.refl _)
    obtain ⟨short, rfl⟩ := List.getElem?_eq_some_iff.1 found
    simp only [State.running, map_set, ← getElem_map OnFrameCall.call (h := by simpa using short)]
    rw [set_getElem_self]
  | dropped found =>
    exact once.kept rfl rfl rfl rfl ((eraseIdx_sublist ..).map _) (.refl _)
  | published found =>
    exact replaced once.distinct once.past (running_perm found) rfl
  | dmabuf =>
    exact replaced once.fresh.1 once.fresh.2 (.refl (state.history.calls :: state.running)) rfl
  | connected =>
    have fewer : ToldOnce {state with pc := .reading, history := {state.history with
      announced := []}} := once.kept rfl rfl rfl rfl (.refl _) nil_subperm
    exact ⟨fewer.distinct, fewer.past, fewer.latest, fun _ => not_mem_nil⟩
  | gaveUp | timestampsFailed | dmabufFailed =>
    exact once.kept rfl rfl rfl rfl (.refl _) (sublist_append_right ..).subperm
  | nothingNew here | woke here | timestampsSkipped here | timestampsSent here | readyForSlot here
  | inlineInstead here | initialised here | slotInTurn here | slotAcquired here
  | copiedToSlot here | held here =>
    refine once.kept rfl rfl rfl rfl (.refl _) (Perm.of_eq ?_).subperm
    simp only [State.told, here]
    rfl
  | tookNone reading =>
    have same : ToldOnce {state with pc := .waiting} :=
      once.kept rfl rfl rfl rfl (.refl _) (sublist_append_right ..).subperm
    exact ⟨same.distinct, same.past, same.latest, fun new => absurd rfl new⟩
  | took reading _ new =>
    -- the latest frame passes into the hands of the client's thread
    have last := once.latest (CaughtUp.generation_ne_zero shape new)
    have apart : state.display.latestFrame.call ∉ state.running ++ state.told := by
      rw [mem_append, not_or]
      exact ⟨last.2, once.untaken new⟩
    have distinct := once.distinct
    have past := once.past
    rw [State.told, reading] at apart distinct past
    have perm := @perm_middle _ state.display.latestFrame.call state.running state.history.announced
    refine ⟨perm.nodup_iff.2 (nodup_cons.2 ⟨apart, distinct⟩), fun call member => ?_,
      fun _ => last, fun new => absurd rfl new⟩
    rcases mem_cons.1 (perm.subset member) with rfl | member
    · exact last.1
    · exact past call member
  | notified here | slotNotified here | inlineSent here =>
    refine once.kept rfl rfl rfl rfl (.refl _) (Perm.subperm ?_)
    simp only [State.told, here]
    exact perm_append_singleton ..
  | dmabufSent here =>
    refine once.kept rfl rfl rfl rfl (.refl _) (Perm.subperm ?_)
    simp only [State.told, here]
    split <;> exact perm_append_singleton ..
  | installed here next =>
    refine once.kept rfl rfl (detachedFrame_call _ _) rfl (.refl _) ?_
    rcases next with rfl | rfl
    · exact (sublist_append_right ..).subperm
    · simp only [State.told, here]
      exact .refl _
  | ended =>
    exact once.kept rfl rfl (detachedFrame_call _ _) rfl (.refl _) (sublist_append_right ..).subperm

omit once in
theorem of_reachable (reached : (displayMachine displayNumber).Reachable state) :
    ToldOnce state := by
  refine reached.invariant_with State.Shape (fun _ => State.Shape.of_reaches) ?_ ?_
  · rintro _ rfl
    exact ⟨nodup_nil, fun _ => nofun, fun filled => absurd rfl filled, fun _ => nofun⟩
  · exact fun state event after shape once _ moved => once.moves shape (State.step_moves moved)

end ToldOnce

/-- A client is told of a frame once at most, and not before the call with it has returned. -/
theorem told_once {states : UInt32 → State} (reached : streamer.Reachable states)
    (displayNumber : UInt32) :
    (states displayNumber).history.announced.Nodup ∧
      ∀ call ∈ (states displayNumber).history.announced,
        call < (states displayNumber).history.calls ∧
          ∀ running ∈ (states displayNumber).calls, running.call ≠ call := by
  have reached : streamer.Reaches (Machine.each fun _ _ _ => True) states := reached
  have once := ToldOnce.of_reachable (reached.component displayNumber)
  have distinct := nodup_append.1 once.distinct
  refine ⟨distinct.2.1.sublist (sublist_append_right ..),
    fun call told => ⟨?_, fun running inside => ?_⟩⟩
  · exact once.past call (mem_append_right _ (mem_append_right _ told))
  · exact distinct.2.2 _ (mem_map_of_mem inside) _ (mem_append_right _ told)

theorem told_once_dropped : (droppedFrameStates 0).history.announced = [0, 1] ∧
    (droppedFrameStates 0).history.announced.Nodup :=
  ⟨by decide +kernel, (told_once (.getD_run _ (.start fun _ => rfl) (by decide +kernel)) 0).1⟩

end Ika.FrameStream
