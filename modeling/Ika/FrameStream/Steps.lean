import Ika.FrameStream.Interleaving
import Ika.FrameStream.Sections

/-! What a step of a display can do, said once: one constructor for each way out of a step. -/

set_option autoImplicit false

namespace Ika.FrameStream

namespace State

def noteSubmitted (state : State) (header : RawFrameHeader) (pixels : List UInt8) : History :=
  {state.history with
    calls := state.history.calls + 1
    submitted := state.history.submitted ++ [⟨state.history.calls, header, pixels⟩]}

def noteReleased (history : History) (ids : List UInt32) : History :=
  {history with released := history.released ++ ids}

def noteSent (history : History) (message : ServerMessage) : History :=
  {history with sent := history.sent ++ [message]}

/-- Whether a step that gives the connection up loses no dma-buf frame. -/
def ClientPc.gives : ClientPc → Prop
  | .reading | .waiting | .acquiring _ | .sendingInline _ | .copying .. | .installing .. => True
  | .sending frame => frame.type ≠ .dmabuf
  | _ => False

inductive Moves (displayNumber : UInt32) (state : State) : Event → State → Prop where
  | stays {event : Event} : Moves displayNumber state event state
  | swallowed {width height fourcc strideBytes : UInt32} {pixels : Option (List UInt8)}
      {arrivalNs : UInt64} (suppressed : state.display.suppressNextRaw = true) :
      Moves displayNumber state (.onFrame width height fourcc strideBytes pixels arrivalNs)
        {state with display := {state.display with suppressNextRaw := false}}
  | reserved {width height fourcc strideBytes : UInt32} {pixels : List UInt8} {arrivalNs : UInt64}
      {header : RawFrameHeader} {mapping : ShmMapping} {index : Nat}
      (built : onFrameHeader displayNumber width height fourcc strideBytes (some pixels) =
        some header)
      (length : pixels.length = header.payloadSize.toNat)
      (unsuppressed : state.display.suppressNextRaw = false)
      (mapped : state.display.shm.mapping = some mapping)
      (releases : state.display.shm.generation ≠ 0)
      (room : header.payloadSize.toNat ≤ state.display.shm.slotSize)
      (free : state.display.shm.freeSlot = some index) :
      Moves displayNumber state
        (.onFrame width height fourcc strideBytes (some pixels) arrivalNs)
        {state with
          display := {state.display with shm := state.display.shm.takeSlot index}
          history := state.noteSubmitted header pixels
          calls := state.calls ++ [{
            call := state.history.calls, header, pixels, arrivalNs
            target := some (mapping, index)
            slotData := state.display.shm.slotAddress index, copied := 0}]}
  | unslotted {width height fourcc strideBytes : UInt32} {pixels : List UInt8}
      {arrivalNs : UInt64} {header : RawFrameHeader}
      (built : onFrameHeader displayNumber width height fourcc strideBytes (some pixels) =
        some header)
      (length : pixels.length = header.payloadSize.toNat) :
      Moves displayNumber state
        (.onFrame width height fourcc strideBytes (some pixels) arrivalNs)
        {state with
          history := state.noteSubmitted header pixels
          calls := state.calls ++ [{
            call := state.history.calls, header, pixels, arrivalNs
            target := none, slotData := 0, copied := 0}]}
  | copied {index count slot : Nat} {call : OnFrameCall} {mapping : ShmMapping}
      (found : state.calls[index]? = some call) (target : call.target = some (mapping, slot)) :
      Moves displayNumber state (.onFrameCopy index count)
        {state with
          memory := state.memory.write mapping.id (call.slotData + call.copied)
            ((call.pixels.drop call.copied).take count)
          calls := state.calls.set index {call with
            copied := call.copied + ((call.pixels.drop call.copied).take count).length}}
  | dropped {index slot : Nat} {call : OnFrameCall} {mapping : ShmMapping}
      (found : state.calls[index]? = some call) (target : call.target = some (mapping, slot))
      (remade : state.display.shm.mapping ≠ some mapping) :
      Moves displayNumber state (.onFramePublish index)
        {state with
          calls := state.calls.eraseIdx index
          history := {state.history with lastSubmitted := some call.call}}
  | published {index : Nat} {call : OnFrameCall} (found : state.calls[index]? = some call)
      (complete : call.target.isSome → call.copied = call.pixels.length)
      (current : ∀ mapping slot, call.target = some (mapping, slot) →
        state.display.shm.mapping = some mapping) :
      Moves displayNumber state (.onFramePublish index)
        {state with
          calls := state.calls.eraseIdx index
          display := {state.display with
            latestFrame := call.frame
            shm := {state.display.shm with busySlots := replacedBusy state.display call.frame}
            generation := state.display.generation + 1}
          history := { noteReleased state.history state.display.latestFrame.untakenHold with
            lastSubmitted := some call.call}}
  | dmabuf {arrival : DmabufArrival} {duplicated : Bool} :
      Moves displayNumber state (.onDmabufFrame arrival duplicated)
        {state with
          display := {state.display with
            latestFrame := { arrival.frame displayNumber state.history.calls with
              holdId := if arrival.isHeld state.display then arrival.frameId else 0}
            shm := {state.display.shm with
              busySlots :=
                replacedBusy state.display (arrival.frame displayNumber state.history.calls)}
            suppressNextRaw := true
            generation := state.display.generation + 1}
          history := { noteReleased state.history state.display.latestFrame.untakenHold with
            calls := state.history.calls + 1
            lastSubmitted := some state.history.calls
            holds := state.history.holds ++
              if arrival.isHeld state.display then [arrival.frameId] else []}}
  | connected {clientFd : Nat} {hello : List ClientMessage} (idle : state.pc = .idle)
      (free : state.display.clientFd = none) :
      Moves displayNumber state (.connect clientFd hello)
        {state with
          display := {state.display with clientFd := some clientFd, shm := helloShm hello}
          pc := .reading
          sentGeneration := 0
          toServer := []
          history := {state.history with
            sent := [], announced := [], unreleased := [], shown := [], handedBack := []}}
  | clientSent {message : ClientMessage} :
      Moves displayNumber state (.clientSends message)
        {state with
          toServer := state.toServer ++ [message]
          history := {state.history with
            unreleased :=
              if message.isSlotRelease then
                state.history.unreleased.erase (message.arg0, message.arg1.toNat)
              else state.history.unreleased
            handedBack :=
              if message.isDmabufRelease then state.history.handedBack ++ [message.arg0]
              else state.history.handedBack}}
  | read {message : ClientMessage} {rest : List ClientMessage} (reads : state.reads = true)
      (queued : state.toServer = message :: rest) :
      Moves displayNumber state .readMessage
        {state with
          display := {state.display with
            shm := (applyClientMessage state.display.shm message).1}
          toServer := rest
          history := noteReleased state.history (applyClientMessage state.display.shm message).2}
  | gaveUp {event : Event} (gives : ClientPc.gives state.pc) :
      Moves displayNumber state event {state with pc := .ending}
  | nothingNew {duplicated : Bool} (reading : state.pc = .reading)
      (idle : state.display.shm.paused ∨ state.display.generation = state.sentGeneration) :
      Moves displayNumber state (.takeFrame duplicated) {state with pc := .waiting}
  | tookNone {duplicated : Bool} (reading : state.pc = .reading)
      (empty : state.display.latestFrame.type = .none)
      (new : state.display.generation ≠ state.sentGeneration) :
      Moves displayNumber state (.takeFrame duplicated)
        {state with
          display := {state.display with latestFrame := markTaken state.display.latestFrame}
          sentGeneration := state.display.generation
          pc := .waiting}
  | took {duplicated : Bool} (reading : state.pc = .reading)
      (filled : state.display.latestFrame.type ≠ .none)
      (new : state.display.generation ≠ state.sentGeneration) :
      Moves displayNumber state (.takeFrame duplicated)
        {state with
          display := {state.display with latestFrame := markTaken state.display.latestFrame}
          sentGeneration := state.display.generation
          pc := .taken (takenFrame state.display.latestFrame duplicated)}
  | woke (waiting : state.pc = .waiting) : Moves displayNumber state .wake {state with pc := .reading}
  | timestampsSkipped {ok : Bool} {now : UInt64} {frame : Frame} (taken : state.pc = .taken frame) :
      Moves displayNumber state (.sendTimestamps ok now) {state with pc := .sending frame}
  | timestampsSent {now : UInt64} {frame : Frame} (taken : state.pc = .taken frame) :
      Moves displayNumber state (.sendTimestamps true now)
        {state with
          pc := .sending frame
          history := noteSent state.history (.timestamps (timestampsHeader frame now))}
  | timestampsFailed {now : UInt64} {frame : Frame} (taken : state.pc = .taken frame)
      (wanted : state.display.shm.wantsTimestamps = true) :
      Moves displayNumber state (.sendTimestamps false now) {state with pc := .ending}
  | notified {frame : Frame} {slot : Nat} (sending : state.pc = .sending frame)
      (raw : frame.type = .raw) (slotted : frame.slot = some slot) :
      Moves displayNumber state (.sendNotify true)
        {state with pc := .reading, history := state.noteNotify frame slot}
  | dmabufSent {frame : Frame} {fd : Descriptor} (sending : state.pc = .sending frame)
      (dmabuf : frame.type = .dmabuf) :
      Moves displayNumber state (.sendDmabuf true)
        {state with
          pc := if frame.holdId ≠ 0 then .holding frame else .reading
          history := { noteSent state.history
              (.dmabufFrame (dmabufFrameHeader frame state.display.shm.clientReleasesDmabufs)
                state.display.shm.clientReleasesDmabufs fd) with
            announced := state.history.announced ++ [frame.call]
            shown := if state.display.shm.clientReleasesDmabufs ∧ frame.holdId ≠ 0 then
                state.history.shown ++ [frame.holdId]
              else state.history.shown}}
  | dmabufFailed {ok : Bool} {frame : Frame} (sending : state.pc = .sending frame)
      (dmabuf : frame.type = .dmabuf) :
      Moves displayNumber state (.sendDmabuf ok)
        {state with
          pc := .ending
          history := noteReleased state.history (releaseDmabufHold frame.holdId)}
  | held {frame : Frame} (holding : state.pc = .holding frame) :
      Moves displayNumber state .holdDmabuf
        {state with
          pc := .reading
          display := {state.display with shm := {state.display.shm with
            heldDmabufs := state.display.shm.heldDmabufs ++ [frame.holdId]}}}
  | readyForSlot {outcome : InitOutcome} {frame : Frame} (sending : state.pc = .sending frame)
      (raw : frame.type = .raw) (unslotted : frame.slot = none)
      (ready : shmReady state.display.shm frame = true) :
      Moves displayNumber state (.sendRaw outcome) {state with pc := .acquiring frame}
  | inlineInstead {outcome : InitOutcome} {frame : Frame} (sending : state.pc = .sending frame)
      (raw : frame.type = .raw) (unslotted : frame.slot = none) :
      Moves displayNumber state (.sendRaw outcome) {state with pc := .sendingInline frame}
  | initialised {frame : Frame} {payloadSize slotSize : Nat} (sending : state.pc = .sending frame)
      (raw : frame.type = .raw) (unslotted : frame.slot = none)
      (path : rawPath state.display.shm frame = .initialises payloadSize)
      (sized : shmSlotSize payloadSize = some slotSize) :
      Moves displayNumber state (.sendRaw .sent)
        {state with
          pc := .installing frame ⟨state.mappings⟩ slotSize
            (shmInitGeneration state.display.shm)
          mappings := state.mappings + 1
          history := noteSent state.history
            (.shmInit (shmInitHeader slotSize (shmInitGeneration state.display.shm))
              (.slots state.mappings))}
  | installed {frame : Frame} {mapping : ShmMapping} {slotSize : Nat} {generation : UInt32}
      (installing : state.pc = .installing frame mapping slotSize generation)
      {pc : ClientPc} (next : pc = .ending ∨ pc = .acquiring frame) :
      Moves displayNumber state .installShm
        {state with
          display := {state.display with
            latestFrame := detachedFrame state.memory state.display
            shm := {state.display.shm with
              mapping := some mapping, slotSize := slotSize, slotCount := kSlotCount
              nextSlot := 0, generation := generation, busySlots := 0#32
              lastGeneration :=
                if generation ≠ 0 then generation else state.display.shm.lastGeneration}}
          pc := pc}
  | inlineSent {frame : Frame} (inline : state.pc = .sendingInline frame) :
      Moves displayNumber state (.sendInline true)
        {state with
          pc := .reading
          history := { noteSent state.history (.rawFrame frame.header (frame.pixels.getD [])) with
            announced := state.history.announced ++ [frame.call]
            delivered := state.history.delivered ++
              [⟨frame.call, frame.header, frame.pixels.getD []⟩]}}
  | slotInTurn {frame : Frame} (acquiring : state.pc = .acquiring frame)
      (copies : state.display.shm.generation = 0) :
      Moves displayNumber state .acquireSlot
        {state with
          display := {state.display with shm := {state.display.shm with
            nextSlot := (state.display.shm.nextSlot + 1) % 2 ^ 32}}
          pc := .copying frame (state.display.shm.nextSlot % state.display.shm.slotCount) 0}
  | slotAcquired {frame : Frame} {slot : Nat} (acquiring : state.pc = .acquiring frame)
      (releases : state.display.shm.generation ≠ 0)
      (free : state.display.shm.freeSlot = some slot) :
      Moves displayNumber state .acquireSlot
        {state with
          display := {state.display with shm := state.display.shm.takeSlot slot}
          pc := .copying frame slot 0}
  | copiedToSlot {frame : Frame} {slot copied count : Nat}
      (copying : state.pc = .copying frame slot copied) :
      Moves displayNumber state (.copyToSlot count)
        {state with
          memory := state.memory.write ((state.display.shm.mapping.map (·.id)).getD 0)
            (state.display.shm.slotAddress slot + copied)
            (((frame.pixels.getD []).drop copied).take count)
          pc := .copying frame slot
            (copied + (((frame.pixels.getD []).drop copied).take count).length)}
  | slotNotified {frame : Frame} {slot copied : Nat}
      (copying : state.pc = .copying frame slot copied)
      (complete : copied = (frame.pixels.getD []).length) :
      Moves displayNumber state (.notifySlot true)
        {state with pc := .reading, history := state.noteNotify frame slot}
  | ended (ending : state.pc = .ending) :
      Moves displayNumber state .endClient
        {state with
          display := {state.display with
            latestFrame := { detachedFrame state.memory state.display with
              holdId := 0, holdTaken := false}
            shm := closeClientShm {state.display.shm with heldDmabufs := []}
            clientFd := none}
          pc := .idle
          toServer := []
          history := { noteReleased state.history
              (state.display.shm.heldDmabufs.flatMap releaseDmabufHold ++
                state.display.latestFrame.untakenHold) with
            holdsEnded := state.history.holdsEnded ++ state.history.holds
            holds := []}}
  | stopped : Moves displayNumber state .stop {state with stopped := true}

variable {displayNumber : UInt32} {state after : State}

theorem onFrame_moves {width height fourcc strideBytes : UInt32} {pixels : Option (List UInt8)}
    {arrivalNs : UInt64}
    (moved : state.onFrame displayNumber width height fourcc strideBytes pixels arrivalNs =
      some after) :
    Moves displayNumber state (.onFrame width height fourcc strideBytes pixels arrivalNs)
      after := by
  unfold onFrame at moved
  split at moved
  · rename_i header pixels built
    split at moved
    · cases moved
    rename_i length
    rw [ne_eq, not_not] at length
    split at moved
    · rename_i suppressed
      cases moved
      exact .swallowed suppressed
    rename_i unsuppressed
    rw [Bool.not_eq_true] at unsuppressed
    dsimp only at moved
    split at moved
    · rename_i index display mapping reserved mapped
      obtain ⟨_, releases, room, free, rfl⟩ := reserveSlotLocked_spec reserved
      cases moved
      exact .reserved built length unsuppressed mapped releases room free
    · cases moved
      exact .unslotted built length
  · cases moved
    exact .stays

variable {index : Nat} {duplicated : Bool}

theorem onFrameCopy_moves {count : Nat} (moved : state.onFrameCopy index count = some after) :
    Moves displayNumber state (.onFrameCopy index count) after := by
  unfold onFrameCopy at moved
  split at moved
  · cases moved
  split at moved
  · cases moved
  cases moved
  exact .copied ‹_› ‹_›

theorem onFramePublish_moves (moved : state.onFramePublish index = some after) :
    Moves displayNumber state (.onFramePublish index) after := by
  unfold onFramePublish at moved
  split at moved
  · cases moved
  rename_i call found
  split at moved
  · cases moved
  rename_i complete
  dsimp only at moved
  split at moved
  · rename_i remade
    obtain ⟨⟨mapping, slot⟩, target⟩ := Option.isSome_iff_exists.mp remade.1
    cases moved
    exact .dropped found target (by simpa [target] using remade.2)
  · rename_i current
    simp only [replaceLatestFrameLocked_eq] at moved
    cases moved
    refine .published found (fun slotted => ?_) (fun mapping slot target => ?_)
    · by_contra partial_copy
      exact complete ⟨slotted, partial_copy⟩
    · simpa [target] using current

theorem onDmabufFrame_moves {arrival : DmabufArrival}
    (moved : state.onDmabufFrame displayNumber arrival duplicated = some after) :
    Moves displayNumber state (.onDmabufFrame arrival duplicated) after := by
  unfold onDmabufFrame at moved
  split at moved
  · cases moved
    exact .stays
  · simp only [onDmabufFrameLocked_eq] at moved
    cases moved
    have moves : Moves displayNumber state (.onDmabufFrame arrival duplicated) _ := .dmabuf
    cases held : arrival.isHeld state.display <;> simpa [held, noteReleased] using moves

theorem connect_moves {clientFd : Nat} {hello : List ClientMessage}
    (moved : state.connect displayNumber clientFd hello = some after) :
    Moves displayNumber state (.connect clientFd hello) after := by
  unfold connect at moved
  dsimp only at moved
  split at moved
  · cases moved
  · rename_i possible
    simp only [not_or, not_not, ne_eq, Option.not_isSome_iff_eq_none] at possible
    cases moved
    exact .connected possible.1 possible.2.1

theorem takeFrame_moves (moved : state.takeFrame duplicated = some after) :
    Moves displayNumber state (.takeFrame duplicated) after := by
  unfold takeFrame at moved
  split at moved
  · cases moved
  rename_i reading
  rw [ne_eq, not_not] at reading
  split at moved
  · cases moved
    exact .gaveUp (by rw [reading]; trivial)
  split at moved
  · cases moved
    exact .nothingNew reading ‹_›
  · rename_i new
    rw [not_or] at new
    simp only [copyLatestFrameLocked_eq] at moved
    cases moved
    by_cases empty : state.display.latestFrame.type = .none
    · have moves : Moves displayNumber state (.takeFrame duplicated) _ :=
        .tookNone reading empty new.2
      simpa [takenFrame, empty] using moves
    · have moves : Moves displayNumber state (.takeFrame duplicated) _ :=
        .took reading empty new.2
      simpa [takenFrame, empty] using moves

theorem sendRaw_moves {outcome : InitOutcome} (moved : state.sendRaw outcome = some after) :
    Moves displayNumber state (.sendRaw outcome) after := by
  unfold sendRaw at moved
  split at moved
  · rename_i frame sending
    split at moved
    · rename_i raw unslotted
      have gives : ClientPc.gives state.pc := by
        rw [sending]
        exact fun dmabuf => by rw [raw] at dmabuf; cases dmabuf
      split at moved
      · cases moved
        exact .gaveUp gives
      · cases moved
        split
        · exact .readyForSlot sending raw unslotted ‹_›
        · exact .gaveUp gives
      · split at moved <;> cases moved
        · exact .inlineInstead sending raw unslotted
        · exact .inlineInstead sending raw unslotted
        · exact .gaveUp gives
        · exact .initialised sending raw unslotted ‹_› ‹_›
    · cases moved
  · cases moved

theorem sendDmabuf_moves {ok : Bool} (moved : state.sendDmabuf ok = some after) :
    Moves displayNumber state (.sendDmabuf ok) after := by
  unfold sendDmabuf at moved
  split at moved
  · rename_i frame sending
    split at moved
    · rename_i fd dmabuf _
      split at moved
      · rename_i sent
        subst sent
        cases moved
        exact .dmabufSent sending dmabuf
      · cases moved
        exact .dmabufFailed sending dmabuf
    · cases moved
      exact .dmabufFailed sending ‹_›
    · cases moved
  · cases moved

theorem acquireSlot_moves (moved : state.acquireSlot = some after) :
    Moves displayNumber state .acquireSlot after := by
  unfold acquireSlot at moved
  split at moved
  · rename_i frame acquiring
    split at moved
    · rename_i slot shm acquired
      cases moved
      rcases acquireShmSlot_spec acquired with ⟨copies, rfl, rfl⟩ | ⟨releases, free, rfl⟩
      · exact .slotInTurn acquiring copies
      · exact .slotAcquired acquiring releases free
    · split at moved <;> cases moved
      · exact .gaveUp (by rw [acquiring]; trivial)
      · exact .stays
  · cases moved

theorem step_moves {event : Event} (moved : state.step displayNumber event = some after) :
    Moves displayNumber state event after := by
  cases event with
  | onFrame => exact onFrame_moves moved
  | onFrameCopy => exact onFrameCopy_moves moved
  | onFramePublish => exact onFramePublish_moves moved
  | onDmabufFrame => exact onDmabufFrame_moves moved
  | connect => exact connect_moves moved
  | clientSends message =>
    simp only [step, clientSends] at moved
    split at moved <;> cases moved
    exact .clientSent
  | readMessage =>
    simp only [step, readMessage] at moved
    split at moved
    · cases moved
    · split at moved <;> cases moved
      exact .read ‹_› ‹_›
  | connectionLost =>
    simp only [step, connectionLost] at moved
    split at moved <;> cases moved
    rename_i lost
    refine .gaveUp ?_
    cases here : state.pc <;> simp_all [reads, ClientPc.gives]
  | takeFrame => exact takeFrame_moves moved
  | wake =>
    simp only [step, wake] at moved
    split at moved <;> cases moved
    exact .woke ‹_›
  | sendTimestamps ok now =>
    simp only [step, sendTimestamps] at moved
    split at moved
    · split at moved
      · split at moved <;> cases moved
        · rename_i sent
          subst sent
          exact .timestampsSent ‹_›
        · rename_i failed
          rw [Bool.not_eq_true] at failed
          subst failed
          exact .timestampsFailed ‹_› ‹_›
      · cases moved
        exact .timestampsSkipped ‹_›
    · cases moved
  | sendNotify ok =>
    simp only [step, sendNotify] at moved
    split at moved
    · rename_i frame sending
      split at moved
      · rename_i slot raw slotted
        split at moved <;> cases moved
        · rename_i sent
          subst sent
          exact .notified sending raw slotted
        · exact .gaveUp (by rw [sending]; exact fun dmabuf => by rw [raw] at dmabuf; cases dmabuf)
      · cases moved
    · cases moved
  | sendDmabuf => exact sendDmabuf_moves moved
  | holdDmabuf =>
    simp only [step, holdDmabuf] at moved
    split at moved <;> cases moved
    exact .held ‹_›
  | sendRaw => exact sendRaw_moves moved
  | installShm =>
    simp only [step, installShm] at moved
    split at moved
    · rename_i installing
      simp only [installShmLocked_eq] at moved
      cases moved
      exact .installed installing (ite_eq_or_eq _ _ _).symm
    · cases moved
  | sendInline ok =>
    simp only [step, sendInline] at moved
    split at moved
    · rename_i frame inline
      split at moved <;> cases moved
      · rename_i sent
        subst sent
        exact .inlineSent inline
      · exact .gaveUp (by rw [inline]; trivial)
    · cases moved
  | acquireSlot => exact acquireSlot_moves moved
  | copyToSlot =>
    simp only [step, copyToSlot] at moved
    split at moved <;> cases moved
    exact .copiedToSlot ‹_›
  | notifySlot ok =>
    simp only [step, notifySlot] at moved
    split at moved
    · rename_i frame slot copied copying
      split at moved
      · cases moved
      rename_i complete
      rw [ne_eq, not_not] at complete
      split at moved <;> cases moved
      · rename_i sent
        subst sent
        exact .slotNotified copying complete
      · exact .gaveUp (by rw [copying]; trivial)
    · cases moved
  | endClient =>
    simp only [step, endClient] at moved
    split at moved
    · simp only [endClientLocked_eq] at moved
      cases moved
      exact .ended ‹_›
    · cases moved
  | stop =>
    cases moved
    exact .stopped

end State

end Ika.FrameStream
