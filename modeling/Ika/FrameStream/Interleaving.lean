import Ika.Foundation.Machine
import Ika.FrameStream.Streamer

/-!
One display of the streamer with its client, step by step.

A step is one critical section, one send, or a piece of a copy made without the lock. The history
only records what happened; no step looks at it.
-/

set_option autoImplicit false

namespace Ika.FrameStream

open Transition

/-- A call of `OnFrame` between its two critical sections. -/
structure OnFrameCall where
  call : Nat
  header : RawFrameHeader
  pixels : List UInt8
  arrivalNs : UInt64
  /-- The mapping and the slot reserved for the frame, none if it goes to a pixel buffer. -/
  target : Option (ShmMapping × Nat)
  /-- The address of the slot, and how much of the frame was copied there. -/
  slotData : Nat
  copied : Nat

def OnFrameCall.frame (call : OnFrameCall) : Frame where
  type := .raw
  header := call.header
  arrivalNs := call.arrivalNs
  pixels := if call.target.isNone then some call.pixels else none
  slot := call.target.map (·.2)
  call := call.call

inductive ClientPc where
  | idle
  | reading
  | waiting
  | taken (frame : Frame)
  | sending (frame : Frame)
  | installing (frame : Frame) (mapping : ShmMapping) (slotSize : Nat) (generation : UInt32)
  | sendingInline (frame : Frame)
  | acquiring (frame : Frame)
  | copying (frame : Frame) (slot copied : Nat)
  | holding (frame : Frame)
  | ending
  deriving DecidableEq

/-- A raw frame as `OnFrame` was given it, or as a client can read it when it is told of it. -/
structure Submission where
  call : Nat
  header : RawFrameHeader
  pixels : List UInt8
  deriving DecidableEq

structure History where
  calls : Nat := 0
  submitted : List Submission := []
  /-- The call completed last whose frame was not refused or swallowed. -/
  lastSubmitted : Option Nat := none
  /-- What was sent to the client now connected, and the calls whose frames were announced. -/
  sent : List ServerMessage := []
  announced : List Nat := []
  delivered : List Submission := []
  /-- The slots announced to the client and not released by it, by generation. -/
  unreleased : List (UInt32 × Nat) := []
  /-- The frame ids `OnDmabufFrame` returned `kHeld` for: to clients gone, and to this one. -/
  holdsEnded : List UInt32 := []
  holds : List UInt32 := []
  released : List UInt32 := []
  shown : List UInt32 := []
  handedBack : List UInt32 := []

structure State where
  display : DisplayStream := {}
  stopped : Bool := false
  calls : List OnFrameCall := []
  pc : ClientPc := .idle
  sentGeneration : Nat := 0
  memory : Memory := fun _ _ => 0
  mappings : Nat := 0
  /-- What the client sent and the streamer has not read. -/
  toServer : List ClientMessage := []
  history : History := {}

/-- How `SendShmInit` ends: a system call fails, the send fails, or the message is out. -/
inductive InitOutcome where
  | unavailable
  | failed
  | sent

inductive Event where
  | onFrame (width height fourcc strideBytes : UInt32) (pixels : Option (List UInt8))
      (arrivalNs : UInt64)
  | onFrameCopy (index count : Nat)
  | onFramePublish (index : Nat)
  | onDmabufFrame (arrival : DmabufArrival) (duplicated : Bool)
  | connect (clientFd : Nat) (hello : List ClientMessage)
  | clientSends (message : ClientMessage)
  | readMessage
  | connectionLost
  | takeFrame (duplicated : Bool)
  | wake
  | sendTimestamps (ok : Bool) (now : UInt64)
  | sendNotify (ok : Bool)
  | sendDmabuf (ok : Bool)
  | holdDmabuf
  | sendRaw (outcome : InitOutcome)
  | installShm
  | sendInline (ok : Bool)
  | acquireSlot
  | copyToSlot (count : Nat)
  | notifySlot (ok : Bool)
  | endClient
  | stop

namespace State

/-- The first critical section of `OnFrame`; a raw frame right after a DMA-BUF is swallowed. -/
def onFrame (displayNumber : UInt32) (state : State) (width height fourcc strideBytes : UInt32)
    (pixels : Option (List UInt8)) (arrivalNs : UInt64) : Option State :=
  match onFrameHeader displayNumber width height fourcc strideBytes pixels, pixels with
  | some header, some pixels =>
    if pixels.length ≠ header.payloadSize.toNat then none
    else if state.display.suppressNextRaw then
      some {state with display := {state.display with suppressNextRaw := false}}
    else
      let number := state.history.calls
      let history := {state.history with
        calls := number + 1
        submitted := state.history.submitted ++ [⟨number, header, pixels⟩]}
      let call : OnFrameCall := {
        call := number, header, pixels, arrivalNs, target := none, slotData := 0, copied := 0}
      match reserveSlotLocked state.display header.payloadSize.toNat, state.display.shm.mapping with
      | some (index, display), some mapping =>
        some {state with
          display := display, history := history
          calls := state.calls ++ [{call with
            target := some (mapping, index), slotData := display.shm.slotAddress index}]}
      | _, _ => some {state with calls := state.calls ++ [call], history := history}
  | _, _ => some state

def onFrameCopy (state : State) (index count : Nat) : Option State :=
  match state.calls[index]? with
  | none => none
  | some call =>
    match call.target with
    | none => none
    | some (mapping, _) =>
      let piece := (call.pixels.drop call.copied).take count
      some {state with
        memory := state.memory.write mapping.id (call.slotData + call.copied) piece
        calls := state.calls.set index {call with copied := call.copied + piece.length}}

def onFramePublish (state : State) (index : Nat) : Option State :=
  match state.calls[index]? with
  | none => none
  | some call =>
    if call.target.isSome ∧ call.copied ≠ call.pixels.length then none
    else
      let history := {state.history with lastSubmitted := some call.call}
      let state := {state with calls := state.calls.eraseIdx index, history := history}
      -- The slots were unmapped meanwhile: the frame is dropped
      if call.target.isSome ∧ state.display.shm.mapping ≠ call.target.map (·.1) then some state
      else
        let (display, released) := replaceLatestFrameLocked state.display call.frame
        some {state with
          display := frameChangedLocked display
          history := {history with released := history.released ++ released}}

def onDmabufFrame (displayNumber : UInt32) (state : State) (arrival : DmabufArrival)
    (duplicated : Bool) : Option State :=
  if arrival.width = 0 ∨ arrival.height = 0 ∨ arrival.strideBytes = 0 ∨
      arrival.dmabufFd.isNone ∨ duplicated = false then some state
  else
    let number := state.history.calls
    let (display, result, released) :=
      onDmabufFrameLocked state.display displayNumber number arrival
    some {state with
      display := display
      history := {state.history with
        calls := number + 1
        lastSubmitted := some number
        holds := state.history.holds ++ if result = .held then [arrival.frameId] else []
        released := state.history.released ++ released}}

/-- A client takes the display: what it sent at once was read into a `ClientShm` of its own. -/
def connect (displayNumber : UInt32) (state : State) (clientFd : Nat)
    (hello : List ClientMessage) : Option State :=
  let shm := helloShm hello
  if state.pc ≠ .idle ∨ state.display.clientFd.isSome ∨ state.stopped ∨
      shm.displayNumber ≠ displayNumber then none
  else some {state with
    display := {state.display with clientFd := some clientFd, shm := shm}
    pc := .reading
    sentGeneration := 0
    toServer := []
    history := {state.history with
      sent := [], announced := [], unreleased := [], shown := [], handedBack := []}}

def clientSends (state : State) (message : ClientMessage) : Option State :=
  if state.display.clientFd.isNone then none
  else some {state with
    toServer := state.toServer ++ [message]
    history := {state.history with
      unreleased := if message.isSlotRelease then
          state.history.unreleased.erase (message.arg0, message.arg1.toNat)
        else state.history.unreleased
      handedBack := if message.isDmabufRelease then state.history.handedBack ++ [message.arg0]
        else state.history.handedBack}}

/-- `ReadClientMessages` runs at the top of `StreamToClient` and inside `AcquireShmSlot`. -/
def reads (state : State) : Bool :=
  match state.pc with
  | .reading => true
  | .acquiring _ => state.display.shm.generation != 0
  | _ => false

def readMessage (state : State) : Option State :=
  match state.toServer with
  | [] => none
  | message :: rest =>
    if state.reads then
      let (shm, released) := applyClientMessage state.display.shm message
      some {state with
        display := {state.display with shm := shm}
        toServer := rest
        history := {state.history with released := state.history.released ++ released}}
    else none

/-- The read finds the connection closed, or the wait for a slot or a frame fails. -/
def connectionLost (state : State) : Option State :=
  if state.reads ∨ state.pc = .waiting then some {state with pc := .ending} else none

def takeFrame (state : State) (duplicated : Bool) : Option State :=
  if state.pc ≠ .reading then none
  else if state.stopped then some {state with pc := .ending}
  else if state.display.shm.paused ∨ state.display.generation = state.sentGeneration then
    some {state with pc := .waiting}
  else
    let (frame, display) := copyLatestFrameLocked state.display duplicated
    some {state with
      display := display
      sentGeneration := state.display.generation
      pc := if frame.type = .none then .waiting else .taken frame}

def wake (state : State) : Option State :=
  if state.pc = .waiting then some {state with pc := .reading} else none

def sendTimestamps (state : State) (ok : Bool) (now : UInt64) : Option State :=
  match state.pc with
  | .taken frame =>
    if state.display.shm.wantsTimestamps then
      if ok then
        some {state with
          pc := .sending frame
          history := {state.history with
            sent := state.history.sent ++ [.timestamps (timestampsHeader frame now)]}}
      else some {state with pc := .ending}
    else some {state with pc := .sending frame}
  | _ => none

def noteNotify (state : State) (frame : Frame) (slot : Nat) : History :=
  let shm := state.display.shm
  {state.history with
    sent := state.history.sent ++ [.shmNotify (shmNotifyHeader frame slot)]
    announced := state.history.announced ++ [frame.call]
    delivered := state.history.delivered ++ [⟨frame.call, frame.header,
      state.memory.read ((shm.mapping.map (·.id)).getD 0) (shm.slotAddress slot)
        frame.header.payloadSize.toNat⟩]
    unreleased :=
      if shm.generation ≠ 0 then state.history.unreleased ++ [(shm.generation, slot)]
      else state.history.unreleased}

def sendNotify (state : State) (ok : Bool) : Option State :=
  match state.pc with
  | .sending frame =>
    match frame.type, frame.slot with
    | .raw, some slot =>
      if ok then some {state with pc := .reading, history := state.noteNotify frame slot}
      else some {state with pc := .ending}
    | _, _ => none
  | _ => none

def sendDmabuf (state : State) (ok : Bool) : Option State :=
  match state.pc with
  | .sending frame =>
    match frame.type, frame.dmabufFd with
    | .dmabuf, some fd =>
      if ok then
        let withFrameId := state.display.shm.clientReleasesDmabufs
        some {state with
          pc := if frame.holdId ≠ 0 then .holding frame else .reading
          history := {state.history with
            sent := state.history.sent ++
              [.dmabufFrame (dmabufFrameHeader frame withFrameId) withFrameId fd]
            announced := state.history.announced ++ [frame.call]
            shown := if withFrameId ∧ frame.holdId ≠ 0 then
                state.history.shown ++ [frame.holdId]
              else state.history.shown}}
      else some {state with
        pc := .ending
        history := {state.history with
          released := state.history.released ++ releaseDmabufHold frame.holdId}}
    | .dmabuf, none => some {state with
        pc := .ending
        history := {state.history with
          released := state.history.released ++ releaseDmabufHold frame.holdId}}
    | _, _ => none
  | _ => none

def holdDmabuf (state : State) : Option State :=
  match state.pc with
  | .holding frame =>
    some {state with
      pc := .reading
      display := {state.display with shm := {state.display.shm with
        heldDmabufs := state.display.shm.heldDmabufs ++ [frame.holdId]}}}
  | _ => none

/-- `SendRawFrame` up to `AcquireShmSlot`, with the message of `SendShmInit` if it is needed. -/
def sendRaw (state : State) (outcome : InitOutcome) : Option State :=
  match state.pc with
  | .sending frame =>
    match frame.type, frame.slot with
    | .raw, none =>
      match rawPath state.display.shm frame with
      | .fails => some {state with pc := .ending}
      | .acquires =>
        some {state with
          pc := if shmReady state.display.shm frame then .acquiring frame else .ending}
      | .initialises payloadSize =>
        match shmSlotSize payloadSize, outcome with
        | none, _ | some _, .unavailable => some {state with pc := .sendingInline frame}
        | some _, .failed => some {state with pc := .ending}
        | some slotSize, .sent =>
          let generation := shmInitGeneration state.display.shm
          let mapping : ShmMapping := ⟨state.mappings⟩
          some {state with
            pc := .installing frame mapping slotSize generation
            mappings := state.mappings + 1
            history := {state.history with
              sent := state.history.sent ++
                [.shmInit (shmInitHeader slotSize generation) (.slots mapping.id)]}}
    | _, _ => none
  | _ => none

def installShm (state : State) : Option State :=
  match state.pc with
  | .installing frame mapping slotSize generation =>
    let display := installShmLocked state.memory state.display mapping slotSize generation
    some {state with
      display := display
      pc := if shmReady display.shm frame then .acquiring frame else .ending}
  | _ => none

def sendInline (state : State) (ok : Bool) : Option State :=
  match state.pc with
  | .sendingInline frame =>
    if ok then
      let pixels := frame.pixels.getD []
      some {state with
        pc := .reading
        history := {state.history with
          sent := state.history.sent ++ [.rawFrame frame.header pixels]
          announced := state.history.announced ++ [frame.call]
          delivered := state.history.delivered ++ [⟨frame.call, frame.header, pixels⟩]}}
    else some {state with pc := .ending}
  | _ => none

/-- One round of `AcquireShmSlot`: with every slot busy it waits, unless the streamer stops. -/
def acquireSlot (state : State) : Option State :=
  match state.pc with
  | .acquiring frame =>
    match acquireShmSlot state.display.shm with
    | some (slot, shm) =>
      some {state with
        display := {state.display with shm := shm}, pc := .copying frame slot 0}
    | none => if state.stopped then some {state with pc := .ending} else some state
  | _ => none

def copyToSlot (state : State) (count : Nat) : Option State :=
  match state.pc with
  | .copying frame slot copied =>
    let piece := ((frame.pixels.getD []).drop copied).take count
    some {state with
      memory := state.memory.write ((state.display.shm.mapping.map (·.id)).getD 0)
        (state.display.shm.slotAddress slot + copied) piece
      pc := .copying frame slot (copied + piece.length)}
  | _ => none

def notifySlot (state : State) (ok : Bool) : Option State :=
  match state.pc with
  | .copying frame slot copied =>
    if copied ≠ (frame.pixels.getD []).length then none
    else if ok then some {state with pc := .reading, history := state.noteNotify frame slot}
    else some {state with pc := .ending}
  | _ => none

def endClient (state : State) : Option State :=
  if state.pc = .ending then
    let (display, released) := endClientLocked state.memory state.display
    some {state with
      display := {display with clientFd := none}
      pc := .idle
      toServer := []
      history := {state.history with
        released := state.history.released ++ released
        holdsEnded := state.history.holdsEnded ++ state.history.holds
        holds := []}}
  else none

end State

def State.step (displayNumber : UInt32) (state : State) : Event → Option State
  | .onFrame width height fourcc strideBytes pixels arrivalNs =>
    state.onFrame displayNumber width height fourcc strideBytes pixels arrivalNs
  | .onFrameCopy index count => state.onFrameCopy index count
  | .onFramePublish index => state.onFramePublish index
  | .onDmabufFrame arrival duplicated => state.onDmabufFrame displayNumber arrival duplicated
  | .connect clientFd hello => state.connect displayNumber clientFd hello
  | .clientSends message => state.clientSends message
  | .readMessage => state.readMessage
  | .connectionLost => state.connectionLost
  | .takeFrame duplicated => state.takeFrame duplicated
  | .wake => state.wake
  | .sendTimestamps ok now => state.sendTimestamps ok now
  | .sendNotify ok => state.sendNotify ok
  | .sendDmabuf ok => state.sendDmabuf ok
  | .holdDmabuf => state.holdDmabuf
  | .sendRaw outcome => state.sendRaw outcome
  | .installShm => state.installShm
  | .sendInline ok => state.sendInline ok
  | .acquireSlot => state.acquireSlot
  | .copyToSlot count => state.copyToSlot count
  | .notifySlot ok => state.notifySlot ok
  | .endClient => state.endClient
  | .stop => some {state with stopped := true}

def displayMachine (displayNumber : UInt32) : Machine State Event where
  init state := state = {}
  step := State.step displayNumber

def streamer : Machine (UInt32 → State) (UInt32 × Event) := Machine.product displayMachine

def onFirstDisplay (events : List Event) : List (UInt32 × Event) := events.map fun event => (0, event)

def firstFrameEvents : List Event :=
  [.connect 3 [⟨kClientHelloMagic, kShmReleaseVersion, 1, 0⟩],
    .onFrame 1 1 0 4 (some [1, 2, 3, 4]) 0, .onFramePublish 0, .takeFrame true,
    .sendTimestamps true 0, .sendRaw .sent, .installShm, .acquireSlot, .copyToSlot 4,
    .notifySlot true, .takeFrame true]

end Ika.FrameStream
