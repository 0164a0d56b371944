import Mathlib.Data.List.Basic
import Ika.Foundation.Machine

/-! The capture channel of the emulated camera: commands, and the thread that fills planes.

A request carries the number of the `qbuf` it was made by, and names the planes it was
given by the allocation they belong to. What a plane holds is the number of the `qbuf`
whose capture was last written there.
-/

set_option autoImplicit false

namespace Ika.EmulatedCamera

structure CapturePlanes where
  allocation : Nat
  index : Nat
  deriving DecidableEq, Repr

inductive Plane where
  | y
  | u
  | v
  deriving DecidableEq, Repr

abbrev Memory := CapturePlanes → Plane → Option Nat

structure CaptureRequest where
  buffer_id : Nat
  planes : CapturePlanes
  ticket : Nat
  deriving DecidableEq, Repr

structure CaptureCompletedEvent where
  buffer_id : Nat
  sequence : UInt32
  ticket : Nat

inductive ChannelCmd where
  | StartCapture
  | StopCapture
  | Queue (request : CaptureRequest)
  | Shutdown

inductive Capturing where
  | waiting
  | writing (request : CaptureRequest) (sequence : UInt32) (plane : Plane)
  | completing (request : CaptureRequest) (sequence : UInt32)
  | ended
  deriving DecidableEq, Repr

structure CaptureProcessor where
  streaming : Bool := false
  iteration : UInt64 := 0
  pending_requests : List CaptureRequest := []
  capturing : Capturing := .waiting

namespace CaptureProcessor

variable (processor : CaptureProcessor)

/-- `run` ends at a `Shutdown` and handles every other command. -/
def handle_cmd (processor : CaptureProcessor) : ChannelCmd → CaptureProcessor
  | .StartCapture => {processor with streaming := true, iteration := 0}
  | .StopCapture => {processor with streaming := false, pending_requests := []}
  | .Queue request =>
    {processor with pending_requests := processor.pending_requests ++ [request]}
  | .Shutdown => {processor with capturing := .ended}

def advance (dropped : UInt64) : CaptureProcessor :=
  {processor with iteration := processor.iteration + dropped, capturing := .waiting}

def produce_capture (dropped : UInt64) : CaptureProcessor :=
  let sequence := processor.iteration.toUInt32
  let ticked := {processor with iteration := processor.iteration + 1}
  match processor.pending_requests with
  | [] => ticked.advance dropped
  | request :: pending_requests =>
    {ticked with pending_requests, capturing := .writing request sequence .y}

end CaptureProcessor

/-- A plane that could be written holds the capture, unless one before it could not. -/
def Capturing.written (request : CaptureRequest) (sequence : UInt32) (plane : Plane)
    (ok : Bool) : Capturing :=
  match plane, ok with
  | .y, true => .writing request sequence .u
  | .u, true => .writing request sequence .v
  | .v, true => .completing request sequence
  | _, false => .completing request sequence

def Memory.write (memory : Memory) (planes : CapturePlanes) (plane : Plane) (ticket : Nat) :
    Memory :=
  fun other which => if other = planes ∧ which = plane then some ticket else memory other which

end Ika.EmulatedCamera

/-! A session of the emulated camera: its ioctls, its capture thread and its completion thread.

Every `qbuf` that reaches the channel has a number. What is sent to the guest is recorded
together with what was true when it was sent.
-/

namespace Ika.EmulatedCamera

inductive Errno where
  | EINVAL
  | EBUSY
  | ENOMEM
  | Eio

inductive BufferState where
  | New
  | Incoming
  | Outgoing (sequence : UInt32)
  deriving DecidableEq, Repr

structure Buffer where
  state : BufferState
  planes : CapturePlanes
  queued : Option Nat

def Buffer.set_state (state : BufferState) (buffer : Buffer) : Buffer :=
  {buffer with state, queued := none}

/-- A `DequeueBuffer` event, with the buffer and its planes as they were when it was made. -/
structure DequeueBufferEvent where
  buffer_id : Nat
  ticket : Nat
  sequence : UInt32
  buffer : Buffer
  shown : Plane → Option Nat
  /-- How many `qbuf`s there had been when a `streamoff` or `reqbufs` last returned. -/
  returned : Nat

/-- A write to a plane, with what had happened before it. -/
structure Write where
  ticket : Nat
  returned : Nat
  sent : Bool

/-- Where the completion thread is, with the lock of the buffers while it sends. -/
inductive Completing where
  | receiving
  | checking (event : CaptureCompletedEvent)
  | locking (event : CaptureCompletedEvent)
  | holding (event : CaptureCompletedEvent)
  | sending (event : DequeueBufferEvent)
  | ended

inductive Progress where
  | ready
  | queueing (request : CaptureRequest)
  | enabling
  | starting
  | resetting
  | stopping
  | requesting (count : UInt32) (allocated : Except Errno Unit)
  | returning
  | closing
  | closed

structure Session where
  buffers : List Buffer := []
  streaming : Bool := false
  cmds : List ChannelCmd := []
  processor : CaptureProcessor := {}
  completions : List CaptureCompletedEvent := []
  completing : Completing := .receiving
  progress : Progress := .ready
  memory : Memory := fun _ _ => none
  allocation : Nat := 0
  qbufs : Nat := 0
  /-- How many `qbuf`s there had been when a `streamoff` or `reqbufs` last returned. -/
  returned : Nat := 0
  events : List DequeueBufferEvent := []
  writes : List Write := []

namespace Session

variable (session : Session)

def locked : Bool :=
  match session.completing with
  | .holding _ => true
  | .sending _ => true
  | _ => false

/-- `cloned` tells whether the files of the planes could be duplicated. -/
def qbuf (buffer_idx : Nat) (cloned : Bool) : Session × Except Errno Unit :=
  match session.buffers[buffer_idx]? with
  | none => (session, .error .EINVAL)
  | some host_buffer =>
    if host_buffer.state = .Incoming then (session, .error .EINVAL)
    else
      let incoming := host_buffer.set_state .Incoming
      if cloned then
        let buffers := session.buffers.set buffer_idx {incoming with queued := some session.qbufs}
        let progress := .queueing ⟨buffer_idx, host_buffer.planes, session.qbufs⟩
        ({session with buffers, progress, qbufs := session.qbufs + 1}, .ok ())
      else ({session with buffers := session.buffers.set buffer_idx incoming}, .error .Eio)

/-- `expected`: the queue and the memory type are the device's; `other`: another session has
buffers. -/
def reqbufs (expected other : Bool) (count : UInt32) (allocated : Except Errno Unit) :
    Session × Except Errno Unit :=
  if expected = false then (session, .error .EINVAL)
  else if session.streaming then (session, .error .EBUSY)
  else if other then (session, .error .EBUSY)
  else ({session with progress := .requesting count allocated}, .ok ())

/-- What `reqbufs` does under the lock; no buffer can fail to be made when none is asked for. -/
def allocate (count : UInt32) (allocated : Except Errno Unit) : Session :=
  let cleared :=
    if count = 0 then
      {session with streaming := false, cmds := session.cmds ++ [.StopCapture]}
    else {session with buffers := session.buffers.map (Buffer.set_state .New)}
  let made := (List.range (min count.toNat 32)).map fun index =>
    ⟨.New, ⟨session.allocation + 1, index⟩, none⟩
  match allocated with
  | .error _ => if count = 0 then {cleared with buffers := []} else cleared
  | .ok () => {cleared with buffers := made, allocation := session.allocation + 1}

def streamon (expected : Bool) : Session × Except Errno Unit :=
  if expected = false then (session, .error .EINVAL)
  else if session.buffers = [] then (session, .error .EINVAL)
  else ({session with progress := .enabling}, .ok ())

def streamoff (expected : Bool) : Session × Except Errno Unit :=
  if expected = false then (session, .error .EINVAL)
  else ({session with streaming := false, progress := .resetting}, .ok ())

def close_session : Session :=
  {session with cmds := session.cmds ++ [.Shutdown], progress := .closing}

def proceed : Option Session :=
  match session.progress with
  | .ready => none
  | .queueing request =>
    some {session with cmds := session.cmds ++ [.Queue request], progress := .ready}
  | .enabling => some {session with streaming := true, progress := .starting}
  | .starting => some {session with cmds := session.cmds ++ [.StartCapture], progress := .ready}
  | .resetting =>
    if session.locked then none
    else
      let buffers := session.buffers.map (Buffer.set_state .New)
      some {session with buffers, progress := .stopping}
  | .stopping =>
    some {session with cmds := session.cmds ++ [.StopCapture], progress := .returning}
  | .requesting count allocated =>
    if session.locked then none
    else some {session.allocate count allocated with progress := .returning}
  | .returning => some {session with returned := session.qbufs, progress := .ready}
  | .closing =>
    match session.completing with
    | .ended => some {session with progress := .closed}
    | _ => none
  | .closed => none

def command : Option Session :=
  match session.processor.capturing, session.cmds with
  | .waiting, cmd :: cmds =>
    some {session with cmds, processor := session.processor.handle_cmd cmd}
  | _, _ => none

/-- Waiting for a command only times out while there is none. -/
def tick (dropped : UInt64) : Option Session :=
  match session.processor.capturing, session.cmds with
  | .waiting, [] =>
    if session.processor.streaming then
      some {session with processor := session.processor.produce_capture dropped}
    else none
  | _, _ => none

def write (ok : Bool) : Option Session :=
  match session.processor.capturing with
  | .writing request sequence plane =>
    let processor := {session.processor with
      capturing := Capturing.written request sequence plane ok}
    let ticket := request.ticket
    let sent := (session.events.map DequeueBufferEvent.ticket).contains ticket
    let writes := session.writes ++ [⟨ticket, session.returned, sent⟩]
    if ok then
      some {session with
        processor, writes, memory := session.memory.write request.planes plane ticket}
    else some {session with processor, writes}
  | _ => none

def finish (dropped : UInt64) : Option Session :=
  match session.processor.capturing with
  | .completing request sequence =>
    let event := ⟨request.buffer_id, sequence, request.ticket⟩
    let completions := session.completions ++ [event]
    some {session with completions, processor := session.processor.advance dropped}
  | _ => none

def completion : Option Session :=
  match session.completing with
  | .receiving =>
    match session.completions with
    | event :: completions => some {session with completions, completing := .checking event}
    | [] =>
      if session.processor.capturing = .ended then some {session with completing := .ended}
      else none
  | .checking event =>
    if session.streaming then some {session with completing := .locking event}
    else some {session with completing := .receiving}
  | .locking event => some {session with completing := .holding event}
  | .holding event =>
    match session.buffers[event.buffer_id]? with
    | none => some {session with completing := .receiving}
    | some buffer =>
      let outgoing := buffer.set_state (.Outgoing event.sequence)
      let buffers := session.buffers.set event.buffer_id outgoing
      let shown := session.memory buffer.planes
      let completing := .sending ⟨event.buffer_id, event.ticket, event.sequence, buffer, shown, 0⟩
      some {session with buffers, completing}
  | .sending event =>
    let events := session.events ++ [{event with returned := session.returned}]
    some {session with events, completing := .receiving}
  | .ended => none

end Session

inductive Event where
  | qbuf (buffer_idx : UInt32) (cloned : Bool)
  | reqbufs (expected other : Bool) (count : UInt32) (allocated : Except Errno Unit)
  | streamon (expected : Bool)
  | streamoff (expected : Bool)
  | close_session
  | proceed
  | command
  | tick (dropped : UInt64)
  | write (ok : Bool)
  | finish (dropped : UInt64)
  | completion

/-- An ioctl is only begun when the one before it has returned. -/
def Session.begin (session : Session) (ioctl : Session → Session) : Option Session :=
  match session.progress with
  | .ready => some (ioctl session)
  | _ => none

def step (session : Session) : Event → Option Session
  | .qbuf buffer_idx cloned =>
    if session.locked then none
    else session.begin fun session => (session.qbuf buffer_idx.toNat cloned).1
  | .reqbufs expected other count allocated =>
    session.begin fun session => (session.reqbufs expected other count allocated).1
  | .streamon expected =>
    if session.locked then none else session.begin fun session => (session.streamon expected).1
  | .streamoff expected => session.begin fun session => (session.streamoff expected).1
  | .close_session => session.begin Session.close_session
  | .proceed => session.proceed
  | .command => session.command
  | .tick dropped => session.tick dropped
  | .write ok => session.write ok
  | .finish dropped => session.finish dropped
  | .completion => session.completion

def machine : Transition.Machine Session Event where
  init session := session = {}
  step := step

end Ika.EmulatedCamera
