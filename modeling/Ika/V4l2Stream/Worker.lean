import Ika.Foundation.Machine
import Mathlib.Data.List.Basic

/-!
A session of the V4L2 stream proxy: its ioctls and its worker thread.

The worker fills the buffers that were queued with what it reads from a FIFO. Each queued buffer
carries the number of the `qbuf` that queued it.
-/

set_option autoImplicit false

namespace Ika.V4l2Stream

inductive Errno where
  | EINVAL
  | EBUSY
  | ENOMEM

inductive WorkerCmd where
  | Stop
  | BufferQueued
  deriving DecidableEq, Repr

inductive BufferState where
  | New
  | Incoming
  | Outgoing (sequence : UInt32)
  deriving DecidableEq, Repr

/-- A queued buffer and the number of the `qbuf` that queued it. -/
structure Queued where
  index : Nat
  ticket : Nat

structure DequeueBufferEvent where
  index : Nat
  ticket : Nat
  sequence : UInt32

/-- A buffer that is being filled, and how far. -/
structure Frame where
  buffer : Queued
  plane_idx : Nat
  plane_offset : Nat

/-- The handler that called `should_stop`, with what `poll` told it of the FIFO. -/
inductive Caller where
  | unopened
  | idle
  | streaming (frame : Frame) (fifo : Bool)

/-- The states of the worker thread, and places within their handlers. -/
inductive WorkerState where
  /-- The FIFO is closed. -/
  | Unopened
  /-- The FIFO is open, but there is no buffer. -/
  | Idle
  | Streaming (frame : Frame)
  | Stopped (held : Option Queued)
  /-- About to lock the session and take a buffer. -/
  | taking
  /-- In `should_stop`, before the eventfd is read. -/
  | clearing (caller : Caller)
  /-- In `should_stop`, receiving what was sent. -/
  | draining (caller : Caller) (stop : Bool)
  | reading (frame : Frame)
  | writing (frame : Frame) (bytes_read : Nat)

structure Worker where
  state : WorkerState
  rx : List WorkerCmd
  event_fd : Nat

/-- How far the ioctl under way has come; `queueing` and `notifying` hold the session's lock. -/
inductive Progress where
  | ready
  | queueing
  | notifying
  | stopping
  | waking
  | joining
  | resetting
  | closed
  deriving DecidableEq, Repr

structure Session where
  buffers : List BufferState := []
  queued_buffers : List Queued := []
  sequence : UInt32 := 0
  worker : Option Worker := none
  streaming : Bool := false
  progress : Progress := .ready
  closing : Bool := false
  qbufs : List Nat := []
  events : List DequeueBufferEvent := []
  /-- How many events there were at the last `streamon`. -/
  base : Nat := 0
  /-- How many events there were when `streamoff` returned, until the next `streamon`. -/
  off : Option Nat := none

namespace Worker

/-- Nothing is received any more from a thread that has returned. -/
def send (cmd : WorkerCmd) (worker : Worker) : Worker :=
  match worker.state with
  | .Stopped _ => worker
  | _ => {worker with rx := worker.rx ++ [cmd]}

/-- A write that would overflow the counter fails. -/
def notify (worker : Worker) : Worker :=
  {worker with event_fd := min (worker.event_fd + 1) (2 ^ 64 - 2)}

end Worker

/-- Where the handler goes once `should_stop` has returned. -/
def Caller.answered (caller : Caller) (stop : Bool) : WorkerState :=
  match caller, stop with
  | .unopened, true => .Stopped none
  | .unopened, false => .Unopened
  | .idle, true => .Stopped none
  | .idle, false => .taking
  | .streaming frame _, true => .Stopped (some frame.buffer)
  | .streaming frame true, false => .reading frame
  | .streaming frame false, false => .Streaming frame

namespace Session

variable (session : Session)

def reset : Session :=
  {session with buffers := session.buffers.map fun _ => .New, queued_buffers := []}

/-- `expected`: the queue and memory type are the device's; `other`: another session has buffers. -/
def reqbufs (expected other : Bool) (count : UInt32) (allocated : Except Errno Unit) :
    Session × Except Errno Nat :=
  if expected = false then (session, .error .EINVAL)
  else if session.streaming then (session, .error .EBUSY)
  else if other then (session, .error .EBUSY)
  else
    let count := min count.toNat 32
    match allocated with
    | .error e => (session.reset, .error e)
    | .ok () => ({session.reset with buffers := List.replicate count .New}, .ok count)

def qbuf (index : Nat) : Session × Except Errno Unit :=
  match session.buffers[index]? with
  | none => (session, .error .EINVAL)
  | some state =>
    if state = .Incoming then (session, .error .EINVAL)
    else
      let buffers := session.buffers.set index .Incoming
      let queued_buffers := session.queued_buffers ++ [⟨index, session.qbufs.length⟩]
      let queued := {session with buffers, queued_buffers, qbufs := session.qbufs ++ [index]}
      if session.streaming && session.worker.isSome then
        ({queued with progress := .queueing}, .ok ())
      else (queued, .ok ())

/-- `eventfd` tells whether the worker's eventfd could be made. -/
def streamon (expected eventfd : Bool) : Session × Except Errno Unit :=
  if expected = false then (session, .error .EINVAL)
  else if session.buffers = [] then (session, .error .EINVAL)
  else
    let zeroed := {session with sequence := 0, base := session.events.length, off := none}
    if session.streaming then (zeroed, .ok ())
    else if eventfd then
      ({zeroed with streaming := true, worker := some ⟨.Unopened, [], 0⟩}, .ok ())
    else ({zeroed with streaming := true}, .error .ENOMEM)

def streamoff (expected closing : Bool) : Session × Except Errno Unit :=
  if expected = false then (session, .error .EINVAL)
  else
    let stopped := {session with streaming := false, closing}
    if session.streaming && session.worker.isSome then
      ({stopped with progress := .stopping}, .ok ())
    else ({stopped with progress := .resetting}, .ok ())

def close_session : Session :=
  if session.streaming then (session.streamoff true true).1
  else {session with progress := .closed}

def proceed : Option Session :=
  match session.progress with
  | .ready => none
  | .queueing =>
    let worker := session.worker.map (Worker.send .BufferQueued)
    some {session with worker, progress := .notifying}
  | .notifying => some {session with worker := session.worker.map .notify, progress := .ready}
  | .stopping =>
    let worker := session.worker.map (Worker.send .Stop)
    some {session with worker, progress := .waking}
  | .waking => some {session with worker := session.worker.map .notify, progress := .joining}
  | .joining =>
    match session.worker with
    | some ⟨.Stopped _, _, _⟩ => some {session with progress := .resetting}
    | _ => none
  | .resetting =>
    let progress : Progress := if session.closing then .closed else .ready
    let off := some session.events.length
    some {session.reset with worker := none, progress, off}
  | .closed => none

def locked : Bool := session.progress = .queueing || session.progress = .notifying

def goto (worker : Worker) (state : WorkerState) : Session :=
  {session with worker := some {worker with state}}

def next_buffer (worker : Worker) : Session :=
  match session.queued_buffers with
  | [] => session.goto worker .Idle
  | buffer :: queued_buffers =>
    {session with queued_buffers}.goto worker (.Streaming ⟨buffer, 0, 0⟩)

def complete (buffer : Queued) : Session :=
  let buffers := session.buffers.set buffer.index (.Outgoing session.sequence)
  let event := ⟨buffer.index, buffer.ticket, session.sequence⟩
  {session with
    buffers, sequence := session.sequence + 1, events := session.events ++ [event]}

def write (plane_sizes : List Nat) (worker : Worker) (frame : Frame) (bytes_read : Nat) : Session :=
  let plane_offset := frame.plane_offset + bytes_read
  if plane_offset = plane_sizes.getD frame.plane_idx 0 then
    let plane_idx := frame.plane_idx + 1
    if plane_idx = plane_sizes.length then (session.complete frame.buffer).next_buffer worker
    else session.goto worker (.Streaming {frame with plane_idx, plane_offset := 0})
  else session.goto worker (.Streaming {frame with plane_offset})

end Session

def local_buf : Nat := 4096

/-- What `read` may return: some bytes, none of them at the end of the file, or an error. -/
inductive ReadResult where
  | ok (bytes_read : Nat)
  | would_block
  | error

/-- The worker's next operation, with what the system answers. -/
inductive Action where
  | open (ok : Bool)
  | poll (fifo : Bool)
  | interrupted
  | should_stop
  | lock
  | read (result : ReadResult)
  | write (ok : Bool)

/-- Seeking and writing in the plane's memory may fail. -/
def Session.act (plane_sizes : List Nat) (session : Session) (worker : Worker)
    (action : Action) : Option Session :=
  match worker.state, action with
  | .Unopened, .open true => some (session.goto worker .taking)
  | .Unopened, .open false => some (session.goto worker (.clearing .unopened))
  | .taking, .lock => if session.locked then none else some (session.next_buffer worker)
  | .Idle, .interrupted => some session
  | .Idle, .poll _ =>
    if 0 < worker.event_fd then some (session.goto worker (.clearing .idle)) else none
  | .clearing caller, .should_stop =>
    some (session.goto {worker with event_fd := 0} (.draining caller false))
  | .draining caller stop, .should_stop =>
    match worker.rx with
    | [] => some (session.goto worker (caller.answered stop))
    | cmd :: rx => some (session.goto {worker with rx} (.draining caller (stop || cmd = .Stop)))
  | .Streaming _, .interrupted => some session
  | .Streaming frame, .poll fifo =>
    if 0 < worker.event_fd then some (session.goto worker (.clearing (.streaming frame fifo)))
    else if fifo then some (session.goto worker (.reading frame))
    else none
  | .reading frame, .read (.ok bytes_read) =>
    let remaining := plane_sizes.getD frame.plane_idx 0 - frame.plane_offset
    if bytes_read ≤ min local_buf remaining then
      if bytes_read = 0 then some (session.goto worker .Unopened)
      else some (session.goto worker (.writing frame bytes_read))
    else none
  | .reading frame, .read .would_block => some (session.goto worker (.Streaming frame))
  | .reading _, .read .error => some (session.goto worker .Unopened)
  | .writing frame bytes_read, .write ok =>
    if session.locked then none
    else if ok then some (session.write plane_sizes worker frame bytes_read)
    else some (session.goto worker (.Stopped none))
  | _, _ => none

inductive Event where
  | reqbufs (expected other : Bool) (count : UInt32) (allocated : Except Errno Unit)
  | qbuf (index : UInt32)
  | streamon (expected eventfd : Bool)
  | streamoff (expected : Bool)
  | close_session
  | proceed
  | worker (action : Action)

def Session.begin (session : Session) (ioctl : Session → Session) : Option Session :=
  if session.progress = .ready then some (ioctl session) else none

def step (plane_sizes : List Nat) (session : Session) : Event → Option Session
  | .reqbufs expected other count allocated =>
    session.begin fun session => (session.reqbufs expected other count allocated).1
  | .qbuf index => session.begin fun session => (session.qbuf index.toNat).1
  | .streamon expected eventfd =>
    session.begin fun session => (session.streamon expected eventfd).1
  | .streamoff expected => session.begin fun session => (session.streamoff expected false).1
  | .close_session => session.begin Session.close_session
  | .proceed => session.proceed
  | .worker action => session.worker.bind fun worker => session.act plane_sizes worker action

def plane_sizes (width height : UInt32) : List Nat :=
  let w := width.toNat
  let h := height.toNat
  [w * h, w * h / 4, w * h / 4]

def machine (input_width input_height : UInt32) : Transition.Machine Session Event where
  init session := session = {}
  step := step (plane_sizes input_width input_height)

/-! Where the buffers of a session are, and what the worker has been told. -/

def Caller.held : Caller → Option Queued
  | .streaming frame _ => some frame.buffer
  | _ => none

def WorkerState.held : WorkerState → Option Queued
  | .Streaming frame => some frame.buffer
  | .Stopped held => held
  | .clearing caller => caller.held
  | .draining caller _ => caller.held
  | .reading frame => some frame.buffer
  | .writing frame _ => some frame.buffer
  | _ => none

def Frame.Placed (plane_sizes : List Nat) (bytes_read : Nat) (frame : Frame) : Prop :=
  frame.plane_idx < plane_sizes.length ∧
    frame.plane_offset + bytes_read ≤ plane_sizes.getD frame.plane_idx 0

def Caller.Placed (plane_sizes : List Nat) : Caller → Prop
  | .streaming frame _ => frame.Placed plane_sizes 0
  | _ => True

def WorkerState.Placed (plane_sizes : List Nat) : WorkerState → Prop
  | .Streaming frame => frame.Placed plane_sizes 0
  | .clearing caller => caller.Placed plane_sizes
  | .draining caller _ => caller.Placed plane_sizes
  | .reading frame => frame.Placed plane_sizes 0
  | .writing frame bytes_read => frame.Placed plane_sizes bytes_read
  | _ => True

/-- The thread has received `Stop`. -/
def WorkerState.Told : WorkerState → Prop
  | .Stopped _ => True
  | .draining _ stop => stop = true
  | _ => False

/-- What was sent to the worker is seen by it, where the ioctl under way stands. -/
structure Worker.Aware (plane_sizes : List Nat) (progress : Progress) (queued : List Queued)
    (worker : Worker) : Prop where
  idle : worker.state = .Idle → queued ≠ [] →
    0 < worker.event_fd ∨ progress = .queueing ∨ progress = .notifying
  signalled : .Stop ∈ worker.rx →
    0 < worker.event_fd ∨ progress = .waking ∨ ∃ caller stop, worker.state = .draining caller stop
  told : progress = .waking ∨ progress = .joining → .Stop ∈ worker.rx ∨ worker.state.Told
  placed : worker.state.Placed plane_sizes

namespace Session

variable (session : Session)

def inHand : List Queued :=
  (session.worker.bind fun worker => worker.state.held).toList ++ session.queued_buffers

end Session

section Acts

variable {plane_sizes : List Nat} {session after : Session} {worker : Worker}

variable {caller : Caller} {stop : Bool}

theorem Caller.answered_held : (caller.answered stop).held = caller.held := by
  rcases caller with _ | _ | ⟨frame, fifo⟩
  · cases stop <;> rfl
  · cases stop <;> rfl
  · cases fifo <;> cases stop <;> rfl

theorem Caller.answered_placed (placed : caller.Placed plane_sizes) :
    (caller.answered stop).Placed plane_sizes := by
  rcases caller with _ | _ | ⟨frame, fifo⟩
  · cases stop <;> trivial
  · cases stop <;> trivial
  · cases fifo <;> cases stop
    · exact placed
    · trivial
    · exact placed
    · trivial

theorem Caller.answered_told : (caller.answered true).Told := by
  rcases caller with _ | _ | ⟨frame, fifo⟩ <;> trivial

theorem Caller.answered_not_idle : caller.answered stop ≠ .Idle := by
  rcases caller with _ | _ | ⟨frame, fifo⟩
  · cases stop <;> nofun
  · cases stop <;> nofun
  · cases fifo <;> cases stop <;> nofun

/-- What an operation of the worker can do to the session when no data is lost. -/
inductive Acts (plane_sizes : List Nat) (session : Session) (worker : Worker) : Session → Prop
  | moved {worker' : Worker} : worker'.state.held = worker.state.held →
      (∀ progress queued, worker.Aware plane_sizes progress queued →
        worker'.Aware plane_sizes progress queued) →
      Acts plane_sizes session worker {session with worker := some worker'}
  | took : worker.state = .taking → session.locked = false →
      Acts plane_sizes session worker (session.next_buffer worker)
  | completed {frame : Frame} {bytes_read : Nat} : worker.state = .writing frame bytes_read →
      session.locked = false →
      Acts plane_sizes session worker ((session.complete frame.buffer).next_buffer worker)

/-- No read comes to the end of the file or fails, and no write to a plane fails. -/
def Action.Harmless : Action → Prop
  | .read (.ok bytes_read) => bytes_read ≠ 0
  | .read .error => False
  | .write ok => ok = true
  | _ => True

theorem Worker.Aware.goto {progress : Progress} {queued : List Queued} {state : WorkerState}
    (aware : worker.Aware plane_sizes progress queued) (idle : state ≠ .Idle)
    (drained : ∀ caller stop, worker.state ≠ .draining caller stop) (told : ¬worker.state.Told)
    (placed : state.Placed plane_sizes) :
    Worker.Aware plane_sizes progress queued {worker with state} := by
  constructor
  · intro now
    exact absurd now idle
  · intro sent
    rcases aware.signalled sent with ready | waking | ⟨caller, stop, draining⟩
    · exact .inl ready
    · exact .inr (.inl waking)
    · exact absurd draining (drained caller stop)
  · intro stopping
    exact (aware.told stopping).imp_right fun was => absurd was told
  · exact placed

theorem act_spec {action : Action} (running : session.worker = some worker)
    (harmless : action.Harmless) (acted : session.act plane_sizes worker action = some after) :
    Acts plane_sizes session worker after := by
  obtain ⟨state, rx, event_fd⟩ := worker
  have same : session = {session with worker := some ⟨state, rx, event_fd⟩} := by
    rw [← running]
  unfold Session.act at acted
  cases state with
  | Unopened =>
    cases action with
    | «open» ok =>
      cases ok <;> cases acted <;>
        exact .moved rfl fun _ _ aware => aware.goto nofun nofun id trivial
    | _ => cases acted
  | Idle =>
    cases action with
    | interrupted =>
      cases acted
      rw [same]
      exact .moved rfl fun _ _ aware => aware
    | poll fifo =>
      dsimp only at acted
      split_ifs at acted
      cases acted
      exact .moved rfl fun _ _ aware => aware.goto nofun nofun id trivial
    | _ => cases acted
  | Streaming frame =>
    cases action with
    | interrupted =>
      cases acted
      rw [same]
      exact .moved rfl fun _ _ aware => aware
    | poll fifo =>
      dsimp only at acted
      split_ifs at acted <;> cases acted <;>
        exact .moved rfl fun _ _ aware => aware.goto nofun nofun id aware.placed
    | _ => cases acted
  | Stopped held => cases action <;> cases acted
  | taking =>
    cases action with
    | lock =>
      dsimp only at acted
      split_ifs at acted with locked
      cases acted
      exact .took rfl (Bool.eq_false_iff.mpr locked)
    | _ => cases acted
  | clearing caller =>
    cases action with
    | should_stop =>
      cases acted
      refine .moved rfl fun progress queued aware => ⟨nofun, ?_, ?_, aware.placed⟩
      · intro _
        exact .inr (.inr ⟨caller, false, rfl⟩)
      · intro stopping
        exact (aware.told stopping).imp_right fun told => told.elim
    | _ => cases acted
  | draining caller stop =>
    cases action with
    | should_stop =>
      cases rx with
      | nil =>
        cases acted
        refine .moved Caller.answered_held fun progress queued aware => ⟨?_, nofun, ?_, ?_⟩
        · intro idle
          exact absurd idle Caller.answered_not_idle
        · intro stopping
          rcases aware.told stopping with sent | told
          · cases sent
          · have stop : stop = true := told
            subst stop
            exact .inr Caller.answered_told
        · exact Caller.answered_placed aware.placed
      | cons cmd rx =>
        cases acted
        refine .moved rfl fun progress queued aware => ⟨nofun, ?_, ?_, aware.placed⟩
        · intro _
          exact .inr (.inr ⟨caller, _, rfl⟩)
        · intro stopping
          rcases aware.told stopping with sent | told
          · rcases List.mem_cons.mp sent with rfl | sent
            · exact .inr (by simp [WorkerState.Told])
            · exact .inl sent
          · have stop : stop = true := told
            exact .inr (by simp [WorkerState.Told, stop])
    | _ => cases acted
  | reading frame =>
    cases action with
    | read result =>
      cases result with
      | ok bytes_read =>
        dsimp only at acted
        split_ifs at acted with fits none
        · exact absurd none harmless
        · cases acted
          refine .moved rfl fun _ _ aware => aware.goto nofun nofun id ?_
          obtain ⟨plane, room⟩ := aware.placed
          have := (Nat.le_min.mp fits).2
          exact ⟨plane, by omega⟩
      | would_block =>
        cases acted
        exact .moved rfl fun _ _ aware => aware.goto nofun nofun id aware.placed
      | error => cases harmless
    | _ => cases acted
  | writing frame bytes_read =>
    cases action with
    | write ok =>
      have ok : ok = true := harmless
      subst ok
      dsimp only at acted
      rw [if_pos rfl] at acted
      split_ifs at acted with locked
      · cases acted
        unfold Session.write
        dsimp only
        split_ifs with whole last
        · exact .completed rfl (Bool.eq_false_iff.mpr locked)
        · refine .moved rfl fun _ _ aware => aware.goto nofun nofun id ?_
          obtain ⟨plane, room⟩ := aware.placed
          exact ⟨Nat.lt_of_le_of_ne plane last, Nat.zero_le _⟩
        · refine .moved rfl fun _ _ aware => aware.goto nofun nofun id ?_
          exact aware.placed
    | _ => cases acted

end Acts

end Ika.V4l2Stream
