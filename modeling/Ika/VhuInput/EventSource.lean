import Mathlib.Data.List.Basic
import Ika.Foundation.Machine

/-! The buffered reader of input events.

Events have a fixed size and come in groups, the last of which is a SYN_REPORT. The
reader passes whole groups on and keeps what follows the last of them.
-/

set_option autoImplicit false

namespace Ika.VhuInput

open List

def VIRTIO_INPUT_EVENT_SIZE : Nat := 8

/-- The largest multiple of the event size that is at most `v`. -/
def trim_to_event_size_multiple (v : Nat) : Nat :=
  v / VIRTIO_INPUT_EVENT_SIZE * VIRTIO_INPUT_EVENT_SIZE

inductive ErrorKind where
  | UnexpectedEof
  | OutOfMemory
  | WouldBlock

section Groups

variable (bytes : List UInt8)

def IsReport (event : Nat) : Prop :=
  VIRTIO_INPUT_EVENT_SIZE * (event + 1) ≤ bytes.length ∧
    (bytes.drop (VIRTIO_INPUT_EVENT_SIZE * event)).take 4 = [0, 0, 0, 0]
  deriving Decidable

def Unfinished : Prop := ∀ event, ¬IsReport bytes event

def WholeGroups : Prop :=
  bytes = [] ∨ ∃ event, IsReport bytes event ∧ bytes.length = VIRTIO_INPUT_EVENT_SIZE * (event + 1)

end Groups

def BUFFER_SIZE : Nat := 8192

structure EventReader where
  buffer : List UInt8 := []

/-- The search for a SYN_REPORT from the last event down to those before `skip_len`. -/
def lastReport (buffer : List UInt8) (skip_len : Nat) : Nat → Option Nat
  | 0 => none
  | event + 1 =>
    let len := VIRTIO_INPUT_EVENT_SIZE * (event + 1)
    if len > skip_len then
      if (buffer.drop (VIRTIO_INPUT_EVENT_SIZE * event)).take 4 = [0, 0, 0, 0] then some len
      else lastReport buffer skip_len event
    else none

namespace EventReader

variable (reader : EventReader)

def room : Nat := BUFFER_SIZE - reader.buffer.length

/-- `read` is what the stream gives: nothing at its end. -/
def read_ahead (read : Except ErrorKind (List UInt8)) : Except ErrorKind EventReader :=
  if reader.buffer.length = BUFFER_SIZE then .error .OutOfMemory
  else read.map fun bytes => ⟨reader.buffer ++ bytes⟩

def consume (count : Nat) : EventReader × List UInt8 :=
  (⟨reader.buffer.drop count⟩, reader.buffer.take count)

def read_events (read : Except ErrorKind (List UInt8)) :
    Except ErrorKind (EventReader × List UInt8) :=
  match reader.read_ahead read with
  | .error e => .error e
  | .ok ahead =>
    let read_len := ahead.buffer.length - reader.buffer.length
    if read_len = 0 then .error .UnexpectedEof
    else
      let skip_len := trim_to_event_size_multiple (ahead.buffer.length - read_len)
      match lastReport ahead.buffer skip_len (ahead.buffer.length / VIRTIO_INPUT_EVENT_SIZE) with
      | some len => .ok (ahead.consume len)
      | none => .ok (ahead, [])

end EventReader

section Reads

variable {bytes more : List UInt8}

variable {event first : Nat}

theorem isReport_append (inside : VIRTIO_INPUT_EVENT_SIZE * (event + 1) ≤ bytes.length) :
    IsReport (bytes ++ more) event ↔ IsReport bytes event := by
  unfold IsReport VIRTIO_INPUT_EVENT_SIZE at *
  have long : 4 ≤ (bytes.drop (8 * event)).length := by
    rw [length_drop]
    omega
  rw [drop_append_of_le_length (by omega), take_append_of_le_length long,
    length_append]
  constructor
  · exact fun report => ⟨inside, report.2⟩
  · exact fun report => ⟨by omega, report.2⟩

theorem isReport_drop :
    IsReport (bytes.drop (VIRTIO_INPUT_EVENT_SIZE * first)) event →
      IsReport bytes (first + event) := by
  unfold IsReport VIRTIO_INPUT_EVENT_SIZE
  rw [length_drop, drop_drop]
  intro ⟨inside, zero⟩
  refine ⟨by omega, ?_⟩
  rw [← zero]
  congr 2
  omega

theorem isReport_from (report : IsReport bytes event) (within : first ≤ event) :
    IsReport (bytes.drop (VIRTIO_INPUT_EVENT_SIZE * first)) (event - first) := by
  obtain ⟨inside, zero⟩ := report
  unfold IsReport VIRTIO_INPUT_EVENT_SIZE at *
  rw [length_drop, drop_drop]
  refine ⟨by omega, ?_⟩
  rw [← zero]
  congr 2
  omega

theorem isReport_take (report : IsReport bytes event) (within : event < first) :
    IsReport (bytes.take (VIRTIO_INPUT_EVENT_SIZE * first)) event := by
  have split := take_append_drop (VIRTIO_INPUT_EVENT_SIZE * first) bytes
  have inside := report.1
  rw [← split] at report
  refine (isReport_append ?_).mp report
  unfold VIRTIO_INPUT_EVENT_SIZE at *
  rw [length_take]
  omega

/-- The search finds the end of the last report that begins behind `skip_len`. -/
theorem lastReport_spec {skip_len count : Nat}
    (inside : VIRTIO_INPUT_EVENT_SIZE * count ≤ bytes.length) :
    match lastReport bytes skip_len count with
    | some len => ∃ event, len = VIRTIO_INPUT_EVENT_SIZE * (event + 1) ∧ IsReport bytes event ∧
        ∀ later, event < later → later < count → ¬IsReport bytes later
    | none => ∀ event, skip_len < VIRTIO_INPUT_EVENT_SIZE * (event + 1) → event < count →
        ¬IsReport bytes event := by
  induction count with
  | zero => exact fun _ _ none => absurd none (Nat.not_lt_zero _)
  | succ event ih =>
    unfold lastReport
    dsimp only
    split_ifs with behind report
    · refine ⟨event, rfl, ⟨inside, report⟩, fun later after before => ?_⟩
      omega
    · have rest := ih (by unfold VIRTIO_INPUT_EVENT_SIZE at *; omega)
      have not : ¬IsReport bytes event := fun found => report found.2
      split <;> rename_i found <;> rw [found] at rest
      · obtain ⟨last, same, found, none⟩ := rest
        refine ⟨last, same, found, fun later after before => ?_⟩
        rcases Nat.lt_succ_iff_lt_or_eq.mp before with before | rfl
        · exact none later after before
        · exact not
      · intro other behind before
        rcases Nat.lt_succ_iff_lt_or_eq.mp before with before | rfl
        · exact rest other behind before
        · exact not
    · intro other above before
      have : VIRTIO_INPUT_EVENT_SIZE * (other + 1) ≤ VIRTIO_INPUT_EVENT_SIZE * (event + 1) :=
        Nat.mul_le_mul_left _ (by omega)
      omega

theorem EventReader.read_events_ok {reader : EventReader} {read : List UInt8}
    (unfinished : Unfinished reader.buffer) (room : reader.buffer.length < BUFFER_SIZE)
    (some : read ≠ []) :
    ∃ rest groups, reader.read_events (.ok read) = .ok (rest, groups) ∧
      reader.buffer ++ read = groups ++ rest.buffer ∧ WholeGroups groups ∧
      Unfinished rest.buffer := by
  have nonempty : 0 < read.length := length_pos_of_ne_nil some
  have lengths : (reader.buffer ++ read).length = reader.buffer.length + read.length :=
    length_append
  -- the events that were there before were looked at before
  have older : ∀ event, VIRTIO_INPUT_EVENT_SIZE * (event + 1) ≤ reader.buffer.length →
      ¬IsReport (reader.buffer ++ read) event := fun event inside report =>
    unfinished event ((isReport_append inside).mp report)
  have bound : ∀ event, IsReport (reader.buffer ++ read) event →
      event < (reader.buffer ++ read).length / VIRTIO_INPUT_EVENT_SIZE := by
    intro event report
    have := report.1
    unfold VIRTIO_INPUT_EVENT_SIZE at *
    omega
  unfold read_events read_ahead
  rw [if_neg (Nat.ne_of_lt room)]
  simp only [Except.map]
  rw [if_neg (by omega)]
  have inside : VIRTIO_INPUT_EVENT_SIZE *
      ((reader.buffer ++ read).length / VIRTIO_INPUT_EVENT_SIZE) ≤ (reader.buffer ++ read).length :=
    Nat.mul_div_le _ _
  have skip : trim_to_event_size_multiple ((reader.buffer ++ read).length -
      ((reader.buffer ++ read).length - reader.buffer.length)) ≤ reader.buffer.length := by
    unfold trim_to_event_size_multiple VIRTIO_INPUT_EVENT_SIZE
    omega
  have spec := @lastReport_spec (reader.buffer ++ read) (trim_to_event_size_multiple
    ((reader.buffer ++ read).length - ((reader.buffer ++ read).length - reader.buffer.length)))
    _ inside
  split <;> rename_i found <;> rw [found] at spec
  · obtain ⟨event, rfl, report, last⟩ := spec
    refine ⟨_, _, rfl, (take_append_drop _ _).symm, ?_, ?_⟩
    · refine .inr ⟨event, isReport_take report (Nat.lt_succ_self _), ?_⟩
      rw [length_take]
      exact Nat.min_eq_left report.1
    · intro later report
      have report := isReport_drop report
      exact last _ (by omega) (bound _ report) report
  · refine ⟨_, _, rfl, rfl, .inl rfl, fun event report => ?_⟩
    by_cases old : VIRTIO_INPUT_EVENT_SIZE * (event + 1) ≤ reader.buffer.length
    · exact older event old report
    · exact spec event (by omega) (bound event report) report

end Reads

/-!
The event source and the device of the vhost-user input server.

One thread serves the sockets of the clients, the other the queues of the guest. They share two
lists of bytes, and wake each other through a pair of connected sockets.
-/

inductive Cell where
  | eventBytes
  | statusBytes
  deriving DecidableEq, Repr

structure Handles where
  events : Cell
  status : Cell

/-- The handles of the event source, and those of its server thread. -/
def UnixSocketEventSource.new : Handles × Handles :=
  let events := Cell.eventBytes
  let events_clone := events
  let status := Cell.statusBytes
  let status_clone := events
  (⟨events, status⟩, ⟨events_clone, status_clone⟩)

def sourceHandles : Handles := UnixSocketEventSource.new.1

def serverHandles : Handles := UnixSocketEventSource.new.2

structure Socket where
  inbound : List UInt8 := []
  sent : List UInt8 := []
  shut : Bool := false
  outbound : List UInt8 := []
  /-- The status bytes of the guest that were handled while the client was connected. -/
  due : List UInt8 := []
  lagging : Bool := false

structure Client where
  token : Nat
  socket : Nat
  reader : EventReader

/-- Where the server thread is, with the tokens that are still to be handled. -/
inductive Server where
  | handling (ready : List Nat)
  | taking (ready : List Nat)
  | appending (bytes : List UInt8) (ready : List Nat)
  | notifying (ready : List Nat)
  | panicked
  deriving DecidableEq, Repr

inductive Device where
  | idle
  | draining
  | taking
  | sending
  | feeding
  | notifying
  deriving DecidableEq, Repr

structure State where
  sockets : Nat → Socket := fun _ => {}
  connected : Nat := 0
  backlog : List Nat := []
  clients : List Client := []
  server : Server := .handling []
  cells : Cell → List UInt8 := fun _ => []
  /-- The notifications on their way to the device's thread, and to the server's. -/
  toDevice : Nat := 0
  toServer : Nat := 0
  device : Device := .idle
  event_queue : List UInt8 := []
  mem : Bool := false
  /-- The sizes of the event buffers the guest has posted. -/
  avail : List Nat := []
  kicked : Bool := false
  /-- The guest need not kick. -/
  suppressed : Bool := false
  statusAvail : List (List UInt8) := []
  statusKicked : Bool := false
  statusSuppressed : Bool := false
  guest : List UInt8 := []
  /-- What the readers passed on, and for which client. -/
  log : List (Nat × List UInt8) := []
  /-- The status bytes the guest has sent since they were last handled. -/
  owed : List UInt8 := []

/-- A write of the status, of which the client accepts a part; these bytes of the guest are due. -/
def Socket.write (socket : Socket) (status owed : List UInt8) (accepts : Nat) : Socket :=
  let outbound := socket.outbound ++ status.take accepts
  let lagging := socket.lagging || accepts < status.length
  {socket with outbound, lagging, due := socket.due ++ owed}

namespace State

variable (state : State)

def setSocket (id : Nat) (socket : Socket) : State :=
  {state with sockets := fun other => if other = id then socket else state.sockets other}

def setCell (cell : Cell) (bytes : List UInt8) : State :=
  {state with cells := fun other => if other = cell then bytes else state.cells other}

def connect : State :=
  {state with backlog := state.backlog ++ [state.connected], connected := state.connected + 1}

def clientSend (id : Nat) (bytes : List UInt8) : Option State :=
  let socket := state.sockets id
  if id < state.connected ∧ socket.shut = false then
    some (state.setSocket id
      {socket with inbound := socket.inbound ++ bytes, sent := socket.sent ++ bytes})
  else none

def clientClose (id : Nat) : Option State :=
  if id < state.connected then some (state.setSocket id {state.sockets id with shut := true})
  else none

def SERVER_TOKEN : Nat := 0

def EVENT_TOKEN : Nat := 1

def FIRST_CLIENT_TOKEN : Nat := 2

def client? (token : Nat) : Option Client :=
  state.clients.find? fun client => client.token = token

def isReady (token : Nat) : Bool :=
  if token = SERVER_TOKEN then state.backlog ≠ []
  else if token = EVENT_TOKEN then 0 < state.toServer
  else match state.client? token with
    | none => false
    | some client =>
      let socket := state.sockets client.socket
      socket.inbound ≠ [] || socket.shut

def MAX_READY : Nat := 16

def wait (ready : List Nat) : Option State :=
  if state.server = .handling [] ∧ ready.length ≤ MAX_READY ∧ ready.Nodup ∧
      ∀ token ∈ ready, state.isReady token = true then
    some {state with server := .handling ready}
  else none

def newToken : Option Nat :=
  (List.range' FIRST_CLIENT_TOKEN (state.clients.length + 1)).find? fun token =>
    token ∉ state.clients.map Client.token

def accept (ok : Bool) : Option State :=
  match state.server, state.backlog with
  | .handling (0 :: ready), id :: backlog =>
    if ok then
      match state.newToken with
      | none => some {state with server := .panicked}
      | some token =>
        let clients := state.clients ++ [⟨token, id, {}⟩]
        some {state with backlog, clients, server := .handling ready}
    else some {state with server := .handling ready}
  | _, _ => none

def drain : Option State :=
  match state.server with
  | .handling (1 :: ready) => some {state with toServer := 0, server := .taking ready}
  | _ => none

/-- The status is written to every client, as far as each makes room for it. -/
def take (accepts : Nat → Nat) : Option State :=
  match state.server with
  | .taking ready =>
    let status := state.cells serverHandles.status
    let sockets := fun id =>
      if id ∈ state.clients.map Client.socket then
        (state.sockets id).write status state.owed (accepts id)
      else state.sockets id
    some {state.setCell serverHandles.status [] with sockets, owed := [], server := .handling ready}
  | _ => none

/-- What a read of some bytes of the socket gives; there are none at its end. -/
def readSocket (socket : Socket) (count : Nat) : Except ErrorKind (List UInt8) :=
  if socket.inbound ≠ [] then .ok (socket.inbound.take count)
  else if socket.shut then .ok []
  else .error .WouldBlock

def setReader (token : Nat) (reader : EventReader) : List Client :=
  state.clients.map fun client => if client.token = token then {client with reader} else client

/-- A read gets a part of what is there, and no more than there is room for. -/
def read (count : Nat) : Option State :=
  match state.server with
  | .handling (token :: ready) =>
    if token < FIRST_CLIENT_TOKEN then none
    else match state.client? token with
      | none => some {state with server := .panicked}
      | some client =>
        let socket := state.sockets client.socket
        if socket.inbound ≠ [] ∧ client.reader.room ≠ 0 ∧
            (count = 0 ∨ min socket.inbound.length client.reader.room < count) then none
        else match client.reader.read_events (readSocket socket count) with
          | .ok (reader, bytes) =>
            let clients := state.setReader token reader
            let log := state.log ++ [(client.socket, bytes)]
            let socket := {socket with inbound := socket.inbound.drop count}
            some { state.setSocket client.socket socket with
              clients, log, server := .appending bytes ready}
          | .error _ =>
            let clients := state.clients.filter fun client => client.token ≠ token
            some {state with clients, server := .handling ready}
  | _ => none

def append : Option State :=
  match state.server with
  | .appending bytes ready =>
    let events := state.cells serverHandles.events ++ bytes
    some {state.setCell serverHandles.events events with server := .notifying ready}
  | _ => none

/-- A notification that finds no room is a panic; there is none only where others wait. -/
def notify (room : Bool) : Option State :=
  match state.server with
  | .notifying ready =>
    if room then some {state with toDevice := state.toDevice + 1, server := .handling ready}
    else if 0 < state.toDevice then some {state with server := .panicked}
    else none
  | _ => none

def update_memory : State := {state with mem := true}

/-- The guest posts an event buffer; it may kick though it need not. -/
def post (size : Nat) (kick : Bool) : Option State :=
  if state.mem then
    let kicked := state.kicked || kick || !state.suppressed
    some {state with avail := state.avail ++ [size], kicked}
  else none

def postStatus (bytes : List UInt8) (kick : Bool) : Option State :=
  if state.mem then
    let statusKicked := state.statusKicked || kick || !state.statusSuppressed
    some {state with statusAvail := state.statusAvail ++ [bytes], statusKicked}
  else none

inductive Queue where
  | EVENT_QUEUE
  | STATUS_QUEUE
  | EVENTS_AVAILABLE

def handle_event (queue : Queue) (event_idx : Bool) : Option State :=
  if state.device = .idle then
    match queue with
    | .EVENT_QUEUE =>
      if state.kicked then some {state with kicked := false, device := .sending} else none
    | .STATUS_QUEUE =>
      if state.statusKicked then
        let handled := {state with statusKicked := false}
        -- without the guest's memory this is an error
        if state.mem then some {handled with statusSuppressed := event_idx, device := .feeding}
        else some handled
      else none
    | .EVENTS_AVAILABLE =>
      if 0 < state.toDevice then some {state with device := .draining} else none
  else none

def send_pending (event_idx : Bool) : State :=
  if state.event_queue = [] ∨ state.mem = false then {state with device := .idle}
  else match state.avail with
    | [] => {state with suppressed := false, device := .idle}
    | size :: avail =>
      let write_len := trim_to_event_size_multiple (min size state.event_queue.length)
      let guest := state.guest ++ state.event_queue.take write_len
      let event_queue := state.event_queue.drop write_len
      {state with avail, guest, event_queue, suppressed := event_idx}

def feed : State :=
  match state.statusAvail with
  | [] => {state with statusSuppressed := false, device := .idle}
  | bytes :: statusAvail =>
    let status := state.cells sourceHandles.status ++ bytes
    { state.setCell sourceHandles.status status with
      statusAvail, owed := state.owed ++ bytes, device := .notifying}

/-- The next operation; a notification that finds no room is not sent. -/
def proceed (event_idx room : Bool) : Option State :=
  match state.device with
  | .idle => none
  | .draining => some {state with toDevice := 0, device := .taking}
  | .taking =>
    let event_queue := state.event_queue ++ state.cells sourceHandles.events
    some {state.setCell sourceHandles.events [] with event_queue, device := .sending}
  | .sending => some (state.send_pending event_idx)
  | .feeding => some state.feed
  | .notifying =>
    if room then some {state with toServer := state.toServer + 1, device := .feeding}
    else if 0 < state.toServer then some {state with device := .feeding}
    else none

end State

inductive Event where
  | connect
  | clientSend (id : Nat) (bytes : List UInt8)
  | clientClose (id : Nat)
  | wait (ready : List Nat)
  | accept (ok : Bool)
  | drain
  | take (accepts : Nat → Nat)
  | read (count : Nat)
  | append
  | notify (room : Bool)
  | update_memory
  | post (size : Nat) (kick : Bool)
  | postStatus (bytes : List UInt8) (kick : Bool)
  | handle_event (queue : State.Queue)
  | proceed (room : Bool)

def step (event_idx : Bool) (state : State) : Event → Option State
  | .connect => some state.connect
  | .clientSend id bytes => state.clientSend id bytes
  | .clientClose id => state.clientClose id
  | .wait ready => state.wait ready
  | .accept ok => state.accept ok
  | .drain => state.drain
  | .take accepts => state.take accepts
  | .read count => state.read count
  | .append => state.append
  | .notify room => state.notify room
  | .update_memory => some state.update_memory
  | .post size kick => state.post size kick
  | .postStatus bytes kick => state.postStatus bytes kick
  | .handle_event queue => state.handle_event queue event_idx
  | .proceed room => state.proceed event_idx room

/-- `event_idx` is what was negotiated with the guest. -/
def machine (event_idx : Bool) : Transition.Machine State Event where
  init state := state = {}
  step := step event_idx

end Ika.VhuInput
