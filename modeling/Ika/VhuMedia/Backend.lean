import Ika.Foundation.Machine

/-!
The vhost-user media backend: its command queue and what a notification does.

The layout of the commands and responses and the device behind them belong to the media crate and
are parameters.
-/

set_option autoImplicit false

namespace Ika.VhuMedia

/-- The commands and responses as bytes. Reading one leaves what follows it. -/
structure Protocol (Ioctl : Type) where
  VIRTIO_MEDIA_CMD_OPEN : UInt32
  VIRTIO_MEDIA_CMD_CLOSE : UInt32
  VIRTIO_MEDIA_CMD_IOCTL : UInt32
  VIRTIO_MEDIA_CMD_MMAP : UInt32
  VIRTIO_MEDIA_CMD_MUNMAP : UInt32
  readHeader : List UInt8 → Option (UInt32 × List UInt8)
  readClose : List UInt8 → Option (UInt32 × List UInt8)
  /-- The session id and the code. -/
  readIoctl : List UInt8 → Option ((UInt32 × UInt32) × List UInt8)
  /-- The session id, the flags and the offset. -/
  readMmap : List UInt8 → Option ((UInt32 × UInt32 × UInt32) × List UInt8)
  readMunmap : List UInt8 → Option (UInt64 × List UInt8)
  openResp : UInt32 → List UInt8
  mmapResp : UInt64 → UInt64 → List UInt8
  munmapResp : List UInt8
  errResp : Int32 → List UInt8
  ioctl : UInt32 → Option Ioctl

/-- A device with its sessions; an error of an ioctl is one that leaves the request unanswered. -/
structure Driver (Ioctl Device Session : Type) where
  create_device : Device
  new_session : UInt32 → Device → Device × Except Int32 Session
  close_session : Session → Device → Device
  /-- What is left to read and the room to write come last, what was written first. -/
  do_ioctl : Ioctl → Device → Session → List UInt8 → Nat → Option (List UInt8) × Device × Session
  do_mmap : UInt32 → UInt32 → Device → Session → Except Int32 (UInt64 × UInt64) × Device × Session
  do_munmap : UInt64 → Device → Except Int32 Unit × Device

abbrev EINVAL : Int32 := 22
abbrev ENOTTY : Int32 := 25

/-- A descriptor chain: what can be read of it and how much can be written. -/
structure Chain where
  head_index : UInt16
  readable : Option (List UInt8)
  writable : Option Nat

inductive Note where
  | opened (session_id : UInt32)
  | closed (session_id : UInt32)

structure Core (Device Session : Type) where
  sessions : List (UInt32 × Session)
  session_id_counter : UInt32
  device : Device

structure Answer where
  bytes : List UInt8
  note : Option Note := none

variable {Ioctl Device Session : Type}

namespace Core

variable (core : Core Device Session)

def get (session_id : UInt32) : Option Session :=
  (core.sessions.find? (·.1 = session_id)).map Prod.snd

def insert (session_id : UInt32) (session : Session) : Core Device Session :=
  {core with sessions := (session_id, session) :: core.sessions.filter (·.1 ≠ session_id)}

def remove (session_id : UInt32) : Core Device Session :=
  {core with sessions := core.sessions.filter (·.1 ≠ session_id)}

def modify (session_id : UInt32) (session : Session) : Core Device Session :=
  {core with sessions := core.sessions.map fun entry =>
      if entry.1 = session_id then (session_id, session) else entry}

/-- A response is written whole or the request fails. -/
def write (room : Nat) (bytes : List UInt8) (note : Option Note) :
    Core Device Session × Option Answer :=
  (core, if bytes.length ≤ room then some ⟨bytes, note⟩ else none)

variable (protocol : Protocol Ioctl) (driver : Driver Ioctl Device Session)

def openSession (room : Nat) : Core Device Session × Option Answer :=
  let session_id := core.session_id_counter
  match driver.new_session session_id core.device with
  | (device, .ok session) =>
    let core := {core with device}.insert session_id session
    write {core with session_id_counter := core.session_id_counter + 1} room
      (protocol.openResp session_id) (some (.opened session_id))
  | (device, .error e) => write {core with device} room (protocol.errResp e) none

def close (input : List UInt8) (room : Nat) : Core Device Session × Option Answer :=
  match protocol.readClose input with
  | none => (core, none)
  | some (session_id, _) =>
    match core.get session_id with
    | some session =>
      let device := driver.close_session session core.device
      ({core.remove session_id with device}, some ⟨[], some (.closed session_id)⟩)
    | none => core.write room (protocol.errResp EINVAL) none

def doIoctl (input : List UInt8) (room : Nat) : Core Device Session × Option Answer :=
  match protocol.readIoctl input with
  | none => (core, none)
  | some ((session_id, code), rest) =>
    match core.get session_id with
    | some session =>
      match protocol.ioctl code with
      | some ioctl =>
        let (written, device, session) := driver.do_ioctl ioctl core.device session rest room
        ({core.modify session_id session with device}, written.map (⟨·, none⟩))
      | none => core.write room (protocol.errResp ENOTTY) none
    | none => core.write room (protocol.errResp EINVAL) none

def mmap (input : List UInt8) (room : Nat) : Core Device Session × Option Answer :=
  match protocol.readMmap input with
  | none => (core, none)
  | some ((session_id, flags, offset), _) =>
    match core.get session_id with
    | some session =>
      match driver.do_mmap flags offset core.device session with
      | (.ok (guest_addr, size), device, session) =>
        write {core.modify session_id session with device} room
          (protocol.mmapResp guest_addr size) none
      | (.error e, device, session) =>
        write {core.modify session_id session with device} room (protocol.errResp e) none
    | none => core.write room (protocol.errResp EINVAL) none

def munmap (input : List UInt8) (room : Nat) : Core Device Session × Option Answer :=
  match protocol.readMunmap input with
  | none => (core, none)
  | some (driver_addr, _) =>
    match driver.do_munmap driver_addr core.device with
    | (.ok (), device) => write {core with device} room protocol.munmapResp none
    | (.error _, device) => write {core with device} room (protocol.errResp EINVAL) none

/-- One request; no answer stands for an error that ends the batch. -/
def request (chain : Chain) : Core Device Session × Option Answer :=
  match chain.readable, chain.writable with
  | some bytes, some room =>
    match protocol.readHeader bytes with
    | none => (core, none)
    | some (cmd, input) =>
      if cmd = protocol.VIRTIO_MEDIA_CMD_OPEN then core.openSession protocol driver room
      else if cmd = protocol.VIRTIO_MEDIA_CMD_CLOSE then core.close protocol driver input room
      else if cmd = protocol.VIRTIO_MEDIA_CMD_IOCTL then core.doIoctl protocol driver input room
      else if cmd = protocol.VIRTIO_MEDIA_CMD_MMAP then core.mmap protocol driver input room
      else if cmd = protocol.VIRTIO_MEDIA_CMD_MUNMAP then core.munmap protocol driver input room
      else core.write room (protocol.errResp ENOTTY) none
  | _, _ => (core, none)

end Core

/-- The backend, with what it has taken from the command queue and put in the used ring. -/
structure State (Device Session : Type) where
  event_idx : Bool := false
  mem : Bool := false
  backend : Bool := false
  sessions : List (UInt32 × Session) := []
  session_id_counter : UInt32 := 0
  device : Option Device := none
  taken : List Chain := []
  used : List (Chain × List UInt8) := []
  notes : List Note := []

abbrev COMMANDQ : UInt16 := 0
abbrev EVENTQ : UInt16 := 1

/-- What the frontend and the guest do; each read of the queue finds its own requests. -/
inductive Event where
  | set_event_idx (enabled : Bool)
  | update_memory
  | set_backend_req_fd
  | handle_event (device_event : UInt16) (epollin : Bool) (found : List (List Chain))

namespace State

variable (protocol : Protocol Ioctl) (driver : Driver Ioctl Device Session)
  (state : State Device Session)

def core (device : Device) : Core Device Session :=
  {sessions := state.sessions, session_id_counter := state.session_id_counter, device}

def withCore (core : Core Device Session) : State Device Session :=
  let counter := core.session_id_counter
  {state with sessions := core.sessions, session_id_counter := counter, device := some core.device}

def addUsed (chain : Chain) (answer : Answer) : State Device Session :=
  {state with
    used := state.used ++ [(chain, answer.bytes)]
    notes := state.notes ++ answer.note.toList}

/-- Runs through the batch; an error leaves the rest of it. -/
def process_commandq_requests (state : State Device Session) (device : Device) :
    List Chain → State Device Session × Bool
  | [] => (state, true)
  | chain :: rest =>
    match (state.core device).request protocol driver chain with
    | (core, none) => (state.withCore core, false)
    | (core, some answer) =>
      process_commandq_requests ((state.withCore core).addUsed chain answer) core.device rest

def process_commandq_queue (requests : List Chain) : State Device Session × Bool :=
  if state.mem then
    let state := {state with taken := state.taken ++ requests}
    if requests = [] then (state, true)
    else
      match state.device with
      | none => (state, false)
      | some device => state.process_commandq_requests protocol driver device requests
  else (state, false)

/-- Reads the queue until nothing new is found or a request fails. -/
def process_rounds (state : State Device Session) : List (List Chain) → State Device Session
  | [] => state
  | requests :: more =>
    match state.process_commandq_queue protocol driver requests with
    | (state, true) => process_rounds state more
    | (state, false) => state

def rounds (found : List (List Chain)) : List (List Chain) :=
  if state.event_idx then found else found.take 1

def handle_event (device_event : UInt16) (epollin : Bool) (found : List (List Chain)) :
    State Device Session :=
  if epollin then
    if device_event = COMMANDQ then state.process_rounds protocol driver (state.rounds found)
    else if device_event = EVENTQ then
      -- a new device, whether or not there is one
      if state.mem ∧ state.backend then {state with device := some driver.create_device}
      else state
    else state
  else state

def step : Event → State Device Session
  | .set_event_idx enabled => {state with event_idx := enabled}
  | .update_memory => {state with mem := true}
  | .set_backend_req_fd => {state with backend := true}
  | .handle_event device_event epollin found =>
    state.handle_event protocol driver device_event epollin found

end State

def machine (protocol : Protocol Ioctl) (driver : Driver Ioctl Device Session) :
    Transition.Machine (State Device Session) Event where
  init state := state = {}
  step state event := some (state.step protocol driver event)

end Ika.VhuMedia
