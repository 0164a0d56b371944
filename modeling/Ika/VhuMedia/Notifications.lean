import Ika.VhuMedia.CommandQueue

/-! What holds after every notification while each request can be answered.

A request that fails leaves the batch it came in, and the device is made anew by
each notification of the event queue; the condition keeps clear of both.
-/

set_option autoImplicit false

namespace Ika.VhuMedia

variable {Ioctl Device Session : Type}

variable (protocol : Protocol Ioctl) (driver : Driver Ioctl Device Session)

/-- Each request is whole, and the event queue is notified before the device is used. -/
def Allowed (state : State Device Session) : Event → Prop
  | .handle_event device_event true found =>
    if device_event = COMMANDQ then
      state.Served protocol driver (State.Fine protocol driver) (state.rounds found)
    else if device_event = EVENTQ then
      state.device = none ∨ state.device = some driver.create_device
    else True
  | _ => True

section Decidable

variable (core : Core Device Session) (chain : Chain)

instance : Decidable (core.Answerable protocol driver chain) :=
  decidable_of_iff _ (Core.answered_iff chain)

instance : Decidable (core.Opens protocol driver chain) := inferInstanceAs (Decidable (_ ∧ _))

instance : Decidable (core.Unwrapped protocol driver chain) := inferInstanceAs (Decidable (_ → _))

instance : Decidable (State.Fine protocol driver core chain) := inferInstanceAs (Decidable (_ ∧ _))

instance inTurnDecidable (ok : Core Device Session → Chain → Prop)
    [∀ core chain, Decidable (ok core chain)] (core : Core Device Session) :
    (requests : List Chain) → Decidable (Core.InTurn protocol driver ok core requests)
  | [] => isTrue trivial
  | chain :: rest =>
    have := inTurnDecidable ok (core.request protocol driver chain).1 rest
    inferInstanceAs (Decidable (ok core chain ∧ _))

theorem some_device_iff (device : Option Device) (requests : List Chain)
    (turn : Device → Prop) : (match device with
      | none => requests = []
      | some device => requests = [] ∨ turn device) ↔
      (requests = [] ∨ ∃ one, device = some one ∧ turn one) := by
  cases device <;> simp

instance (device : Option Device) (requests : List Chain) (turn : Device → Prop)
    [∀ device, Decidable (turn device)] :
    Decidable (requests = [] ∨ ∃ one, device = some one ∧ turn one) :=
  have : Decidable (match device with
      | none => requests = []
      | some device => requests = [] ∨ turn device) :=
    match device with
    | none => inferInstanceAs (Decidable (requests = []))
    | some device => inferInstanceAs (Decidable (requests = [] ∨ turn device))
  decidable_of_iff _ (some_device_iff device requests turn)

instance servedDecidable (ok : Core Device Session → Chain → Prop)
    [∀ core chain, Decidable (ok core chain)] (state : State Device Session) :
    (rounds : List (List Chain)) → Decidable (state.Served protocol driver ok rounds)
  | [] => isTrue trivial
  | requests :: more =>
    have := servedDecidable ok (state.process_commandq_queue protocol driver requests).1 more
    inferInstanceAs (Decidable (state.mem = true → _ ∧ _))

instance [DecidableEq Device] (state : State Device Session) (event : Event) :
    Decidable (Allowed protocol driver state event) :=
  match event with
  | .set_event_idx _ => isTrue trivial
  | .update_memory => isTrue trivial
  | .set_backend_req_fd => isTrue trivial
  | .handle_event _ false _ => isTrue trivial
  | .handle_event device_event true found =>
    inferInstanceAs (Decidable (if device_event = COMMANDQ then
      state.Served protocol driver (State.Fine protocol driver) (state.rounds found)
    else if device_event = EVENTQ then
      state.device = none ∨ state.device = some driver.create_device
    else True))

end Decidable

structure Kept (state : State Device Session) : Prop where
  settled : state.Settled
  tidy : State.Tidy state.keys state.session_id_counter state.notes

variable {protocol driver} {state : State Device Session}

variable {ok other : Core Device Session → Chain → Prop}

theorem Core.InTurn.mono
    (weaken : ∀ core chain, ok core chain → other core chain) {core : Core Device Session}
    {requests : List Chain} (turn : InTurn protocol driver ok core requests) :
    InTurn protocol driver other core requests := by
  induction requests generalizing core with
  | nil => trivial
  | cons chain rest ih => exact ⟨weaken _ _ turn.1, ih turn.2⟩

theorem State.Served.mono
    (weaken : ∀ core chain, ok core chain → other core chain) {rounds : List (List Chain)}
    (served : state.Served protocol driver ok rounds) :
    state.Served protocol driver other rounds := by
  induction rounds generalizing state with
  | nil => trivial
  | cons requests more ih =>
    intro ready
    obtain ⟨first, rest⟩ := served ready
    refine ⟨first.imp_right fun ⟨device, held, turn⟩ => ⟨device, held, turn.mono weaken⟩, ih rest⟩

theorem State.Served.answerable {rounds : List (List Chain)}
    (served : state.Served protocol driver (State.Fine protocol driver) rounds) :
    state.Served protocol driver (Core.Answerable protocol driver) rounds :=
  served.mono fun _ _ fine => fine.1

theorem Kept.rounds {rounds : List (List Chain)} (kept : Kept state)
    (served : state.Served protocol driver (State.Fine protocol driver) rounds) :
    Kept (state.process_rounds protocol driver rounds) := by
  refine ⟨(State.rounds_settled kept.settled rounds).mpr served.answerable, ?_⟩
  have tidy := kept.tidy
  clear kept
  induction rounds generalizing state with
  | nil => exact tidy
  | cons requests more ih =>
    unfold State.process_rounds
    cases ready : state.mem with
    | false =>
      have stopped : state.process_commandq_queue protocol driver requests = (state, false) := by
        simp [State.process_commandq_queue, ready]
      rw [stopped]
      exact tidy
    | true =>
      obtain ⟨first, rest⟩ := served ready
      have after : State.Tidy (state.process_commandq_queue protocol driver requests).1.keys
          (state.process_commandq_queue protocol driver requests).1.session_id_counter
          (state.process_commandq_queue protocol driver requests).1.notes := by
        unfold State.process_commandq_queue
        rw [if_pos ready]
        rcases first with rfl | ⟨device, held, turn⟩
        · exact tidy
        · by_cases empty : requests = []
          · rw [if_pos empty]
            exact tidy
          · simp only [empty, if_false, held]
            exact State.process_tidy requests tidy turn
      revert rest after
      rcases state.process_commandq_queue protocol driver requests with ⟨next, ok⟩
      intro rest after
      cases ok with
      | true => exact ih rest after
      | false => exact after

theorem Kept.step {event : Event} (kept : Kept state) (allowed : Allowed protocol driver state event) :
    Kept (state.step protocol driver event) := by
  have same : ∀ other : State Device Session, other.taken = state.taken →
      other.used = state.used → other.sessions = state.sessions →
      other.session_id_counter = state.session_id_counter → other.notes = state.notes →
      Kept other := by
    intro other taken used sessions counter notes
    refine ⟨?_, ?_⟩
    · rw [State.Settled, taken, used]
      exact kept.settled
    · rw [State.keys, sessions, counter, notes]
      exact kept.tidy
  cases event with
  | set_event_idx enabled => exact same _ rfl rfl rfl rfl rfl
  | update_memory => exact same _ rfl rfl rfl rfl rfl
  | set_backend_req_fd => exact same _ rfl rfl rfl rfl rfl
  | handle_event device_event epollin found =>
    cases epollin with
    | false => exact kept
    | true =>
      simp only [Allowed] at allowed
      simp only [State.step, State.handle_event, if_true]
      by_cases commands : device_event = COMMANDQ
      · rw [if_pos commands] at allowed ⊢
        exact kept.rounds allowed
      · rw [if_neg commands]
        split_ifs
        · exact same _ rfl rfl rfl rfl rfl
        all_goals exact kept

theorem kept (reached : (machine protocol driver).Reaches (Allowed protocol driver) state) :
    Kept state :=
  reached.invariant (fun _ first => first ▸ ⟨rfl, .nil, by simp, by simp [State.keys], by simp⟩)
    fun _ _ _ kept allowed moved => by
      cases moved
      exact kept.step allowed

def alone (protocol : Protocol Ioctl) (driver : Driver Ioctl Device Session)
    (state : State Device Session) (requests : List Chain) : State Device Session :=
  requests.foldl (fun state chain => state.process_rounds protocol driver [[chain]]) state

theorem process_rounds_one (requests : List Chain) :
    state.process_rounds protocol driver [requests] =
      (state.process_commandq_queue protocol driver requests).1 := by
  unfold State.process_rounds
  rcases state.process_commandq_queue protocol driver requests with ⟨after, ok⟩
  cases ok <;> rfl

theorem queue_one {device : Device} (ready : state.mem = true) (held : state.device = some device)
    (requests : List Chain) :
    (state.process_commandq_queue protocol driver requests).1 =
      (State.process_commandq_requests protocol driver
        {state with taken := state.taken ++ requests} device requests).1 := by
  unfold State.process_commandq_queue
  rw [if_pos ready]
  by_cases empty : requests = []
  · simp [empty, State.process_commandq_requests]
  · simp only [empty, if_false, held]

/-- A batch whose requests can be answered does what its requests do alone. -/
theorem batch_alone {device : Device} (ready : state.mem = true)
    (held : state.device = some device) (requests : List Chain)
    (turn : Core.InTurn protocol driver (Core.Answerable protocol driver) (state.core device)
      requests) :
    state.process_rounds protocol driver [requests] = alone protocol driver state requests := by
  rw [process_rounds_one, queue_one ready held]
  induction requests generalizing state device with
  | nil => simp [alone, State.process_commandq_requests]
  | cons chain rest ih =>
    obtain ⟨answerable, turn⟩ := turn
    have answered := (Core.answered_iff chain).mpr answerable
    rcases step : (state.core device).request protocol driver chain with ⟨core, result⟩
    rw [step] at answered turn
    cases result with
    | none => cases answered
    | some answer =>
      -- the state in which the first request has been answered
      let after := (State.withCore {state with taken := state.taken ++ [chain]} core).addUsed
        chain answer
      have first : state.process_rounds protocol driver [[chain]] = after := by
        rw [process_rounds_one, queue_one ready held]
        unfold State.process_commandq_requests
        have same : State.core {state with taken := state.taken ++ [chain]} device =
          state.core device := rfl
        rw [same, step]
        rfl
      have more := @ih after core.device ready rfl turn
      rw [alone, List.foldl_cons, first]
      refine Eq.trans ?_ more
      have same : State.core {state with taken := state.taken ++ chain :: rest} device =
        state.core device := rfl
      simp only [State.process_commandq_requests, same, step]
      have joined : ({after with taken := after.taken ++ rest} : State Device Session) =
          (State.withCore {state with taken := state.taken ++ chain :: rest} core).addUsed
            chain answer := by
        simp [after, State.withCore, State.addUsed]
      rw [joined]

/-- While requests can be answered and the device is made before it is used, chains are used once
and in order, each answered as if alone, and sessions are as opened; a chain is left out exactly
when a request of it cannot be answered. -/
theorem commands_served
    (reached : (machine protocol driver).Reaches (Allowed protocol driver) state) :
    state.taken = state.used.map Prod.fst ∧
      (∀ found, (state.handle_event protocol driver COMMANDQ true found).Settled ↔
        state.Served protocol driver (Core.Answerable protocol driver) (state.rounds found)) ∧
      (∀ requests, Allowed protocol driver state (.handle_event COMMANDQ true [requests]) →
        requests ≠ [] →
        state.handle_event protocol driver COMMANDQ true [requests] =
          alone protocol driver state requests) ∧
      state.keys.Nodup ∧
      (∀ session_id, session_id ∈ state.keys ↔
        Note.opened session_id ∈ state.notes ∧ Note.closed session_id ∉ state.notes) ∧
      ∀ found, state.device.isSome →
        Allowed protocol driver state (.handle_event EVENTQ true found) →
        state.handle_event protocol driver EVENTQ true found = state := by
  obtain ⟨settled, tidy⟩ := kept reached
  refine ⟨settled, fun found => State.rounds_settled settled _, fun requests allowed some => ?_,
    tidy.once, tidy.opens, fun found made allowed => ?_⟩
  · have one : state.rounds [requests] = [requests] := by simp [State.rounds]
    simp only [Allowed, if_true, one] at allowed
    simp only [State.handle_event, if_true, one]
    cases ready : state.mem with
    | false =>
      have stopped : ∀ requests, state.process_rounds protocol driver [requests] = state := by
        intro requests
        simp [process_rounds_one, State.process_commandq_queue, ready]
      have still : ∀ requests, alone protocol driver state requests = state := by
        intro requests
        induction requests with
        | nil => rfl
        | cons chain rest ih => rw [alone, List.foldl_cons, stopped]; exact ih
      rw [stopped, still]
    | true =>
      obtain ⟨device, held, turn⟩ := (allowed.answerable ready).1.resolve_left some
      exact batch_alone ready held requests turn
  · simp only [Allowed, EVENTQ, COMMANDQ] at allowed
    simp only [State.handle_event, EVENTQ, COMMANDQ]
    have other : ¬(1 : UInt16) = 0 := by decide
    simp only [other, if_false, if_true] at allowed ⊢
    rcases allowed with none | same
    · rw [none] at made
      cases made
    · split
      · rw [← same]
      · rfl

/-- Commands and responses as fields of four bytes. -/
def sampleProtocol : Protocol UInt32 :=
  let word (bytes : List UInt8) : Option (UInt32 × List UInt8) :=
    match bytes with
    | a :: b :: c :: d :: rest =>
      some (a.toUInt32 + b.toUInt32 * 256 + c.toUInt32 * 65536 + d.toUInt32 * 16777216, rest)
    | _ => none
  let two (bytes : List UInt8) : Option ((UInt32 × UInt32) × List UInt8) :=
    (word bytes).bind fun (one, rest) => (word rest).map fun (two, rest) => ((one, two), rest)
  let bytes (value : Nat) : List UInt8 :=
    [value, value / 256, value / 65536, value / 16777216].map fun part => UInt8.ofNat (part % 256)
  { VIRTIO_MEDIA_CMD_OPEN := 1
    VIRTIO_MEDIA_CMD_CLOSE := 2
    VIRTIO_MEDIA_CMD_IOCTL := 3
    VIRTIO_MEDIA_CMD_MMAP := 4
    VIRTIO_MEDIA_CMD_MUNMAP := 5
    readHeader := fun input => (two input).map fun (cmd, rest) => (cmd.1, rest)
    readClose := fun input => (two input).map fun (cmd, rest) => (cmd.1, rest)
    readIoctl := two
    readMmap := fun input => (two input).bind fun (cmd, rest) =>
      (word rest).map fun (offset, rest) => ((cmd.1, cmd.2, offset), rest)
    readMunmap := fun input => (two input).map fun (cmd, rest) =>
      (cmd.1.toUInt64 + cmd.2.toUInt64 * 4294967296, rest)
    openResp := fun session_id => bytes 0 ++ bytes 0 ++ bytes session_id.toNat ++ bytes 0
    mmapResp := fun addr size => bytes 0 ++ bytes 0 ++ bytes (addr.toNat % 4294967296) ++
      bytes (addr.toNat / 4294967296) ++ bytes (size.toNat % 4294967296) ++
      bytes (size.toNat / 4294967296)
    munmapResp := bytes 0 ++ bytes 0
    errResp := fun e => bytes e.toNatClampNeg ++ bytes 0
    ioctl := some}

def sampleDriver : Driver UInt32 Nat Unit where
  create_device := 0
  new_session _ device := (device, .ok ())
  close_session _ device := device
  do_ioctl _ device session _ room :=
    (if 8 ≤ room then some (List.replicate 8 0) else none, device + 1, session)
  do_mmap _ _ device session := (.error EINVAL, device, session)
  do_munmap _ device := (.error EINVAL, device)

def sampleChain (head_index : UInt16) (words : List UInt8) : Chain :=
  ⟨head_index, some (words.flatMap fun word => [word, 0, 0, 0]), some 16⟩

def setup : List Event :=
  [.update_memory, .set_backend_req_fd, .handle_event EVENTQ true []]

def sampleRun (events : List Event) : State Nat Unit :=
  ((machine sampleProtocol sampleDriver).run {} events).getD {}

def wholeRequests : List Event :=
  [.handle_event COMMANDQ true [[sampleChain 0 [1, 0], sampleChain 1 [1, 0]]],
    .handle_event COMMANDQ true [[sampleChain 0 [2, 0, 0, 0]]]]

theorem commands_served_two :
    let state := ((machine sampleProtocol sampleDriver).runAllowed
      (Allowed sampleProtocol sampleDriver) {} (setup ++ wholeRequests)).getD {}
    state.keys = [1] ∧ state.taken.length = 3 ∧ state.taken = state.used.map Prod.fst := by
  have reached : (machine sampleProtocol sampleDriver).Reaches (Allowed sampleProtocol sampleDriver)
      (((machine sampleProtocol sampleDriver).runAllowed (Allowed sampleProtocol sampleDriver) {}
        (setup ++ wholeRequests)).getD {}) :=
    Transition.Machine.Reaches.getD_runAllowed _ (.start rfl) (by decide +kernel)
  exact ⟨by decide +kernel, by decide +kernel, (commands_served reached).1⟩

def shortRequest : List Event :=
  [.handle_event COMMANDQ true [[⟨0, some [1], some 16⟩, sampleChain 1 [1, 0]]]]

def eventBuffers : List Event :=
  [.handle_event COMMANDQ true [[sampleChain 0 [1, 0], sampleChain 1 [3, 0, 0, 7]]],
    .handle_event EVENTQ true []]

/-- Both chains are lost, and the device forgets what was done with it. -/
theorem requests_lost :
    (∃ state, (machine sampleProtocol sampleDriver).Reachable state ∧
      state.taken.length = 2 ∧ state.used = []) ∧
    ∃ state, (machine sampleProtocol sampleDriver).Reachable state ∧ state.device = some 1 ∧
      (state.handle_event sampleProtocol sampleDriver EVENTQ true []).device = some 0 := by
  refine ⟨⟨sampleRun (setup ++ shortRequest), ?_, by decide +kernel, by decide +kernel⟩,
    sampleRun (setup ++ eventBuffers.take 1), ?_, by decide +kernel, by decide +kernel⟩
  · exact Transition.Machine.Reachable.getD_run _ (.start rfl) (by decide +kernel)
  · exact Transition.Machine.Reachable.getD_run _ (.start rfl) (by decide +kernel)

end Ika.VhuMedia
