import Mathlib.Data.List.TakeDrop
import Mathlib.Data.List.TakeWhile
import Ika.Foundation.Machine

/-!
The monitor of the modem's clients: how what they send is split into commands, the loops over the
clients, and the pipe that wakes the monitor.

The modem is taken as what it makes of a command: whether it waits for a message afterwards.
-/

set_option autoImplicit false

namespace Ika.Modem

open Transition List Function Option Nat

/-- `'\032'`, which ends a message. -/
def ctrlZ : Char := Char.ofNat 26

def terminator (waiting : Bool) : Char := if waiting then ctrlZ else '\r'

/-- `absl::StrReplaceAll` of `'\n'` by `'\r'`. -/
def replace (char : Char) : Char := if char = '\n' then '\r' else char

section Split

-- The commands after which the modem waits for a message.
variable (asks : List Char → Bool)

/-- The loop of `ReadCommand`: the commands, what is left, and whether the modem waits. -/
def splitCommands : Nat → Bool → List Char → List (List Char) × List Char × Bool
  | 0, waiting, commands => ([], commands, waiting)
  | bound + 1, waiting, commands =>
    match commands.span (· ≠ terminator waiting) with
    | (incomplete, []) => ([], incomplete, waiting)
    | (command, _ :: rest) =>
      -- Nothing is dispatched, and the modem waits on if it was waiting.
      if command = [] then splitCommands bound waiting rest
      else
        (splitCommands bound (!waiting && asks command) rest).map (command :: ·) id

/-- What a stream comes to, character by character. -/
structure Scan where
  incomplete : List Char := []
  waiting : Bool := false
  commands : List (List Char) := []

def Scan.next (scan : Scan) (char : Char) : Scan :=
  if replace char = terminator scan.waiting then
    if scan.incomplete = [] then scan
    else
      { waiting := !scan.waiting && asks scan.incomplete
        commands := scan.commands ++ [scan.incomplete]}
  else {scan with incomplete := scan.incomplete ++ [replace char]}

def splitStream (stream : List Char) : Scan := stream.foldl (Scan.next asks) {}

variable {asks}

@[simp] theorem replace_replace (char : Char) : replace (replace char) = replace char := by
  unfold replace
  split
  · decide
  · rfl

/-- What is incomplete holds no character that would have ended it. -/
def Scan.Open (scan : Scan) : Prop :=
  ∀ char ∈ scan.incomplete, replace char = char ∧ char ≠ terminator scan.waiting

theorem Scan.Open.next {scan : Scan} (isOpen : scan.Open) (char : Char) :
    (scan.next asks char).Open := by
  unfold Scan.next
  split_ifs with ends empty
  · exact isOpen
  · intro other held
    cases held
  · intro other held
    rcases mem_append.mp held with held | held
    · exact isOpen other held
    · obtain rfl := mem_singleton.mp held
      exact ⟨replace_replace char, ends⟩

theorem Scan.Open.foldl {scan : Scan} (isOpen : scan.Open) (data : List Char) :
    (data.foldl (Scan.next asks) scan).Open := by
  induction data generalizing scan with
  | nil => exact isOpen
  | cons char rest ih => exact ih (isOpen.next char)

variable (scan : Scan)

theorem Scan.foldl_open (text : List Char)
    (kept : ∀ char ∈ text, replace char = char ∧ char ≠ terminator scan.waiting) :
    text.foldl (Scan.next asks) scan = {scan with incomplete := scan.incomplete ++ text} := by
  induction text generalizing scan with
  | nil => simp
  | cons char rest ih =>
    obtain ⟨same, other⟩ := kept char (mem_cons_self ..)
    have stays : scan.next asks char = {scan with incomplete := scan.incomplete ++ [char]} := by
      rw [Scan.next, same, if_neg other]
    rw [foldl_cons, stays, ih {scan with incomplete := scan.incomplete ++ [char]}
      fun char held => kept char (mem_cons_of_mem _ held)]
    simp

theorem Scan.foldl_map_replace (data : List Char) :
    (data.map replace).foldl (Scan.next asks) scan = data.foldl (Scan.next asks) scan := by
  have same (scan : Scan) (char : Char) : scan.next asks (replace char) = scan.next asks char := by
    simp only [Scan.next, replace_replace]
  rw [foldl_map]
  simp only [same]

variable (asks) in
theorem Scan.foldl_commands (scan : Scan) (before : List (List Char)) (data : List Char) :
    data.foldl (Scan.next asks) {scan with commands := before ++ scan.commands} =
      { data.foldl (Scan.next asks) scan with
        commands := before ++ (data.foldl (Scan.next asks) scan).commands} := by
  induction data generalizing scan with
  | nil => rfl
  | cons char rest ih =>
    rw [foldl_cons, foldl_cons, ← ih]
    congr 1
    unfold Scan.next
    split_ifs <;> simp

theorem splitCommands_eq (bound : Nat) (waiting : Bool) (text : List Char)
    (fits : text.length < bound) (replaced : ∀ char ∈ text, replace char = char) :
    splitCommands asks bound waiting text =
      let scan := text.foldl (Scan.next asks) {waiting}
      (scan.commands, scan.incomplete, scan.waiting) := by
  induction bound generalizing waiting text with
  | zero => omega
  | succ bound ih =>
    have whole := takeWhile_append_dropWhile (p := (· ≠ terminator waiting)) (l := text)
    have before : ∀ char ∈ text.takeWhile (· ≠ terminator waiting),
        replace char = char ∧ char ≠ terminator waiting := fun char held =>
      ⟨replaced char (takeWhile_subset _ held),
        by simpa using mem_takeWhile_imp held⟩
    rw [splitCommands, span_eq_takeWhile_dropWhile]
    generalize text.takeWhile (· ≠ terminator waiting) = command at whole before
    cases after : text.dropWhile (· ≠ terminator waiting) with
    | nil =>
      -- No terminator is left.
      rw [after, append_nil] at whole
      subst whole
      rw [Scan.foldl_open _ _ before]
      rfl
    | cons ends rest =>
      -- A command up to the terminator, and the loop goes on behind it.
      have last : ends = terminator waiting := by
        have some : text.dropWhile (· ≠ terminator waiting) ≠ [] := by
          rw [after]
          exact cons_ne_nil _ _
        have head := head_dropWhile_not _ some
        simp only [after, head_cons] at head
        simpa using head
      rw [after] at whole
      subst whole last
      have shorter : rest.length < bound := by
        simp only [length_append, length_cons] at fits
        omega
      have others : ∀ char ∈ rest, replace char = char := fun char held =>
        replaced char (by simp [held])
      have ends := replaced (terminator waiting) (by simp)
      rw [foldl_append, Scan.foldl_open {waiting} command before, foldl_cons]
      simp only [Scan.next, ends, nil_append, if_true]
      by_cases empty : command = []
      · simp only [empty, if_true]
        exact ih waiting rest shorter others
      · simp only [if_neg empty, ih _ rest shorter others]
        have := Scan.foldl_commands asks {waiting := !waiting && asks command}
          [command] rest
        simp_all

variable (asks) in
theorem splitCommands_waiting (bound : Nat) (waiting : Bool) (text : List Char)
    (none : (splitCommands asks bound waiting text).1 = []) :
    (splitCommands asks bound waiting text).2.2 = waiting := by
  fun_induction splitCommands asks bound waiting text with
  | case1 => rfl
  | case2 => rfl
  | case3 _ _ _ _ _ _ ih => exact ih none
  | case4 => cases none

variable (asks) in
theorem splitCommands_stream (stream data : List Char) :
    ∃ dispatched, (splitStream asks (stream ++ data)).commands =
        (splitStream asks stream).commands ++ dispatched ∧
      splitCommands asks (((splitStream asks stream).incomplete ++ data.map replace).length + 1)
        (splitStream asks stream).waiting
        ((splitStream asks stream).incomplete ++ data.map replace) =
          (dispatched, (splitStream asks (stream ++ data)).incomplete,
            (splitStream asks (stream ++ data)).waiting) := by
  have isOpen : (splitStream asks stream).Open :=
    Scan.Open.foldl (by intro _ held; cases held) stream
  have appended : splitStream asks (stream ++ data) =
      data.foldl (Scan.next asks) (splitStream asks stream) := foldl_append
  rw [appended]
  generalize splitStream asks stream = scan at isOpen
  -- What was incomplete is read again, and leads to where it stood.
  have resumed : ((scan.incomplete ++ data.map replace).foldl (Scan.next asks)
      {waiting := scan.waiting}) = data.foldl (Scan.next asks) {scan with commands := []} := by
    rw [foldl_append, Scan.foldl_open {waiting := scan.waiting} _ isOpen,
      Scan.foldl_map_replace]
    rfl
  have before := Scan.foldl_commands asks {scan with commands := []} scan.commands data
  simp only [append_nil] at before
  refine ⟨_, congrArg Scan.commands before, ?_⟩
  rw [splitCommands_eq _ _ _ (lt_succ_self _), resumed, before]
  intro char held
  rcases mem_append.mp held with held | held
  · exact (isOpen char held).1
  · obtain ⟨read, -, rfl⟩ := List.mem_map.mp held
    exact replace_replace read

end Split

structure Client where
  id : Nat
  incomplete_command : List Char := []
  is_valid : Bool := true

/-- Where the loop over a vector of clients is, with what `select` found for each. -/
structure Cursor where
  remote : Bool
  index : Nat
  stop : Nat
  reads : Nat → Option (List Char)
  /-- The clients whose turn is still to come. -/
  pending : List Nat

/-- What a client's read returns; a closed descriptor fails. -/
def Cursor.read (cursor : Cursor) (client : Client) : Option (List Char) :=
  (cursor.reads client.id).map fun data => if client.is_valid then data else []

structure ChannelMonitor where
  clients : Bool → List Client := fun _ => []
  next_id_ : Nat := 0
  cursor : Option Cursor := none
  /-- Of whose command the modem waits for the message, if it waits. -/
  waitingFor : Option Nat := none
  pipe : List Char := []
  destroyed : Bool := false
  exited : Bool := false
  received : Nat → List Char := fun _ => []
  dispatched : List (Nat × List Char) := []
  /-- A client was read that was not there any more. -/
  corrupted : Bool := false
  /-- A client was not read when its turn was. -/
  skipped : Bool := false

namespace ChannelMonitor

variable (asks : List Char → Bool) (monitor : ChannelMonitor)

def dispatch (client : Client) (data : List Char) : ChannelMonitor × Client :=
  let commands := client.incomplete_command ++ data.map replace
  let (dispatched, incomplete_command, waiting) :=
    splitCommands asks (commands.length + 1) monitor.waitingFor.isSome commands
  ({monitor with
      dispatched := monitor.dispatched ++ dispatched.map (client.id, ·)
      waitingFor :=
        if waiting then if dispatched = [] then monitor.waitingFor else some client.id else none
      received := update monitor.received client.id (monitor.received client.id ++ data)},
    {client with incomplete_command})

/-- A client that has ended is erased, any other has its commands dispatched. -/
def ReadCommand (remote : Bool) (client : Client) (data : List Char) : ChannelMonitor :=
  let clients (after : List Client) := update monitor.clients remote after
  if data = [] then
    {monitor with clients := clients ((monitor.clients remote).eraseP (·.id = client.id))}
  else
    let (monitor, after) := monitor.dispatch asks client data
    {monitor with
      clients := clients ((monitor.clients remote).map fun other =>
        if other.id = client.id then after else other)}

def startLoop (remote : Bool) (reads : Nat → Option (List Char)) : ChannelMonitor :=
  let ids := (monitor.clients remote).map Client.id
  let cursor : Cursor :=
    { remote, reads, index := 0, stop := ids.length
      pending := ids.filter fun id => (reads id).isSome}
  {monitor with cursor := some cursor}

def select (reads : Nat → Option (List Char)) : ChannelMonitor :=
  monitor.startLoop false fun id =>
    if (monitor.clients false ++ monitor.clients true).any fun client =>
      client.is_valid && client.id = id then reads id else none

/-- One step of the loops over the clients. -/
def loop (cursor : Cursor) : ChannelMonitor :=
  let advanced := {cursor with index := cursor.index + 1}
  if cursor.index = cursor.stop then
    let monitor := {monitor with
      cursor := none, skipped := monitor.skipped || cursor.pending ≠ []}
    if cursor.remote then monitor else monitor.startLoop true cursor.reads
  else
    match (monitor.clients cursor.remote)[cursor.index]? with
    | none => {monitor with cursor := none, corrupted := true}
    | some client =>
      match cursor.read client with
      | none => {monitor with cursor := some advanced}
      | some data =>
        { monitor.ReadCommand asks cursor.remote client data with
          cursor := some {advanced with pending := cursor.pending.erase client.id}}

def wake : ChannelMonitor := {monitor with pipe := monitor.pipe ++ ['O', 'K', Char.ofNat 0]}

def AcceptIncomingConnection : ChannelMonitor :=
  {monitor with
    clients := update monitor.clients false
      (monitor.clients false ++ [{id := monitor.next_id_}])
    next_id_ := monitor.next_id_ + 1}

/-- A client is added to `remote_clients_`, whose end a loop over it holds. -/
def push (client : Client) : ChannelMonitor :=
  {monitor with
    clients := update monitor.clients true (monitor.clients true ++ [client])
    corrupted := monitor.corrupted || monitor.cursor.any Cursor.remote}

def SetRemoteClient (initial : Option (List Char)) : ChannelMonitor :=
  let client : Client := {id := monitor.next_id_}
  let monitor := {monitor with next_id_ := monitor.next_id_ + 1}
  match initial with
  | none => (monitor.push client).wake
  | some [] => monitor.wake
  | some data =>
    let (monitor, client) := monitor.dispatch asks client data
    (monitor.push client).wake

def CloseRemoteConnection (id : Nat) : ChannelMonitor :=
  if id ∈ (monitor.clients true).map Client.id then
    let remote_clients := (monitor.clients true).map fun client =>
      {client with is_valid := client.is_valid && client.id ≠ id}
    {monitor with clients := update monitor.clients true remote_clients}.wake
  else monitor

/-- Two bytes are read, or the one there is, over two blanks. -/
def readPipe : ChannelMonitor :=
  let buf := (monitor.pipe.take 2 ++ [' ', ' ']).take 2
  let monitor := {monitor with pipe := monitor.pipe.drop 2}
  if buf = ['K', 'O'] then {monitor with exited := true}
  else {monitor with clients := fun remote => (monitor.clients remote).filter Client.is_valid}

def destroy : ChannelMonitor :=
  {monitor with pipe := monitor.pipe ++ ['K', 'O', Char.ofNat 0], destroyed := true}

end ChannelMonitor

inductive MonitorEvent where
  | AcceptIncomingConnection
  | SetRemoteClient (initial : Option (List Char))
  | CloseRemoteConnection (id : Nat)
  | destroy
  | readPipe
  | select (reads : Nat → Option (List Char))
  | loop

namespace ChannelMonitor

/-- The other threads come in between the steps of the monitor's own. -/
def step (asks : List Char → Bool) (monitor : ChannelMonitor) :
    MonitorEvent → Option ChannelMonitor
  | .SetRemoteClient initial => some (monitor.SetRemoteClient asks initial)
  | .CloseRemoteConnection id => some (monitor.CloseRemoteConnection id)
  | .destroy => if monitor.destroyed then none else some monitor.destroy
  | event =>
    if monitor.exited then none
    else
      match monitor.cursor, event with
      | some cursor, .loop => some (monitor.loop asks cursor)
      | none, .AcceptIncomingConnection => some monitor.AcceptIncomingConnection
      | none, .readPipe => if monitor.pipe = [] then none else some monitor.readPipe
      | none, .select reads => some (monitor.select reads)
      | _, _ => none

def machine (asks : List Char → Bool) : Machine ChannelMonitor MonitorEvent where
  init monitor := monitor = {}
  step := step asks

def exits : List Char → Bool
  | first :: second :: rest => [first, second] = ['K', 'O'] || exits rest
  | _ => false

/-- Each client has the commands of its own stream dispatched, and the thread can exit. -/
structure Served (asks : List Char → Bool) (monitor : ChannelMonitor) : Prop where
  split : ∀ id, (monitor.dispatched.filter (·.1 = id)).map Prod.snd =
    (splitStream asks (monitor.received id)).commands
  corrupted : monitor.corrupted = false
  skipped : monitor.skipped = false
  exiting : monitor.destroyed = true → monitor.exited = true ∨ exits monitor.pipe = true

/-- The read that the loop comes to. -/
def turn (monitor : ChannelMonitor) : Option (Cursor × Client × List Char) := do
  let cursor ← monitor.cursor
  let client ← (monitor.clients cursor.remote)[cursor.index]?
  let data ← cursor.read client
  some (cursor, client, data)

/-- No client is read while the modem waits for another, only the last is erased, none comes within
the loop, and the pipe is even. -/
def Allowed (monitor : ChannelMonitor) : MonitorEvent → Prop
  | .loop => ∀ turn ∈ monitor.turn,
    (turn.2.2 = [] → turn.1.index + 1 = turn.1.stop) ∧
      (turn.2.2 ≠ [] → ∀ id ∈ monitor.waitingFor, id = turn.2.1.id)
  | .SetRemoteClient initial =>
    (initial ≠ some [] → monitor.cursor.any Cursor.remote = false) ∧
      ∀ data ∈ initial, data ≠ [] → monitor.waitingFor = none
  | .destroy => monitor.pipe.length % 2 = 0
  | _ => True

instance (monitor : ChannelMonitor) : (event : MonitorEvent) → Decidable (monitor.Allowed event)
  | .loop => inferInstanceAs (Decidable (∀ turn ∈ monitor.turn, _))
  | .SetRemoteClient _ => inferInstanceAs (Decidable (_ ∧ _))
  | .destroy => inferInstanceAs (Decidable (_ = _))
  | .AcceptIncomingConnection | .CloseRemoteConnection _ | .readPipe | .select _ => isTrue trivial

variable {asks : List Char → Bool} {monitor : ChannelMonitor}

/-! ## Streams -/

structure Splits (asks : List Char → Bool) (monitor : ChannelMonitor) : Prop where
  fresh : ∀ id, monitor.next_id_ ≤ id → monitor.received id = []
  waits : ∀ id, (splitStream asks (monitor.received id)).waiting = true ↔
    monitor.waitingFor = some id
  split : ∀ id, (monitor.dispatched.filter (·.1 = id)).map Prod.snd =
    (splitStream asks (monitor.received id)).commands

def Holds (asks : List Char → Bool) (monitor : ChannelMonitor) (client : Client) : Prop :=
  client.incomplete_command = (splitStream asks (monitor.received client.id)).incomplete

structure Listed (asks : List Char → Bool) (monitor : ChannelMonitor) : Prop where
  below : ∀ remote, ∀ client ∈ monitor.clients remote, client.id < monitor.next_id_
  apart : ∀ remote other, ∀ client ∈ monitor.clients remote, ∀ second ∈ monitor.clients other,
    client.id = second.id → remote = other
  held : ∀ remote, ∀ client ∈ monitor.clients remote, monitor.Holds asks client

variable {after : ChannelMonitor} {cursor : Cursor} {pipe : List Char} (client : Client)
  (data : List Char)

@[simp] theorem dispatch_clients :
    (monitor.dispatch asks client data).1.clients = monitor.clients := rfl

@[simp] theorem dispatch_next_id_ :
    (monitor.dispatch asks client data).1.next_id_ = monitor.next_id_ := rfl

@[simp] theorem dispatch_id : (monitor.dispatch asks client data).2.id = client.id := rfl

theorem dispatch_received {id : Nat} (other : id ≠ client.id) :
    (monitor.dispatch asks client data).1.received id = monitor.received id :=
  update_of_ne other ..

theorem Splits.dispatch_eq (splits : monitor.Splits asks) {client : Client} (data : List Char)
    (held : monitor.Holds asks client) (own : ∀ id, monitor.waitingFor = some id → id = client.id) :
    ∃ dispatched, (splitStream asks (monitor.received client.id ++ data)).commands =
        (splitStream asks (monitor.received client.id)).commands ++ dispatched ∧
      monitor.dispatch asks client data =
        ({monitor with
            dispatched := monitor.dispatched ++ dispatched.map (client.id, ·)
            waitingFor := if (splitStream asks (monitor.received client.id ++ data)).waiting then
              some client.id else none
            received := update monitor.received client.id
              (monitor.received client.id ++ data)},
          {client with incomplete_command :=
              (splitStream asks (monitor.received client.id ++ data)).incomplete}) := by
  have flag : monitor.waitingFor.isSome =
      (splitStream asks (monitor.received client.id)).waiting := by
    rw [Bool.eq_iff_iff, splits.waits client.id, isSome_iff_exists]
    constructor
    · rintro ⟨id, waits⟩
      rw [waits, own id waits]
    · exact fun waits => ⟨_, waits⟩
  obtain ⟨dispatched, commands, split⟩ :=
    splitCommands_stream asks (monitor.received client.id) data
  refine ⟨dispatched, commands, ?_⟩
  have owner : (if (splitStream asks (monitor.received client.id ++ data)).waiting then
      if dispatched = [] then monitor.waitingFor else some client.id else none) =
      if (splitStream asks (monitor.received client.id ++ data)).waiting then
        some client.id else none := by
    split_ifs with waiting empty
    · -- With nothing dispatched the modem waits as before, for this client.
      have unchanged := splitCommands_waiting asks _ _ _
        ((congrArg Prod.fst split).trans empty)
      rw [split, waiting] at unchanged
      exact (splits.waits client.id).mp unchanged.symm
    · rfl
    · rfl
  rw [dispatch, held, flag, split]
  simp only [owner]

theorem Splits.dispatch (splits : monitor.Splits asks) {client : Client} (data : List Char)
    (known : client.id < monitor.next_id_) (held : monitor.Holds asks client)
    (own : ∀ id, monitor.waitingFor = some id → id = client.id) :
    (monitor.dispatch asks client data).1.Splits asks ∧
      (monitor.dispatch asks client data).1.Holds asks (monitor.dispatch asks client data).2 := by
  obtain ⟨dispatched, commands, equal⟩ := splits.dispatch_eq data held own
  rw [equal]
  refine ⟨⟨fun id new => ?_, fun id => ?_, fun id => ?_⟩, ?_⟩
  · have other : id ≠ client.id := by
      have : monitor.next_id_ ≤ id := new
      omega
    exact (update_of_ne other ..).trans (splits.fresh id new)
  · by_cases same : id = client.id
    · subst same
      simp
    · have now : (splitStream asks (monitor.received id)).waiting = false :=
        Bool.eq_false_iff.mpr fun waiting => same (own id ((splits.waits id).mp waiting))
      simp [update_of_ne same, now, Ne.symm same]
  · by_cases same : id = client.id
    · subst same
      simp [commands, splits.split, List.filter_map, comp_def]
    · simp [update_of_ne same, splits.split, List.filter_map, comp_def,
        Ne.symm same]
  · simp [Holds]

section

variable (listed : monitor.Listed asks)
include listed

theorem Listed.of_ids (next_id_ : after.next_id_ = monitor.next_id_)
    (ids : ∀ remote, ∀ client ∈ after.clients remote, ∃ before ∈ monitor.clients remote,
      before.id = client.id)
    (held : ∀ remote, ∀ client ∈ after.clients remote, after.Holds asks client) :
    after.Listed asks := by
  refine ⟨fun remote client listed' => ?_, fun remote other client held second held' same => ?_,
    held⟩
  · obtain ⟨before, held, id⟩ := ids remote client listed'
    rw [next_id_, ← id]
    exact listed.below remote before held
  · obtain ⟨before, held, id⟩ := ids remote client held
    obtain ⟨before', held', id'⟩ := ids other second held'
    exact listed.apart remote other before held before' held' (by rw [id, id', same])

theorem Listed.of_sub
    (next_id_ : after.next_id_ = monitor.next_id_) (received : after.received = monitor.received)
    (sub : ∀ remote, ∀ client ∈ after.clients remote, ∃ before ∈ monitor.clients remote,
      before.id = client.id ∧ before.incomplete_command = client.incomplete_command) :
    after.Listed asks := by
  refine listed.of_ids next_id_ (fun remote client held => ?_) fun remote client held => ?_
  · obtain ⟨before, held, id, -⟩ := sub remote client held
    exact ⟨before, held, id⟩
  · obtain ⟨before, held, id, incomplete⟩ := sub remote client held
    have holds := listed.held remote before held
    rwa [Holds, id, incomplete, ← received] at holds

theorem Listed.push (remote : Bool) {client : Client}
    (known : client.id < monitor.next_id_) (holds : monitor.Holds asks client)
    (new : ∀ other, ∀ listed ∈ monitor.clients other, listed.id ≠ client.id)
    (next_id_ : after.next_id_ = monitor.next_id_) (received : after.received = monitor.received)
    (clients : after.clients =
      update monitor.clients remote (monitor.clients remote ++ [client])) :
    after.Listed asks := by
  have cases : ∀ other, ∀ listed ∈ after.clients other,
      listed ∈ monitor.clients other ∨ other = remote ∧ listed = client := by
    intro other listed held
    rw [clients] at held
    by_cases same : other = remote
    · subst same
      simpa using held
    · rw [update_of_ne same] at held
      exact .inl held
  refine ⟨fun other first held => ?_, fun other third first held second held' same => ?_,
    fun other first held => ?_⟩
  · rw [next_id_]
    rcases cases other first held with held | ⟨-, rfl⟩
    · exact listed.below other first held
    · exact known
  · rcases cases other first held with held | ⟨rfl, rfl⟩ <;>
      rcases cases third second held' with held' | ⟨rfl, rfl⟩
    · exact listed.apart other third first held second held' same
    · exact absurd same (new _ _ held)
    · exact absurd same.symm (new _ _ held')
    · rfl
  · rw [Holds, received]
    rcases cases other first held with held | ⟨-, rfl⟩
    · exact listed.held other first held
    · exact holds

theorem Listed.ReadCommand (splits : monitor.Splits asks)
    {remote : Bool} {client : Client} (data : List Char) (member : client ∈ monitor.clients remote)
    (own : data ≠ [] → ∀ id, monitor.waitingFor = some id → id = client.id) :
    (monitor.ReadCommand asks remote client data).Listed asks ∧
      (monitor.ReadCommand asks remote client data).Splits asks := by
  unfold ChannelMonitor.ReadCommand
  split_ifs with ended
  · -- At the end of its stream the client is erased.
    refine ⟨listed.of_sub rfl rfl fun other second held => ?_,
      splits.fresh, splits.waits, splits.split⟩
    refine ⟨second, ?_, rfl, rfl⟩
    by_cases same : other = remote
    · subst same
      simp only [update_self] at held
      exact mem_of_mem_eraseP held
    · simpa only [update_of_ne same] using held
  · obtain ⟨splits, holds⟩ := splits.dispatch data (listed.below _ _ member)
      (listed.held _ _ member) (own ended)
    refine ⟨?_, splits.fresh, splits.waits, splits.split⟩
    have cases : ∀ other, ∀ second ∈ update monitor.clients remote
        ((monitor.clients remote).map fun other =>
          if other.id = client.id then (monitor.dispatch asks client data).2 else other) other,
        second ∈ monitor.clients other ∧ second.id ≠ client.id ∨
          other = remote ∧ second = (monitor.dispatch asks client data).2 := by
      intro other second held
      by_cases same : other = remote
      · subst same
        simp only [update_self, List.mem_map] at held
        obtain ⟨before, held, rfl⟩ := held
        split_ifs with its
        · exact .inr ⟨rfl, rfl⟩
        · exact .inl ⟨held, its⟩
      · rw [update_of_ne same] at held
        exact .inl ⟨held, fun its => same (listed.apart _ _ _ held _ member its)⟩
    refine listed.of_ids rfl (fun other second held => ?_) fun other second held => ?_
    · rcases cases other second held with ⟨held, -⟩ | ⟨rfl, rfl⟩
      · exact ⟨second, held, rfl⟩
      · exact ⟨client, member, rfl⟩
    · rcases cases other second held with ⟨held, its⟩ | ⟨-, rfl⟩
      · exact (listed.held other second held).trans
          (by rw [← dispatch_received client data its])
      · exact holds

end

/-! ## Steps -/

theorem step_cases {event : MonitorEvent} :
    step asks monitor event = some after →
    match event with
    | .AcceptIncomingConnection =>
      monitor.cursor = none ∧ after = monitor.AcceptIncomingConnection
    | .SetRemoteClient initial => after = monitor.SetRemoteClient asks initial
    | .CloseRemoteConnection id => after = monitor.CloseRemoteConnection id
    | .destroy => after = monitor.destroy
    | .readPipe => monitor.cursor = none ∧ monitor.pipe ≠ [] ∧ after = monitor.readPipe
    | .select reads => monitor.cursor = none ∧ after = monitor.select reads
    | .loop => ∃ cursor, monitor.cursor = some cursor ∧ after = monitor.loop asks cursor := by
  intro moved
  cases event with
  | SetRemoteClient initial => exact (Option.some.inj moved).symm
  | CloseRemoteConnection id => exact (Option.some.inj moved).symm
  | destroy =>
    simp only [step] at moved
    split_ifs at moved
    exact (Option.some.inj moved).symm
  | loop =>
    simp only [step] at moved
    cases some : monitor.cursor <;> simp only [some] at moved <;> split_ifs at moved
    exact ⟨_, rfl, (Option.some.inj moved).symm⟩
  | AcceptIncomingConnection =>
    simp only [step] at moved
    cases some : monitor.cursor <;> simp only [some] at moved <;> split_ifs at moved
    exact ⟨rfl, (Option.some.inj moved).symm⟩
  | readPipe =>
    simp only [step] at moved
    cases some : monitor.cursor <;> simp only [some] at moved <;> split_ifs at moved
    exact ⟨rfl, ‹_›, (Option.some.inj moved).symm⟩
  | select reads =>
    simp only [step] at moved
    cases some : monitor.cursor <;> simp only [some] at moved <;> split_ifs at moved
    exact ⟨rfl, (Option.some.inj moved).symm⟩

structure Streams (asks : List Char → Bool) (monitor : ChannelMonitor) : Prop where
  listed : monitor.Listed asks
  splits : monitor.Splits asks

theorem Streams.loop (streams : monitor.Streams asks) (cursor : Cursor)
    (own : ∀ client data, (monitor.clients cursor.remote)[cursor.index]? = some client →
      cursor.read client = some data → data ≠ [] →
        ∀ id, monitor.waitingFor = some id → id = client.id) :
    (monitor.loop asks cursor).Streams asks := by
  obtain ⟨⟨below, apart, held⟩, ⟨fresh, waits, split⟩⟩ := id streams
  unfold ChannelMonitor.loop
  split_ifs
  · exact ⟨⟨below, apart, held⟩, ⟨fresh, waits, split⟩⟩
  · exact ⟨⟨below, apart, held⟩, ⟨fresh, waits, split⟩⟩
  · split
    · exact ⟨⟨below, apart, held⟩, ⟨fresh, waits, split⟩⟩
    · rename_i client found
      split
      · exact ⟨⟨below, apart, held⟩, ⟨fresh, waits, split⟩⟩
      · rename_i data read
        obtain ⟨⟨below, apart, held⟩, ⟨fresh, waits, split⟩⟩ :=
          streams.listed.ReadCommand streams.splits data (mem_of_getElem? found)
            (own client data found read)
        exact ⟨⟨below, apart, held⟩, ⟨fresh, waits, split⟩⟩

theorem Streams.reserve (streams : monitor.Streams asks) :
    {monitor with next_id_ := monitor.next_id_ + 1}.Streams asks ∧
      {monitor with next_id_ := monitor.next_id_ + 1}.Holds asks {id := monitor.next_id_} ∧
        ∀ remote, ∀ client ∈ monitor.clients remote, client.id ≠ monitor.next_id_ := by
  obtain ⟨⟨below, apart, held⟩, ⟨fresh, waits, split⟩⟩ := streams
  refine ⟨⟨⟨fun remote client member => lt_succ_of_lt (below remote client member),
    apart, held⟩, ⟨fun id new => fresh id (le_of_succ_le new), waits, split⟩⟩, ?_,
    fun remote client member => Nat.ne_of_lt (below remote client member)⟩
  rw [Holds, fresh monitor.next_id_ (Nat.le_refl _)]
  rfl

theorem Listed.dispatch (listed : monitor.Listed asks) {client : Client} (data : List Char)
    (new : ∀ remote, ∀ other ∈ monitor.clients remote, other.id ≠ client.id) :
    (monitor.dispatch asks client data).1.Listed asks := by
  refine listed.of_ids rfl (fun remote other member => ⟨other, member, rfl⟩)
    fun remote other member => ?_
  rw [Holds, dispatch_received client data (new remote other member)]
  exact listed.held remote other member

theorem Streams.SetRemoteClient (streams : monitor.Streams asks) (initial : Option (List Char))
    (idle : ∀ data, initial = some data → data ≠ [] → monitor.waitingFor = none) :
    (monitor.SetRemoteClient asks initial).Streams asks := by
  obtain ⟨⟨listed, splits⟩, holds, new⟩ := streams.reserve
  unfold ChannelMonitor.SetRemoteClient
  split
  · exact ⟨listed.push true (lt_succ_self _) holds new rfl rfl rfl,
      splits.fresh, splits.waits, splits.split⟩
  · exact ⟨⟨listed.below, listed.apart, listed.held⟩, splits.fresh, splits.waits, splits.split⟩
  · rename_i data other
    have quiet := idle data rfl other
    obtain ⟨splits, holds⟩ := splits.dispatch data (lt_succ_self monitor.next_id_) holds
      (by simp [quiet])
    exact ⟨(listed.dispatch data new).push true (lt_succ_self _) holds new rfl rfl rfl,
      splits.fresh, splits.waits, splits.split⟩

theorem streams_kept (reached : (machine asks).Reaches Allowed monitor) : monitor.Streams asks := by
  refine reached.invariant ?_ ?_
  · rintro _ rfl
    exact ⟨⟨fun _ _ held => (by cases held), fun _ _ _ held => (by cases held),
      fun _ _ held => (by cases held)⟩,
      ⟨fun _ _ => rfl, fun _ => by simp [splitStream], fun _ => rfl⟩⟩
  · intro monitor event after streams granted moved
    have after_eq := step_cases moved
    obtain ⟨⟨below, apart, held⟩, ⟨fresh, waits, split⟩⟩ := id streams
    cases event with
    | AcceptIncomingConnection =>
      obtain ⟨-, rfl⟩ := after_eq
      obtain ⟨⟨listed, splits⟩, holds, new⟩ := streams.reserve
      exact ⟨listed.push false (lt_succ_self _) holds new rfl rfl rfl,
        splits.fresh, splits.waits, splits.split⟩
    | SetRemoteClient initial =>
      subst after_eq
      exact streams.SetRemoteClient initial granted.2
    | CloseRemoteConnection id =>
      subst after_eq
      unfold CloseRemoteConnection
      split_ifs
      · refine ⟨streams.listed.of_sub rfl rfl fun remote client member => ?_, fresh, waits, split⟩
        cases remote with
        | false => exact ⟨client, member, rfl, rfl⟩
        | true =>
          obtain ⟨before, listed, rfl⟩ := List.mem_map.mp member
          exact ⟨before, listed, rfl, rfl⟩
      · exact streams
    | destroy =>
      subst after_eq
      exact ⟨⟨below, apart, held⟩, ⟨fresh, waits, split⟩⟩
    | readPipe =>
      obtain ⟨-, -, rfl⟩ := after_eq
      simp only [readPipe]
      split_ifs
      · exact ⟨⟨below, apart, held⟩, ⟨fresh, waits, split⟩⟩
      · refine ⟨streams.listed.of_sub rfl rfl fun remote client member => ?_, fresh, waits, split⟩
        exact ⟨client, (mem_filter.mp member).1, rfl, rfl⟩
    | select reads =>
      obtain ⟨-, rfl⟩ := after_eq
      exact ⟨⟨below, apart, held⟩, ⟨fresh, waits, split⟩⟩
    | loop =>
      obtain ⟨cursor, some, rfl⟩ := after_eq
      exact streams.loop cursor fun client data found read =>
        (granted (cursor, client, data) (by simp [turn, some, found, read])).2

/-! ## Turns -/

/-- The clients from the index on that have something to read are those still to come. -/
structure Fits (cursor : Cursor) (ids : List Nat) : Prop where
  index : cursor.index ≤ cursor.stop
  stop : ids.length ≤ cursor.stop
  whole : cursor.index < cursor.stop → ids.length = cursor.stop
  pending : cursor.pending = (ids.drop cursor.index).filter fun id => (cursor.reads id).isSome

def ids (monitor : ChannelMonitor) (remote : Bool) : List Nat :=
  (monitor.clients remote).map Client.id

structure Turns (monitor : ChannelMonitor) : Prop where
  fits : ∀ cursor, monitor.cursor = some cursor → Fits cursor (monitor.ids cursor.remote)
  corrupted : monitor.corrupted = false
  skipped : monitor.skipped = false

theorem Fits.pending_nil {ids : List Nat} (fits : Fits cursor ids)
    (done : cursor.index = cursor.stop) : cursor.pending = [] := by
  rw [fits.pending, done, drop_eq_nil_of_le fits.stop, filter_nil]

theorem startLoop_turns (corrupted : monitor.corrupted = false) (skipped : monitor.skipped = false)
    (remote : Bool) (reads : Nat → Option (List Char)) :
    (monitor.startLoop remote reads).Turns := by
  refine ⟨fun cursor some => ?_, corrupted, skipped⟩
  cases some
  exact ⟨Nat.zero_le _, Nat.le_refl _, fun _ => rfl, rfl⟩

variable (asks monitor) in
theorem ReadCommand_ids (remote : Bool) (client : Client) (data : List Char) :
    (data ≠ [] → (monitor.ReadCommand asks remote client data).ids remote = monitor.ids remote) ∧
      ((monitor.ReadCommand asks remote client data).ids remote).length ≤
        (monitor.ids remote).length := by
  unfold ReadCommand ids
  split_ifs with ended
  · refine ⟨fun more => absurd ended more, ?_⟩
    simp only [update_self, length_map]
    exact length_eraseP_le
  · have same : ((monitor.clients remote).map fun other =>
        if other.id = client.id then (monitor.dispatch asks client data).2 else other).map
          Client.id = (monitor.clients remote).map Client.id := by
      rw [List.map_map]
      refine map_congr_left fun other _ => ?_
      by_cases its : other.id = client.id
      · simp [its]
      · simp [its]
    simp only [update_self, dispatch_clients, same]
    exact ⟨fun _ => trivial, Nat.le_refl _⟩

variable (asks monitor) in
theorem ReadCommand_flags (remote : Bool) (client : Client) (data : List Char) :
    (monitor.ReadCommand asks remote client data).corrupted = monitor.corrupted ∧
      (monitor.ReadCommand asks remote client data).skipped = monitor.skipped := by
  unfold ReadCommand
  split_ifs
  · exact ⟨rfl, rfl⟩
  · exact ⟨rfl, rfl⟩

theorem Turns.loop (turns : monitor.Turns) (some : monitor.cursor = some cursor)
    (last : ∀ client, (monitor.clients cursor.remote)[cursor.index]? = .some client →
      cursor.read client = .some [] → cursor.index + 1 = cursor.stop) :
    (monitor.loop asks cursor).Turns := by
  have fits := turns.fits cursor some
  unfold ChannelMonitor.loop
  split_ifs with done
  · refine ⟨fun _ none => (some_ne_none _ none.symm).elim, turns.corrupted, ?_⟩
    simp [turns.skipped, fits.pending_nil done]
  · dsimp only
    refine startLoop_turns ?_ ?_ ..
    · exact turns.corrupted
    · simp [turns.skipped, fits.pending_nil done]
  · have before : cursor.index < cursor.stop := Nat.lt_of_le_of_ne fits.index done
    have length : (monitor.clients cursor.remote).length = cursor.stop := by
      rw [← fits.whole before, ids, length_map]
    split
    · -- The index is in the vector, which is as long as when the loop began.
      rename_i none
      rw [List.getElem?_eq_none_iff] at none
      omega
    · rename_i client found
      have drop : (monitor.ids cursor.remote).drop cursor.index =
          client.id :: (monitor.ids cursor.remote).drop (cursor.index + 1) := by
        have id : (monitor.ids cursor.remote)[cursor.index]? = .some client.id := by
          rw [ids, getElem?_map, found]
          rfl
        obtain ⟨inside, id⟩ := List.getElem?_eq_some_iff.mp id
        rw [drop_eq_getElem_cons inside, id]
      split
      · rename_i none
        have reads : cursor.reads client.id = .none := by
          simpa [Cursor.read] using none
        have rest : cursor.pending = ((monitor.ids cursor.remote).drop (cursor.index + 1)).filter
            fun id => (cursor.reads id).isSome := by
          simp [fits.pending, drop, reads]
        refine ⟨fun advanced same => ?_, turns.corrupted, turns.skipped⟩
        cases same
        exact ⟨before, fits.stop, fun _ => fits.whole before, rest⟩
      · rename_i data read
        have reads : (cursor.reads client.id).isSome := by
          rw [Cursor.read, map_eq_some_iff] at read
          obtain ⟨data, reads, -⟩ := read
          rw [reads]
          rfl
        have rest : cursor.pending.erase client.id =
            ((monitor.ids cursor.remote).drop (cursor.index + 1)).filter
              fun id => (cursor.reads id).isSome := by
          simp [fits.pending, drop, reads]
        obtain ⟨same, fewer⟩ := ReadCommand_ids asks monitor cursor.remote client data
        have corrupted := (ReadCommand_flags asks monitor cursor.remote client data).1
        have skipped := (ReadCommand_flags asks monitor cursor.remote client data).2
        refine ⟨fun advanced its => ?_, corrupted.trans turns.corrupted,
          skipped.trans turns.skipped⟩
        cases its
        by_cases ended : data = []
        · -- The client that goes is the last one, and none moves into its place.
          have final : cursor.index + 1 = cursor.stop := last client found (ended ▸ read)
          have nothing : cursor.pending.erase client.id = [] := by
            rw [rest, final, drop_eq_nil_of_le fits.stop, filter_nil]
          refine ⟨before, fewer.trans fits.stop, fun more => absurd final (Nat.ne_of_lt more), ?_⟩
          have empty : ((monitor.ReadCommand asks cursor.remote client data).ids
              cursor.remote).drop (cursor.index + 1) = [] :=
            drop_eq_nil_of_le (final ▸ fewer.trans fits.stop)
          exact nothing.trans (congrArg (List.filter _) empty).symm
        · refine ⟨before, fewer.trans fits.stop,
            fun _ => (congrArg List.length (same ended)).trans (fits.whole before), ?_⟩
          exact rest.trans (by rw [← same ended]; rfl)

theorem Turns.of_ids (turns : monitor.Turns) (cursor : after.cursor = monitor.cursor)
    (ids : ∀ cursor, monitor.cursor = some cursor →
      after.ids cursor.remote = monitor.ids cursor.remote) (corrupted : after.corrupted = false)
    (skipped : after.skipped = monitor.skipped) : after.Turns := by
  refine ⟨fun current some => ?_, corrupted, skipped.trans turns.skipped⟩
  rw [cursor] at some
  rw [ids current some]
  exact turns.fits current some

theorem Turns.push (turns : monitor.Turns) (client : Client)
    (away : monitor.cursor.any Cursor.remote = false) : (monitor.push client).Turns := by
  refine turns.of_ids rfl (fun cursor some => ?_) ?_ rfl
  · have remote : cursor.remote = false := by simpa [some] using away
    rw [remote]
    rfl
  · simp [ChannelMonitor.push, turns.corrupted, away]

theorem Turns.SetRemoteClient (turns : monitor.Turns) (initial : Option (List Char))
    (away : initial ≠ some [] → monitor.cursor.any Cursor.remote = false) :
    (monitor.SetRemoteClient asks initial).Turns := by
  have wake {monitor : ChannelMonitor} (turns : monitor.Turns) : monitor.wake.Turns :=
    turns.of_ids rfl (fun _ _ => rfl) turns.corrupted rfl
  have reserved : {monitor with next_id_ := monitor.next_id_ + 1}.Turns :=
    turns.of_ids rfl (fun _ _ => rfl) turns.corrupted rfl
  unfold ChannelMonitor.SetRemoteClient
  split
  · exact wake (reserved.push _ (away (by simp)))
  · exact wake reserved
  · rename_i data other
    have dispatched : (dispatch asks
        {monitor with next_id_ := monitor.next_id_ + 1}
        {id := monitor.next_id_} data).1.Turns :=
      reserved.of_ids rfl (fun _ _ => rfl) reserved.corrupted rfl
    exact wake (dispatched.push _ (away (by simpa using other)))

theorem turns_kept (reached : (machine asks).Reaches Allowed monitor) : monitor.Turns := by
  have idle {monitor : ChannelMonitor} (none : monitor.cursor = none)
      (corrupted : monitor.corrupted = false) (skipped : monitor.skipped = false) :
      monitor.Turns :=
    ⟨fun _ some => (some_ne_none _ (some.symm.trans none)).elim, corrupted, skipped⟩
  refine reached.invariant ?_ ?_
  · rintro _ rfl
    exact idle rfl rfl rfl
  · intro monitor event after turns granted moved
    have after_eq := step_cases moved
    cases event with
    | AcceptIncomingConnection =>
      obtain ⟨none, rfl⟩ := after_eq
      exact idle none turns.corrupted turns.skipped
    | SetRemoteClient initial =>
      subst after_eq
      exact turns.SetRemoteClient initial granted.1
    | CloseRemoteConnection id =>
      subst after_eq
      unfold CloseRemoteConnection
      split_ifs
      · refine turns.of_ids rfl (fun cursor _ => ?_) turns.corrupted rfl
        cases side : cursor.remote with
        | false => rfl
        | true => simp [ids, wake, comp_def]
      · exact turns
    | destroy =>
      subst after_eq
      exact turns.of_ids rfl (fun _ _ => rfl) turns.corrupted rfl
    | readPipe =>
      obtain ⟨none, -, rfl⟩ := after_eq
      simp only [readPipe]
      split_ifs
      · exact idle none turns.corrupted turns.skipped
      · exact idle none turns.corrupted turns.skipped
    | select reads =>
      obtain ⟨-, rfl⟩ := after_eq
      exact startLoop_turns turns.corrupted turns.skipped ..
    | loop =>
      obtain ⟨cursor, some, rfl⟩ := after_eq
      exact turns.loop some fun client found read =>
        (granted (cursor, client, []) (by simp [turn, some, found, read])).1 rfl

/-! ## The request to exit -/

theorem exits_append (more : List Char) (exiting : exits pipe = true) :
    exits (pipe ++ more) = true := by
  fun_induction exits pipe with
  | case1 first second rest ih =>
    simp only [Bool.or_eq_true, cons_append, exits] at exiting ⊢
    exact exiting.imp_right ih
  | case2 => cases exiting

theorem exits_even (even : pipe.length % 2 = 0) (rest : List Char) :
    exits (pipe ++ 'K' :: 'O' :: rest) = true := by
  fun_induction exits pipe with
  | case1 first second pipe ih =>
    simp only [length_cons] at even
    simp [exits, ih (by omega)]
  | case2 pipe short =>
    cases pipe with
    | nil => simp [exits]
    | cons first pipe =>
      cases pipe with
      | nil => cases even
      | cons second pipe => exact absurd rfl (short first second pipe)

def Exiting (monitor : ChannelMonitor) : Prop :=
  monitor.destroyed = true → monitor.exited = true ∨ exits monitor.pipe = true

theorem Exiting.grow (exiting : monitor.Exiting) (more : List Char)
    (destroyed : after.destroyed = monitor.destroyed) (exited : after.exited = monitor.exited)
    (pipe : after.pipe = monitor.pipe ++ more) : after.Exiting := by
  unfold Exiting
  rw [destroyed, exited, pipe]
  exact fun gone => (exiting gone).imp_right (exits_append more)

variable (asks monitor) in
theorem loop_pipe (cursor : Cursor) :
    (monitor.loop asks cursor).pipe = monitor.pipe ∧
      (monitor.loop asks cursor).destroyed = monitor.destroyed ∧
        (monitor.loop asks cursor).exited = monitor.exited := by
  unfold loop ReadCommand
  split_ifs
  · exact ⟨rfl, rfl, rfl⟩
  · exact ⟨rfl, rfl, rfl⟩
  · split
    · exact ⟨rfl, rfl, rfl⟩
    · split
      · exact ⟨rfl, rfl, rfl⟩
      · split_ifs <;> exact ⟨rfl, rfl, rfl⟩

variable (asks monitor) in
theorem SetRemoteClient_pipe (initial : Option (List Char)) :
    (monitor.SetRemoteClient asks initial).pipe = monitor.pipe ++ ['O', 'K', Char.ofNat 0] ∧
      (monitor.SetRemoteClient asks initial).destroyed = monitor.destroyed ∧
        (monitor.SetRemoteClient asks initial).exited = monitor.exited := by
  unfold SetRemoteClient
  split <;> exact ⟨rfl, rfl, rfl⟩

theorem Exiting.readPipe (exiting : monitor.Exiting) (some : monitor.pipe ≠ []) :
    monitor.readPipe.Exiting := by
  intro gone
  simp only [ChannelMonitor.readPipe] at gone ⊢
  split_ifs at gone ⊢ with request
  · exact .inl rfl
  · refine (exiting gone).imp_right fun exits => ?_
    cases pipe : monitor.pipe with
    | nil => exact absurd pipe some
    | cons first rest =>
      cases rest with
      | nil => simp [pipe, ChannelMonitor.exits] at exits
      | cons second rest =>
        simp only [pipe, List.take, cons_append] at request
        simpa [pipe, ChannelMonitor.exits, request] using exits

theorem exiting_kept (reached : (machine asks).Reaches Allowed monitor) : monitor.Exiting := by
  refine reached.invariant ?_ ?_
  · rintro _ rfl destroyed
    cases destroyed
  · intro monitor event after exiting granted moved
    have after_eq := step_cases moved
    cases event with
    | AcceptIncomingConnection =>
      obtain ⟨-, rfl⟩ := after_eq
      exact exiting
    | SetRemoteClient initial =>
      subst after_eq
      obtain ⟨pipe, destroyed, exited⟩ := SetRemoteClient_pipe asks monitor initial
      exact exiting.grow _ destroyed exited pipe
    | CloseRemoteConnection id =>
      subst after_eq
      unfold CloseRemoteConnection
      split_ifs
      · exact exiting.grow _ rfl rfl rfl
      · exact exiting
    | destroy =>
      subst after_eq
      exact fun _ => .inr (exits_even granted _)
    | readPipe =>
      obtain ⟨-, some, rfl⟩ := after_eq
      exact exiting.readPipe some
    | select reads =>
      obtain ⟨-, rfl⟩ := after_eq
      exact exiting
    | loop =>
      obtain ⟨cursor, -, rfl⟩ := after_eq
      obtain ⟨pipe, destroyed, exited⟩ := loop_pipe asks monitor cursor
      exact exiting.grow [] destroyed exited (by rw [pipe, append_nil])

end ChannelMonitor

/-- The commands dispatched for a client are those of its own stream while the modem waits for no
other client when it is read. -/
theorem commands_split_by_client (asks : List Char → Bool) {monitor : ChannelMonitor}
    (reached : (ChannelMonitor.machine asks).Reaches ChannelMonitor.Allowed monitor) :
    monitor.Served asks :=
  ⟨(ChannelMonitor.streams_kept reached).splits.split,
    (ChannelMonitor.turns_kept reached).corrupted, (ChannelMonitor.turns_kept reached).skipped,
    ChannelMonitor.exiting_kept reached⟩

/-- `AT+CMGS`, with the length of the message. -/
def asksForMessage (command : List Char) : Bool :=
  command.take 7 = ['A', 'T', '+', 'C', 'M', 'G', 'S']

def servedClients : List MonitorEvent :=
  [.AcceptIncomingConnection, .AcceptIncomingConnection,
    .select fun id => if id = 0 then some ['A', 'T', '+', 'C', 'M', 'G', 'S', '=', '1', '\r', 'x']
      else none,
    .loop, .loop, .loop, .loop,
    .select fun id => if id = 0 then some ['\n', ctrlZ, 'A'] else if id = 1 then some [] else none,
    .loop, .loop, .loop, .loop, .destroy]

theorem commands_split_by_client_served :
    ∃ monitor, ChannelMonitor.Served asksForMessage monitor ∧ monitor.destroyed = true ∧
      monitor.dispatched = [(0, ['A', 'T', '+', 'C', 'M', 'G', 'S', '=', '1']), (0, ['x', '\r'])] := by
  have reached : (ChannelMonitor.machine asksForMessage).Reaches ChannelMonitor.Allowed
      (((ChannelMonitor.machine asksForMessage).runAllowed ChannelMonitor.Allowed {}
        servedClients).getD {}) :=
    .getD_runAllowed _ (.start rfl) (by decide)
  exact ⟨_, commands_split_by_client asksForMessage reached, by decide, by decide⟩

/-- A client goes that owes a message, and what the other sends is no longer read. -/
def crossedClients : List MonitorEvent :=
  [.AcceptIncomingConnection, .AcceptIncomingConnection,
    .select fun id => some (if id = 0 then ['A', 'T', '+', 'C', 'M', 'G', 'S', '=', '1', '\r']
      else ['A', 'T', '\r']),
    .loop, .loop, .loop, .loop,
    .select fun id => some (if id = 0 then [] else ['A']),
    .loop, .loop, .SetRemoteClient none, .destroy]

theorem commands_crossed :
    ∃ monitor, (ChannelMonitor.machine asksForMessage).Reachable monitor ∧
      (splitStream asksForMessage (monitor.received 1)).commands = [['A', 'T']] ∧
        (monitor.dispatched.filter (·.1 = 1)).map Prod.snd = [] ∧ monitor.corrupted = true ∧
          monitor.destroyed = true ∧ monitor.exited = false ∧
            ChannelMonitor.exits monitor.pipe = false := by
  have reached : (ChannelMonitor.machine asksForMessage).Reachable
      (((ChannelMonitor.machine asksForMessage).run {} crossedClients).getD {}) :=
    .getD_run _ (.start rfl) (by decide)
  exact ⟨_, reached, by decide, by decide, by decide, by decide, by decide, by decide⟩

end Ika.Modem
