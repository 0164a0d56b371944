import Ika.Cvd.Tasks
import Ika.Foundation.Machine

/-!
Processes that use the backing file of the instance database at the same time.

Each operation opens the file, locks it, reads and parses it, runs its task and, where the task
changed the data, truncates the file and writes it.
-/

set_option autoImplicit false

namespace Ika.Cvd

inductive Lock where
  | shared
  | exclusive
deriving DecidableEq

/-- Both `WithSharedLock` and `WithExclusiveLock` ask for a shared lock. -/
def Access.lock : Access → Lock
  | shared _ => .shared
  | exclusive _ => .shared

def Operation.lock (operation : Operation) : Lock :=
  match operation.access with
  | .ok access => access.lock
  | .error _ => .shared

def Operation.writes (operation : Operation) : Bool :=
  match operation.access with
  | .ok (.exclusive _) => true
  | _ => false

inductive Phase where
  | idle
  | opened (operation : Operation)
  | locked (operation : Operation)
  | loaded (operation : Operation) (data : PersistentData)
  | edited (operation : Operation) (answer : Answer) (changed : PersistentData)
  | truncated (operation : Operation) (answer : Answer) (changed : PersistentData)
  | closing (operation : Operation) (result : Result Answer)
  | gone

/-- The operation that holds the lock in this phase. -/
def Phase.holding : Phase → Option Operation
  | locked operation => some operation
  | loaded operation _ => some operation
  | edited operation _ _ => some operation
  | truncated operation _ _ => some operation
  | closing operation _ => some operation
  | _ => none

def Operation.apply (operation : Operation) (data : PersistentData) : Phase :=
  match operation.access with
  | .error failure => .closing operation (.error failure)
  | .ok (.shared task) => .closing operation (task data)
  | .ok (.exclusive task) =>
    match task data with
    | .error failure => .closing operation (.error failure)
    | .ok (answer, changed) => .edited operation answer changed

/-- A failed check aborts the process. -/
def afterwards : Result Answer → Phase
  | .error (.check _) => .gone
  | _ => .idle

section Machine

variable {Process : Type} [DecidableEq Process]

structure Entry (Process : Type) where
  process : Process
  operation : Operation
  result : Result Answer
deriving DecidableEq

structure Shared (Process : Type) where
  file : List UInt8
  holders : List (Process × Lock)
  phase : Process → Phase
  log : List (Entry Process)

inductive Action where
  | call (operation : Operation)
  | advance

def Shared.move (state : Shared Process) (process : Process) (phase : Phase) : Shared Process :=
  {state with phase := Function.update state.phase process phase}

/-- Shared locks may be held together, an exclusive one excludes all others. -/
def granted (lock : Lock) (holders : List (Process × Lock)) : Bool :=
  match lock with
  | .shared => holders.all (·.2 = .shared)
  | .exclusive => holders.isEmpty

def step (format : Format) (state : Shared Process) (event : Process × Action) :
    Option (Shared Process) :=
  match event.2, state.phase event.1 with
  | .call operation, .idle =>
    match operation.access with
    | .error failure =>
      some {state with log := state.log ++ [⟨event.1, operation, .error failure⟩]}
    | .ok _ => some (state.move event.1 (.opened operation))
  | .advance, .opened operation =>
    if granted operation.lock state.holders then
      some { state.move event.1 (.locked operation) with
        holders := (event.1, operation.lock) :: state.holders}
    else none
  | .advance, .locked operation =>
    match format.parseFromString state.file with
    | none => some (state.move event.1 (.closing operation (.error parseFailure)))
    | some data => some (state.move event.1 (.loaded operation data))
  | .advance, .loaded operation data => some (state.move event.1 (operation.apply data))
  | .advance, .edited operation answer changed =>
    some {state.move event.1 (.truncated operation answer changed) with file := []}
  | .advance, .truncated operation answer changed =>
    match format.serializeToString changed with
    | none => some (state.move event.1 (.closing operation (.error serializeFailure)))
    | some stored =>
      -- the file offset is zero, and others may have written meanwhile
      some { state.move event.1 (.closing operation (.ok answer)) with
        file := stored ++ state.file.drop stored.length}
  | .advance, .closing operation result =>
    some { state.move event.1 (afterwards result) with
      holders := state.holders.filter (·.1 ≠ event.1)
      log := state.log ++ [⟨event.1, operation, result⟩]}
  | _, _ => none

/-- Processes that start to use a file together. -/
def dataViewer (format : Format) (Process : Type) [DecidableEq Process] (initial : List UInt8) :
    Transition.Machine (Shared Process) (Process × Action) where
  init state := state = ⟨initial, [], fun _ => .idle, []⟩
  step := step format

/-- A lock is only got where an exclusive lock of the writers would have allowed it. -/
def excluding (state : Shared Process) (event : Process × Action) : Prop :=
  match event.2, state.phase event.1 with
  | .advance, .opened operation =>
    ∀ holder ∈ state.holders, operation.writes = false ∧
      ∀ other ∈ (state.phase holder.1).holding, other.writes = false
  | _, _ => True

instance (state : Shared Process) (event : Process × Action) :
    Decidable (excluding state event) := by
  unfold excluding
  split <;> infer_instance

def serial (format : Format) (file : List UInt8) :
    List Operation → List (Result Answer) × List UInt8
  | [] => ([], file)
  | operation :: rest =>
    ((operation.run format file).1 :: (serial format (operation.run format file).2 rest).1,
      (serial format (operation.run format file).2 rest).2)

theorem serial_append (format : Format) (file : List UInt8) (first second : List Operation) :
    serial format file (first ++ second) =
      ((serial format file first).1 ++ (serial format (serial format file first).2 second).1,
        (serial format (serial format file first).2 second).2) := by
  induction first generalizing file with
  | nil => rfl
  | cons operation rest ih => simp [serial, ih]

def Shared.AtRest (state : Shared Process) : Prop :=
  ∀ process, (state.phase process).holding = none

def Shared.Serialisable (format : Format) (initial : List UInt8) (state : Shared Process) : Prop :=
  ∃ order : List (Entry Process), order.Perm state.log ∧
    (serial format initial (order.map Entry.operation)).1 = order.map Entry.result ∧
      (state.AtRest → state.file = (serial format initial (order.map Entry.operation)).2)

def Entry.Keeps (name : String) (entry : Entry Process) : Prop :=
  entry.operation.Keeps name ∧ entry.result ≠ .error serializeFailure

/-- Every group that was added is in the file at rest, unless it was taken away since. -/
def Shared.NoneLost (format : Format) (state : Shared Process) : Prop :=
  ∀ before process group added after,
    state.log = before ++ ⟨process, .addInstanceGroup group, .ok (.group added)⟩ :: after →
      (∀ entry ∈ after, entry.Keeps added.groupName) → state.AtRest →
        Stores format state.file added.proto

/-- No two groups of one name, home directory or id are added, unless the first was taken away. -/
def Shared.NoneTwice (state : Shared Process) : Prop :=
  ∀ before process group added between other second latter after,
    state.log = before ++ ⟨process, .addInstanceGroup group, .ok (.group added)⟩ ::
      (between ++ ⟨other, .addInstanceGroup second, .ok (.group latter)⟩ :: after) →
      (∀ entry ∈ between, entry.Keeps added.groupName) →
        added.groupName ≠ latter.groupName ∧
          added.proto.homeDirectory ≠ latter.proto.homeDirectory ∧
            ∀ first ∈ added.proto.instances, ∀ second ∈ latter.proto.instances,
              first.id ≠ second.id

end Machine

end Ika.Cvd
