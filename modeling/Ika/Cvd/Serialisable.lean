import Ika.Cvd.DataViewer
import Ika.Cvd.WireFormat

/-! Operations whose locks exclude each other have the effect of running one after another,
in the order in which they return.

The file is always the one the finished operations leave behind, except for what the one
writer that holds the lock has done to it already.
-/

set_option autoImplicit false

namespace Ika.Cvd

open List Function

variable {operation : Operation} {file : List UInt8} {answer : Answer} {changed : PersistentData}
  {phase : Phase} {format : Format} (result : Result Answer)

theorem Operation.run_of_parseFailure {access : Access} (known : operation.access = .ok access)
    (parsed : format.parseFromString file = none) :
    operation.run format file = (.error parseFailure, file) := by
  simp [run, known, parsed]

theorem Operation.run_file (reads : operation.writes = false) (format : Format)
    (file : List UInt8) :
    (operation.run format file).2 = file := by
  unfold run
  split
  · rfl
  · rename_i access known
    split
    · rfl
    · cases access with
      | shared task => rfl
      | exclusive task => simp [writes, known] at reads

structure Edits (format : Format) (settled : List UInt8) (operation : Operation) (answer : Answer)
    (changed : PersistentData) : Prop where
  edit : ∃ task data, operation.access = .ok (.exclusive task) ∧
    format.parseFromString settled = some data ∧ task data = .ok (answer, changed)

theorem Edits.writes {settled : List UInt8} (edits : Edits format settled operation answer changed) :
    operation.writes = true := by
  obtain ⟨task, data, known, _⟩ := edits.edit
  simp [Operation.writes, known]

theorem Edits.run_of_none {settled : List UInt8} (edits : Edits format settled operation answer changed)
    (refused : format.serializeToString changed = none) :
    operation.run format settled = (.error serializeFailure, []) := by
  obtain ⟨task, data, known, parsed, done⟩ := edits.edit
  simp [Operation.run, known, parsed, done, refused]

theorem Edits.run_of_some {settled stored : List UInt8}
    (edits : Edits format settled operation answer changed)
    (written : format.serializeToString changed = some stored) :
    operation.run format settled = (.ok answer, stored) := by
  obtain ⟨task, data, known, parsed, done⟩ := edits.edit
  simp [Operation.run, known, parsed, done, written]

/-- What a process in this phase has seen of the file and done to it. -/
def Agrees (format : Format) (settled file : List UInt8) : Phase → Prop
  | .opened operation => ∃ access, operation.access = .ok access
  | .locked operation => (∃ access, operation.access = .ok access) ∧ file = settled
  | .loaded operation data => (∃ access, operation.access = .ok access) ∧ file = settled ∧
    format.parseFromString settled = some data
  | .edited operation answer changed => Edits format settled operation answer changed ∧ file = settled
  | .truncated operation answer changed => Edits format settled operation answer changed ∧ file = []
  | .closing operation result => operation.run format settled = (result, file)
  | _ => True

theorem Agrees.unheld {settled settled' file' : List UInt8} (agrees : Agrees format settled file phase)
    (free : phase.holding = none) : Agrees format settled' file' phase := by
  cases phase with
  | opened operation => exact agrees
  | idle => trivial
  | gone => trivial
  | _ => cases free

theorem Agrees.file_of_reader {settled : List UInt8} (agrees : Agrees format settled file phase)
    (held : phase.holding = some operation) (reads : operation.writes = false) :
    file = settled := by
  cases phase with
  | locked operation => exact agrees.2
  | loaded operation data => exact agrees.2.1
  | edited operation answer changed => exact agrees.2
  | truncated other answer changed =>
    cases held
    rw [agrees.1.writes] at reads
    cases reads
  | closing other result =>
    cases held
    have same := Operation.run_file reads format settled
    rw [show operation.run format settled = (result, file) from agrees] at same
    exact same
  | idle => cases held
  | opened operation => cases held
  | gone => cases held

theorem Agrees.apply {settled : List UInt8} {data : PersistentData}
    (agrees : Agrees format settled file (.loaded operation data)) :
    Agrees format settled file (operation.apply data) := by
  obtain ⟨⟨access, known⟩, rfl, parsed⟩ := agrees
  unfold Operation.apply
  rw [known]
  cases access with
  | shared task => simp [Agrees, Operation.run, known, parsed]
  | exclusive task =>
    cases done : task data with
    | error failure => simp [Agrees, Operation.run, known, parsed, done]
    | ok result =>
      simp only [done]
      exact ⟨⟨task, data, known, parsed, done⟩, rfl⟩

theorem Operation.holding_apply (operation : Operation) (data : PersistentData) :
    (operation.apply data).holding = some operation := by
  unfold apply
  split
  · rfl
  · rfl
  · split <;> rfl

theorem holding_afterwards : (afterwards result).holding = none := by
  unfold afterwards
  split <;> rfl

theorem agrees_afterwards {settled : List UInt8} : Agrees format settled file (afterwards result) := by
  unfold afterwards
  split <;> trivial

section Machine

variable {Process : Type}

def operations (log : List (Entry Process)) : List Operation := log.map Entry.operation

def settled (format : Format) (initial : List UInt8) (log : List (Entry Process)) : List UInt8 :=
  (serial format initial (operations log)).2

def Apart (first second : Phase) : Prop :=
  ∀ one ∈ first.holding, ∀ other ∈ second.holding, one.writes = false ∧ other.writes = false

structure Consistent (format : Format) (initial : List UInt8) (state : Shared Process) : Prop where
  results : (serial format initial (operations state.log)).1 = state.log.map Entry.result
  holders : ∀ process, process ∈ state.holders.map Prod.fst ↔
    (state.phase process).holding.isSome
  apart : ∀ process other, process ≠ other → Apart (state.phase process) (state.phase other)
  agrees : ∀ process, Agrees format (settled format initial state.log) state.file (state.phase process)
  unheld : state.AtRest → state.file = settled format initial state.log

theorem settled_append (initial : List UInt8) (log : List (Entry Process)) (entry : Entry Process) :
    settled format initial (log ++ [entry]) =
      (entry.operation.run format (settled format initial log)).2 := by
  simp [settled, operations, serial_append, serial]

variable {state : Shared Process} {process : Process} {after : Shared Process} {phase : Phase}
  {operation : Operation}

variable {initial : List UInt8}

theorem Consistent.results_append (consistent : Consistent format initial state) {entry : Entry Process}
    (same : (entry.operation.run format (settled format initial state.log)).1 = entry.result) :
    (serial format initial (operations (state.log ++ [entry]))).1 =
      (state.log ++ [entry]).map Entry.result := by
  have before := consistent.results
  simp only [operations] at before
  simp only [settled, operations] at same
  simp [operations, serial_append, serial, before, same]

section Log

variable {initial : List UInt8} {log : List (Entry Process)}

theorem length_serial (file : List UInt8) (list : List Operation) :
    (serial format file list).1.length = list.length := by
  induction list generalizing file with
  | nil => rfl
  | cons operation rest ih => simp [serial, ih]

variable {before after : List (Entry Process)}

section

variable (results : (serial format initial (operations log)).1 = log.map Entry.result)
include results

theorem result_of_serial {entry : Entry Process} (split : log = before ++ entry :: after) :
    (entry.operation.run format (settled format initial before)).1 = entry.result := by
  subst split
  simp only [operations, map_append, map_cons, serial_append, serial] at results
  have same : ((serial format initial (before.map Entry.operation)).1).length =
      (before.map Entry.result).length := by
    simp [length_serial]
  exact (List.cons.inj (append_inj results same).2).1

theorem stores_settled {middle : List (Entry Process)} {group : InstanceGroup}
    (split : log = before ++ (middle ++ after))
    (stores : Stores format (settled format initial before) group)
    (keeps : ∀ entry ∈ middle, entry.Keeps group.name) :
    Stores format (settled format initial (before ++ middle)) group := by
  induction middle generalizing before with
  | nil => rwa [append_nil]
  | cons entry rest ih =>
    have ran := result_of_serial results split
    have kept := keeps entry (mem_cons_self ..)
    have next : Stores format (settled format initial (before ++ [entry])) group := by
      rw [settled_append]
      exact kept.1.stores stores (ran ▸ kept.2)
    have others := ih (by simpa using split) next fun other mem =>
      keeps other (mem_cons_of_mem _ mem)
    simpa using others

theorem stores_added {process : Process} {group added : LocalInstanceGroup}
    (split : log = before ++ ⟨process, .addInstanceGroup group, .ok (.group added)⟩ :: after) :
    Stores format
      (settled format initial (before ++ [⟨process, .addInstanceGroup group, .ok (.group added)⟩]))
      added.proto := by
  obtain ⟨data, _, _, stored⟩ := addInstanceGroup_run (result_of_serial results split)
  rw [settled_append]
  exact ⟨_, stored, mem_append_right _ (mem_singleton_self _)⟩

end

end Log

theorem Consistent.noneLost (consistent : Consistent format initial state) : state.NoneLost format := by
  intro before process group added after split keeps rest
  rw [consistent.unheld rest]
  have stored := stores_added consistent.results split
  have log : state.log =
      before ++ [⟨process, .addInstanceGroup group, .ok (.group added)⟩] ++ (after ++ []) := by
    simpa using split
  have kept := stores_settled consistent.results log stored keeps
  rw [split]
  simpa using kept

theorem Consistent.noneTwice (consistent : Consistent format initial state) : state.NoneTwice := by
  intro before process group added between other second latter after split keeps
  have stored := stores_added consistent.results split
  have log : state.log =
      before ++ [⟨process, .addInstanceGroup group, .ok (.group added)⟩] ++
        (between ++ ⟨other, .addInstanceGroup second, .ok (.group latter)⟩ :: after) := by
    simpa using split
  -- the group is there when the second one is checked against the data
  obtain ⟨data, parsed, mem⟩ := stores_settled consistent.results log stored keeps
  rw [← append_assoc] at log
  obtain ⟨data', parsed', fresh, _⟩ :=
    addInstanceGroup_run (result_of_serial consistent.results log)
  rw [parsed] at parsed'
  cases parsed'
  refine ⟨fresh.name _ mem, fresh.home _ mem, ?_⟩
  intro first memFirst latest memLatest
  apply fresh.ids _ mem first memFirst latest memLatest
  intro zero
  have positive := latter.valid.positive latest memLatest
  rw [zero] at positive
  exact absurd positive (by decide)

theorem Shared.Serialisable.stores
    (serialisable : state.Serialisable format initial) (rest : state.AtRest) {process : Process}
    {group added : LocalInstanceGroup}
    (mem : ⟨process, .addInstanceGroup group, .ok (.group added)⟩ ∈ state.log)
    (keeps : ∀ entry ∈ state.log, entry.Keeps added.groupName) :
    Stores format state.file added.proto := by
  obtain ⟨order, perm, results, file⟩ := serialisable
  obtain ⟨before, after, split⟩ := append_of_mem (perm.mem_iff.mpr mem)
  have stored := stores_added results split
  have log : order =
      before ++ [⟨process, .addInstanceGroup group, .ok (.group added)⟩] ++ (after ++ []) := by
    simpa using split
  have kept := stores_settled results log stored fun entry later =>
    keeps entry (perm.mem_iff.mp (by rw [split]; simp [later]))
  rw [file rest]
  change Stores format (settled format initial order) added.proto
  rw [split]
  simpa using kept

variable [DecidableEq Process]

theorem Consistent.move (consistent : Consistent format initial state)
    (process : Process) (phases : after.phase = Function.update state.phase process phase)
    (results : (serial format initial (operations after.log)).1 = after.log.map Entry.result)
    (own : process ∈ after.holders.map Prod.fst ↔ phase.holding.isSome)
    (holders : ∀ other, other ≠ process →
      (other ∈ after.holders.map Prod.fst ↔ other ∈ state.holders.map Prod.fst))
    (apart : ∀ other, other ≠ process → Apart phase (state.phase other))
    (agrees : Agrees format (settled format initial after.log) after.file phase)
    (kept : ∀ other, other ≠ process → (state.phase other).holding ≠ none →
      settled format initial after.log = settled format initial state.log ∧ after.file = state.file)
    (unheld : phase.holding = none → (∀ other, other ≠ process →
      (state.phase other).holding = none) → after.file = settled format initial after.log) :
    Consistent format initial after := by
  refine ⟨results, ?_, ?_, ?_, ?_⟩
  · intro other
    rw [phases]
    by_cases same : other = process
    · subst same
      rw [update_self]
      exact own
    · rw [update_of_ne same, holders other same]
      exact consistent.holders other
  · intro first second different
    rw [phases]
    by_cases one : first = process
    · subst one
      rw [update_self, update_of_ne different.symm]
      exact apart second different.symm
    · by_cases two : second = process
      · subst two
        rw [update_self, update_of_ne one]
        intro operation held other moving
        exact (apart first one other moving operation held).symm
      · rw [update_of_ne one, update_of_ne two]
        exact consistent.apart first second different
  · intro other
    rw [phases]
    by_cases same : other = process
    · subst same
      rw [update_self]
      exact agrees
    · rw [update_of_ne same]
      by_cases free : (state.phase other).holding = none
      · exact (consistent.agrees other).unheld free
      · obtain ⟨settles, files⟩ := kept other same free
        rw [settles, files]
        exact consistent.agrees other
  · intro rest
    apply unheld
    · have := rest process
      rwa [phases, update_self] at this
    · intro other same
      have := rest other
      rwa [phases, update_of_ne same] at this

theorem Consistent.proceed (consistent : Consistent format initial state)
    (same : phase.holding = (state.phase process).holding)
    (agrees : Agrees format (settled format initial state.log) state.file phase) :
    Consistent format initial (state.move process phase) := by
  apply consistent.move process
  · rfl
  · exact consistent.results
  · rw [same]
    exact consistent.holders process
  · exact fun other _ => Iff.rfl
  · intro other different operation held
    rw [same] at held
    exact consistent.apart process other different.symm operation held
  · exact agrees
  · exact fun _ _ _ => ⟨rfl, rfl⟩
  · intro free others
    apply consistent.unheld
    intro other
    by_cases here : other = process
    · rw [here, ← same, free]
    · exact others other here

theorem Consistent.rewrite {initial file : List UInt8} (consistent : Consistent format initial state)
    (held : (state.phase process).holding = some operation)
    (same : phase.holding = some operation) (writes : operation.writes = true)
    (agrees : Agrees format (settled format initial state.log) file phase) :
    Consistent format initial {state.move process phase with file := file} := by
  have alone : ∀ other, other ≠ process → (state.phase other).holding = none := by
    intro other different
    cases holding : (state.phase other).holding with
    | none => rfl
    | some one =>
      have readers := (consistent.apart process other different.symm operation held one holding).1
      rw [writes] at readers
      cases readers
  apply consistent.move process
  · rfl
  · exact consistent.results
  · rw [same, ← held]
    exact consistent.holders process
  · exact fun other _ => Iff.rfl
  · intro other different operation' held'
    rw [same, ← held] at held'
    exact consistent.apart process other different.symm operation' held'
  · exact agrees
  · exact fun other different holds => absurd (alone other different) holds
  · intro free
    rw [same] at free
    cases free

theorem Consistent.call (consistent : Consistent format initial state)
    (moved : step format state (process, .call operation) = some after) :
    Consistent format initial after := by
  unfold step at moved
  split at moved
  · rename_i operation' called idle
    cases called
    split at moved
    · rename_i failure refused
      cases moved
      have alone : operation.run format (settled format initial state.log) =
          (.error failure, settled format initial state.log) := by
        simp [Operation.run, refused]
      have unchanged : settled format initial (state.log ++ [⟨process, operation, .error failure⟩]) =
          settled format initial state.log := by
        rw [settled_append, alone]
      refine ⟨?_, consistent.holders, consistent.apart, ?_, ?_⟩
      · exact consistent.results_append (congrArg Prod.fst alone)
      · intro other
        rw [unchanged]
        exact consistent.agrees other
      · intro rest
        rw [unchanged]
        exact consistent.unheld rest
    · rename_i access known
      cases moved
      exact consistent.proceed (by rw [idle]; rfl) ⟨access, known⟩
  all_goals simp at *

theorem Consistent.acquire (consistent : Consistent format initial state)
    (opened : state.phase process = .opened operation)
    (allowed : ∀ holder ∈ state.holders, operation.writes = false ∧
      ∀ other ∈ (state.phase holder.1).holding, other.writes = false) :
    Consistent format initial { state.move process (.locked operation) with
      holders := (process, operation.lock) :: state.holders} := by
  have beside : ∀ other one, (state.phase other).holding = some one →
      operation.writes = false ∧ one.writes = false := by
    intro other one held
    have among : other ∈ state.holders.map Prod.fst := by
      rw [consistent.holders, held]
      rfl
    obtain ⟨holder, mem, rfl⟩ := mem_map.mp among
    exact ⟨(allowed holder mem).1, (allowed holder mem).2 one held⟩
  have file : state.file = settled format initial state.log := by
    by_cases rest : state.AtRest
    · exact consistent.unheld rest
    · obtain ⟨other, holds⟩ := not_forall.mp rest
      obtain ⟨one, held⟩ := Option.ne_none_iff_exists'.mp holds
      exact (consistent.agrees other).file_of_reader held (beside other one held).2
  have agrees := consistent.agrees process
  rw [opened] at agrees
  apply consistent.move process
  · rfl
  · exact consistent.results
  · simp [Phase.holding]
  · intro other different
    simp [different]
  · intro other different one mine another held
    cases mine
    exact beside other another held
  · exact ⟨agrees, file⟩
  · exact fun _ _ _ => ⟨rfl, rfl⟩
  · intro free
    cases free

theorem Consistent.close (consistent : Consistent format initial state)
    {process : Process} {operation : Operation} {result : Result Answer}
    (closing : state.phase process = .closing operation result) :
    Consistent format initial { state.move process (afterwards result) with
      holders := state.holders.filter (·.1 ≠ process)
      log := state.log ++ [⟨process, operation, result⟩]} := by
  have agrees := consistent.agrees process
  rw [closing] at agrees
  have ran : operation.run format (settled format initial state.log) = (result, state.file) := agrees
  have settles : settled format initial (state.log ++ [⟨process, operation, result⟩]) = state.file := by
    rw [settled_append, ran]
  have held : (state.phase process).holding = some operation := by
    rw [closing]
    rfl
  apply consistent.move process
  · rfl
  · exact consistent.results_append (congrArg Prod.fst ran)
  · simp [holding_afterwards]
  · intro other different
    simp only [mem_map, mem_filter, decide_eq_true_eq]
    constructor
    · rintro ⟨holder, ⟨mem, _⟩, rfl⟩
      exact ⟨holder, mem, rfl⟩
    · rintro ⟨holder, mem, rfl⟩
      exact ⟨holder, ⟨mem, different⟩, rfl⟩
  · intro other _ one mine
    rw [holding_afterwards] at mine
    cases mine
  · exact agrees_afterwards result
  · intro other different holds
    obtain ⟨one, mine⟩ := Option.ne_none_iff_exists'.mp holds
    -- the other one is a reader beside this reader, whose run left the file as it was
    have reads := (consistent.apart process other different.symm operation held one mine).1
    have same := Operation.run_file reads format (settled format initial state.log)
    rw [ran] at same
    exact ⟨settles.trans same, rfl⟩
  · intro _ _
    exact settles.symm

theorem Consistent.advance (consistent : Consistent format initial state)
    (allowed : excluding state (process, .advance))
    (moved : step format state (process, .advance) = some after) : Consistent format initial after := by
  have agrees := consistent.agrees process
  unfold excluding at allowed
  unfold step at moved
  cases phase : state.phase process with
  | idle => simp [phase] at moved
  | gone => simp [phase] at moved
  | opened operation =>
    simp only [phase] at moved allowed
    split_ifs at moved
    cases moved
    exact consistent.acquire phase allowed
  | locked operation =>
    rw [phase] at agrees
    obtain ⟨⟨access, known⟩, file⟩ := agrees
    simp only [phase] at moved
    split at moved
    · rename_i failed
      cases moved
      apply consistent.proceed (by rw [phase]; rfl)
      rw [file] at failed ⊢
      exact Operation.run_of_parseFailure known failed
    · rename_i data parsed
      cases moved
      apply consistent.proceed (by rw [phase]; rfl)
      rw [file] at parsed
      exact ⟨⟨access, known⟩, file, parsed⟩
  | loaded operation data =>
    rw [phase] at agrees
    simp only [phase] at moved
    cases moved
    exact consistent.proceed (by rw [phase, Operation.holding_apply]; rfl) agrees.apply
  | edited operation answer changed =>
    rw [phase] at agrees
    simp only [phase] at moved
    cases moved
    have held : (state.phase process).holding = some operation := by
      rw [phase]
      rfl
    exact consistent.rewrite held rfl agrees.1.writes ⟨agrees.1, rfl⟩
  | truncated operation answer changed =>
    rw [phase] at agrees
    obtain ⟨edits, empty⟩ := agrees
    simp only [phase] at moved
    have held : (state.phase process).holding = some operation := by
      rw [phase]
      rfl
    split at moved
    · rename_i refused
      cases moved
      apply consistent.proceed (by rw [phase]; rfl)
      rw [empty]
      exact edits.run_of_none refused
    · rename_i stored written
      cases moved
      apply consistent.rewrite held rfl edits.writes
      rw [empty, drop_nil, append_nil]
      exact edits.run_of_some written
  | closing operation result =>
    simp only [phase] at moved
    cases moved
    exact consistent.close phase

theorem consistent_of_reaches (reached : (dataViewer format Process initial).Reaches excluding state) :
    Consistent format initial state := by
  apply reached.invariant
  · rintro _ rfl
    refine ⟨rfl, ?_, ?_, fun _ => trivial, fun _ => rfl⟩
    · simp [Phase.holding]
    · intro process other _ operation held
      cases held
  · rintro state ⟨process, action⟩ after consistent allowed moved
    cases action with
    | call operation => exact consistent.call moved
    | advance => exact consistent.advance allowed moved

/-- Operations are serialisable in every run whose locks exclude each other. -/
theorem operations_serialisable (initial : List UInt8) {state : Shared Process}
    (reached : (dataViewer format Process initial).Reaches excluding state) :
    state.Serialisable format initial ∧ state.NoneLost format ∧ state.NoneTwice := by
  have consistent := consistent_of_reaches reached
  exact ⟨⟨state.log, .refl _, consistent.results, consistent.unheld⟩, consistent.noneLost,
    consistent.noneTwice⟩

end Machine

def advances (process : Bool) (count : Nat) : List (Bool × Action) :=
  List.replicate count (process, .advance)

def addedApart : List (Bool × Action) :=
  (false, .call (.addInstanceGroup alphaGroup)) :: advances false 6 ++
    (true, .call (.addInstanceGroup betaGroup)) :: advances true 6

def addedTogether : List (Bool × Action) :=
  [(false, .call (.addInstanceGroup alphaGroup)), (true, .call (.addInstanceGroup betaGroup))] ++
    advances false 3 ++ advances true 3 ++ advances false 3 ++ advances true 3

def unused : Shared Bool := ⟨[], [], fun _ => .idle, []⟩

def afterApart : Shared Bool :=
  ((dataViewer wireFormat Bool []).runAllowed excluding unused addedApart).getD unused

def afterTogether : Shared Bool :=
  ((dataViewer wireFormat Bool []).run unused addedTogether).getD unused

theorem operations_serialisable_apart :
    afterApart.Serialisable wireFormat [] ∧ afterApart.NoneLost wireFormat ∧ afterApart.NoneTwice :=
  operations_serialisable []
    (Transition.Machine.Reaches.getD_runAllowed addedApart (.start rfl) (by decide +kernel))

/-- Both processes hold the lock, and the group that one of them added is lost. -/
theorem operations_lost : ¬∀ state : Shared Bool,
    (dataViewer wireFormat Bool []).Reachable state → state.Serialisable wireFormat [] := by
  intro all
  have reached : (dataViewer wireFormat Bool []).Reachable afterTogether :=
    Transition.Machine.Reachable.getD_run addedTogether (.start rfl) (by decide +kernel)
  have log : afterTogether.log = [⟨false, .addInstanceGroup alphaGroup, .ok (.group alphaGroup)⟩,
      ⟨true, .addInstanceGroup betaGroup, .ok (.group betaGroup)⟩] := by
    decide +kernel
  have file : wireFormat.parseFromString afterTogether.file =
      some {instanceGroups := [betaGroup.proto]} := by
    decide +kernel
  have rest : afterTogether.AtRest := by
    intro process
    cases process <;> decide +kernel
  obtain ⟨data, parsed, mem⟩ := (all _ reached).stores rest
    (by rw [log]; exact mem_cons_self ..) (by
      rw [log]
      intro entry mem
      simp only [mem_cons, not_mem_nil, or_false] at mem
      rcases mem with rfl | rfl <;> exact ⟨trivial, fun wrong => by cases wrong⟩)
  rw [file] at parsed
  cases parsed
  exact absurd mem (by decide)

end Ika.Cvd
