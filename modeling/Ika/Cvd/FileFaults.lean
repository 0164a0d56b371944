import Ika.Cvd.Tasks
import Ika.Cvd.WireFormat
import Ika.Foundation.Machine

/-!
The invariant of the instance database.

Adding checks it, removing keeps it, and updating keeps it only where the new data of the group
leaves the home directories and the ids of the other groups alone.
-/

set_option autoImplicit false

namespace Ika.Cvd

open List

structure Distinct (first second : InstanceGroup) : Prop where
  names : first.name ≠ second.name
  homes : first.homeDirectory ≠ second.homeDirectory
  ids : ∀ one ∈ first.instances, ∀ other ∈ second.instances, one.id ≠ other.id

theorem Distinct.symm {first second : InstanceGroup} (distinct : Distinct first second) :
    Distinct second first :=
  ⟨distinct.names.symm, distinct.homes.symm,
    fun one memOne other memOther => (distinct.ids other memOther one memOne).symm⟩

structure PersistentData.WellFormed (data : PersistentData) : Prop where
  valid : ∀ group ∈ data.instanceGroups, group.Valid
  distinct : data.instanceGroups.Pairwise Distinct

def Operation.Compatible (data : PersistentData) : Operation → Prop
  | updateInstanceGroup group => ∀ other ∈ data.instanceGroups, other.name ≠ group.groupName →
    other.homeDirectory ≠ group.proto.homeDirectory ∧
      ∀ one ∈ other.instances, ∀ new ∈ group.proto.instances, one.id ≠ new.id
  | _ => True

instance (data : PersistentData) (operation : Operation) :
    Decidable (operation.Compatible data) := by
  cases operation <;> unfold Operation.Compatible <;> infer_instance

namespace PersistentData

variable {data changed : PersistentData}

theorem wellFormed_empty (empty : data.instanceGroups = []) : data.WellFormed :=
  ⟨by simp [empty], by simp [empty]⟩

theorem WellFormed.add (wellFormed : data.WellFormed) {group : InstanceGroup}
    (valid : group.Valid) (fresh : data.Fresh group) : (data.add group).WellFormed := by
  constructor
  · intro other mem
    rcases mem_append.mp mem with old | new
    · exact wellFormed.valid other old
    · rwa [mem_singleton.mp new]
  · apply pairwise_append.mpr ⟨wellFormed.distinct, pairwise_singleton _ _, ?_⟩
    intro other mem new same
    rw [mem_singleton.mp same]
    refine ⟨fresh.name other mem, fresh.home other mem, ?_⟩
    intro one memOne latest memLatest
    apply fresh.ids other mem one memOne latest memLatest
    intro zero
    have positive := valid.positive latest memLatest
    rw [zero] at positive
    exact absurd positive (by decide)

theorem WellFormed.sublist (wellFormed : data.WellFormed)
    (fewer : changed.instanceGroups.Sublist data.instanceGroups) : changed.WellFormed :=
  ⟨fun group mem => wellFormed.valid group (fewer.subset mem), wellFormed.distinct.sublist fewer⟩

theorem WellFormed.replace (wellFormed : data.WellFormed) {before rest : List InstanceGroup}
    {old : InstanceGroup} {group : LocalInstanceGroup}
    (split : data.instanceGroups = before ++ old :: rest) (same : old.name = group.groupName)
    (after : changed.instanceGroups = before ++ group.proto :: rest)
    (compatible : (Operation.updateInstanceGroup group).Compatible data) :
    changed.WellFormed := by
  obtain ⟨valid, distinct⟩ := wellFormed
  unfold Operation.Compatible at compatible
  rw [split] at valid distinct compatible
  obtain ⟨left, right, across⟩ := pairwise_append.mp distinct
  obtain ⟨next, right⟩ := pairwise_cons.mp right
  -- the groups other than the old one have other names, so the new data is apart from them
  have apart : ∀ other, other ∈ before ∨ other ∈ rest → Distinct other group.proto := by
    intro other mem
    have names : other.name ≠ group.groupName := by
      rw [← same]
      rcases mem with before | after
      · exact (across other before old (mem_cons_self ..)).names
      · exact (next other after).names.symm
    have free := compatible other (by rcases mem with mem | mem <;> simp [mem]) names
    exact ⟨names, free.1, free.2⟩
  constructor <;> rw [after]
  · intro other mem
    rcases mem_append.mp mem with before | after
    · exact valid other (mem_append_left _ before)
    · rcases mem_cons.mp after with rfl | after
      · exact group.valid
      · exact valid other (mem_append_right _ (mem_cons_of_mem _ after))
  · apply pairwise_append.mpr ⟨left, pairwise_cons.mpr ⟨?_, right⟩, ?_⟩
    · intro other mem
      exact (apart other (.inr mem)).symm
    · intro first memFirst second memSecond
      rcases mem_cons.mp memSecond with rfl | memSecond
      · exact apart first (.inl memFirst)
      · exact across first memFirst second (mem_cons_of_mem _ memSecond)

end PersistentData

variable {operation : Operation} {task : WriteTask} {data : PersistentData}

theorem Operation.wellFormed {changed : PersistentData} {answer : Answer}
    (known : operation.access = .ok (.exclusive task)) (wellFormed : data.WellFormed)
    (compatible : operation.Compatible data) (done : task data = .ok (answer, changed)) :
    changed.WellFormed := by
  obtain ⟨rfl, rfl⟩ | ⟨group, rfl, rfl⟩ | ⟨group, rfl, rfl⟩ | ⟨name, rfl, rfl⟩ :=
    Operation.exclusive_cases known
  · exact PersistentData.wellFormed_empty (clear_ok done)
  · obtain ⟨name, _, _, rfl, fresh⟩ := addInstanceGroup_ok done
    exact wellFormed.add (group.setName name).valid fresh
  · obtain ⟨before, old, rest, split, after, same⟩ := updateInstanceGroup_ok done
    exact wellFormed.replace split same after compatible
  · cases done
    exact wellFormed.sublist eraseP_sublist

/-- The result is not that of a failed expectation. -/
def Expected {Value : Type} (result : Result Value) : Prop :=
  ∀ message, result ≠ .error (.check message)

section Expected

variable {Value Next : Type}

theorem expected_ok (value : Value) : Expected (.ok value : Result Value) :=
  fun _ wrong => by cases wrong

theorem expected_error (message : String) : Expected (.error (.error message) : Result Value) :=
  fun _ wrong => by cases wrong

theorem Expected.bind {result : Result Value} {next : Value → Result Next}
    (first : Expected result) (rest : ∀ value, Expected (next value)) :
    Expected (result >>= next) := by
  cases result with
  | error failure =>
    intro message wrong
    cases wrong
    exact first message rfl
  | ok value => exact rest value

theorem expected_mapError (result : Except String Value) :
    Expected (result.mapError Failure.error) := by
  cases result with
  | error message => exact expected_error message
  | ok value => exact expected_ok value

theorem expected_foldlM {Item : Type} {merge : Value → Item → Result Value}
    (each : ∀ value item, Expected (merge value item)) (items : List Item) (value : Value) :
    Expected (items.foldlM merge value) := by
  induction items generalizing value with
  | nil => exact expected_ok value
  | cons item rest ih =>
    rw [foldlM_cons]
    exact (each value item).bind ih

end Expected

theorem expected_createGroups (protos : List InstanceGroup) : Expected (createGroups protos) :=
  expected_mapError _

theorem expected_findGroups (wellFormed : data.WellFormed) (filter : Filter) :
    Expected (findGroups data filter) := by
  obtain ⟨groups, found⟩ := findGroups_of_valid wellFormed.valid filter
  rw [found]
  exact expected_ok groups

theorem expected_addInstanceGroup (wellFormed : data.WellFormed) (group : LocalInstanceGroup) :
    Expected (addInstanceGroup group data) := by
  obtain ⟨name, named, _⟩ := newGroupName_ok group data
  have checks : Expected (checkConflicts (group.setName name) data) := by
    unfold checkConflicts
    obtain ⟨groups, found⟩ := findGroups_of_valid wellFormed.valid
      {groupName := some (group.setName name).groupName}
    rw [found]
    dsimp only
    split_ifs
    · exact expected_error _
    · exact expected_error _
    · split
      · exact expected_error _
      · exact expected_ok _
  rw [addInstanceGroup, named]
  exact checks.bind fun _ => expected_ok _

theorem expected_findInstanceWithGroup (data : PersistentData) (filter : Filter) :
    Expected (findInstanceWithGroup filter data) := by
  unfold findInstanceWithGroup
  apply Expected.bind
  · apply expected_foldlM
    intro found matched
    split_ifs
    · exact expected_error _
    · exact (expected_mapError _).bind fun _ => expected_ok _
  · intro found
    cases found with
    | none => exact expected_error _
    | some pair => exact expected_ok _

theorem expected_access (operation : Operation) : Expected operation.access := by
  cases operation with
  | addInstanceGroup group =>
    apply Expected.bind _ fun _ => expected_ok _
    unfold checkNames
    split_ifs
    · exact expected_error _
    · cases group.proto.instances.find? fun item => !isValidInstanceName item.name with
      | none => exact expected_ok _
      | some item => exact expected_error _
  | findInstanceWithGroup filter =>
    simp only [Operation.access]
    split_ifs
    · exact expected_error _
    · exact expected_ok _
  | isEmpty => exact expected_ok _
  | clear => exact expected_ok _
  | updateInstanceGroup group => exact expected_ok _
  | removeInstanceGroup name => exact expected_ok _
  | findGroups filter => exact expected_ok _
  | findInstances filter => exact expected_ok _
  | instanceGroups => exact expected_ok _

theorem expected_shared {task : ReadTask} (known : operation.access = .ok (.shared task))
    (wellFormed : data.WellFormed) : Expected (task data) := by
  cases operation with
  | isEmpty =>
    cases known
    exact expected_ok _
  | findGroups filter =>
    cases known
    exact (expected_findGroups wellFormed filter).bind fun _ => expected_ok _
  | findInstanceWithGroup filter =>
    simp only [Operation.access] at known
    split_ifs at known
    cases known
    exact expected_findInstanceWithGroup data filter
  | findInstances filter =>
    cases known
    exact (expected_createGroups _).bind fun _ => expected_ok _
  | instanceGroups =>
    cases known
    exact (expected_createGroups _).bind fun _ => expected_ok _
  | addInstanceGroup group => cases access_addInstanceGroup known
  | clear => cases known
  | updateInstanceGroup group => cases known
  | removeInstanceGroup name => cases known

theorem expected_exclusive (known : operation.access = .ok (.exclusive task))
    (wellFormed : data.WellFormed) : Expected (task data) := by
  obtain ⟨rfl, rfl⟩ | ⟨group, rfl, rfl⟩ | ⟨group, rfl, rfl⟩ | ⟨name, rfl, rfl⟩ :=
    Operation.exclusive_cases known
  · exact (expected_createGroups _).bind fun _ => expected_ok _
  · exact expected_addInstanceGroup wellFormed group
  · unfold updateInstanceGroup
    split
    · exact expected_ok _
    · exact expected_error _
  · exact expected_ok _

/-! Operations of one process on the instance database, with file steps that may fail.

The file is truncated before it is written, so a step that fails from then on leaves
neither the old nor the new data behind.
-/

/-- The file steps that fail if they are reached. -/
structure Faults where
  lock : Bool := false
  read : Bool := false
  truncate : Bool := false
  seek : Bool := false
  write : Option Nat := none

inductive Prepared where
  | returned (result : Result Answer)
  | rewrites (answer : Answer) (changed : PersistentData)

def Operation.prepare (operation : Operation) (format : Format) (faults : Faults)
    (file : List UInt8) : Prepared :=
  match operation.access with
  | .error failure => .returned (.error failure)
  | .ok access =>
    if faults.lock then .returned (.error (.error
      "Failed to acquire lock for instance database backing file: "))
    else if faults.read then .returned (.error (.error "Failed to read from backing file"))
    else
      match format.parseFromString file with
      | none => .returned (.error parseFailure)
      | some data =>
        match access with
        | .shared task => .returned (task data)
        | .exclusive task =>
          match task data with
          | .error failure => .returned (.error failure)
          | .ok (answer, changed) => .rewrites answer changed

def rewriteFile (format : Format) (faults : Faults) (file : List UInt8) (answer : Answer)
    (changed : PersistentData) : Result Answer × List UInt8 :=
  if faults.truncate then (.error (.error "Failed to truncate fd: "), file)
  else if faults.seek then (.error (.error "Failed to seek to 0: "), [])
  else
    match format.serializeToString changed, faults.write with
    | none, _ => (.error serializeFailure, [])
    | some stored, none => (.ok answer, stored)
    | some stored, some written =>
      if written < stored.length then
        (.error (.error "Failed to write to backing file"), stored.take written)
      else (.ok answer, stored)

def Operation.runWith (operation : Operation) (format : Format) (faults : Faults)
    (file : List UInt8) :
    Result Answer × List UInt8 :=
  match operation.prepare format faults file with
  | .returned result => (result, file)
  | .rewrites answer changed => rewriteFile format faults file answer changed

structure Call where
  operation : Operation
  before : List UInt8
  result : Result Answer

structure Backing where
  file : List UInt8
  last : Option Call := none

/-- One process that calls one operation after another. -/
def instanceDatabase (format : Format) : Transition.Machine Backing (Operation × Faults) where
  init state := state.last = none ∧
    ∃ data, format.parseFromString state.file = some data ∧ data.WellFormed
  step state event :=
    some ⟨(event.1.runWith format event.2 state.file).2,
      some ⟨event.1, state.file, (event.1.runWith format event.2 state.file).1⟩⟩

def Backing.Atomic (format : Format) (state : Backing) : Prop :=
  ∀ call ∈ state.last, ∀ failure, call.result = .error failure →
    format.parseFromString state.file = format.parseFromString call.before

/-- The stored data is well formed, and no expectation on it failed. -/
structure Backing.Sound (format : Format) (state : Backing) : Prop where
  stored : ∃ data, format.parseFromString state.file = some data ∧ data.WellFormed ∧
    ∀ group : LocalInstanceGroup, group.groupName = "" → ∃ name,
      newGroupName group data = .ok name ∧ name ∉ data.instanceGroups.map InstanceGroup.name
  expected : ∀ call ∈ state.last, Expected call.result
  named : ∀ call ∈ state.last, ∀ group added, call.operation = .addInstanceGroup group →
    call.result = .ok (.group added) → ∃ data,
      format.parseFromString call.before = some data ∧ data.Fresh added.proto

/-- Nothing fails once the file is truncated, and updates are compatible with the data. -/
def Harmless (format : Format) (state : Backing) (event : Operation × Faults) : Prop :=
  (∀ data ∈ format.parseFromString state.file, event.1.Compatible data) ∧
    match event.1.prepare format event.2 state.file with
    | .returned _ => True
    | .rewrites _ changed => event.2.truncate = true ∨
      event.2.seek = false ∧ ∃ stored ∈ format.serializeToString changed,
        ∀ written ∈ event.2.write, stored.length ≤ written

instance (format : Format) (state : Backing) (event : Operation × Faults) :
    Decidable (Harmless format state event) := by
  unfold Harmless
  cases event.1.prepare format event.2 state.file <;> infer_instance

variable {operation : Operation} {faults : Faults} {file : List UInt8} {data : PersistentData}
  {format : Format}

theorem rewrites_of_prepare {answer : Answer} {changed : PersistentData}
    (prepared : operation.prepare format faults file = .rewrites answer changed) :
    ∃ task data, operation.access = .ok (.exclusive task) ∧
      format.parseFromString file = some data ∧ task data = .ok (answer, changed) := by
  unfold Operation.prepare at prepared
  split at prepared
  · cases prepared
  · rename_i access known
    split_ifs at prepared
    split at prepared
    · cases prepared
    · rename_i data parsed
      split at prepared
      · cases prepared
      · rename_i task
        split at prepared
        · cases prepared
        · rename_i answer' changed' done
          cases prepared
          exact ⟨task, data, known, parsed, done⟩

theorem returned_of_prepare {result : Result Answer} (wellFormed : data.WellFormed)
    (parsed : format.parseFromString file = some data)
    (prepared : operation.prepare format faults file = .returned result) :
    Expected result ∧ ∀ answer, result = .ok answer →
      ∃ task, operation.access = .ok (.shared task) := by
  unfold Operation.prepare at prepared
  split at prepared
  · rename_i failure refused
    cases prepared
    have expected := expected_access operation
    rw [refused] at expected
    exact ⟨fun message wrong => expected message (by cases wrong; rfl), fun _ wrong => by cases wrong⟩
  · rename_i access known
    rw [parsed] at prepared
    split_ifs at prepared
    · cases prepared
      exact ⟨expected_error _, fun _ wrong => by cases wrong⟩
    · cases prepared
      exact ⟨expected_error _, fun _ wrong => by cases wrong⟩
    · dsimp only at prepared
      split at prepared
      · rename_i task
        cases prepared
        exact ⟨expected_shared known wellFormed, fun _ _ => ⟨task, known⟩⟩
      · rename_i task
        split at prepared
        · rename_i failure failed
          cases prepared
          have expected := expected_exclusive known wellFormed
          rw [failed] at expected
          exact ⟨fun message wrong => expected message (by cases wrong; rfl),
            fun _ wrong => by cases wrong⟩
        · cases prepared

theorem rewriteFile_cases {faults : Faults} {file : List UInt8} {answer : Answer}
    {changed : PersistentData}
    (harmless : faults.truncate = true ∨ faults.seek = false ∧
      ∃ stored ∈ format.serializeToString changed, ∀ written ∈ faults.write, stored.length ≤ written) :
    rewriteFile format faults file answer changed = (.error (.error "Failed to truncate fd: "), file) ∨
      ∃ stored, format.serializeToString changed = some stored ∧
        rewriteFile format faults file answer changed = (.ok answer, stored) := by
  unfold rewriteFile
  split_ifs with truncate seek
  · exact .inl rfl
  · rcases harmless with wrong | ⟨wrong, _⟩
    · exact absurd wrong truncate
    · rw [seek] at wrong
      cases wrong
  · obtain ⟨_, stored, serialized, whole⟩ := harmless.resolve_left truncate
    refine .inr ⟨stored, serialized, ?_⟩
    rw [Option.mem_def.mp serialized]
    cases write : faults.write with
    | none => rfl
    | some written => exact if_neg (Nat.not_lt.mpr (whole written write))

theorem newGroupName_free (data : PersistentData) (group : LocalInstanceGroup)
    (unnamed : group.groupName = "") : ∃ name,
      newGroupName group data = .ok name ∧ name ∉ data.instanceGroups.map InstanceGroup.name := by
  obtain ⟨name, named, _, fresh⟩ := newGroupName_ok group data
  exact ⟨name, named, fresh unnamed⟩

theorem Backing.keeps_file {file : List UInt8} (wellFormed : data.WellFormed)
    (parsed : format.parseFromString file = some data) {operation : Operation}
    {result : Result Answer} (expected : Expected result)
    (reads : ∀ answer, result = .ok answer → ∃ task, operation.access = .ok (.shared task)) :
    Backing.Atomic format ⟨file, some ⟨operation, file, result⟩⟩ ∧
      Backing.Sound format ⟨file, some ⟨operation, file, result⟩⟩ := by
  refine ⟨?_, ⟨data, parsed, wellFormed, newGroupName_free data⟩, ?_, ?_⟩
  · rintro call ⟨⟩ failure _
    rfl
  · rintro call ⟨⟩
    exact expected
  · rintro call ⟨⟩ group added rfl ok
    obtain ⟨task, known⟩ := reads _ ok
    cases access_addInstanceGroup known

theorem Backing.keeps {state : Backing} (wellFormed : data.WellFormed)
    (parsed : format.parseFromString state.file = some data) {event : Operation × Faults}
    (harmless : Harmless format state event) {after : Backing}
    (moved : (instanceDatabase format).step state event = some after) :
    after.Atomic format ∧ after.Sound format := by
  obtain ⟨operation, faults⟩ := event
  obtain ⟨compatible, harmless⟩ := harmless
  cases moved
  dsimp only
  cases prepared : operation.prepare format faults state.file with
  | returned result =>
    obtain ⟨expected, reads⟩ := returned_of_prepare wellFormed parsed prepared
    have ran : operation.runWith format faults state.file = (result, state.file) := by
      simp [Operation.runWith, prepared]
    rw [ran]
    exact keeps_file wellFormed parsed expected reads
  | rewrites answer changed =>
    obtain ⟨task, data', known, parsed', done⟩ := rewrites_of_prepare prepared
    rw [parsed] at parsed'
    cases parsed'
    rw [prepared] at harmless
    have ran : operation.runWith format faults state.file =
        rewriteFile format faults state.file answer changed := by
      simp [Operation.runWith, prepared]
    rcases @rewriteFile_cases format _ state.file answer _ harmless with
      failed | ⟨stored, serialized, ok⟩
    · rw [ran, failed]
      exact keeps_file wellFormed parsed (expected_error _) fun _ wrong => by cases wrong
    · rw [ran, ok]
      have kept := Operation.wellFormed known wellFormed (compatible data parsed) done
      refine ⟨?_, ⟨changed, format.parse_serialize serialized, kept, newGroupName_free changed⟩, ?_, ?_⟩
      · rintro call ⟨⟩ failure wrong
        cases wrong
      · rintro call ⟨⟩
        exact expected_ok answer
      · rintro call ⟨⟩ group added rfl returned
        obtain rfl := Access.exclusive.inj (access_addInstanceGroup known)
        obtain ⟨name, _, rfl, rfl, fresh⟩ := addInstanceGroup_ok done
        cases returned
        exact ⟨data, parsed, fresh⟩

/-- The database is sound and failures are atomic while no file step fails behind the truncation and
updates are compatible with the other groups. -/
theorem database_sound {state : Backing}
    (reached : (instanceDatabase format).Reaches (Harmless format) state) :
    state.Atomic format ∧ state.Sound format := by
  apply reached.invariant
  · rintro ⟨file, last⟩ ⟨rfl, data, parsed, wellFormed⟩
    refine ⟨?_, ⟨data, parsed, wellFormed, newGroupName_free data⟩, ?_, ?_⟩ <;>
      exact fun call mem => by cases mem
  · intro state event after inv harmless moved
    obtain ⟨data, parsed, wellFormed, _⟩ := inv.2.stored
    exact Backing.keeps wellFormed parsed harmless moved

def emptyBacking : Backing := ⟨[], none⟩

theorem emptyBacking_start : (instanceDatabase wireFormat).init emptyBacking :=
  ⟨rfl, {}, wireFormat.parse_nil, PersistentData.wellFormed_empty rfl⟩

def harmlessCalls : List (Operation × Faults) :=
  [(.addInstanceGroup alphaGroup, {}), (.addInstanceGroup betaGroup, {truncate := true}),
    (.addInstanceGroup (betaGroup.setName ""), {}), (.removeInstanceGroup "alpha", {})]

def failedSeek : List (Operation × Faults) :=
  [(.addInstanceGroup alphaGroup, {}), (.addInstanceGroup betaGroup, {seek := true})]

def conflictingUpdate : List (Operation × Faults) :=
  [(.addInstanceGroup alphaGroup, {}), (.addInstanceGroup betaGroup, {}),
    (.updateInstanceGroup (betaGroup.setName "alpha"), {})]

def afterHarmless : Backing :=
  ((instanceDatabase wireFormat).runAllowed (Harmless wireFormat) emptyBacking harmlessCalls).getD
    emptyBacking

def afterFailedSeek : Backing :=
  ((instanceDatabase wireFormat).run emptyBacking failedSeek).getD emptyBacking

def afterConflict : Backing :=
  ((instanceDatabase wireFormat).run emptyBacking conflictingUpdate).getD emptyBacking

theorem database_sound_harmless : afterHarmless.Atomic wireFormat ∧ afterHarmless.Sound wireFormat :=
  database_sound (Transition.Machine.Reaches.getD_runAllowed harmlessCalls
    (.start emptyBacking_start) (by decide +kernel))

/-- A failed operation may empty the database, and an update may make two groups share an id. -/
theorem database_unsound :
    (¬∀ state, (instanceDatabase wireFormat).Reachable state → state.Atomic wireFormat) ∧
    ¬∀ state, (instanceDatabase wireFormat).Reachable state → state.Sound wireFormat := by
  constructor
  · intro all
    have reached : (instanceDatabase wireFormat).Reachable afterFailedSeek :=
      Transition.Machine.Reachable.getD_run failedSeek (.start emptyBacking_start)
        (by decide +kernel)
    have atomic := all _ reached
    have last : ∃ call ∈ afterFailedSeek.last,
        call.result = .error (.error "Failed to seek to 0: ") ∧
          wireFormat.parseFromString call.before = some {instanceGroups := [alphaGroup.proto]} := by
      exact ⟨_, rfl, by decide +kernel, by decide +kernel⟩
    obtain ⟨call, mem, failed, before⟩ := last
    have same := atomic call mem _ failed
    rw [before] at same
    have file : afterFailedSeek.file = [] := by decide +kernel
    rw [file, wireFormat.parse_nil] at same
    exact absurd same (by decide)
  · intro all
    have reached : (instanceDatabase wireFormat).Reachable afterConflict :=
      Transition.Machine.Reachable.getD_run conflictingUpdate (.start emptyBacking_start)
        (by decide +kernel)
    obtain ⟨data, parsed, wellFormed, _⟩ := (all _ reached).stored
    have stored : wireFormat.parseFromString afterConflict.file =
        some {instanceGroups := [(betaGroup.setName "alpha").proto, betaGroup.proto]} := by
      decide +kernel
    rw [stored] at parsed
    cases parsed
    have apart := (List.pairwise_cons.mp wellFormed.distinct).1 betaGroup.proto (by simp)
    exact apart.homes rfl

end Ika.Cvd
