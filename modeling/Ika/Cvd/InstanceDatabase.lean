import Ika.Cvd.PersistentData
import Mathlib.Data.Finset.Card

/-! Instance groups as the rest of the program sees them, and the names it accepts.

A group is only made from data that passes the checks, so whatever holds one knows
that the checks hold of it. None of the changes a group offers can break them.
-/

set_option autoImplicit false

namespace Ika.Cvd

open List

def isWordCharacter (character : Char) : Bool := character.isAlphanum || character == '_'

/-- Matches `[A-Za-z_][A-Za-z_0-9]*`. -/
def isValidGroupName (token : String) : Bool :=
  match token.toList with
  | [] => false
  | first :: rest => (first.isAlpha || first == '_') && rest.all isWordCharacter

/-- Dash-separated pieces, each of them matching `[A-Za-z_0-9]+`. -/
def isValidInstanceName (token : String) : Bool :=
  token.isEmpty ||
    (token.toList.splitOn '-').all fun piece => !piece.isEmpty && piece.all isWordCharacter

/-- What `create` checks of a group. -/
structure InstanceGroup.Valid (group : InstanceGroup) : Prop where
  nonempty : group.instances ≠ []
  positive : ∀ item ∈ group.instances, 1 ≤ item.id
  ids : (group.instances.map Instance.id).Nodup
  names : (group.instances.map Instance.name).Nodup

/-- The loop of the checks, with the ids and the names seen before. -/
def checkInstances (ids : List UInt32) (names : List String) :
    List Instance → Except String Unit
  | [] => .ok ()
  | item :: rest =>
    if item.id < 1 then .error "Instance ids must be positive"
    else if item.id ∈ ids then
      .error s!"Instances must have unique ids, found '{item.id}' repeated"
    else if item.name ∈ names then
      .error s!"Instances must have unique names, found '{item.name}' repeated"
    else checkInstances (item.id :: ids) (item.name :: names) rest

def InstanceGroup.check (group : InstanceGroup) : Except String Unit :=
  if group.instances = [] then .error "New group can't be empty"
  else checkInstances [] [] group.instances

theorem checkInstances_ok {ids : List UInt32} {names : List String} {items : List Instance} :
    checkInstances ids names items = .ok () ↔
      (∀ item ∈ items, 1 ≤ item.id ∧ item.id ∉ ids ∧ item.name ∉ names) ∧
        (items.map Instance.id).Nodup ∧ (items.map Instance.name).Nodup := by
  induction items generalizing ids names with
  | nil => simp [checkInstances]
  | cons item rest ih =>
    have positive : ¬item.id < 1 ↔ 1 ≤ item.id := UInt32.not_lt
    unfold checkInstances
    split_ifs with small seen known
    · simp [positive.not.mp (not_not.mpr small)]
    · simp [seen]
    · simp [known]
    · rw [ih]
      simp only [mem_cons, forall_eq_or_imp, map_cons, nodup_cons, mem_map,
        not_or, not_exists, not_and]
      constructor
      · rintro ⟨others, ids, names⟩
        exact ⟨⟨⟨positive.mp small, seen, known⟩, fun other mem =>
          ⟨(others other mem).1, (others other mem).2.1.2, (others other mem).2.2.2⟩⟩,
          ⟨fun other mem => (others other mem).2.1.1, ids⟩,
          fun other mem => (others other mem).2.2.1, names⟩
      · rintro ⟨⟨_, others⟩, ⟨freshId, ids⟩, freshName, names⟩
        exact ⟨fun other mem => ⟨(others other mem).1, ⟨freshId other mem, (others other mem).2.1⟩,
          freshName other mem, (others other mem).2.2⟩, ids, names⟩

theorem InstanceGroup.check_ok {group : InstanceGroup} : group.check = .ok () ↔ group.Valid := by
  unfold check
  split_ifs with empty
  · constructor
    · intro wrong
      cases wrong
    · intro valid
      exact absurd empty valid.nonempty
  · rw [checkInstances_ok]
    constructor
    · rintro ⟨all, ids, names⟩
      exact ⟨empty, fun item mem => (all item mem).1, ids, names⟩
    · intro valid
      exact ⟨fun item mem => ⟨valid.positive item mem, by simp, by simp⟩, valid.ids, valid.names⟩

structure LocalInstanceGroup where
  proto : InstanceGroup
  valid : proto.Valid
deriving DecidableEq

namespace LocalInstanceGroup

def create (proto : InstanceGroup) : Except String LocalInstanceGroup :=
  match checked : proto.check with
  | .ok () => .ok ⟨proto, InstanceGroup.check_ok.mp checked⟩
  | .error message => .error message

variable {proto : InstanceGroup}

theorem create_of_valid (valid : proto.Valid) : create proto = .ok ⟨proto, valid⟩ := by
  unfold create
  split
  · rfl
  · rename_i message wrong
    rw [InstanceGroup.check_ok.mpr valid] at wrong
    cases wrong

theorem proto_of_create {group : LocalInstanceGroup}
    (created : create proto = .ok group) : group.proto = proto := by
  unfold create at created
  split at created
  · cases created
    rfl
  · cases created

def groupName (group : LocalInstanceGroup) : String := group.proto.name

def setName (group : LocalInstanceGroup) (name : String) : LocalInstanceGroup :=
  ⟨{group.proto with name := name}, ⟨group.valid.nonempty, group.valid.positive,
    group.valid.ids, group.valid.names⟩⟩

theorem valid_map (valid : proto.Valid) {change : Instance → Instance}
    (ids : ∀ item, (change item).id = item.id) (names : ∀ item, (change item).name = item.name) :
    InstanceGroup.Valid {proto with instances := proto.instances.map change} := by
  refine ⟨by simpa using valid.nonempty, ?_, ?_, ?_⟩
  · intro item mem
    obtain ⟨before, known, rfl⟩ := mem_map.mp mem
    rw [ids]
    exact valid.positive before known
  · rw [map_map, show Instance.id ∘ change = Instance.id from funext ids]
    exact valid.ids
  · rw [map_map, show Instance.name ∘ change = Instance.name from funext names]
    exact valid.names

def setStates (group : LocalInstanceGroup) (chosen : Instance → Bool) (state : InstanceState) :
    LocalInstanceGroup :=
  ⟨_, @valid_map group.proto group.valid
    (fun item => if chosen item then {item with state := state} else item)
    (fun item => by split <;> rfl) (fun item => by split <;> rfl)⟩

end LocalInstanceGroup

def alphaGroup : LocalInstanceGroup :=
  ⟨{ name := "alpha", homeDirectory := "/a/home", instances := [{ id := 1, name := "1" }]},
    ⟨by decide, by decide, by decide, by decide⟩⟩

def betaGroup : LocalInstanceGroup :=
  ⟨{ name := "beta", homeDirectory := "/b/home", instances := [{ id := 2, name := "2" }]},
    ⟨by decide, by decide, by decide, by decide⟩⟩

end Ika.Cvd

/-! The operations of the instance database.

Each is a task on the loaded data that either only reads it or may change it; a task
that fails changes nothing. Run alone on a file, an operation loads the data, runs
its task and stores what the task changed.
-/

namespace Ika.Cvd

inductive Failure where
  | error (message : String)
  | check (message : String)
deriving DecidableEq

abbrev Result := Except Failure

/-- A group or an instance matches if all the given properties match. -/
structure Filter where
  instanceId : Option UInt32 := none
  groupName : Option String := none
  instanceNames : Finset String := ∅
deriving DecidableEq

def instanceMatches (item : Instance) (filter : Filter) : Bool :=
  filter.instanceId.all (· == item.id) &&
    (filter.instanceNames = ∅ || decide (item.name ∈ filter.instanceNames))

def groupMatches (group : InstanceGroup) (filter : Filter) : Bool :=
  filter.groupName.all (· == group.name) &&
    filter.instanceId.all (fun id => decide (id ∈ group.instances.map Instance.id)) &&
      decide (∀ name ∈ filter.instanceNames, name ∈ group.instances.map Instance.name)

inductive Answer where
  | done
  | flag (value : Bool)
  | group (group : LocalInstanceGroup)
  | groups (groups : List LocalInstanceGroup)
  | found (item : Instance) (group : LocalInstanceGroup)
  | instances (matched : List (LocalInstanceGroup × List Instance))
deriving DecidableEq

abbrev ReadTask := PersistentData → Result Answer

abbrev WriteTask := PersistentData → Result (Answer × PersistentData)

def createGroups (protos : List InstanceGroup) : Result (List LocalInstanceGroup) :=
  (protos.mapM LocalInstanceGroup.create).mapError Failure.error

def findGroups (data : PersistentData) (filter : Filter) : Result (List LocalInstanceGroup) :=
  ((data.instanceGroups.filter (groupMatches · filter)).mapM LocalInstanceGroup.create).mapError
    fun message => .check s!"Instance group from database fails validation: {message}"

def findGroup (filter : Filter) (data : PersistentData) : Result LocalInstanceGroup :=
  match findGroups data filter with
  | .error failure => .error failure
  | .ok [group] => .ok group
  | .ok _ => .error (.error "Expected unique result")

def isEmpty : ReadTask := fun data => .ok (.flag data.instanceGroups.isEmpty)

def clear : WriteTask := fun data => do
  let groups ← createGroups data.instanceGroups
  return (.groups groups, {data with instanceGroups := []})

def groupNameCandidates (count : Nat) : List String :=
  (List.range count).map fun index => s!"cvd_{index + 1}"

def genUniqueGroupName (data : PersistentData) : Result String :=
  let groupNames := (data.instanceGroups.map InstanceGroup.name).dedup
  match (groupNameCandidates (groupNames.length + 1)).find? (decide <| · ∉ groupNames) with
  | some name => .ok name
  | none =>
      .error (.error (
        s!"Can't generate unique group name: Somehow a set of size {groupNames.length}" ++
        s!" contains {groupNames.length + 1} elements"))

/-- The instances that have an id, with the name of each; later ones replace earlier ones. -/
def idsToNameMap (data : PersistentData) : List (UInt32 × String) :=
  (data.instanceGroups.flatMap fun group =>
    (group.instances.filter fun item => item.id != 0).map fun item =>
      (item.id, s!"{group.name}/{item.name}")).reverse

def findConflict (existing : List (UInt32 × String)) (items : List Instance) :
    Option (UInt32 × String) :=
  (items.filter fun item => item.id != 0).findSome? fun item =>
    (existing.lookup item.id).map fun name => (item.id, name)

def newGroupName (group : LocalInstanceGroup) (data : PersistentData) : Result String :=
  if group.groupName = "" then genUniqueGroupName data else .ok group.groupName

def checkConflicts (group : LocalInstanceGroup) (data : PersistentData) : Result Unit :=
  match findGroups data {groupName := some group.groupName} with
  | .error failure => .error failure
  | .ok sameName =>
    if sameName ≠ [] then
      .error (.error s!"An instance group already exists with name: {group.groupName}")
    else if ∃ existing ∈ data.instanceGroups,
        existing.homeDirectory = group.proto.homeDirectory then
      .error (.error ("An instance group already exists with HOME directory: \x7b\x7d" ++
        group.proto.homeDirectory))
    else
      match findConflict (idsToNameMap data) group.proto.instances with
      | some (id, existing) => .error (.error
          s!"New instance conflicts with existing instance: {existing} with id {id}")
      | none => .ok ()

/-- The group of the caller shares its data with the added one, and so gets its name. -/
def addInstanceGroup (group : LocalInstanceGroup) : WriteTask := fun data => do
  let name ← newGroupName group data
  checkConflicts (group.setName name) data
  return (.group (group.setName name), data.add (group.setName name).proto)

def replaceGroup (proto : InstanceGroup) : List InstanceGroup → Option (List InstanceGroup)
  | [] => none
  | group :: rest =>
    if group.name = proto.name then some (proto :: rest)
    else (replaceGroup proto rest).map (group :: ·)

def updateInstanceGroup (group : LocalInstanceGroup) : WriteTask := fun data =>
  match replaceGroup group.proto data.instanceGroups with
  | some groups => .ok (.done, {data with instanceGroups := groups})
  | none => .error (.error s!"Group not found (name = {group.groupName})")

def removeInstanceGroup (groupName : String) : WriteTask := fun data =>
  .ok (.flag (data.instanceGroups.any (·.name == groupName)),
    {data with instanceGroups := data.instanceGroups.eraseP (·.name == groupName)})

def matchingInstances (data : PersistentData) (filter : Filter) :
    List (Instance × InstanceGroup) :=
  (data.instanceGroups.filter (groupMatches · filter)).flatMap fun group =>
    (group.instances.filter (instanceMatches · filter)).map fun item => (item, group)

def findInstanceWithGroup (filter : Filter) : ReadTask := fun data => do
  let found ← (matchingInstances data filter).foldlM
    (fun (found : Option (Instance × LocalInstanceGroup)) matched =>
      if found.isSome then .error (.error "Found more than one instance")
      else do
        let group ← (LocalInstanceGroup.create matched.2).mapError Failure.error
        return some (matched.1, group)) none
  match found with
  | some (item, group) => return .found item group
  | none => throw (.error "Found no matches")

def findInstances (filter : Filter) : ReadTask := fun data => do
  let groups ← createGroups (data.instanceGroups.filter (groupMatches · filter))
  let matched := groups.map fun group =>
    (group, group.proto.instances.filter (instanceMatches · filter))
  return .instances (matched.filter fun result => !result.2.isEmpty)

def instanceGroups : ReadTask := fun data => do
  let groups ← createGroups data.instanceGroups
  return .groups groups

inductive Operation where
  | isEmpty
  | clear
  | addInstanceGroup (group : LocalInstanceGroup)
  | updateInstanceGroup (group : LocalInstanceGroup)
  | removeInstanceGroup (groupName : String)
  | findGroups (filter : Filter)
  | findInstanceWithGroup (filter : Filter)
  | findInstances (filter : Filter)
  | instanceGroups
deriving DecidableEq

inductive Access where
  | shared (task : ReadTask)
  | exclusive (task : WriteTask)

def checkNames (group : LocalInstanceGroup) : Result Unit := do
  if group.groupName ≠ "" ∧ ¬isValidGroupName group.groupName then
    throw (.error s!"GroupName \"{group.groupName}\" is ill-formed.")
  match group.proto.instances.find? fun item => !isValidInstanceName item.name with
  | some item => throw (.error s!"instance_name \"{item.name}\" is invalid")
  | none => return

def Operation.access : Operation → Result Access
  | isEmpty => .ok (.shared Cvd.isEmpty)
  | clear => .ok (.exclusive Cvd.clear)
  | addInstanceGroup group => do
    checkNames group
    return .exclusive (Cvd.addInstanceGroup group)
  | updateInstanceGroup group => .ok (.exclusive (Cvd.updateInstanceGroup group))
  | removeInstanceGroup groupName => .ok (.exclusive (Cvd.removeInstanceGroup groupName))
  | findGroups filter =>
    .ok (.shared fun data => return .groups (← Cvd.findGroups data filter))
  | findInstanceWithGroup filter =>
    if 1 < filter.instanceNames.card then
      .error (.error ("Can't find single instance when multiple names specified: " ++
        s!"{filter.instanceNames.card}"))
    else .ok (.shared (Cvd.findInstanceWithGroup filter))
  | findInstances filter => .ok (.shared (Cvd.findInstances filter))
  | instanceGroups => .ok (.shared Cvd.instanceGroups)

def parseFailure : Failure := .error "data.ParseFromString(str)"

def serializeFailure : Failure := .error "Failed to serialize data"

/-- The result and the file when nothing else uses the file meanwhile. -/
def Operation.run (operation : Operation) (format : Format) (file : List UInt8) :
    Result Answer × List UInt8 :=
  match operation.access with
  | .error failure => (.error failure, file)
  | .ok access =>
    match format.parseFromString file with
    | none => (.error parseFailure, file)
    | some data =>
      match access with
      | .shared task => (task data, file)
      | .exclusive task =>
        match task data with
        | .error failure => (.error failure, file)
        | .ok (answer, changed) =>
          match format.serializeToString changed with
          | none => (.error serializeFailure, [])
          | some stored => (.ok answer, stored)

end Ika.Cvd
