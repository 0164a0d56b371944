import Ika.Cvd.InstanceDatabase

/-! What the tasks of the instance database do to the data.

A group that is added has a name, a home directory and ids that no stored group has. An
update keeps every other group, a removal takes away one group of the name at most.
-/

set_option autoImplicit false

namespace Ika.Cvd

open List

variable {groups : List LocalInstanceGroup} {data : PersistentData} {group : LocalInstanceGroup}
  {after : PersistentData} {answer : Answer} {operation : Operation} {file : List UInt8}
  {task : WriteTask} {format : Format}

theorem mapM_create {protos : List InstanceGroup}
    (created : protos.mapM LocalInstanceGroup.create = .ok groups) :
    groups.map LocalInstanceGroup.proto = protos := by
  induction protos generalizing groups with
  | nil =>
    cases created
    rfl
  | cons proto rest ih =>
    rw [mapM_cons] at created
    cases first : LocalInstanceGroup.create proto with
    | error message =>
      rw [first] at created
      cases created
    | ok group =>
      rw [first] at created
      cases others : rest.mapM LocalInstanceGroup.create with
      | error message =>
        rw [others] at created
        cases created
      | ok created' =>
        rw [others] at created
        cases created
        rw [map_cons, ih others, LocalInstanceGroup.proto_of_create first]

theorem mapM_create_of_valid {protos : List InstanceGroup} (valid : ∀ proto ∈ protos, proto.Valid) :
    ∃ groups, protos.mapM LocalInstanceGroup.create = .ok groups := by
  induction protos with
  | nil => exact ⟨[], rfl⟩
  | cons proto rest ih =>
    obtain ⟨groups, others⟩ := ih fun other mem => valid other (mem_cons_of_mem _ mem)
    have first := LocalInstanceGroup.create_of_valid (valid proto (mem_cons_self ..))
    refine ⟨⟨proto, valid proto (mem_cons_self ..)⟩ :: groups, ?_⟩
    rw [mapM_cons, first, others]
    rfl

theorem findGroups_of_valid {data : PersistentData}
    (valid : ∀ group ∈ data.instanceGroups, group.Valid) (filter : Filter) :
    ∃ groups, findGroups data filter = .ok groups := by
  obtain ⟨groups, created⟩ := @mapM_create_of_valid
    (data.instanceGroups.filter (groupMatches · filter)) fun group mem =>
      valid group (mem_filter.mp mem).1
  refine ⟨groups, ?_⟩
  rw [findGroups, created]
  rfl

theorem findGroups_ok {filter : Filter} (found : findGroups data filter = .ok groups) :
    groups.map LocalInstanceGroup.proto = data.instanceGroups.filter (groupMatches · filter) := by
  unfold findGroups at found
  cases created : (data.instanceGroups.filter (groupMatches · filter)).mapM
      LocalInstanceGroup.create with
  | error message =>
    rw [created] at found
    cases found
  | ok groups' =>
    rw [created] at found
    cases found
    exact mapM_create created

@[simp] theorem groupMatches_name (group : InstanceGroup) (name : String) :
    groupMatches group {groupName := some name} = (name == group.name) := by
  simp [groupMatches]

theorem groupNameCandidates_nodup (count : Nat) : (groupNameCandidates count).Nodup := by
  apply Nodup.map _ nodup_range
  intro first second same
  have digits : (first + 1).repr = (second + 1).repr := by
    simpa using same
  have numbers := congrArg (fun text => Nat.ofDigitChars 10 text.toList 0) digits
  simpa [Nat.toList_repr, Nat.ofDigitChars_ten_toDigits] using numbers

theorem genUniqueGroupName_ok (data : PersistentData) : ∃ name,
    genUniqueGroupName data = .ok name ∧ name ∉ data.instanceGroups.map InstanceGroup.name := by
  unfold genUniqueGroupName
  extract_lets groupNames
  cases search : (groupNameCandidates (groupNames.length + 1)).find?
      (decide <| · ∉ groupNames) with
  | some name =>
    have fresh : name ∉ groupNames := by simpa using find?_some search
    exact ⟨name, rfl, fun mem => fresh (mem_dedup.mpr mem)⟩
  | none =>
    have all : groupNameCandidates (groupNames.length + 1) ⊆ groupNames := by
      intro name mem
      simpa using List.find?_eq_none.mp search name mem
    have few := ((groupNameCandidates_nodup _).subperm all).length_le
    simp only [groupNameCandidates, length_map, length_range] at few
    omega

/-- The group conflicts with none of the data. -/
structure PersistentData.Fresh (data : PersistentData) (group : InstanceGroup) : Prop where
  name : ∀ existing ∈ data.instanceGroups, existing.name ≠ group.name
  home : ∀ existing ∈ data.instanceGroups, existing.homeDirectory ≠ group.homeDirectory
  ids : ∀ existing ∈ data.instanceGroups, ∀ old ∈ existing.instances, ∀ new ∈ group.instances,
    new.id ≠ 0 → old.id ≠ new.id

theorem fresh_ids {items : List Instance} (none : findConflict (idsToNameMap data) items = none) :
    ∀ existing ∈ data.instanceGroups, ∀ old ∈ existing.instances, ∀ new ∈ items,
      new.id ≠ 0 → old.id ≠ new.id := by
  intro existing memGroup old memOld new memNew assigned same
  have known : (old.id, s!"{existing.name}/{old.name}") ∈ idsToNameMap data := by
    rw [idsToNameMap, mem_reverse, mem_flatMap]
    refine ⟨existing, memGroup, mem_map.mpr ⟨old, mem_filter.mpr ⟨memOld, ?_⟩, rfl⟩⟩
    simpa [same] using assigned
  have searched := List.findSome?_eq_none_iff.mp none new
    (mem_filter.mpr ⟨memNew, by simpa using assigned⟩)
  rw [Option.map_eq_none_iff, lookup_eq_none_iff] at searched
  have different := searched _ known
  simp [same] at different

theorem checkConflicts_ok (checked : checkConflicts group data = .ok ()) :
    data.Fresh group.proto := by
  unfold checkConflicts at checked
  split at checked
  · cases checked
  · rename_i sameName found
    split_ifs at checked with taken home
    split at checked
    · cases checked
    · rename_i free
      refine ⟨?_, ?_, fresh_ids free⟩
      · intro existing mem same
        have none := findGroups_ok found
        rw [not_not.mp taken, map_nil] at none
        have kept : existing ∈ data.instanceGroups.filter
            (groupMatches · {groupName := some group.groupName}) :=
          mem_filter.mpr ⟨mem, by simpa [LocalInstanceGroup.groupName] using same.symm⟩
        rw [← none] at kept
        cases kept
      · intro existing mem same
        exact home ⟨existing, mem, same⟩

theorem newGroupName_ok (group : LocalInstanceGroup) (data : PersistentData) :
    ∃ name, newGroupName group data = .ok name ∧ (group.groupName ≠ "" → name = group.groupName) ∧
      (group.groupName = "" → name ∉ data.instanceGroups.map InstanceGroup.name) := by
  unfold newGroupName
  split_ifs with unnamed
  · obtain ⟨name, generated, fresh⟩ := genUniqueGroupName_ok data
    exact ⟨name, generated, fun given => absurd unnamed given, fun _ => fresh⟩
  · exact ⟨group.groupName, rfl, fun _ => rfl, fun empty => absurd empty unnamed⟩

theorem addInstanceGroup_ok (added : addInstanceGroup group data = .ok (answer, after)) :
    ∃ name, (group.groupName ≠ "" → name = group.groupName) ∧
      answer = .group (group.setName name) ∧ after = data.add (group.setName name).proto ∧
        data.Fresh (group.setName name).proto := by
  obtain ⟨name, named, given, _⟩ := newGroupName_ok group data
  cases checked : checkConflicts (group.setName name) data with
  | error failure => simp [addInstanceGroup, named, checked, bind, Except.bind] at added
  | ok checks =>
    simp only [addInstanceGroup, named, checked, bind, Except.bind, pure, Except.pure] at added
    cases added
    exact ⟨name, given, rfl, rfl, checkConflicts_ok checked⟩

theorem replaceGroup_some {proto : InstanceGroup} {groups after : List InstanceGroup}
    (replaced : replaceGroup proto groups = some after) : ∃ before old rest,
      groups = before ++ old :: rest ∧ after = before ++ proto :: rest ∧ old.name = proto.name := by
  induction groups generalizing after with
  | nil => cases replaced
  | cons group others ih =>
    unfold replaceGroup at replaced
    split_ifs at replaced with same
    · cases replaced
      exact ⟨[], group, others, rfl, rfl, same⟩
    · obtain ⟨tail, inner, rfl⟩ := Option.map_eq_some_iff.mp replaced
      obtain ⟨before, old, rest, rfl, rfl, same⟩ := ih inner
      exact ⟨group :: before, old, rest, rfl, rfl, same⟩

theorem updateInstanceGroup_ok (updated : updateInstanceGroup group data = .ok (answer, after)) :
    ∃ before old rest, data.instanceGroups = before ++ old :: rest ∧
      after.instanceGroups = before ++ group.proto :: rest ∧ old.name = group.groupName := by
  unfold updateInstanceGroup at updated
  split at updated
  · rename_i groups replaced
    cases updated
    exact replaceGroup_some replaced
  · cases updated

theorem clear_ok (cleared : clear data = .ok (answer, after)) : after.instanceGroups = [] := by
  unfold clear at cleared
  cases created : createGroups data.instanceGroups with
  | error failure => simp [created, bind, Except.bind] at cleared
  | ok groups =>
    simp only [created, bind, Except.bind, pure, Except.pure] at cleared
    cases cleared
    rfl

theorem Operation.run_cases (operation : Operation) (format : Format) (file : List UInt8) :
    ((operation.run format file).2 = file ∧
      ∀ task, operation.access = .ok (.exclusive task) → ∃ failure,
        (operation.run format file).1 = .error failure) ∨
    operation.run format file = (.error serializeFailure, []) ∨
    ∃ task data answer changed stored, operation.access = .ok (.exclusive task) ∧
      format.parseFromString file = some data ∧ task data = .ok (answer, changed) ∧
        format.serializeToString changed = some stored ∧
        operation.run format file = (.ok answer, stored) := by
  cases known : operation.access with
  | error failure => exact .inl ⟨by simp [run, known], fun task wrong => by cases wrong⟩
  | ok access =>
    cases parsed : format.parseFromString file with
    | none => exact .inl ⟨by simp [run, known, parsed],
        fun _ _ => ⟨parseFailure, by simp [run, known, parsed]⟩⟩
    | some data =>
      cases access with
      | shared task => exact .inl ⟨by simp [run, known, parsed], fun _ wrong => by cases wrong⟩
      | exclusive task =>
        cases done : task data with
        | error failure =>
          exact .inl ⟨by simp [run, known, parsed, done],
            fun _ _ => ⟨failure, by simp [run, known, parsed, done]⟩⟩
        | ok result =>
          obtain ⟨answer, changed⟩ := result
          cases written : format.serializeToString changed with
          | none => exact .inr (.inl (by simp [run, known, parsed, done, written]))
          | some stored =>
            exact .inr (.inr ⟨task, data, answer, changed, stored, rfl, rfl, done, written,
              by simp [run, known, parsed, done, written]⟩)

theorem Operation.run_ok (known : operation.access = .ok (.exclusive task))
    (ran : (operation.run format file).1 = .ok answer) : ∃ data changed,
      format.parseFromString file = some data ∧ task data = .ok (answer, changed) ∧
        format.parseFromString (operation.run format file).2 = some changed := by
  rcases operation.run_cases format file with ⟨_, failed⟩ | failed |
    ⟨task', data, answer', changed, stored, known', parsed, done, written, whole⟩
  · obtain ⟨failure, wrong⟩ := failed task known
    rw [ran] at wrong
    cases wrong
  · rw [failed] at ran
    cases ran
  · rw [known] at known'
    cases known'
    rw [whole] at ran ⊢
    cases ran
    exact ⟨data, changed, parsed, done, format.parse_serialize written⟩

theorem access_addInstanceGroup {access : Access}
    (known : (Operation.addInstanceGroup group).access = .ok access) :
    access = .exclusive (addInstanceGroup group) := by
  unfold Operation.access at known
  cases checked : checkNames group with
  | error failure => simp [checked, bind, Except.bind] at known
  | ok checks =>
    simp only [checked, bind, Except.bind, pure, Except.pure] at known
    cases known
    rfl

theorem Operation.exclusive_cases {operation : Operation}
    (known : operation.access = .ok (.exclusive task)) :
    (operation = clear ∧ task = Cvd.clear) ∨
      (∃ group, operation = addInstanceGroup group ∧ task = Cvd.addInstanceGroup group) ∨
      (∃ group, operation = updateInstanceGroup group ∧ task = Cvd.updateInstanceGroup group) ∨
      ∃ name, operation = removeInstanceGroup name ∧ task = Cvd.removeInstanceGroup name := by
  cases operation with
  | clear =>
    cases known
    exact .inl ⟨rfl, rfl⟩
  | addInstanceGroup group =>
    exact .inr (.inl ⟨group, rfl, Access.exclusive.inj (access_addInstanceGroup known)⟩)
  | updateInstanceGroup group =>
    cases known
    exact .inr (.inr (.inl ⟨group, rfl, rfl⟩))
  | removeInstanceGroup name =>
    cases known
    exact .inr (.inr (.inr ⟨name, rfl, rfl⟩))
  | isEmpty => cases known
  | findGroups filter => cases known
  | findInstanceWithGroup filter =>
    simp only [access] at known
    split at known <;> cases known
  | findInstances filter => cases known
  | instanceGroups => cases known

theorem addInstanceGroup_run {added : LocalInstanceGroup}
    (ran : ((Operation.addInstanceGroup group).run format file).1 = .ok (.group added)) :
    ∃ data, format.parseFromString file = some data ∧ data.Fresh added.proto ∧
      format.parseFromString ((Operation.addInstanceGroup group).run format file).2 =
        some (data.add added.proto) := by
  cases known : (Operation.addInstanceGroup group).access with
  | error failure => simp [Operation.run, known] at ran
  | ok access =>
    obtain rfl := access_addInstanceGroup known
    obtain ⟨data, changed, parsed, done, stored⟩ := Operation.run_ok known ran
    obtain ⟨name, _, answer, rfl, fresh⟩ := addInstanceGroup_ok done
    cases answer
    exact ⟨data, parsed, fresh, stored⟩

def Stores (format : Format) (file : List UInt8) (group : InstanceGroup) : Prop :=
  ∃ data, format.parseFromString file = some data ∧ group ∈ data.instanceGroups

/-- The operation does not take away groups of this name. -/
def Operation.Keeps (name : String) : Operation → Prop
  | clear => False
  | removeInstanceGroup removed => removed ≠ name
  | updateInstanceGroup group => group.groupName ≠ name
  | _ => True

theorem Operation.Keeps.stores {group : InstanceGroup} (keeps : operation.Keeps group.name)
    (stores : Stores format file group)
    (serialized : (operation.run format file).1 ≠ .error serializeFailure) :
    Stores format (operation.run format file).2 group := by
  rcases operation.run_cases format file with ⟨same, _⟩ | failed | ⟨task, data, answer, changed, stored,
    known, parsed, done, written, whole⟩
  · rwa [same]
  · rw [failed] at serialized
    exact absurd rfl serialized
  · obtain ⟨data', parsed', mem⟩ := stores
    rw [parsed'] at parsed
    cases parsed
    refine ⟨changed, by rw [whole]; exact format.parse_serialize written, ?_⟩
    obtain ⟨rfl, rfl⟩ | ⟨added, rfl, rfl⟩ | ⟨updated, rfl, rfl⟩ | ⟨name, rfl, rfl⟩ :=
      Operation.exclusive_cases known
    · exact keeps.elim
    · obtain ⟨name, _, _, rfl, _⟩ := addInstanceGroup_ok done
      exact mem_append_left _ mem
    · obtain ⟨before, old, rest, split, after, same⟩ := updateInstanceGroup_ok done
      rw [split] at mem
      rw [after]
      rcases mem_append.mp mem with left | right
      · exact mem_append_left _ left
      · rcases mem_cons.mp right with rfl | right
        · exact absurd same.symm keeps
        · exact mem_append_right _ (mem_cons_of_mem _ right)
    · cases done
      have other : ¬(group.name == name) = true := by
        simpa using fun same => keeps same.symm
      exact (mem_eraseP_of_neg (l := data.instanceGroups) other).mpr mem

end Ika.Cvd
