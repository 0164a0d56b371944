import Ika.Cvd.Tasks
import Ika.Foundation.Machine

/-!
Two calls that stop instances of one group at the same time.

Each call reads the group, lets the stop command run and stores the whole group it read with its own
instances stopped.
-/

set_option autoImplicit false

namespace Ika.Cvd

open List Function Option

def stopInstanceGroup (group : LocalInstanceGroup) (instanceNums : List UInt32)
    (command : Result Unit) : Result LocalInstanceGroup :=
  match instanceNums.find? fun num => decide (num ∉ group.proto.instances.map Instance.id) with
  | some num => .error (.error
      s!"Instance ID {num} does not belong to group '{group.groupName}'")
  | none =>
    match command with
    | .error failure => .error failure
    | .ok () => .ok (group.setStates
        (fun item => instanceNums.isEmpty || decide (item.id ∈ instanceNums)) .stopped)

inductive StopPhase where
  | called
  | read (group : LocalInstanceGroup)
  | commanded (group : LocalInstanceGroup)
  | returned
deriving DecidableEq

structure StopState where
  stored : PersistentData
  phase : Bool → StopPhase

/-- The two calls, whose stop commands succeed; each event is the next step of a call. -/
def stopMachine (groupName : String) (instanceNums : Bool → List UInt32)
    (initial : PersistentData) : Transition.Machine StopState Bool where
  init state := state = ⟨initial, fun _ => .called⟩
  step state process :=
    match state.phase process with
    | .called =>
      match findGroup {groupName := some groupName} state.stored with
      | .error _ => none
      | .ok group => some {state with phase := update state.phase process (.read group)}
    | .read group =>
      match stopInstanceGroup group (instanceNums process) (.ok ()) with
      | .error _ => none
      | .ok stopped =>
        some {state with phase := update state.phase process (.commanded stopped)}
    | .commanded group =>
      -- the result of the update is not looked at
      some ⟨match updateInstanceGroup group state.stored with
        | .ok (_, changed) => changed
        | .error _ => state.stored, update state.phase process .returned⟩
    | .returned => none

def LocalInstanceGroup.AllStopped (group : LocalInstanceGroup) (ids : List UInt32) : Prop :=
  ∀ item ∈ group.proto.instances, item.id ∈ ids → item.state = .stopped
  deriving Decidable

def Found (data : PersistentData) (group : LocalInstanceGroup) : Prop :=
  findGroup {groupName := some group.groupName} data = .ok group
  deriving Decidable

variable {group : LocalInstanceGroup}

theorem found_iff {data : PersistentData} : Found data group ↔
    data.instanceGroups.filter (groupMatches · {groupName := some group.groupName}) =
      [group.proto] := by
  constructor
  · intro found
    unfold Found findGroup at found
    split at found
    · cases found
    · rename_i one search
      cases found
      have matching := findGroups_ok search
      simpa using matching.symm
    · cases found
  · intro matching
    have valid : ∀ proto ∈ data.instanceGroups.filter
        (groupMatches · {groupName := some group.groupName}), proto.Valid := by
      rw [matching]
      intro proto mem
      rw [mem_singleton.mp mem]
      exact group.valid
    have created : (data.instanceGroups.filter
        (groupMatches · {groupName := some group.groupName})).mapM LocalInstanceGroup.create =
          .ok [group] := by
      rw [matching, mapM_cons, LocalInstanceGroup.create_of_valid group.valid]
      rfl
    unfold Found findGroup findGroups
    rw [created]
    rfl

theorem replaceGroup_none {proto : InstanceGroup} {groups : List InstanceGroup}
    (missing : replaceGroup proto groups = none) : ∀ group ∈ groups, group.name ≠ proto.name := by
  induction groups with
  | nil => simp
  | cons group rest ih =>
    unfold replaceGroup at missing
    split_ifs at missing with same
    rw [map_eq_none_iff] at missing
    simp only [mem_cons, forall_eq_or_imp]
    exact ⟨same, ih missing⟩

theorem Found.update {data : PersistentData} {group next : LocalInstanceGroup}
    (found : Found data group) (name : next.groupName = group.groupName) :
    ∃ changed, updateInstanceGroup next data = .ok (.done, changed) ∧ Found changed next := by
  rw [found_iff, ← name] at found
  simp only [groupMatches_name] at found
  cases replaced : replaceGroup next.proto data.instanceGroups with
  | none =>
    have others := replaceGroup_none replaced group.proto
    have mem : group.proto ∈ data.instanceGroups.filter (next.groupName == ·.name) := by
      rw [found]
      exact mem_singleton_self _
    exact absurd name.symm (others (mem_filter.mp mem).1)
  | some groups =>
    refine ⟨{data with instanceGroups := groups}, by simp [updateInstanceGroup, replaced], ?_⟩
    obtain ⟨before, old, rest, split, rfl, same⟩ := replaceGroup_some replaced
    rw [found_iff]
    simp only [groupMatches_name]
    -- the group that is replaced is the only one of the name
    have matches' : (next.groupName == old.name) = true := by
      simpa [LocalInstanceGroup.groupName] using same.symm
    have own : (next.groupName == next.proto.name) = true := by
      simp [LocalInstanceGroup.groupName]
    simp only [split, filter_append, filter_cons, matches', if_true] at found
    simp only [filter_append, filter_cons, own, if_true]
    obtain ⟨none, only⟩ := append_eq_singleton_iff.mp found |>.resolve_right (by simp)
    rw [none, (List.cons.inj only).2]
    rfl

def LocalInstanceGroup.stopped (group : LocalInstanceGroup) (ids : List UInt32) :
    LocalInstanceGroup :=
  group.setStates (fun item => ids.isEmpty || decide (item.id ∈ ids)) .stopped

theorem stopInstanceGroup_ok {ids : List UInt32}
    (belong : ∀ id ∈ ids, id ∈ group.proto.instances.map Instance.id) :
    stopInstanceGroup group ids (.ok ()) = .ok (group.stopped ids) := by
  have none : ids.find? (fun num => decide (num ∉ group.proto.instances.map Instance.id)) =
      none := by
    rw [List.find?_eq_none]
    intro id mem
    simpa using belong id mem
  unfold stopInstanceGroup
  rw [none]
  rfl

theorem LocalInstanceGroup.ids_stopped (group : LocalInstanceGroup) (ids : List UInt32) :
    (group.stopped ids).proto.instances.map Instance.id = group.proto.instances.map Instance.id := by
  simp only [stopped, setStates, List.map_map]
  apply map_congr_left
  intro item _
  simp only [comp_apply]
  split <;> rfl

theorem LocalInstanceGroup.allStopped_stopped (group : LocalInstanceGroup) (ids : List UInt32) :
    (group.stopped ids).AllStopped ids := by
  intro item mem among
  obtain ⟨before, _, rfl⟩ := List.mem_map.mp mem
  split_ifs with chosen
  · rfl
  · rw [if_neg chosen] at among
    simp [among] at chosen

theorem LocalInstanceGroup.allStopped_other (group : LocalInstanceGroup) {ids others : List UInt32}
    (nonempty : ids ≠ []) (disjoint : ids.Disjoint others) :
    (group.stopped ids).AllStopped others ↔ group.AllStopped others := by
  have kept : ∀ item : Instance, item.id ∈ others →
      (ids.isEmpty || decide (item.id ∈ ids)) = false := by
    intro item among
    have apart : item.id ∉ ids := fun chosen => disjoint chosen among
    simp [nonempty, apart]
  constructor
  · intro all item mem among
    have changed := all _ (List.mem_map_of_mem mem)
    simp only [kept item among, Bool.false_eq_true, if_false] at changed
    exact changed among
  · intro all item mem among
    obtain ⟨before, known, rfl⟩ := List.mem_map.mp mem
    have same : (if ids.isEmpty || decide (before.id ∈ ids) then
        {before with state := .stopped} else before).id = before.id := by
      split <;> rfl
    rw [same] at among
    simp only [kept before among, Bool.false_eq_true, if_false]
    exact all before known among

/-- What a call reads, if it has read the group. -/
def snapshot (group : LocalInstanceGroup) (ids : Bool → List UInt32) (schedule : List Bool)
    (process : Bool) : LocalInstanceGroup :=
  if List.replicate 3 (!process) <+: schedule then group.stopped (ids !process) else group

theorem snapshot_name (group : LocalInstanceGroup) (ids : Bool → List UInt32)
    (schedule : List Bool) (process : Bool) :
    (snapshot group ids schedule process).groupName = group.groupName := by
  unfold snapshot
  split <;> rfl

theorem ids_snapshot (group : LocalInstanceGroup) (ids : Bool → List UInt32)
    (schedule : List Bool) (process : Bool) :
    (snapshot group ids schedule process).proto.instances.map Instance.id =
      group.proto.instances.map Instance.id := by
  unfold snapshot
  split
  · exact group.ids_stopped _
  · rfl

variable {schedule : List Bool}

variable {ids : Bool → List UInt32}

theorem snapshot_append {process : Bool} (mem : process ∈ schedule) (next : Bool) :
    snapshot group ids (schedule ++ [next]) process = snapshot group ids schedule process := by
  have same : List.replicate 3 (!process) <+: schedule ++ [next] ↔
      List.replicate 3 (!process) <+: schedule := by
    rw [prefix_concat_iff]
    constructor
    · rintro (whole | before)
      · have among : process ∈ List.replicate 3 (!process) := by
          rw [whole]
          exact mem_append_left _ mem
        exact absurd (eq_of_mem_replicate among) (by simp)
      · exact before
    · exact .inr
  simp only [snapshot, same]

theorem snapshot_of_count {process : Bool} (few : schedule.count (!process) < 3) :
    snapshot group ids schedule process = group := by
  refine if_neg fun before => ?_
  have count := before.sublist.count_le (!process)
  rw [count_replicate_self] at count
  omega

theorem snapshot_after {process : Bool} (new : schedule.count process = 0)
    (other : schedule.count (!process) = 3) :
    snapshot group ids (schedule ++ [process]) process = group.stopped (ids !process) := by
  have all : ∀ step ∈ schedule, step = !process := by
    intro step mem
    have different : step ≠ process := fun same => count_eq_zero.mp new (same ▸ mem)
    cases step <;> cases process <;> simp_all
  have whole := eq_replicate_of_mem all
  have length : schedule.length = 3 := by
    rw [whole, count_replicate_self] at other
    exact other
  rw [length] at whole
  refine if_pos ?_
  rw [whole]
  exact prefix_append _ _

def StopPhase.Has (group : LocalInstanceGroup) (ids : Bool → List UInt32) (schedule : List Bool)
    (process : Bool) : StopPhase → Prop
  | called => schedule.count process = 0
  | read snap => schedule.count process = 1 ∧ snap = snapshot group ids schedule process
  | commanded snap => schedule.count process = 2 ∧
    snap = (snapshot group ids schedule process).stopped (ids process)
  | returned => schedule.count process = 3

structure Stopping (group : LocalInstanceGroup) (ids : Bool → List UInt32)
    (schedule : List Bool) (state : StopState) : Prop where
  each : ∀ process, (state.phase process).Has group ids schedule process
  neither : (∀ process, state.phase process ≠ .returned) → Found state.stored group
  first : ∀ process, state.phase process = .returned → state.phase (!process) ≠ .returned →
    Found state.stored (group.stopped (ids process))
  both : (∀ process, state.phase process = .returned) → ∀ process ∈ schedule.getLast?,
    Found state.stored ((snapshot group ids schedule process).stopped (ids process))

section Schedule

variable {group : LocalInstanceGroup} {ids : Bool → List UInt32} {schedule : List Bool}

variable {process : Bool} {phase : StopPhase} {state : StopState}

theorem StopPhase.Has.count_lt (has : phase.Has group ids schedule process)
    (before : phase ≠ .returned) : schedule.count process < 3 := by
  cases phase with
  | called =>
    rw [show schedule.count process = 0 from has]
    decide
  | read snap =>
    rw [has.1]
    decide
  | commanded snap =>
    rw [has.1]
    decide
  | returned => exact absurd rfl before

theorem count_append_self : (schedule ++ [process]).count process = schedule.count process + 1 := by
  simp

theorem count_append_other {process other : Bool} (different : other ≠ process) :
    (schedule ++ [process]).count other = schedule.count other := by
  have apart : (process == other) = false := by simpa using different.symm
  simp [count_cons, apart]

theorem StopPhase.Has.other {other : Bool} (has : phase.Has group ids schedule other)
    (different : other ≠ process) : phase.Has group ids (schedule ++ [process]) other := by
  have count := @count_append_other schedule process other different
  cases phase with
  | called => exact count.trans has
  | read snap =>
    have mem : other ∈ schedule := count_pos_iff.mp (by rw [has.1]; decide)
    exact ⟨count.trans has.1, by rw [snapshot_append mem]; exact has.2⟩
  | commanded snap =>
    have mem : other ∈ schedule := count_pos_iff.mp (by rw [has.1]; decide)
    exact ⟨count.trans has.1, by rw [snapshot_append mem]; exact has.2⟩
  | returned => exact count.trans has

theorem has_update {phases : Bool → StopPhase}
    (each : ∀ other, (phases other).Has group ids schedule other)
    (own : phase.Has group ids (schedule ++ [process]) process) (other : Bool) :
    (update phases process phase other).Has group ids (schedule ++ [process]) other := by
  by_cases same : other = process
  · subst same
    rw [update_self]
    exact own
  · rw [update_of_ne same]
    exact (each other).other same

theorem eq_not {one other : Bool} (different : one ≠ other) : (!one) = other := by
  cases one <;> cases other <;> simp_all

theorem stopping_start {initial : PersistentData} (found : Found initial group) :
    Stopping group ids [] ⟨initial, fun _ => .called⟩ where
  each _ := rfl
  neither _ := found
  first _ wrong := by cases wrong
  both wrong := by cases wrong false

theorem Stopping.proceed (stopping : Stopping group ids schedule state)
    (earlier : state.phase process ≠ .returned) (before : phase ≠ .returned)
    (own : phase.Has group ids (schedule ++ [process]) process) :
    Stopping group ids (schedule ++ [process])
      {state with phase := update state.phase process phase} := by
  have returned : ∀ other, update state.phase process phase other = .returned →
      other ≠ process ∧ state.phase other = .returned := by
    intro other done
    by_cases same : other = process
    · subst same
      rw [update_self] at done
      exact absurd done before
    · rw [update_of_ne same] at done
      exact ⟨same, done⟩
  refine ⟨has_update stopping.each own, ?_, ?_, ?_⟩
  · intro none
    apply stopping.neither
    intro other done
    by_cases same : other = process
    · exact earlier (same ▸ done)
    · exact none other ((update_of_ne same ..).trans done)
  · intro other done _
    obtain ⟨different, done⟩ := returned other done
    apply stopping.first other done
    rw [eq_not different]
    exact earlier
  · intro all
    exact absurd rfl (returned process (all process)).1

theorem Stopping.store (stopping : Stopping group ids schedule state) {snap : LocalInstanceGroup}
    (phase : state.phase process = .commanded snap) {changed : PersistentData}
    (found : Found changed snap) :
    Stopping group ids (schedule ++ [process])
      ⟨changed, update state.phase process .returned⟩ := by
  have own := stopping.each process
  rw [phase] at own
  obtain ⟨count, stored⟩ := own
  have mem : process ∈ schedule := count_pos_iff.mp (by rw [count]; decide)
  have finished : StopPhase.Has group ids (schedule ++ [process]) process .returned := by
    rw [StopPhase.Has, count_append_self, count]
  refine ⟨has_update stopping.each finished, ?_, ?_, ?_⟩
  · intro none
    exact absurd (update_self ..) (none process)
  · intro other _ alone
    by_cases same : other = process
    · subst same
      -- the other call has not stored, so this one read the group as it was
      have apart : (!other) ≠ other := by simp
      have running : state.phase (!other) ≠ .returned := by
        intro done
        exact alone ((update_of_ne apart ..).trans done)
      rw [snapshot_of_count ((stopping.each _).count_lt running)] at stored
      rwa [stored] at found
    · rw [eq_not same] at alone
      exact absurd (update_self ..) alone
  · intro _ other last
    rw [getLast?_concat] at last
    cases last
    rw [snapshot_append mem, ← stored]
    exact found

variable {initial : PersistentData}

theorem Stopping.step (belong : ∀ process, ∀ id ∈ ids process,
      id ∈ group.proto.instances.map Instance.id)
    {state after : StopState} (stopping : Stopping group ids schedule state) {process : Bool}
    (moved : (stopMachine group.groupName ids initial).step state process = some after) :
    Stopping group ids (schedule ++ [process]) after := by
  have own := stopping.each process
  simp only [stopMachine] at moved
  cases phase : state.phase process with
  | called =>
    rw [phase] at own
    have new : schedule.count process = 0 := own
    -- what is found depends on whether the other call has stored
    have found : Found state.stored (snapshot group ids (schedule ++ [process]) process) := by
      by_cases done : state.phase (!process) = .returned
      · have other := stopping.each (!process)
        rw [done] at other
        rw [snapshot_after new other]
        apply stopping.first (!process) done
        rw [Bool.not_not, phase]
        simp
      · have few := (stopping.each (!process)).count_lt done
        rw [snapshot_of_count (by rwa [count_append_other (by simp)])]
        apply stopping.neither
        intro other
        by_cases same : other = process
        · rw [same, phase]
          simp
        · rw [← eq_not (Ne.symm same)]
          exact done
    rw [phase] at moved
    unfold Found at found
    rw [snapshot_name] at found
    simp only [found] at moved
    cases moved
    exact stopping.proceed (by simp [phase]) (by simp) ⟨by rw [count_append_self, new], rfl⟩
  | read snap =>
    rw [phase] at own moved
    obtain ⟨count, rfl⟩ := own
    have mem : process ∈ schedule := count_pos_iff.mp (by rw [count]; decide)
    have stops := @stopInstanceGroup_ok (snapshot group ids schedule process) (ids process) (by
      rw [ids_snapshot]
      exact belong process)
    simp only [stops] at moved
    cases moved
    exact stopping.proceed (by simp [phase]) (by simp)
      ⟨by rw [count_append_self, count], by rw [snapshot_append mem]⟩
  | commanded snap =>
    rw [phase] at own moved
    have name : snap.groupName = group.groupName := by
      rw [own.2]
      exact snapshot_name group ids schedule process
    -- some group of the name is stored, so the update finds it
    obtain ⟨stored, same, found⟩ : ∃ stored : LocalInstanceGroup,
        stored.groupName = group.groupName ∧ Found state.stored stored := by
      by_cases done : state.phase (!process) = .returned
      · refine ⟨group.stopped (ids !process), rfl, stopping.first (!process) done ?_⟩
        rw [Bool.not_not, phase]
        simp
      · refine ⟨group, rfl, stopping.neither fun other => ?_⟩
        by_cases same : other = process
        · rw [same, phase]
          simp
        · rw [← eq_not (Ne.symm same)]
          exact done
    obtain ⟨changed, updated, found⟩ := found.update (name.trans same.symm)
    simp only [updated] at moved
    cases moved
    exact stopping.store phase found
  | returned =>
    rw [phase] at moved
    cases moved

theorem Stopping.run (belong : ∀ process, ∀ id ∈ ids process,
      id ∈ group.proto.instances.map Instance.id)
    {state last : StopState} (stopping : Stopping group ids schedule state) (rest : List Bool)
    (ran : (stopMachine group.groupName ids initial).run state rest = some last) :
    Stopping group ids (schedule ++ rest) last := by
  induction rest generalizing schedule state with
  | nil =>
    cases ran
    rwa [append_nil]
  | cons process rest ih =>
    obtain ⟨after, moved, ran⟩ := bind_eq_some_iff.mp ran
    have next := ih (stopping.step belong moved) ran
    rwa [append_assoc] at next

end Schedule

/-- Both calls' instances are stopped if and only if one call had done its part before the other
read the group, or had nothing left to stop. -/
theorem stops_kept_iff {group : LocalInstanceGroup} {initial : PersistentData}
    (found : Found initial group) {ids : Bool → List UInt32}
    (nonempty : ∀ process, ids process ≠ [])
    (belong : ∀ process, ∀ id ∈ ids process, id ∈ group.proto.instances.map Instance.id)
    (disjoint : (ids false).Disjoint (ids true)) {schedule : List Bool} {last : StopState}
    (ran : (stopMachine group.groupName ids initial).run ⟨initial, fun _ => .called⟩ schedule =
      some last) (done : ∀ process, last.phase process = .returned) :
    ∃ stored : LocalInstanceGroup, stored.groupName = group.groupName ∧ Found last.stored stored ∧
      ((∀ process, stored.AllStopped (ids process)) ↔ ∀ process ∈ schedule.getLast?,
        List.replicate 3 (!process) <+: schedule ∨ group.AllStopped (ids !process)) := by
  have stopping := (stopping_start found).run belong schedule ran
  rw [nil_append] at stopping
  have count := stopping.each false
  rw [done] at count
  have long : schedule ≠ [] := by
    rintro rfl
    cases count
  obtain ⟨process, final⟩ : ∃ process, schedule.getLast? = some process :=
    ⟨_, getLast?_eq_some_getLast long⟩
  have stored := stopping.both done process final
  have apart : (ids process).Disjoint (ids !process) := by
    cases process
    · exact disjoint
    · exact disjoint.symm
  refine ⟨(snapshot group ids schedule process).stopped (ids process),
    snapshot_name group ids schedule process, stored, ?_⟩
  -- the call that stored last has its own instances stopped in any case
  have own := (snapshot group ids schedule process).allStopped_stopped (ids process)
  have other := (snapshot group ids schedule process).allStopped_other (nonempty process) apart
  have both : (∀ one, ((snapshot group ids schedule process).stopped (ids process)).AllStopped
      (ids one)) ↔ (snapshot group ids schedule process).AllStopped (ids !process) := by
    rw [← other]
    constructor
    · exact fun all => all !process
    · intro one each
      by_cases same : each = process
      · rw [same]
        exact own
      · rw [← eq_not (Ne.symm same)]
        exact one
  rw [both, final]
  simp only [mem_some_iff, forall_eq']
  unfold snapshot
  split_ifs with before
  · exact iff_of_true (group.allStopped_stopped _) (.inl before)
  · exact ⟨.inr, fun either => either.resolve_left before⟩

def runningGroup : LocalInstanceGroup :=
  ⟨{ name := "pair", homeDirectory := "/p/home", instances :=
      [{ id := 1, name := "1", state := .running}, { id := 2, name := "2", state := .running}]},
    ⟨by decide, by decide, by decide, by decide⟩⟩

def oneEach : Bool → List UInt32
  | false => [1]
  | true => [2]

theorem oneEach_disjoint : (oneEach false).Disjoint (oneEach true) := by
  simp [oneEach]

theorem oneEach_mem (process : Bool) :
    ∀ id ∈ oneEach process, id ∈ runningGroup.proto.instances.map Instance.id := by
  intro id mem
  cases process <;> simp_all [oneEach, runningGroup]

def runningPair : PersistentData := {instanceGroups := [runningGroup.proto]}

def callsStarted : StopState := ⟨runningPair, fun _ => .called⟩

def afterStops (schedule : List Bool) : StopState :=
  ((stopMachine "pair" oneEach runningPair).run callsStarted schedule).getD callsStarted

theorem runStops_some
    (ran : ((stopMachine "pair" oneEach runningPair).run callsStarted schedule).isSome) :
    (stopMachine "pair" oneEach runningPair).run callsStarted schedule =
      some (afterStops schedule) := by
  obtain ⟨last, same⟩ := isSome_iff_exists.mp ran
  simp [afterStops, same]

theorem stops_kept_iff_apart : ∃ stored : LocalInstanceGroup, stored.groupName = "pair" ∧
    Found (afterStops [false, false, false, true, true, true]).stored stored ∧
      ((∀ process, stored.AllStopped (oneEach process)) ↔
        ∀ process ∈ [false, false, false, true, true, true].getLast?,
          List.replicate 3 (!process) <+: [false, false, false, true, true, true] ∨
            runningGroup.AllStopped (oneEach !process)) :=
  @stops_kept_iff runningGroup runningPair (by decide +kernel) oneEach (by decide)
    oneEach_mem oneEach_disjoint _ _ (runStops_some (by decide +kernel)) (by decide +kernel)

/-- The call that stores last read the group before the other one stored. -/
theorem stop_undone : ¬∀ (group : LocalInstanceGroup) (initial : PersistentData)
    (ids : Bool → List UInt32) (schedule : List Bool) (last : StopState), Found initial group →
      (∀ process, ids process ≠ []) →
      (∀ process, ∀ id ∈ ids process, id ∈ group.proto.instances.map Instance.id) →
      (ids false).Disjoint (ids true) →
      (stopMachine group.groupName ids initial).run ⟨initial, fun _ => .called⟩ schedule =
        some last → (∀ process, last.phase process = .returned) →
      ∃ stored : LocalInstanceGroup, stored.groupName = group.groupName ∧
        Found last.stored stored ∧ ∀ process, stored.AllStopped (ids process) := by
  intro all
  obtain ⟨stored, name, found, stopped⟩ := all runningGroup runningPair oneEach
    [false, true, false, true, false, true] (afterStops [false, true, false, true, false, true])
    (by decide +kernel) (by decide) oneEach_mem oneEach_disjoint
    (runStops_some (by decide +kernel)) (by decide +kernel)
  have last : (afterStops [false, true, false, true, false, true]).stored =
      {instanceGroups := [(runningGroup.stopped [2]).proto]} := by
    decide +kernel
  have name' : stored.groupName = (runningGroup.stopped [2]).groupName := name
  have there : Found {instanceGroups := [(runningGroup.stopped [2]).proto]}
      (runningGroup.stopped [2]) := by
    decide +kernel
  unfold Found at found there
  rw [last, name', there] at found
  cases found
  exact absurd (stopped false) (by decide)

end Ika.Cvd
