import Ika.UserArtifacts.Visible

/-! The steps of a call of `UpdateArtifact` among the others. -/

set_option autoImplicit false

namespace Ika.UserArtifacts

open Links UserArtifactsManagerImpl List Function Bool

/-- A step with what it leaves to the others, and where its call is then. -/
structure Stepped (RootDir : Place) (uuid : String) (sha256 : List UInt8 → String)
    (system : System) (pid : Nat) (call next : Call) (after : Tree)
    (moved : Option (Place × Place)) : Prop where
  frame : Frame RootDir uuid sha256 system pid after
  proceeds : Proceeds RootDir uuid sha256 system pid call next after
  /-- Nothing of the others is in a directory that is moved. -/
  unmoved : ∀ pair ∈ moved, ∀ (other : Nat) (another : Call), other ≠ pid →
    system.calls[other]? = some another → another.relocate pair.1 pair.2 = another

section Steps

variable {RootDir : Place} {uuid : String} {sha256 : List UInt8 → String}
variable {system : System} {pid : Nat} {checksum : String} {chunk : UserArtifactChunk}
variable {stage next : UpdateStage}

theorem Sound.root (sound : Sound RootDir uuid sha256 system) :
    Rooted RootDir system.m.files.tree := sound.files.rooted.above.above

theorem Sound.artifact_not_linked (sound : Sound RootDir uuid sha256 system)
    (is : IsChecksum checksum) : ¬Linked system.m.files.tree (checksum :: RootDir) := by
  rcases sound.files.artifacts checksum is with missing | ⟨_, _, stands, _⟩
  · exact not_linked_of_ne missing nofun
  · exact not_linked_of_ne stands nofun

section

variable (sound : Sound RootDir uuid sha256 system)
include sound

section

variable (is : IsChecksum checksum)
include is

theorem Sound.dirExists_iff :
    dirExists system.m.files (UpdatedArtifactPath RootDir checksum) = true ↔
      system.m.files.tree (checksum :: RootDir) = some .dir := by
  unfold dirExists
  rw [UpdatedArtifactPath_eq is,
    lookup_child sound.root is.plain true (sound.artifact_not_linked is), decide_eq_true_iff]

theorem Sound.missing
    (absent : ¬dirExists system.m.files (UpdatedArtifactPath RootDir checksum) = true) :
    system.m.files.tree (checksum :: RootDir) = none := by
  rcases sound.files.artifacts checksum is with missing | ⟨_, _, stands, _⟩
  · exact missing
  · exact absurd ((sound.dirExists_iff is).mpr stands) absent

theorem Sound.stay
    (relies : UpdateRelies RootDir uuid sha256 system.m.files.tree checksum chunk next)
    (reads : next.reads = true → stage.reads = true)
    (writes : next.writes = true → stage.writes = true) :
    Stepped RootDir uuid sha256 system pid (.update checksum chunk stage)
      (.update checksum chunk next) system.m.files.tree none where
  frame := sound.same pid
  proceeds := .update is relies (fun holds => .inl (reads holds)) fun holds => .inl (writes holds)
  unmoved := nofun

theorem Sound.grow
    (found : system.calls[pid]? = some (.update checksum chunk stage)) (reading : stage.reads = true)
    {after : Tree} (untouched : Untouched RootDir uuid (some checksum) none system.m.files.tree after)
    (working : Working RootDir uuid after checksum)
    (dir : system.m.files.tree (checksum :: uuidWorkDir RootDir uuid) = some .dir →
      after (checksum :: uuidWorkDir RootDir uuid) = some .dir)
    (files : ∀ place bytes, system.m.files.tree place = some (.file bytes) →
      ∃ others, after place = some (.file others)) :
    Frame RootDir uuid sha256 system pid after := by
  apply sound.frame untouched nofun nofun (fun _ => working)
  · intro other chunk another apart among
    obtain ⟨_, relies⟩ := sound.relies other _ among
    have idle : another.writes = false := by
      apply eq_false_iff.mpr
      intro writing
      have alone := sound.exclusive other pid _ _ checksum apart among found
        (decide_eq_true ⟨rfl, writing⟩)
      exact of_decide_eq_false alone.1 ⟨rfl, reading⟩
    exact relies.grown idle dir files
  · intro other call _ among
    exact (sound.relies other call among).dir_ne is

end

end

theorem Working.stands {tree : Tree} (working : Working RootDir uuid tree checksum)
    (stands : tree (checksum :: uuidWorkDir RootDir uuid) ≠ none) :
    tree (checksum :: uuidWorkDir RootDir uuid) = some .dir ∧
      ∀ place, Below (uuidWorkDir RootDir uuid) checksum place → tree place ≠ none →
        place = checksum :: uuidWorkDir RootDir uuid ∨
          ∃ name bytes, place = name :: checksum :: uuidWorkDir RootDir uuid ∧
            tree place = some (.file bytes) :=
  working.resolve_left fun missing => stands (missing _ below_self)

theorem Working.child {tree : Tree} (working : Working RootDir uuid tree checksum) (name : String) :
    tree (name :: checksum :: uuidWorkDir RootDir uuid) = none ∨
      ∃ bytes, tree (name :: checksum :: uuidWorkDir RootDir uuid) = some (.file bytes) := by
  rcases working with missing | ⟨_, files⟩
  · exact .inl (missing _ below_child)
  · by_cases found : tree (name :: checksum :: uuidWorkDir RootDir uuid) = none
    · exact .inl found
    · rcases files _ below_child found with same | ⟨_, bytes, _, stands⟩
      · exact absurd same (cons_ne_self _ _)
      · exact .inr ⟨bytes, stands⟩

theorem Working.parent {tree : Tree} (working : Working RootDir uuid tree checksum) {name : String}
    (found : tree (name :: checksum :: uuidWorkDir RootDir uuid) ≠ none) :
    tree (checksum :: uuidWorkDir RootDir uuid) = some .dir := by
  rcases working with missing | ⟨stands, _⟩
  · exact absurd (missing _ below_child) found
  · exact stands

theorem Working.child_unlinked {tree : Tree} (working : Working RootDir uuid tree checksum)
    (name : String) : ¬Linked tree (name :: checksum :: uuidWorkDir RootDir uuid) := by
  rcases working.child name with missing | ⟨bytes, stands⟩
  · exact not_linked_of_ne missing nofun
  · exact not_linked_of_ne stands nofun

theorem Sound.putFile (sound : Sound RootDir uuid sha256 system) (is : IsChecksum checksum)
    (found : system.calls[pid]? = some (.update checksum chunk stage))
    (reading : stage.reads = true)
    (stands : system.m.files.tree (checksum :: uuidWorkDir RootDir uuid) = some .dir)
    (name : String) (bytes : List UInt8) :
    Frame RootDir uuid sha256 system pid
      (system.m.files.put (name :: checksum :: uuidWorkDir RootDir uuid) (.file bytes)).tree := by
  have working := sound.files.working checksum is
  have before := working.stands (by rw [stands]; exact nofun)
  have outside : checksum :: uuidWorkDir RootDir uuid ≠
      name :: checksum :: uuidWorkDir RootDir uuid := (cons_ne_self _ _).symm
  rw [State.tree_put]
  apply sound.grow is found reading (untouched_update below_child)
  · right
    refine ⟨(update_of_ne outside _ _).trans stands, ?_⟩
    intro place below there
    by_cases here : place = name :: checksum :: uuidWorkDir RootDir uuid
    · right
      rw [here, update_self]
      exact ⟨name, bytes, rfl, rfl⟩
    · rw [update_of_ne here] at there ⊢
      exact before.2 place below there
  · intro _
    exact (update_of_ne outside _ _).trans stands
  · intro place others file
    by_cases here : place = name :: checksum :: uuidWorkDir RootDir uuid
    · rw [here, update_self]
      exact ⟨bytes, rfl⟩
    · rw [update_of_ne here]
      exact ⟨others, file⟩

variable {files : State} {permits : Place → Bool} {fd : Place}

section

variable (sound : Sound RootDir uuid sha256 system)
include sound

section

variable (is : IsChecksum checksum)
include is

theorem making_stepped
    (found : system.calls[pid]? = some (.update checksum chunk .making)) {faults : Faults}
    {made : Bool}
    (created : createDir faults system.m.files (checksum :: uuidWorkDir RootDir uuid) =
      (files, made)) :
    Frame RootDir uuid sha256 system pid files.tree ∧
      (made = true → files.tree (checksum :: uuidWorkDir RootDir uuid) = some .dir) := by
  have working := sound.files.working checksum is
  unfold createDir State.Mkdir at created
  rw [create_child sound.files.rooted is.plain] at created
  split_ifs at created with free
  · cases created
    have outside : ∀ place, Below (uuidWorkDir RootDir uuid) checksum place →
        system.m.files.tree place = none := by
      rcases working with missing | ⟨stands, _⟩
      · exact missing
      · rw [free.1] at stands
        cases stands
    rw [State.tree_put]
    refine ⟨?_, fun _ => update_self _ _ _⟩
    apply sound.grow is found rfl (untouched_update below_self)
    · right
      refine ⟨update_self _ _ _, ?_⟩
      intro place below there
      by_cases here : place = checksum :: uuidWorkDir RootDir uuid
      · exact .inl here
      · rw [update_of_ne here, outside place below] at there
        exact absurd rfl there
    · intro _
      exact update_self _ _ _
    · intro place bytes file
      by_cases here : place = checksum :: uuidWorkDir RootDir uuid
      · rw [here, free.1] at file
        cases file
      · rw [update_of_ne here]
        exact ⟨bytes, file⟩
  · cases created
    refine ⟨sound.same pid, fun there => ?_⟩
    obtain ⟨node, looked⟩ := Option.isSome_iff_exists.mp there
    have unlinked : ¬Linked system.m.files.tree (checksum :: uuidWorkDir RootDir uuid) := by
      rcases working with missing | ⟨stands, _⟩
      · exact not_linked_of_ne (missing _ below_self) nofun
      · exact not_linked_of_ne stands nofun
    rw [lookup_child sound.files.rooted is.plain false unlinked] at looked
    apply (working.stands _).1
    rw [looked]
    exact nofun

theorem Sound.named
    (stands : system.m.files.tree (checksum :: uuidWorkDir RootDir uuid) = some .dir)
    (stays : checksum :: uuidWorkDir RootDir uuid <:+
      Join (checksum :: uuidWorkDir RootDir uuid) chunk.Name)
    (opened : system.m.files.OpenFile permits
      (Join (checksum :: uuidWorkDir RootDir uuid) chunk.Name) = some (files, fd)) :
    ∃ name, Named RootDir uuid checksum chunk name := by
  have rooted := sound.files.rooted.child is.plain stands
  have working := sound.files.working checksum is
  have plain := @Join_plain _ chunk.Name rooted.plain
  obtain ⟨left, walked, other, _⟩ := OpenFile_spec opened
  obtain ⟨rest, same⟩ := stays
  rw [← same, reverse_append] at walked
  cases parts : rest.reverse with
  | nil =>
    rw [parts, append_nil, rooted.walk_reverse] at walked
    cases walked
    exact absurd stands other
  | cons name more =>
    have children : rest = more.reverse ++ [name] := by
      rw [← reverse_reverse rest, parts, reverse_cons]
    have named : Plain name := by
      apply plain
      rw [← same, children]
      simp
    by_cases last : more = []
    · refine ⟨name, named, ?_⟩
      rw [← same, children, last]
      rfl
    · have file : system.m.files.tree (name :: checksum :: uuidWorkDir RootDir uuid) ≠ some .dir := by
        rcases working.child name with missing | ⟨bytes, stands⟩
        · rw [missing]
          exact nofun
        · rw [stands]
          exact nofun
      rw [parts, rooted.walk_barred named last file (working.child_unlinked name)] at walked
      cases walked

theorem opening_stepped (found : system.calls[pid]? = some (.update checksum chunk .opening))
    (stays : checksum :: uuidWorkDir RootDir uuid <:+
      Join (checksum :: uuidWorkDir RootDir uuid) chunk.Name)
    (opened : system.m.files.OpenFile permits
      (Join (checksum :: uuidWorkDir RootDir uuid) chunk.Name) = some (files, fd)) :
    Frame RootDir uuid sha256 system pid files.tree ∧
      ∃ name bytes, Named RootDir uuid checksum chunk name ∧
        fd = name :: checksum :: uuidWorkDir RootDir uuid ∧
          files.tree fd = some (.file bytes) := by
  have stands : system.m.files.tree (checksum :: uuidWorkDir RootDir uuid) = some .dir :=
    (sound.relies pid _ found).2
  obtain ⟨name, named⟩ := sound.named is stands stays opened
  have working := sound.files.working checksum is
  have rooted := sound.files.rooted.child is.plain stands
  rw [named.2, OpenFile_child rooted named.1 (working.child_unlinked name)] at opened
  rcases working.child name with missing | ⟨bytes, there⟩
  · rw [missing] at opened
    dsimp only at opened
    split_ifs at opened
    cases opened
    refine ⟨sound.putFile is found rfl stands name [], name, [], named, rfl, ?_⟩
    rw [State.tree_put, update_self]
  · rw [there] at opened
    dsimp only at opened
    split_ifs at opened
    cases opened
    exact ⟨sound.same pid, name, bytes, named, rfl, there⟩

theorem copying_stepped {offset : Nat} {rest : List UInt8}
    (found : system.calls[pid]? = some (.update checksum chunk (.copying fd offset rest)))
    (content : List UInt8) :
    Frame RootDir uuid sha256 system pid (system.m.files.Write fd offset content).tree ∧
      ∃ name bytes, Named RootDir uuid checksum chunk name ∧
        fd = name :: checksum :: uuidWorkDir RootDir uuid ∧
          (system.m.files.Write fd offset content).tree fd = some (.file bytes) := by
  obtain ⟨name, bytes, named, rfl, stands⟩ := (sound.relies pid _ found).2
  have parent := (sound.files.working checksum is).parent (by rw [stands]; exact nofun)
  unfold State.Write
  rw [stands]
  refine ⟨sound.putFile is found rfl parent name (Contents.overwrite bytes offset content), name,
    Contents.overwrite bytes offset content, named, rfl, ?_⟩
  rw [State.tree_put, update_self]

theorem Sound.reopened
    {name : String} (named : Named RootDir uuid checksum chunk name) {found : Place × Nat}
    (walked : walk system.m.files.tree true maxLinks
      (Join (checksum :: uuidWorkDir RootDir uuid) chunk.Name).reverse [] = some found) :
    found.1 = name :: checksum :: uuidWorkDir RootDir uuid := by
  have working := sound.files.working checksum is
  have unlinked : ¬Linked system.m.files.tree (checksum :: uuidWorkDir RootDir uuid) := by
    rcases working with missing | ⟨stands, _⟩
    · exact not_linked_of_ne (missing _ below_self) nofun
    · exact not_linked_of_ne stands nofun
  rw [named.2, reverse_cons] at walked
  obtain ⟨place, left, before, behind⟩ := walk_concat walked
  rw [sound.files.rooted.walk_child_unlinked is.plain true unlinked] at before
  cases before
  rw [behind, walk_name_unlinked named.1 true (working.child_unlinked name)] at walked
  cases walked
  rfl

theorem moving_stepped (found : system.calls[pid]? = some (.update checksum chunk .moving))
    (alone : ∀ name ∈ Disk.names system.m.files.disk (checksum :: uuidWorkDir RootDir uuid),
      Join (checksum :: uuidWorkDir RootDir uuid) chunk.Name =
        name :: checksum :: uuidWorkDir RootDir uuid)
    (moved : system.m.files.Rename permits (checksum :: uuidWorkDir RootDir uuid)
      (checksum :: RootDir) = some files) :
    Stepped RootDir uuid sha256 system pid (.update checksum chunk .moving)
      (.update checksum chunk .deleting) files.tree
      (some (checksum :: uuidWorkDir RootDir uuid, checksum :: RootDir)) := by
  obtain ⟨name, bytes, named, stands, right, free⟩ := (sound.relies pid _ found).2
  have working := sound.files.working checksum is
  have parent := @Working.parent _ _ _ _ working name (by rw [stands]; exact nofun)
  have held := working.stands (by rw [parent]; exact nofun)
  rw [Rename_working sound.files.rooted is.plain is.plain parent] at moved
  split_ifs at moved
  cases moved
  have idle (other : Nat) (another : Call) (apart : other ≠ pid)
      (among : system.calls[other]? = some another) :
      another.reads checksum = false ∧ another.writes checksum = false :=
    sound.exclusive pid other _ another checksum (Ne.symm apart) found among
      (decide_eq_true ⟨rfl, rfl⟩)
  have verified : Verified RootDir sha256
      (Disk.move system.m.files.disk (checksum :: uuidWorkDir RootDir uuid)
        (checksum :: RootDir)).tree checksum := by
    refine ⟨name, bytes, ?_, ?_, right, ?_⟩
    · exact (tree_move_target is.ne_working []).trans parent
    · exact (tree_move_target is.ne_working [name]).trans stands
    · rintro place ⟨rest, rfl⟩ there
      rw [tree_move_target is.ne_working] at there
      rcases held.2 _ (suffix_append rest _) there with same | ⟨child, _, same, _⟩
      · left
        rw [List.append_left_eq_self.mp same]
        rfl
      · right
        have children : rest = [child] := append_cancel_right (same.trans rfl)
        rw [children] at there ⊢
        have listed := alone child (Disk.mem_names.mpr there)
        rw [named.2] at listed
        rw [(List.cons.inj listed).1]
        rfl
  constructor
  · apply sound.frame (untouched_move is.ne_working)
    · rintro other among
      rw [← Option.some.inj among]
      exact is.ne_working
    · rintro other among _
      rw [← Option.some.inj among]
      exact ⟨rfl, free, verified⟩
    · intro _
      left
      intro place below
      exact tree_move_source is.ne_working below
    · intro other chunk stage apart among
      obtain ⟨quiet, silent⟩ := idle other _ apart among
      apply (sound.relies other _ among).2.idle
      · apply eq_false_iff.mpr
        exact fun reading => of_decide_eq_false quiet ⟨rfl, reading⟩
      · apply eq_false_iff.mpr
        exact fun writing => of_decide_eq_false silent ⟨rfl, writing⟩
    · intro other call _ among
      exact (sound.relies other call among).dir_ne is
  · exact .update is trivial nofun fun _ => .inl rfl
  · intro pair same other another apart among
    cases same
    exact Call.relocate_apart (sound.relies other another among) (idle other another apart among)
      ((sound.relies other another among).dir_ne is)

theorem Sound.ended {error : Option Error} :
    Stepped RootDir uuid sha256 system pid (.update checksum chunk stage)
      (.update checksum chunk (.done error)) system.m.files.tree none :=
  sound.stay is trivial nofun nofun

end

end

theorem Frame.stepped {after : Tree} (frame : Frame RootDir uuid sha256 system pid after)
    (is : IsChecksum checksum) (relies : UpdateRelies RootDir uuid sha256 after checksum chunk next)
    (reads : next.reads = true → stage.reads = true) (writes : next.writes = false) :
    Stepped RootDir uuid sha256 system pid (.update checksum chunk stage)
      (.update checksum chunk next) after none where
  frame := frame
  proceeds := by
    apply Proceeds.update is relies (fun holds => .inl (reads holds))
    rw [writes]
    exact nofun
  unmoved := nofun

theorem Sound.locked (sound : Sound RootDir uuid sha256 system) (is : IsChecksum checksum)
    (relies : UpdateRelies RootDir uuid sha256 system.m.files.tree checksum chunk next)
    (free : ∀ call ∈ system.calls, call.writes checksum = false ∧
      (next.writes = true → call.reads checksum = false)) :
    Stepped RootDir uuid sha256 system pid (.update checksum chunk stage)
      (.update checksum chunk next) system.m.files.tree none where
  frame := sound.same pid
  proceeds := by
    apply Proceeds.update is relies
    · intro _
      exact .inr fun other another among => (free another (mem_of_getElem? among)).1
    · intro writing
      right
      intro other another among
      have both := free another (mem_of_getElem? among)
      exact ⟨both.2 writing, both.1⟩
  unmoved := nofun

variable {answer : Answer}

theorem updateStep_stepped (sound : Sound RootDir uuid sha256 system)
    (found : system.calls[pid]? = some (.update checksum chunk stage))
    (careful : UpdateCareful (uuidWorkDir RootDir uuid) system.m.files checksum chunk stage)
    {outcome : Outcome UpdateStage}
    (stepped : updateStep RootDir (uuidWorkDir RootDir uuid) sha256 answer system.calls system.m
      checksum chunk stage = some outcome) :
    Stepped RootDir uuid sha256 system pid (.update checksum chunk stage)
      (.update checksum chunk outcome.stage) outcome.m.files.tree outcome.moved := by
  obtain ⟨is, relies⟩ := sound.relies pid _ found
  cases stage with
  | locking =>
    rw [updateStep] at stepped
    split_ifs at stepped with free
    cases stepped
    refine sound.locked is trivial fun call among => ⟨?_, nofun⟩
    exact (not_eq_true' _).mp (all_eq_true.mp free call among)
  | looking =>
    rw [updateStep] at stepped
    split_ifs at stepped <;> cases stepped
    · exact sound.ended is
    · exact sound.ended is
    · exact sound.stay is trivial (fun _ => rfl) nofun
  | making =>
    rw [updateStep] at stepped
    rw [workDir_eq is] at stepped
    cases created : createDir answer.faults system.m.files (checksum :: uuidWorkDir RootDir uuid)
      with
    | mk files made =>
      obtain ⟨frame, stands⟩ := making_stepped sound is found created
      rw [created] at stepped
      cases made with
      | false =>
        cases stepped
        exact frame.stepped is trivial nofun rfl
      | true =>
        cases stepped
        exact frame.stepped is (stands rfl) (fun _ => rfl) rfl
  | opening =>
    rw [updateStep] at stepped
    rw [workDir_eq is] at stepped
    cases opened : system.m.files.OpenFile answer.faults.permits
      (Join (checksum :: uuidWorkDir RootDir uuid) chunk.Name) with
    | none =>
      rw [opened] at stepped
      cases stepped
      exact sound.ended is
    | some both =>
      obtain ⟨files, fd⟩ := both
      obtain ⟨frame, file⟩ := opening_stepped sound is found careful opened
      rw [opened] at stepped
      dsimp only at stepped
      split_ifs at stepped <;> cases stepped
      · exact frame.stepped is trivial nofun rfl
      · exact frame.stepped is file (fun _ => rfl) rfl
  | copying fd offset rest =>
    rw [updateStep] at stepped
    split_ifs at stepped <;> cases stepped
    · exact sound.ended is
    · obtain ⟨name, _, named, _⟩ := relies
      exact sound.stay is ⟨name, named⟩ (fun _ => rfl) nofun
    · obtain ⟨frame, file⟩ := copying_stepped sound is found (rest.take (answer.faults.copied + 1))
      exact frame.stepped is file (fun _ => rfl) rfl
  | loading =>
    cases stepped
    exact sound.stay is relies (fun _ => rfl) nofun
  | updating =>
    cases stepped
    exact sound.stay is relies (fun _ => rfl) nofun
  | asking =>
    cases stepped
    dsimp only
    split_ifs
    · exact sound.stay is relies nofun nofun
    · exact sound.ended is
  | upgrading =>
    rw [updateStep] at stepped
    split_ifs at stepped with free
    cases stepped
    refine sound.locked is relies fun call among => ?_
    have both := and_eq_true_iff.mp (all_eq_true.mp free call among)
    exact ⟨(not_eq_true' _).mp both.2, fun _ => (not_eq_true' _).mp both.1⟩
  | lookingAgain =>
    rw [updateStep] at stepped
    split_ifs at stepped with failed published <;> cases stepped
    · exact sound.ended is
    · exact sound.ended is
    · exact sound.stay is ⟨relies, sound.missing is published⟩ nofun fun _ => rfl
  | reopening =>
    obtain ⟨⟨name, named⟩, free⟩ := relies
    rw [updateStep] at stepped
    rw [workDir_eq is] at stepped
    cases walked : walk system.m.files.tree true maxLinks
      (Join (checksum :: uuidWorkDir RootDir uuid) chunk.Name).reverse [] with
    | none =>
      rw [walked] at stepped
      cases stepped
      exact sound.ended is
    | some both =>
      obtain ⟨fd, left⟩ := both
      have here : fd = name :: checksum :: uuidWorkDir RootDir uuid := sound.reopened is named walked
      rw [walked] at stepped
      dsimp only at stepped
      cases stands : system.m.files.tree fd with
      | none =>
        rw [stands] at stepped
        cases stepped
        exact sound.ended is
      | some node =>
        rw [stands] at stepped
        cases node with
        | file bytes =>
          dsimp only at stepped
          split_ifs at stepped <;> cases stepped
          · exact sound.ended is
          · exact sound.ended is
          · exact sound.stay is ⟨name, bytes, named, here, stands, free⟩ nofun fun _ => rfl
        | dir | link absolute target =>
          cases stepped
          exact sound.ended is
  | hashing fd =>
    obtain ⟨name, bytes, named, rfl, stands, free⟩ := relies
    rw [updateStep] at stepped
    rw [stands] at stepped
    dsimp only at stepped
    split_ifs at stepped with failed right <;> cases stepped
    · exact sound.ended is
    · exact sound.stay is ⟨name, bytes, named, stands, right, free⟩ nofun fun _ => rfl
    · exact sound.ended is
  | moving =>
    rw [updateStep] at stepped
    rw [workDir_eq is, UpdatedArtifactPath_eq is] at stepped
    cases moved : system.m.files.Rename answer.faults.permits
      (checksum :: uuidWorkDir RootDir uuid) (checksum :: RootDir) with
    | none =>
      rw [moved] at stepped
      cases stepped
      exact sound.ended is
    | some files =>
      rw [moved] at stepped
      cases stepped
      exact moving_stepped sound is found careful moved
  | deleting =>
    cases stepped
    exact sound.ended is
  | done error => cases stepped

end Steps

end Ika.UserArtifacts
