import Ika.UserArtifacts.UpdateSteps

/-! The steps of a call of `ExtractArtifact` among the others. -/

set_option autoImplicit false

namespace Ika.UserArtifacts

open Links UserArtifactsManagerImpl List Function

section Steps

variable {RootDir : Place} {uuid : String} {sha256 : List UInt8 → String}
variable {system : System} {pid : Nat} {checksum : String} {stage next : ExtractStage}

variable {name : String} {after : Tree} {dir path : Place} {permits : Place → Bool} {files : State}
  {error : Option Error}

theorem temp_not_checksum (temp : IsTempName name) : ¬IsChecksum name :=
  fun is => temp_ne_checksum temp is rfl

theorem IsTempName.plain (temp : IsTempName name) : Plain name := by
  refine ⟨temp.2.1, ?_, ?_⟩
  · rintro rfl
    exact absurd temp.2.2 (by decide)
  · rintro rfl
    exact absurd temp.2.2 (by decide)

section

variable (is : IsChecksum checksum)
include is

theorem extracted_length : (checksum ++ "_extracted").length = 74 := by
  rw [String.length_append, is.1]
  rfl

theorem extracted_ne {other : String} (short : other.length ≠ 74) :
    checksum ++ "_extracted" ≠ other :=
  fun same => short (same ▸ extracted_length is)

theorem extracted_plain : Plain (checksum ++ "_extracted") :=
  ⟨extracted_ne is (by decide), extracted_ne is (by decide), extracted_ne is (by decide)⟩

theorem extracted_not_checksum : ¬IsChecksum (checksum ++ "_extracted") := by
  intro other
  have length := other.1
  rw [extracted_length is] at length
  cases length

theorem ExtractedArtifactPath_eq :
    ExtractedArtifactPath RootDir checksum = (checksum ++ "_extracted") :: RootDir :=
  Join_name (extracted_plain is)

end

theorem Sound.inside (sound : Sound RootDir uuid sha256 system)
    (found : system.calls[pid]? = some (.extract checksum stage)) (temp : IsTempName name)
    (held : stage.dir = some (name :: uuidWorkDir RootDir uuid)) {artifact : Option String}
    (apart : ∀ other ∈ artifact, other ≠ "working") (own : ∀ other ∈ artifact, ¬IsChecksum other)
    (untouched : Untouched RootDir uuid (some name) artifact system.m.files.tree after) :
    Frame RootDir uuid sha256 system pid after := by
  apply sound.frame untouched apart
  · intro other among is
    exact absurd is (own other among)
  · intro is
    exact absurd is (temp_not_checksum temp)
  · intro other chunk stage _ among
    exact absurd (sound.relies other _ among).1 (temp_not_checksum temp)
  · intro other call another among
    exact sound.apart pid other _ call _ another.symm found among held

theorem IsTempDir.update {tree : Tree} {dir place : Place} {node : Node}
    (made : IsTempDir RootDir uuid tree dir) (other : tree place ≠ some .dir) :
    IsTempDir RootDir uuid (Function.update tree place (some node)) dir := by
  obtain ⟨name, temp, rfl, stands⟩ := made
  refine ⟨name, temp, rfl, ?_⟩
  rw [update_of_ne, stands]
  rintro rfl
  exact other stands

section

variable (sound : Sound RootDir uuid sha256 system)
include sound

section

variable (found : system.calls[pid]? = some (.extract checksum stage))
include found

theorem Sound.put {dir place : Place} {node : Node}
    (made : IsTempDir RootDir uuid system.m.files.tree dir) (held : stage.dir = some dir)
    (below : dir <:+ place) (other : system.m.files.tree place ≠ some .dir) :
    Frame RootDir uuid sha256 system pid (system.m.files.put place node).tree ∧
      IsTempDir RootDir uuid (system.m.files.put place node).tree dir := by
  rw [State.tree_put]
  refine ⟨?_, made.update other⟩
  obtain ⟨name, temp, rfl, _⟩ := made
  apply sound.inside found temp held _ _ (untouched_update below)
  · exact nofun
  · exact nofun

theorem Sound.write {place : Place}
    (made : IsTempDir RootDir uuid system.m.files.tree dir) (held : stage.dir = some dir)
    (below : dir <:+ place) (offset : Nat) (content : List UInt8) :
    Frame RootDir uuid sha256 system pid (system.m.files.Write place offset content).tree ∧
      IsTempDir RootDir uuid (system.m.files.Write place offset content).tree dir := by
  unfold State.Write
  cases stands : system.m.files.tree place with
  | none => exact ⟨sound.same pid, made⟩
  | some node =>
    cases node with
    | dir => exact ⟨sound.same pid, made⟩
    | link absolute target => exact ⟨sound.same pid, made⟩
    | file bytes =>
      apply sound.put found made held below
      rw [stands]
      exact nofun

theorem Sound.create {node : Node}
    (made : IsTempDir RootDir uuid system.m.files.tree dir) (held : stage.dir = some dir)
    (leads : LeadsInto dir system.m.files false path)
    (created : system.m.files.create permits path node = some files) :
    Frame RootDir uuid sha256 system pid files.tree ∧ IsTempDir RootDir uuid files.tree dir := by
  obtain ⟨place, walked, missing, rfl⟩ := create_spec created
  apply sound.put found made held (leads place walked)
  rw [missing]
  exact nofun

theorem Sound.openFile {fd : Place}
    (made : IsTempDir RootDir uuid system.m.files.tree dir) (held : stage.dir = some dir)
    (leads : LeadsInto dir system.m.files true path)
    (opened : system.m.files.OpenFile permits path = some (files, fd)) :
    Frame RootDir uuid sha256 system pid files.tree ∧ IsTempDir RootDir uuid files.tree dir ∧
      dir <:+ fd := by
  obtain ⟨left, walked, other, rfl | rfl⟩ := OpenFile_spec opened
  · exact ⟨sound.same pid, made, leads _ walked⟩
  · obtain ⟨frame, kept⟩ :=
      @Sound.put _ _ _ _ _ _ _ sound found dir fd (.file []) made held (leads _ walked) other
    exact ⟨frame, kept, leads _ walked⟩

end

end

theorem Frame.further (frame : Frame RootDir uuid sha256 system pid after)
    (is : IsChecksum checksum) (relies : ExtractRelies RootDir uuid after checksum next)
    (held : ∀ dir, next.dir = some dir → stage.dir = some dir) :
    Stepped RootDir uuid sha256 system pid (.extract checksum stage) (.extract checksum next)
      after none where
  frame := frame
  proceeds := .extract is relies fun dir held' => .inl (held dir held')
  unmoved := nofun

theorem Sound.further (sound : Sound RootDir uuid sha256 system) (is : IsChecksum checksum)
    (relies : ExtractRelies RootDir uuid system.m.files.tree checksum next)
    (held : ∀ dir, next.dir = some dir → stage.dir = some dir) :
    Stepped RootDir uuid sha256 system pid (.extract checksum stage) (.extract checksum next)
      system.m.files.tree none := (sound.same pid).further is relies held

theorem Frame.over (frame : Frame RootDir uuid sha256 system pid after) (is : IsChecksum checksum)
    (other : error ≠ some several) :
    Stepped RootDir uuid sha256 system pid (.extract checksum stage)
      (.extract checksum (.done error)) after none :=
  frame.further is other nofun

theorem Sound.over (sound : Sound RootDir uuid sha256 system) (is : IsChecksum checksum)
    (other : error ≠ some several) :
    Stepped RootDir uuid sha256 system pid (.extract checksum stage)
      (.extract checksum (.done error)) system.m.files.tree none := (sound.same pid).over is other

theorem Frame.failed {after : Tree} (frame : Frame RootDir uuid sha256 system pid after)
    (is : IsChecksum checksum) (tar : Bool) :
    Stepped RootDir uuid sha256 system pid (.extract checksum stage)
      (.extract checksum (failedExtract tar)) after none := by
  apply frame.over is
  cases tar <;> decide

section

variable (sound : Sound RootDir uuid sha256 system)
include sound

theorem Sound.names (is : IsChecksum checksum)
    (stands : system.m.files.tree (checksum :: RootDir) = some .dir) :
    ∃ name, Disk.names system.m.files.disk (checksum :: RootDir) = [name] ∧
      system.m.files.tree (name :: checksum :: RootDir) ≠ some .dir := by
  rcases sound.files.artifacts checksum is with missing | ⟨name, bytes, _, file, _, only⟩
  · rw [stands] at missing
    cases missing
  · refine ⟨name, ?_, ?_⟩
    · apply perm_singleton.mp
      apply (perm_ext_iff_of_nodup Disk.nodup_names (nodup_singleton name)).mpr
      intro other
      rw [Disk.mem_names, mem_singleton]
      constructor
      · intro found
        rcases only _ below_child found with same | same
        · exact absurd same (cons_ne_self _ _)
        · exact (List.cons.inj same).1
      · rintro rfl
        exact fun missing => nomatch missing.symm.trans file
    · rw [file]
      exact nofun

theorem making_extract (temp : IsTempName name)
    (made : system.m.files.Mkdir permits (name :: uuidWorkDir RootDir uuid) = some files) :
    Frame RootDir uuid sha256 system pid files.tree ∧
      IsTempDir RootDir uuid files.tree (name :: uuidWorkDir RootDir uuid) ∧
        ∀ (other : Nat) (call : Call), system.calls[other]? = some call →
          call.dir ≠ some (name :: uuidWorkDir RootDir uuid) := by
  unfold State.Mkdir at made
  rw [create_child sound.files.rooted temp.plain] at made
  split_ifs at made with free
  cases made
  have alone (other : Nat) (call : Call) (among : system.calls[other]? = some call) :
      call.dir ≠ some (name :: uuidWorkDir RootDir uuid) := by
    intro held
    obtain ⟨_, _, _, stands⟩ := (sound.relies other call among).temp held
    rw [free.1] at stands
    cases stands
  rw [State.tree_put]
  refine ⟨?_, ⟨name, temp, rfl, update_self _ _ _⟩, alone⟩
  apply sound.frame (untouched_update below_self) nofun nofun
  · intro is
    exact absurd is (temp_not_checksum temp)
  · intro other chunk stage _ among
    exact absurd (sound.relies other _ among).1 (temp_not_checksum temp)
  · intro other call _ among
    exact alone other call among

theorem moving_extract (is : IsChecksum checksum)
    (found : system.calls[pid]? = some (.extract checksum (.moving dir)))
    (moved : system.m.files.Rename permits dir ((checksum ++ "_extracted") :: RootDir) = some files) :
    Stepped RootDir uuid sha256 system pid (.extract checksum (.moving dir))
      (.extract checksum (.done none)) files.tree
      (some (dir, (checksum ++ "_extracted") :: RootDir)) := by
  obtain ⟨name, temp, rfl, stands⟩ := (sound.relies pid _ found).2
  have apart : checksum ++ "_extracted" ≠ "working" := extracted_ne is (by decide)
  rw [Rename_working sound.files.rooted temp.plain (extracted_plain is) stands] at moved
  split_ifs at moved
  cases moved
  constructor
  · apply sound.inside found temp rfl _ _ (untouched_move apart)
    · rintro other among
      rw [← Option.some.inj among]
      exact apart
    · rintro other among
      rw [← Option.some.inj among]
      exact extracted_not_checksum is
  · exact .extract is nofun nofun
  · intro pair same other another away among
    cases same
    have relies := sound.relies other another among
    apply Call.relocate_apart relies
    · cases another with
      | update checksum chunk stage =>
        have differ : checksum ≠ name := (temp_ne_checksum temp relies.1).symm
        exact ⟨decide_eq_false fun both => differ both.1, decide_eq_false fun both => differ both.1⟩
      | extract checksum stage => exact ⟨rfl, rfl⟩
    · exact sound.apart pid other _ another _ away.symm found among rfl

end

variable {answer : Answer}

theorem untarStep_stepped (sound : Sound RootDir uuid sha256 system)
    (found : system.calls[pid]? = some (.extract checksum (.extracting dir true)))
    {header : Header} (careful : NextCareful dir system.m.files (.header header)) :
    Stepped RootDir uuid sha256 system pid (.extract checksum (.extracting dir true))
      (.extract checksum (untarStep answer system.m dir header).stage)
      (untarStep answer system.m dir header).m.files.tree
      (untarStep answer system.m dir header).moved := by
  obtain ⟨is, made⟩ := sound.relies pid _ found
  obtain ⟨Name, kind⟩ := header
  have further : Stepped RootDir uuid sha256 system pid (.extract checksum (.extracting dir true))
      (.extract checksum (.extracting dir true)) system.m.files.tree none :=
    sound.further is made fun _ held => held
  have failed : Stepped RootDir uuid sha256 system pid (.extract checksum (.extracting dir true))
      (.extract checksum (failedExtract true)) system.m.files.tree none :=
    (sound.same pid).failed is true
  unfold untarStep
  dsimp only
  by_cases safe : isSafeToExtract dir (Join dir Name) = true
  · rw [if_pos safe]
    cases kind with
    | TypeDir =>
      dsimp only
      split_ifs
      · exact further
      · exact sound.further is made fun _ held => held
    | TypeReg content whole =>
      dsimp only
      cases opened : system.m.files.OpenFile answer.faults.permits (Join dir Name) with
      | none => exact failed
      | some both =>
        obtain ⟨frame, kept, below⟩ := sound.openFile found made rfl (careful safe) opened
        exact frame.further is ⟨kept, below⟩ fun _ held => held
    | TypeSymlink absolute Linkname =>
      dsimp only
      -- what the link says decides only whether it is made
      generalize (if absolute = true then Join [] Linkname else _) = linkTarget
      split_ifs
      · cases linked : system.m.files.Symlink answer.faults.permits absolute Linkname
          (Join dir Name) with
        | none => exact failed
        | some files =>
          unfold State.Symlink at linked
          split_ifs at linked
          obtain ⟨frame, kept⟩ := sound.create found made rfl (careful safe) linked
          exact frame.further is kept fun _ held => held
      · exact failed
    | other => exact further
  · rw [if_neg safe]
    exact failed

theorem unzipStep_stepped (sound : Sound RootDir uuid sha256 system)
    (found : system.calls[pid]? = some (.extract checksum (.extracting dir false)))
    {Name : List String} {IsDir : Bool} {content : List UInt8} {whole : Bool}
    (careful : NextCareful dir system.m.files (.zipped Name IsDir content whole)) :
    Stepped RootDir uuid sha256 system pid (.extract checksum (.extracting dir false))
      (.extract checksum (unzipStep answer system.m dir Name IsDir content whole).stage)
      (unzipStep answer system.m dir Name IsDir content whole).m.files.tree
      (unzipStep answer system.m dir Name IsDir content whole).moved := by
  obtain ⟨is, made⟩ := sound.relies pid _ found
  unfold unzipStep
  dsimp only
  by_cases folder : IsDir = true
  · rw [if_pos folder]
    exact sound.further is made fun _ held => held
  · rw [if_neg folder]
    by_cases safe : isSafeToExtract dir (Join dir Name) = true
    · rw [if_pos safe]
      cases opened : system.m.files.OpenFile answer.faults.permits (Join dir Name) with
      | none => exact (sound.same pid).failed is false
      | some both =>
        obtain ⟨frame, kept, below⟩ := sound.openFile found made rfl (careful safe) opened
        exact frame.further is ⟨kept, below⟩ fun _ held => held
    · rw [if_neg safe]
      exact (sound.same pid).failed is false

theorem grant_ne_several (path : String) :
    some (Error.wrapped ["failed to grant read permission at " ++ path]) ≠ some several := by
  intro same
  have texts := Error.wrapped.inj (Option.some.inj same)
  have first := congrArg (fun text => text.toList.head?) (List.cons.inj texts).1
  rw [String.toList_append] at first
  cases first

theorem extractStep_stepped (sound : Sound RootDir uuid sha256 system)
    (found : system.calls[pid]? = some (.extract checksum stage))
    (careful : ExtractCareful system.m.files answer.next stage) {outcome : Outcome ExtractStage}
    (stepped : extractStep RootDir (uuidWorkDir RootDir uuid) answer system.m checksum stage =
      some outcome) :
    Stepped RootDir uuid sha256 system pid (.extract checksum stage)
      (.extract checksum outcome.stage) outcome.m.files.tree outcome.moved := by
  obtain ⟨is, relies⟩ := sound.relies pid _ found
  cases stage with
  | looking =>
    rw [extractStep] at stepped
    split_ifs at stepped <;> cases stepped
    · exact sound.over is (by decide)
    · exact sound.over is nofun
    · exact sound.further is trivial nofun
  | finding =>
    rw [extractStep] at stepped
    split_ifs at stepped with failed published <;> cases stepped
    · exact sound.over is (by decide)
    · exact sound.further is ((sound.dirExists_iff is).mp published) nofun
    · exact sound.over is nofun
  | reading =>
    have rooted := sound.root.child is.plain relies
    obtain ⟨name, names, file⟩ := sound.names is relies
    rw [extractStep] at stepped
    split_ifs at stepped
    · cases stepped
      exact sound.over is (by decide)
    · dsimp only at stepped
      rw [UpdatedArtifactPath_eq is, rooted.walk_reverse] at stepped
      dsimp only at stepped
      rw [names] at stepped
      dsimp only at stepped
      rw [if_neg file] at stepped
      cases stepped
      exact sound.further is trivial nofun
  | making file =>
    rw [extractStep] at stepped
    by_cases temp : IsTempName answer.tempName
    · rw [if_pos temp] at stepped
      dsimp only at stepped
      cases made : system.m.files.Mkdir answer.faults.permits
        (answer.tempName :: uuidWorkDir RootDir uuid) with
      | none =>
        rw [made] at stepped
        cases stepped
        exact sound.over is (by decide)
      | some files =>
        obtain ⟨frame, kept, alone⟩ := making_extract sound temp made
        rw [made] at stepped
        cases stepped
        have begun (tar : Bool) : Stepped RootDir uuid sha256 system pid
            (.extract checksum (.making file))
            (.extract checksum (.extracting (answer.tempName :: uuidWorkDir RootDir uuid) tar))
            files.tree none := by
          refine ⟨frame, .extract is kept ?_, nofun⟩
          intro dir held
          cases held
          exact .inr alone
        dsimp only
        split_ifs
        · exact frame.over is (grant_ne_several _)
        · exact begun true
        · exact begun false
        · exact frame.over is nofun
    · rw [if_neg temp] at stepped
      cases stepped
  | extracting dir tar =>
    rw [extractStep] at stepped
    cases next : answer.next with
    | «end» =>
      rw [next] at stepped
      cases stepped
      exact sound.further is relies fun _ held => held
    | broken =>
      rw [next] at stepped
      cases stepped
      exact (sound.same pid).failed is tar
    | header header =>
      rw [next] at stepped careful
      cases tar with
      | true =>
        cases stepped
        exact untarStep_stepped sound found careful
      | false => cases stepped
    | zipped Name IsDir content whole =>
      rw [next] at stepped careful
      cases tar with
      | true => cases stepped
      | false =>
        cases stepped
        exact unzipStep_stepped sound found careful
  | climbing dir path below =>
    cases path with
    | nil =>
      cases stepped
      exact sound.further is relies fun _ held => held
    | cons name parent =>
      rw [extractStep] at stepped
      split at stepped <;> cases stepped
      · exact sound.further is relies fun _ held => held
      · exact (sound.same pid).failed is true
      · exact sound.further is relies fun _ held => held
  | descending dir below =>
    cases below with
    | nil =>
      cases stepped
      exact sound.further is relies fun _ held => held
    | cons path below =>
      rw [extractStep] at stepped
      cases made : system.m.files.Mkdir answer.faults.permits path with
      | none =>
        rw [made] at stepped
        cases stepped
        exact sound.further is relies fun _ held => held
      | some files =>
        obtain ⟨frame, kept⟩ := sound.create found relies rfl careful made
        rw [made] at stepped
        cases stepped
        exact frame.further is kept fun _ held => held
  | checking dir path below =>
    rw [extractStep] at stepped
    split_ifs at stepped <;> cases stepped
    · exact sound.further is relies fun _ held => held
    · exact (sound.same pid).failed is true
  | unpacking dir tar fd offset rest whole =>
    obtain ⟨made, below⟩ := relies
    rw [extractStep] at stepped
    split_ifs at stepped <;> cases stepped
    · exact (sound.same pid).failed is tar
    · exact sound.further is made fun _ held => held
    · exact (sound.same pid).failed is tar
    · obtain ⟨frame, kept⟩ :=
        sound.write found made rfl below offset (rest.take (answer.faults.copied + 1))
      exact frame.further is ⟨kept, below⟩ fun _ held => held
  | moving dir =>
    rw [extractStep] at stepped
    rw [ExtractedArtifactPath_eq is] at stepped
    cases moved : system.m.files.Rename answer.faults.permits dir
      ((checksum ++ "_extracted") :: RootDir) with
    | none =>
      rw [moved] at stepped
      cases stepped
      exact sound.over is (by decide)
    | some files =>
      rw [moved] at stepped
      cases stepped
      exact moving_extract sound is found moved
  | done error => cases stepped

end Steps

end Ika.UserArtifacts
