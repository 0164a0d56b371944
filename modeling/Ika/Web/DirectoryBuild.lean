import Mathlib.Data.List.Basic

/-! Artifacts of builds that are directories on this machine. -/

set_option autoImplicit false

namespace Ika.Web

open List

inductive Entry where
  | directory
  | link (target : String)
  | other
  deriving DecidableEq

/-- The calls that are made of the file system, as the manual has them. -/
structure FileSystem (State Contents : Type) where
  opendir : State → String → Option (List String)
  stat : State → String → Bool
  read : State → String → Option Contents
  lstat : State → String → Option Entry
  unlink : State → String → State
  symlink : State → String → String → Option State
  EnsureDirectoryExists : State → String → Option State
  symlink_made : ∀ state after target path, symlink state target path = some after →
    lstat after path = some (.link target)
  /-- A link to a place below itself leads nowhere. -/
  opendir_loop : ∀ state path name, lstat state path = some (.link (path ++ "/" ++ name)) →
    opendir state path = none

namespace FileSystem

variable {State Contents : Type} (fs : FileSystem State Contents)

abbrev Result (State : Type) := Bool × State

def Artifacts (state : State) : List String → Option (List String)
  | [] => some []
  | path :: rest => do
    let names ← fs.opendir state path
    let more ← Artifacts state rest
    return names ++ more

def FileReader (state : State) (artifact_name : String) : List String → Option Contents
  | [] => none
  | path :: rest =>
    let zip_path_attempt := path ++ "/" ++ artifact_name
    if fs.stat state zip_path_attempt then fs.read state zip_path_attempt
    else FileReader state artifact_name rest

/-- The path to write to goes by the same name as the directory of the loop, and is not used. -/
def ArtifactToFile (state : State) (artifact : String) : List String → Result State
  | [] => (false, state)
  | path :: rest =>
    let source := path ++ "/" ++ artifact
    if fs.stat state source then
      match fs.symlink (fs.unlink state path) source path with
      | some after => (true, after)
      | none => (false, fs.unlink state path)
    else ArtifactToFile state artifact rest

def DownloadFile (Dirname : String → String) (paths : List String)
    (target_directory artifact_name : String) (state : State) : Result State :=
  match fs.Artifacts state paths with
  | none => (false, state)
  | some artifacts =>
    if artifact_name ∈ artifacts then
      let target_filepath := target_directory ++ "/" ++ artifact_name
      match fs.EnsureDirectoryExists state (Dirname target_filepath) with
      | none => (false, state)
      | some state => fs.ArtifactToFile state artifact_name paths
    else (false, state)

/-- A listed directory is as it was: what it is, what is in it, and the artifact. -/
structure Unchanged (artifact_name : String) (before after : State) (path : String) : Prop where
  lstat : fs.lstat after path = fs.lstat before path
  opendir : fs.opendir after path = fs.opendir before path
  stat : fs.stat after (path ++ "/" ++ artifact_name) = fs.stat before (path ++ "/" ++ artifact_name)
  read : fs.read after (path ++ "/" ++ artifact_name) = fs.read before (path ++ "/" ++ artifact_name)

def Has (state : State) (artifact_name path : String) : Prop :=
  fs.stat state (path ++ "/" ++ artifact_name) = true
  deriving Decidable

/-- The target has what the first directory with the artifact has, and the directories stay. -/
structure Downloads (paths : List String) (target_directory artifact_name : String)
    (before : State) (result : Result State) : Prop where
  succeeds : result.1 = true ↔ ∃ path ∈ paths, fs.Has before artifact_name path
  contents : result.1 = true → fs.read result.2 (target_directory ++ "/" ++ artifact_name) =
    fs.FileReader before artifact_name paths
  unchanged : ∀ path ∈ paths, fs.Unchanged artifact_name before result.2 path

variable {fs} {Dirname : String → String} {paths : List String} {state before : State}
  {artifact_name target_directory : String}

theorem ArtifactToFile_missing (missing : ∀ path ∈ paths, ¬fs.Has state artifact_name path) :
    fs.ArtifactToFile state artifact_name paths = (false, state) := by
  induction paths with
  | nil => rfl
  | cons path rest ih =>
    have first : ¬fs.stat state (path ++ "/" ++ artifact_name) = true :=
      missing path mem_cons_self
    rw [ArtifactToFile, if_neg first]
    exact ih fun other among => missing other (mem_cons_of_mem _ among)

theorem ArtifactToFile_replaces
    (linked : ∀ path ∈ paths, fs.lstat state path ≠ some (.link (path ++ "/" ++ artifact_name)))
    (done : (fs.ArtifactToFile state artifact_name paths).1 = true) :
    ∃ path ∈ paths,
      fs.lstat (fs.ArtifactToFile state artifact_name paths).2 path ≠ fs.lstat state path := by
  induction paths with
  | nil => cases done
  | cons path rest ih =>
    rw [ArtifactToFile] at done ⊢
    by_cases has : fs.stat state (path ++ "/" ++ artifact_name) = true
    · rw [if_pos has] at done ⊢
      cases made : fs.symlink (fs.unlink state path) (path ++ "/" ++ artifact_name) path with
      | none =>
        rw [made] at done
        cases done
      | some after =>
        refine ⟨path, mem_cons_self, ?_⟩
        rw [fs.symlink_made _ _ _ _ made]
        exact fun same => linked path mem_cons_self same.symm
    · rw [if_neg has] at done ⊢
      obtain ⟨other, among, differs⟩ :=
        ih (fun other among => linked other (mem_cons_of_mem _ among)) done
      exact ⟨other, mem_cons_of_mem _ among, differs⟩

theorem Downloads.missing (readable : ∀ path ∈ paths, (fs.opendir before path).isSome)
    (outside : ∀ state, fs.EnsureDirectoryExists before
      (Dirname (target_directory ++ "/" ++ artifact_name)) = some state →
      ∀ path ∈ paths, fs.Unchanged artifact_name before state path)
    (downloads : fs.Downloads paths target_directory artifact_name before
      (fs.DownloadFile Dirname paths target_directory artifact_name before)) :
    ¬∃ path ∈ paths, fs.Has before artifact_name path := by
  intro has
  have done := downloads.succeeds.mpr has
  have unchanged := downloads.unchanged
  unfold DownloadFile at done unchanged
  cases listed : fs.Artifacts before paths with
  | none =>
    rw [listed] at done
    cases done
  | some artifacts =>
    rw [listed] at done unchanged
    dsimp only at done unchanged
    split at done
    · rename_i named
      rw [if_pos named] at unchanged
      cases ensured : fs.EnsureDirectoryExists before
          (Dirname (target_directory ++ "/" ++ artifact_name)) with
      | none =>
        rw [ensured] at done
        cases done
      | some state =>
        rw [ensured] at done unchanged
        have kept := outside state ensured
        obtain ⟨path, among, differs⟩ := ArtifactToFile_replaces (fun path among linked => by
          have loops := fs.opendir_loop before path artifact_name
            ((kept path among).lstat.symm.trans linked)
          have open_ := readable path among
          rw [loops] at open_
          cases open_) done
        exact differs ((unchanged path among).lstat.trans (kept path among).lstat.symm)
    · cases done

/-- A directory build is downloaded from as it should be exactly where it has no such artifact. -/
theorem directory_build_downloads (fs : FileSystem State Contents) (Dirname : String → String)
    (paths : List String) (target_directory artifact_name : String) (before : State)
    (readable : ∀ path ∈ paths, (fs.opendir before path).isSome)
    (outside : ∀ state, fs.EnsureDirectoryExists before
      (Dirname (target_directory ++ "/" ++ artifact_name)) = some state →
      ∀ path ∈ paths, fs.Unchanged artifact_name before state path) :
    fs.Downloads paths target_directory artifact_name before
        (fs.DownloadFile Dirname paths target_directory artifact_name before) ↔
      ¬∃ path ∈ paths, fs.Has before artifact_name path := by
  constructor
  · exact Downloads.missing readable outside
  · intro missing
    have failed : (fs.DownloadFile Dirname paths target_directory artifact_name before).1 = false ∧
        ∀ path ∈ paths, fs.Unchanged artifact_name before
          (fs.DownloadFile Dirname paths target_directory artifact_name before).2 path := by
      unfold DownloadFile
      cases fs.Artifacts before paths with
      | none => exact ⟨rfl, fun path among => ⟨rfl, rfl, rfl, rfl⟩⟩
      | some artifacts =>
        dsimp only
        split
        · cases ensured : fs.EnsureDirectoryExists before
              (Dirname (target_directory ++ "/" ++ artifact_name)) with
          | none => exact ⟨rfl, fun path among => ⟨rfl, rfl, rfl, rfl⟩⟩
          | some state =>
            have kept := outside state ensured
            have nowhere := @ArtifactToFile_missing _ _ fs paths state artifact_name
              fun path among has => missing ⟨path, among, (kept path among).stat.symm.trans has⟩
            dsimp only
            rw [nowhere]
            exact ⟨rfl, kept⟩
        · exact ⟨rfl, fun path among => ⟨rfl, rfl, rfl, rfl⟩⟩
    refine ⟨iff_of_false (fun done => ?_) missing, fun done => ?_, failed.2⟩
    · cases failed.1.symm.trans done
    · cases failed.1.symm.trans done

inductive Node where
  | directory (names : List String)
  | file (text : String)
  | link (target : String)

/-- A file system whose links are not followed. -/
def plainFiles : FileSystem (List (String × Node)) String where
  opendir state path :=
    match state.lookup path with
    | some (.directory names) => some names
    | _ => none
  stat state path :=
    match state.lookup path with
    | some (.directory _) | some (.file _) => true
    | _ => false
  read state path :=
    match state.lookup path with
    | some (.file text) => some text
    | _ => none
  lstat state path := (state.lookup path).map fun
    | .directory _ => .directory
    | .file _ => .other
    | .link target => .link target
  unlink state path :=
    match state.lookup path with
    | some (.directory _) => state
    | _ => state.filter (·.1 ≠ path)
  symlink state target path :=
    if (state.lookup path).isSome then none else some ((path, .link target) :: state)
  EnsureDirectoryExists state path :=
    some (if (state.lookup path).isSome then state else (path, .directory []) :: state)
  symlink_made state after target path made := by
    split at made
    · cases made
    · cases made
      simp
  opendir_loop state path name linked := by
    cases found : state.lookup path with
    | none => rfl
    | some node => cases node <;> simp_all

def buildOutput : List (String × Node) :=
  [("/build", .directory [".", "..", "boot.img"]), ("/build/boot.img", .file "boot")]

theorem buildOutput_outside : ∀ state,
    plainFiles.EnsureDirectoryExists buildOutput "/out" = some state →
    ∀ path ∈ ["/build"], ∀ name ∈ ["boot.img", "super.img"],
      plainFiles.Unchanged name buildOutput state path := by
  rintro state ⟨⟩ path among name among'
  simp only [mem_cons, not_mem_nil, or_false] at among among'
  rcases among' with rfl | rfl <;> subst among <;> exact ⟨by decide, by decide, by decide, by decide⟩

/-- An artifact that the directory does not have. -/
theorem directory_build_downloads_missing :
    plainFiles.Downloads ["/build"] "/out" "super.img" buildOutput
      (plainFiles.DownloadFile (fun _ => "/out") ["/build"] "/out" "super.img" buildOutput) :=
  (directory_build_downloads plainFiles (fun _ => "/out") ["/build"] "/out" "super.img" buildOutput
    (by decide) fun state ensured path among =>
      buildOutput_outside state ensured path among _ (by decide)).mpr (by
    rintro ⟨path, among, has⟩
    rw [mem_singleton] at among
    subst among
    revert has
    decide)

/-- An artifact that is there cannot be downloaded. -/
theorem artifact_not_linked :
    plainFiles.DownloadFile (fun _ => "/out") ["/build"] "/out" "boot.img" buildOutput =
        (false, ("/out", .directory []) :: buildOutput) ∧
      ¬∀ (State Contents : Type) (fs : FileSystem State Contents) (Dirname : String → String)
        (paths : List String) (target_directory artifact_name : String) (before : State),
        (∀ path ∈ paths, (fs.opendir before path).isSome) →
        (∀ state, fs.EnsureDirectoryExists before
          (Dirname (target_directory ++ "/" ++ artifact_name)) = some state →
          ∀ path ∈ paths, fs.Unchanged artifact_name before state path) →
        fs.Downloads paths target_directory artifact_name before
          (fs.DownloadFile Dirname paths target_directory artifact_name before) := by
  refine ⟨rfl, fun all => ?_⟩
  have outside : ∀ state, plainFiles.EnsureDirectoryExists buildOutput "/out" = some state →
      ∀ path ∈ ["/build"], plainFiles.Unchanged "boot.img" buildOutput state path :=
    fun state ensured path among => buildOutput_outside state ensured path among _ (by decide)
  have downloads := all _ _ plainFiles (fun _ => "/out") ["/build"] "/out" "boot.img" buildOutput
    (by decide) outside
  exact downloads.missing (by decide) outside ⟨"/build", by decide, by decide⟩

end FileSystem

end Ika.Web
