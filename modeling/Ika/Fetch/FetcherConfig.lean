import Mathlib.Data.List.Infix
import Ika.Foundation.Machine
import Ika.Io.Chroot

/-! The config that lists what was fetched: the keys its files are listed under, the operations on
artifacts that list them, and its relocation when it is loaded.

Where a file is, is what its path means; the config has texts. What the operations created is kept
beside the config, to be compared with it.
-/

set_option autoImplicit false

namespace Ika.Fetch

open Transition Ika.Io.Chroot List Function Option

inductive FileSource where
  | UNKNOWN_PURPOSE | DEFAULT_BUILD | SYSTEM_BUILD | KERNEL_BUILD | LOCAL_FILE | GENERATED
  | BOOTLOADER_BUILD | ANDROID_EFI_LOADER_BUILD | BOOT_BUILD | HOST_PACKAGE_BUILD | CHROME_OS_BUILD
  | TEST_SUITES_BUILD
  deriving DecidableEq, Repr

structure CvdFile where
  source : FileSource := .UNKNOWN_PURPOSE
  build_id : List Char := []
  build_target : List Char := []
  file_path : List Char := []
  archive_source : List Char := []
  archive_path : List Char := []
  deriving DecidableEq, Repr

/-! ## Keys -/

def replaceSlashes : List Char → List Char
  | '/' :: '/' :: rest => '/' :: replaceSlashes rest
  | char :: rest => char :: replaceSlashes rest
  | [] => []

/-- The loop of `NormalizePath`. The bound is on the length of the path. -/
def collapse : Nat → List Char → List Char
  | 0, path => path
  | bound + 1, path => if ['/', '/'] <:+: path then collapse bound (replaceSlashes path) else path

def NormalizePath (path : List Char) : Option (List Char) :=
  if ['.', '.'] <:+: path then none else some (collapse path.length path)

def StripPrefix (text start : List Char) : List Char :=
  if start <+: text then text.drop start.length else text

def BuildFetcherConfigMember (file : CvdFile) (path directory_prefix : List Char) :
    Option CvdFile :=
  if directory_prefix <+: path then
    let local_path := (path.drop directory_prefix.length).dropWhile (· = '/')
    (NormalizePath local_path).map fun normalized => {file with file_path := normalized}
  -- A path elsewhere is only logged, and an empty member comes of it.
  else some {}

variable (before : List Char) (bound : Nat)

theorem StrSplit_append (after : List Char) :
    StrSplit (before ++ '/' :: after) = StrSplit before ++ StrSplit after := by
  simp only [StrSplit, splitOn_append_cons_self, filter_append]

section

variable (path : List Char)
include path

theorem StrSplit_replaceSlashes :
    StrSplit (before ++ replaceSlashes path) = StrSplit (before ++ path) := by
  fun_induction replaceSlashes path generalizing before with
  | case1 rest ih =>
    have := ih []
    simp only [nil_append] at this
    simp only [StrSplit_append, StrSplit_slash, this]
  | case2 char rest _ ih => simpa using ih (before ++ [char])
  | case3 => rfl

theorem StrSplit_collapse : StrSplit (collapse bound path) = StrSplit path := by
  induction bound generalizing path with
  | zero => rfl
  | succ bound ih =>
    unfold collapse
    split_ifs
    · rw [ih]
      exact StrSplit_replaceSlashes [] path
    · rfl

theorem length_replaceSlashes :
    (replaceSlashes path).length ≤ path.length ∧
      (['/', '/'] <:+: path → (replaceSlashes path).length < path.length) := by
  fun_induction replaceSlashes path with
  | case1 rest ih =>
    have := ih.1
    simp only [length_cons]
    exact ⟨by omega, fun _ => by omega⟩
  | case2 char rest other ih =>
    simp only [length_cons]
    refine ⟨by have := ih.1; omega, fun twice => ?_⟩
    have further : ['/', '/'] <:+: rest := by
      rcases infix_cons_iff.mp twice with first | further
      · obtain ⟨tail, same⟩ := first
        simp only [cons_append, nil_append, List.cons.injEq] at same
        obtain ⟨rfl, rfl⟩ := same
        exact absurd rfl (other tail rfl)
      · exact further
    have := ih.2 further
    omega
  | case3 => simp

theorem collapse_single (fits : path.length ≤ bound) : ¬ ['/', '/'] <:+: collapse bound path := by
  induction bound generalizing path with
  | zero =>
    have none : path = [] := length_eq_zero_iff.mp (Nat.le_zero.mp fits)
    subst none
    decide
  | succ bound ih =>
    unfold collapse
    split_ifs with twice
    · have := (length_replaceSlashes path).2 twice
      exact ih _ (by omega)
    · exact twice

@[simp] theorem head?_replaceSlashes : (replaceSlashes path).head? = path.head? := by
  fun_cases replaceSlashes path <;> rfl

@[simp] theorem getLast?_replaceSlashes : (replaceSlashes path).getLast? = path.getLast? := by
  fun_induction replaceSlashes path with
  | case1 rest ih => simp [getLast?_cons, ih]
  | case2 char rest _ ih => simp [getLast?_cons, ih]
  | case3 => rfl

end

theorem StrSplit_single {member : List Char} (single : '/' ∉ member) (filled : member ≠ []) :
    StrSplit member = [member] := by
  simp [StrSplit, splitOn_eq_singleton single, filled]

theorem StrJoin_StrSplit (path : List Char) (member : '/' ∉ before)
    (single : ¬ ['/', '/'] <:+: path) (front : before = [] → path.head? ≠ some '/')
    (back : path.getLast? ≠ some '/') : StrJoin (StrSplit (before ++ path)) = before ++ path := by
  induction path generalizing before with
  | nil =>
    by_cases none : before = []
    · simp [none, StrSplit, StrJoin]
    · simp [StrSplit_single member none, StrJoin]
  | cons char rest ih =>
    have later : ¬ ['/', '/'] <:+: rest := fun twice => single (infix_cons twice)
    by_cases slash : char = '/'
    · -- `before` is a whole member, and the rest is split by itself.
      subst slash
      have filled : before ≠ [] := fun none => front none rfl
      have more : rest ≠ [] := by
        rintro rfl
        exact back rfl
      have other : rest.head? ≠ some '/' := by
        intro again
        obtain ⟨tail, rfl⟩ := head?_eq_some_iff.mp again
        exact single ⟨[], tail, rfl⟩
      have last : rest.getLast? ≠ some '/' := by
        rwa [getLast?_cons_of_ne_nil more] at back
      have joined := ih [] (by simp) later (fun _ => other) last
      rw [nil_append] at joined
      have members : StrSplit rest ≠ [] := by
        intro none
        rw [none] at joined
        exact more joined.symm
      have front := @Splitting.intercalate_append _ '/' [before] _ members
      rw [StrSplit_append, StrSplit_single member filled, StrJoin, front]
      rw [StrJoin] at joined
      simp [Splitting.closed, joined]
    · have last : rest.getLast? ≠ some '/' := by
        by_cases none : rest = []
        · simp [none]
        · rwa [getLast?_cons_of_ne_nil none] at back
      have joined := ih (before ++ [char]) (by simp [member, Ne.symm slash]) later (by simp) last
      simpa using joined

theorem collapse_eq (path : List Char) (fits : path.length ≤ bound)
    (front : path.head? ≠ some '/') (back : path.getLast? ≠ some '/') :
    collapse bound path = StrJoin (StrSplit path) := by
  have ends : (collapse bound path).head? = path.head? ∧
      (collapse bound path).getLast? = path.getLast? := by
    clear fits front back
    induction bound generalizing path with
    | zero => exact ⟨rfl, rfl⟩
    | succ bound ih =>
      unfold collapse
      split_ifs
      · simpa using ih (replaceSlashes path)
      · exact ⟨rfl, rfl⟩
  have joined := StrJoin_StrSplit [] (collapse bound path) (by simp)
    (collapse_single bound path fits) (fun _ => ends.1 ▸ front) (ends.2 ▸ back)
  rw [nil_append, StrSplit_collapse] at joined
  exact joined.symm

/-! ## Where a listed file is -/

structure Normal (key : List Char) : Prop where
  named : ∀ member ∈ StrSplit key, Named member
  joined : StrJoin (StrSplit key) = key

def below (root path : List Char) : List Char := (path.drop root.length).dropWhile (· = '/')

def Plain (root path : List Char) : Prop :=
  root ++ ['/'] <+: path ∧ ¬ ['.', '.'] <:+: below root path ∧
    ['.'] ∉ StrSplit (below root path) ∧ ['.', '.'] ∉ StrSplit (below root path) ∧
      (below root path).getLast? ≠ some '/'
  deriving Decidable

theorem StrSplit_dropWhile (path : List Char) :
    StrSplit (path.dropWhile (· = '/')) = StrSplit path := by
  induction path with
  | nil => rfl
  | cons char rest ih =>
    by_cases slash : char = '/'
    · simp [slash, StrSplit_slash, ih]
    · simp [slash]

theorem normal_append (root rest : List Char) (named : ∀ member ∈ StrSplit rest, Named member) :
    normal (root ++ '/' :: rest) = normal root ++ StrSplit rest := by
  rw [normal, splitOn_append_cons_self, foldl_append, ← foldl_enter_filter]
  exact foldl_enter_named named

/-- A plain path is listed under the normal key of the place that it means. -/
theorem Plain.key {root path : List Char} (plain : Plain root path) :
    ∃ key, Normal key ∧ NormalizePath (below root path) = some key ∧
      normal path = normal root ++ StrSplit key := by
  obtain ⟨⟨rest, rfl⟩, single, not_here, not_above, back⟩ := plain
  have whole : below root (root ++ ['/'] ++ rest) = ('/' :: rest).dropWhile (· = '/') := by
    simp [below]
  rw [whole] at single not_here not_above back ⊢
  have members : StrSplit (('/' :: rest).dropWhile (· = '/')) = StrSplit rest := by
    rw [StrSplit_dropWhile, StrSplit_slash]
  rw [members] at not_here not_above
  have named : ∀ member ∈ StrSplit rest, Named member := by
    intro member held
    have split := mem_filter.mp held
    exact ⟨by simpa using split.2, fun same => not_here (same ▸ held),
      fun same => not_above (same ▸ held), Splitting.notMem_of_mem_splitOn split.1⟩
  have front : (('/' :: rest).dropWhile (· = '/')).head? ≠ some '/' := by
    intro slash
    have := head?_dropWhile_not (fun char : Char => decide (char = '/')) ('/' :: rest)
    rw [slash] at this
    simp at this
  refine ⟨StrJoin (StrSplit rest), ⟨?_, ?_⟩, ?_, ?_⟩
  · rwa [StrSplit_StrJoin named]
  · rw [StrSplit_StrJoin named]
  · rw [NormalizePath, if_neg single, collapse_eq _ _ (Nat.le_refl _) front back, members]
  · rw [StrSplit_StrJoin named, append_assoc]
    exact normal_append root rest named

theorem Plain.member {root path key : List Char} (plain : Plain root path)
    (normalized : NormalizePath (below root path) = some key) (file : CvdFile) :
    BuildFetcherConfigMember file path root = some {file with file_path := key} := by
  have start : root <+: path := (prefix_append root ['/']).trans plain.1
  rw [BuildFetcherConfigMember, if_pos start]
  unfold below at normalized
  simp [normalized]

/-! ## Artifacts -/

/-- An artifact, with what its build's context has. -/
structure Artifact where
  artifact_name_ : List Char
  target_directory_ : List Char
  file_source_ : FileSource := .DEFAULT_BUILD
  build_id : List Char := []
  build_target : List Char := []

def Artifact.file (artifact : Artifact) (archive_source archive_path : List Char) : CvdFile :=
  { source := artifact.file_source_, build_id := artifact.build_id
    build_target := artifact.build_target, archive_source, archive_path}

def Artifact.path (artifact : Artifact) (local_path : List Char) : List Char :=
  artifact.target_directory_ ++ '/' :: local_path

def Artifact.downloaded (artifact : Artifact) : Members :=
  normal (artifact.path artifact.artifact_name_)

structure Fetching (Index : Type) where
  cvd_files : Option (List Char → Option CvdFile) := none
  downloaded_path_ : Index → List Char := fun _ => []
  /-- What the operations created and did not delete or move away, at its place. -/
  files : Members → Option CvdFile := fun _ => none

/-- How far an operation comes with its file. -/
inductive Outcome where
  | early | created | moved | done
  deriving DecidableEq, Repr

inductive Operation where
  | DownloadTo (local_path : List Char)
  | ExtractOneTo (member_name local_path : List Char)
  | ExtractAll (local_path : List Char) (members : List (List Char × Option Outcome))
  | DeleteLocalFile

namespace Operation

def Download (artifact : Artifact) : Operation := .DownloadTo artifact.artifact_name_

def ExtractOne (member_name : List Char) : Operation := .ExtractOneTo member_name member_name

end Operation

namespace Fetching

variable {Index : Type}

section Definitions

variable (root : List Char) (artifact : Artifact) (index : Index) (outcome : Outcome)
  (state : Fetching Index)

def listed (key : List Char) : Option CvdFile := state.cvd_files.bind (· key)

def add_cvd_file (file : CvdFile) : Fetching Index :=
  let cvd_files := state.cvd_files.getD fun _ => none
  {state with cvd_files := some (update cvd_files file.file_path (some file))}

def AddFileToConfig (file : List Char) (archive_name archive_path : List Char) :
    Fetching Index × Bool :=
  match BuildFetcherConfigMember (artifact.file archive_name archive_path) file root with
  | none => (state, false)
  | some config_member => (state.add_cvd_file config_member, true)

def put (path : List Char) (file : Option CvdFile) : Fetching Index :=
  {state with files := update state.files (normal path) file}

variable [DecidableEq Index] in
def DownloadTo (local_path : List Char) : Fetching Index × Bool :=
  let new_path := artifact.path local_path
  let downloaded_path_ := state.downloaded_path_ index
  if downloaded_path_ = [] then
    let downloaded := artifact.path artifact.artifact_name_
    let file := artifact.file [] []
    let renamed := (state.put downloaded none).put new_path (some file)
    let renamed := {renamed with
      downloaded_path_ := update state.downloaded_path_ index new_path}
    match outcome with
    | .early => (state, false)
    | .created => (state.put downloaded (some file), false)
    | .moved => (renamed, false)
    | .done => renamed.AddFileToConfig root artifact new_path [] []
  else
    -- A copy of the first download, which is listed once more in its place.
    match state.files (normal downloaded_path_), outcome with
    | none, _ | _, .early => (state, false)
    | some file, .created | some file, .moved => (state.put new_path (some file), false)
    | some file, .done =>
      (state.put new_path (some file)).AddFileToConfig root artifact downloaded_path_ [] []

def ExtractOneTo (member_name local_path : List Char) : Fetching Index × Bool :=
  let extract_path := artifact.path local_path
  let extracted := state.put extract_path (some (artifact.file artifact.artifact_name_ member_name))
  match outcome with
  | .early => (state, false)
  | .created | .moved => (extracted, false)
  -- The path in the archive is said to be the one it is extracted to.
  | .done => extracted.AddFileToConfig root artifact extract_path artifact.artifact_name_ local_path

def refused (member_name : List Char) : Bool :=
  ['.'] <+: member_name || ['/'] <+: member_name || ['/', '.', '.', '/'] <:+: member_name

def ExtractAll (local_path : List Char) : List (List Char × Option Outcome) → Fetching Index →
    Fetching Index × Bool
  | [], state => (state, true)
  | (member_name, file) :: rest, state =>
    if refused member_name then (state, false)
    else
      match file with
      | none => ExtractAll local_path rest state
      | some outcome =>
        let extracted := state.ExtractOneTo root artifact outcome member_name
          (local_path ++ '/' :: member_name)
        if extracted.2 then ExtractAll local_path rest extracted.1 else extracted

def RemoveFileFromConfig (path : List Char) : Option (Fetching Index) :=
  match state.cvd_files with
  | none => some state
  | some cvd_files =>
    (NormalizePath path).bind fun normalized =>
      if (cvd_files normalized).isSome then
        some {state with cvd_files := some (update cvd_files normalized none)}
      else none

variable [DecidableEq Index] in
def DeleteLocalFile : Fetching Index × Bool :=
  let downloaded_path_ := state.downloaded_path_ index
  if downloaded_path_ = [] then (state, true)
  else if outcome = .early ∨ state.files (normal downloaded_path_) = none then (state, false)
  else
    let config_name := StripPrefix (StripPrefix downloaded_path_ root) ['/']
    let removed := state.put downloaded_path_ none
    match removed.RemoveFileFromConfig config_name with
    | none => (removed, false)
    | some state =>
      ({state with downloaded_path_ := update state.downloaded_path_ index []}, true)

end Definitions

variable (root : List Char) (artifacts : Index → Artifact)

variable [DecidableEq Index] in
def apply (state : Fetching Index) (index : Index) (outcome : Outcome) :
    Operation → Fetching Index × Bool
  | .DownloadTo local_path => state.DownloadTo root (artifacts index) index outcome local_path
  | .ExtractOneTo member_name local_path =>
    state.ExtractOneTo root (artifacts index) outcome member_name local_path
  | .ExtractAll local_path members =>
    if outcome = .early then (state, false)
    else ExtractAll root (artifacts index) local_path members state
  | .DeleteLocalFile => state.DeleteLocalFile root index outcome

variable [DecidableEq Index] in
def machine : Machine (Fetching Index) (Index × Outcome × Operation) where
  init state := state = {}
  step state event := some (state.apply root artifacts event.1 event.2.1 event.2.2).1

/-- The config lists the files that are there and no others, each with where it came from. -/
structure Exact (state : Fetching Index) : Prop where
  listed : ∀ key entry, state.listed key = some entry → Normal key ∧
    ∃ file, state.files (normal root ++ StrSplit key) = some file ∧
      entry = {file with file_path := key}
  there : ∀ place file, state.files place = some file → ∃ key, Normal key ∧
    place = normal root ++ StrSplit key ∧ state.listed key = some {file with file_path := key}

/-- An operation fails only before it comes to a file. -/
def Whole (state : Fetching Index) (index : Index) : Operation → Prop
  | .DownloadTo local_path =>
    state.downloaded_path_ index = [] ∧ Plain root ((artifacts index).path local_path) ∧
        (state.files (artifacts index).downloaded = none ∨
          (artifacts index).downloaded = normal ((artifacts index).path local_path)) ∨
      state.downloaded_path_ index ≠ [] ∧
        state.files (normal ((artifacts index).path local_path)) =
            some ((artifacts index).file [] []) ∧
          state.files (normal (state.downloaded_path_ index)) = some ((artifacts index).file [] [])
  | .ExtractOneTo member_name local_path =>
    Plain root ((artifacts index).path local_path) ∧ local_path = member_name
  | .ExtractAll _ members =>
    ∀ member ∈ members.takeWhile fun member => !refused member.1, member.2 = none
  | .DeleteLocalFile =>
    (state.downloaded_path_ index).drop (root.length + 1) =
      below root (state.downloaded_path_ index)

instance (state : Fetching Index) (index : Index) :
    (operation : Operation) → Decidable (Whole root artifacts state index operation)
  | .DownloadTo _ => inferInstanceAs (Decidable (_ ∨ _))
  | .ExtractOneTo _ _ => inferInstanceAs (Decidable (_ ∧ _))
  | .ExtractAll _ _ => inferInstanceAs (Decidable (∀ member ∈ _, _))
  | .DeleteLocalFile => inferInstanceAs (Decidable (_ = _))

def Allowed (state : Fetching Index) (event : Index × Outcome × Operation) : Prop :=
  event.2.1 = .early ∨ event.2.1 = .done ∧ Whole root artifacts state event.1 event.2.2
  deriving Decidable

variable {root artifacts} {state after : Fetching Index}

theorem listed_add_cvd_file (file : CvdFile) (key : List Char) :
    (state.add_cvd_file file).listed key =
      if key = file.file_path then some file else state.listed key := by
  cases none : state.cvd_files <;> by_cases same : key = file.file_path <;>
    simp [listed, add_cvd_file, none, same]

theorem Exact.put (exact : state.Exact root) {key : List Char} (normal_key : Normal key)
    (file : Option CvdFile)
    (files : after.files = update state.files (normal root ++ StrSplit key) file)
    (listed : ∀ other, after.listed other =
      if other = key then file.map fun file => {file with file_path := key}
      else state.listed other) : after.Exact root := by
  have apart {other : List Char} (normal_other : Normal other) (differs : other ≠ key) :
      normal root ++ StrSplit other ≠ normal root ++ StrSplit key := by
    intro same
    have members := append_cancel_left same
    exact differs (by rw [← normal_other.joined, members, normal_key.joined])
  constructor
  · intro other entry found
    rw [listed] at found
    split_ifs at found with same
    · subst same
      obtain ⟨file, rfl, rfl⟩ := map_eq_some_iff.mp found
      exact ⟨normal_key, file, by rw [files, update_self], rfl⟩
    · obtain ⟨normal_other, file, there, equal⟩ := exact.listed other entry found
      exact ⟨normal_other, file, by rwa [files, update_of_ne (apart normal_other same)],
        equal⟩
  · intro place held found
    rw [files] at found
    by_cases same : place = normal root ++ StrSplit key
    · subst same
      rw [update_self] at found
      subst found
      exact ⟨key, normal_key, rfl, by simp [listed]⟩
    · rw [update_of_ne same] at found
      obtain ⟨other, normal_other, rfl, entry⟩ := exact.there place held found
      have differs : other ≠ key := fun equal => same (by rw [equal])
      exact ⟨other, normal_other, rfl, by rw [listed, if_neg differs, entry]⟩

theorem Exact.entry (exact : state.Exact root) {key : List Char} (normal_key : Normal key)
    {file : CvdFile} (there : state.files (normal root ++ StrSplit key) = some file) :
    state.listed key = some {file with file_path := key} := by
  obtain ⟨other, normal_other, same, entry⟩ := exact.there _ file there
  have members := append_cancel_left same
  have equal : key = other := by
    rw [← normal_key.joined, members, normal_other.joined]
  rw [equal]
  exact entry

structure Kept (root : List Char) (state : Fetching Index) : Prop where
  exact : state.Exact root
  plain : ∀ index, state.downloaded_path_ index ≠ [] → Plain root (state.downloaded_path_ index)

theorem Kept.AddFileToConfig (kept : state.Kept root) {path : List Char}
    (plain : Plain root path) (artifact : Artifact) (archive_name archive_path : List Char)
    (files : after.files = update state.files (normal path)
      (some (artifact.file archive_name archive_path)))
    (cvd_files : after.cvd_files = state.cvd_files)
    (downloaded : ∀ index, after.downloaded_path_ index ≠ [] →
      Plain root (after.downloaded_path_ index)) :
    (after.AddFileToConfig root artifact path archive_name archive_path).1.Kept root := by
  obtain ⟨key, normal_key, normalized, place⟩ := plain.key
  rw [Fetching.AddFileToConfig, plain.member normalized]
  refine ⟨kept.exact.put normal_key (some (artifact.file archive_name archive_path)) ?_ ?_,
    downloaded⟩
  · rw [← place]
    exact files
  · intro other
    rw [listed_add_cvd_file]
    simp only [map_some, listed, cvd_files]

variable [DecidableEq Index] in
theorem Kept.DownloadTo (kept : state.Kept root) {index : Index} {local_path : List Char}
    (whole : Whole root artifacts state index (.DownloadTo local_path)) :
    (state.DownloadTo root (artifacts index) index .done local_path).1.Kept root := by
  simp only [Whole] at whole
  simp only [Fetching.DownloadTo]
  rcases whole with ⟨first, plain, free⟩ | ⟨later, new, old⟩
  · -- Where it is downloaded to there is nothing, or it is where it stays.
    rw [if_pos first]
    unfold Artifact.downloaded at free
    refine kept.AddFileToConfig plain _ _ _ ?_ rfl fun other some => ?_
    · rcases free with none | same
      · simp only [put, ← none, update_eq_self]
      · simp only [put, same, update_idem]
    · by_cases own : other = index
      · simpa [own] using plain
      · simp only [update_of_ne own] at some ⊢
        exact kept.plain other some
  · simp only [if_neg later, old]
    refine kept.AddFileToConfig (kept.plain index later) _ _ _ ?_ rfl kept.plain
    have copied := update_eq_self (normal ((artifacts index).path local_path)) state.files
    have listed := update_eq_self (normal (state.downloaded_path_ index)) state.files
    rw [new] at copied
    rw [old] at listed
    simp only [put, copied, listed]

theorem Kept.ExtractOneTo (kept : state.Kept root) {artifact : Artifact}
    {member_name : List Char} (plain : Plain root (artifact.path member_name)) :
    (state.ExtractOneTo root artifact .done member_name member_name).1.Kept root :=
  kept.AddFileToConfig plain _ _ _ rfl rfl kept.plain

variable (root state) in
theorem ExtractAll_directories (artifact : Artifact) (local_path : List Char)
    (members : List (List Char × Option Outcome))
    (directories : ∀ member ∈ members.takeWhile fun member => !refused member.1, member.2 = none) :
    (ExtractAll root artifact local_path members state).1 = state := by
  induction members with
  | nil => rfl
  | cons member rest ih =>
    obtain ⟨member_name, file⟩ := member
    unfold ExtractAll
    split_ifs with no
    · rfl
    · have first : (member_name, file) ∈
          ((member_name, file) :: rest).takeWhile fun member => !refused member.1 := by
        simp [no]
      have directory : file = none := directories _ first
      subst directory
      refine ih fun member held => directories member ?_
      simpa [no] using .inr held

variable [DecidableEq Index] in
theorem Kept.DeleteLocalFile (kept : state.Kept root) {index : Index}
    (whole : Whole root artifacts state index .DeleteLocalFile) :
    (state.DeleteLocalFile root index .done).1.Kept root := by
  simp only [Fetching.DeleteLocalFile]
  split_ifs with empty failed
  · exact kept
  · exact kept
  · have plain := kept.plain index empty
    obtain ⟨key, normal_key, normalized, place⟩ := plain.key
    obtain ⟨file, there⟩ : ∃ file,
        state.files (normal (state.downloaded_path_ index)) = some file :=
      Option.ne_none_iff_exists'.mp fun none => failed (.inr none)
    have entry := kept.exact.entry normal_key (place ▸ there)
    -- The name under which the file is looked for is the one it is listed under.
    have name : StripPrefix (StripPrefix (state.downloaded_path_ index) root) ['/'] =
        below root (state.downloaded_path_ index) := by
      simp only [Whole] at whole
      obtain ⟨rest, path⟩ := plain.1
      rw [← whole, ← path]
      simp [StripPrefix]
    obtain ⟨cvd_files, some, member⟩ := bind_eq_some_iff.mp entry
    have removed : (state.put (state.downloaded_path_ index) none).RemoveFileFromConfig
        (below root (state.downloaded_path_ index)) = .some
          { state.put (state.downloaded_path_ index) none with
            cvd_files := .some (update cvd_files key none)} := by
      simp [RemoveFileFromConfig, put, some, normalized, member]
    rw [name, removed]
    refine ⟨kept.exact.put normal_key none ?_ fun other => ?_, fun other some => ?_⟩
    · simp only [put, place]
    · by_cases same : other = key <;> simp [listed, same, some]
    · by_cases own : other = index
      · simp [own] at some
      · simp only [put, update_of_ne own] at some ⊢
        exact kept.plain other some

variable [DecidableEq Index] in
theorem apply_early (index : Index) (operation : Operation) :
    (state.apply root artifacts index .early operation).1 = state := by
  cases operation with
  | DownloadTo local_path =>
    simp only [apply, DownloadTo]
    split_ifs
    · rfl
    · cases state.files (normal (state.downloaded_path_ index)) <;> rfl
  | ExtractOneTo member_name local_path => rfl
  | ExtractAll local_path members => rfl
  | DeleteLocalFile =>
    simp only [apply, DeleteLocalFile]
    split_ifs with empty late
    · rfl
    · rfl
    · exact absurd (.inl trivial) late

variable [DecidableEq Index] in
theorem exact_kept (reached : (machine root artifacts).Reaches (Allowed root artifacts) state) :
    state.Exact root := by
  suffices kept : state.Kept root from kept.exact
  refine reached.invariant ?_ ?_
  · rintro _ rfl
    exact ⟨⟨fun _ _ found => (by cases found), fun _ _ found => (by cases found)⟩,
      fun _ some => absurd rfl some⟩
  · rintro state ⟨index, outcome, operation⟩ after kept allowed moved
    cases moved
    rcases allowed with early | ⟨finished, whole⟩
    · obtain rfl : outcome = .early := early
      rw [apply_early]
      exact kept
    · obtain rfl : outcome = .done := finished
      cases operation with
      | DownloadTo local_path => exact kept.DownloadTo whole
      | ExtractOneTo member_name local_path =>
        obtain ⟨plain, rfl⟩ := whole
        exact kept.ExtractOneTo plain
      | ExtractAll local_path members =>
        have unchanged :=
          ExtractAll_directories root state (artifacts index) local_path members whole
        change (ExtractAll root (artifacts index) local_path members state).1.Kept root
        rw [unchanged]
        exact kept
      | DeleteLocalFile => exact kept.DeleteLocalFile whole

end Fetching

/-! ## Relocation -/

/-- The saved files of a config, with the names of its members as they are enumerated. -/
structure Saved where
  cvd_files : List Char → Option CvdFile
  getMemberNames : List (List Char)
  sorted : getMemberNames.Pairwise (· < ·)
  members : ∀ name, name ∈ getMemberNames ↔ (cvd_files name).isSome

def adjust (base_dir : List Char) (cvd_files : List Char → Option CvdFile) (name : List Char) :
    List Char → Option CvdFile :=
  update (update cvd_files (base_dir ++ '/' :: name) (cvd_files name)) name none

def LoadFromFile (base_dir : List Char) (saved : Saved) : List Char → Option CvdFile :=
  if base_dir = ['.'] then saved.cvd_files
  else saved.getMemberNames.foldl (adjust base_dir) saved.cvd_files

def Relocated (base_dir : List Char) (saved : Saved) (loaded : List Char → Option CvdFile) : Prop :=
  (∀ name, loaded (base_dir ++ '/' :: name) = saved.cvd_files name) ∧
    ∀ key, (∀ name, key ≠ base_dir ++ '/' :: name) → loaded key = none

def Clear (base_dir : List Char) (saved : Saved) : Prop :=
  ∀ name ∈ saved.getMemberNames, base_dir ++ '/' :: name ∈ saved.getMemberNames →
    ¬ name < base_dir ++ '/' :: name

section Relocation

variable {base_dir : List Char}

theorem moved_ne (name : List Char) : base_dir ++ '/' :: name ≠ name := by
  intro same
  have := congrArg List.length same
  simp at this
  omega

theorem moved_inj {first second : List Char}
    (same : base_dir ++ '/' :: first = base_dir ++ '/' :: second) : first = second :=
  tail_eq_of_cons_eq (append_cancel_left same)

/-- With some of the names moved, those are in the directory, and the others where they were. -/
structure Partly (base_dir : List Char) (saved : Saved) (done : List (List Char))
    (cvd_files : List Char → Option CvdFile) : Prop where
  there : ∀ name ∈ done, cvd_files (base_dir ++ '/' :: name) = saved.cvd_files name
  gone : ∀ key, (∀ name ∈ done, key ≠ base_dir ++ '/' :: name) →
    cvd_files key = if key ∈ done then none else saved.cvd_files key

variable {saved : Saved} {cvd_files : List Char → Option CvdFile}

theorem Partly.adjust {done : List (List Char)} (partly : Partly base_dir saved done cvd_files)
    {name : List Char} (new : name ∉ done)
    (clear : ∀ before ∈ done, name ≠ base_dir ++ '/' :: before) :
    Partly base_dir saved (done ++ [name]) (Fetch.adjust base_dir cvd_files name) := by
  have stays (key : List Char) (here : key ≠ name) (there : key ≠ base_dir ++ '/' :: name) :
      Fetch.adjust base_dir cvd_files name key = cvd_files key := by
    rw [Fetch.adjust, update_of_ne here, update_of_ne there]
  constructor
  · intro other among
    rcases mem_append.mp among with before | last
    · rw [stays _ (clear other before).symm fun same => new (moved_inj same ▸ before)]
      exact partly.there other before
    · obtain rfl := mem_singleton.mp last
      rw [Fetch.adjust, update_of_ne (moved_ne other), update_self,
        partly.gone other clear, if_neg new]
  · intro key elsewhere
    have apart := elsewhere name (by simp)
    by_cases same : key = name
    · simp [same, Fetch.adjust]
    · rw [stays key same apart,
        partly.gone key fun before among => elsewhere before (by simp [among])]
      simp [same]

theorem foldl_adjust (clear : Clear base_dir saved) (done rest : List (List Char))
    (names : saved.getMemberNames = done ++ rest) (partly : Partly base_dir saved done cvd_files) :
    Partly base_dir saved saved.getMemberNames (rest.foldl (adjust base_dir) cvd_files) := by
  induction rest generalizing done cvd_files with
  | nil =>
    rw [names, append_nil]
    exact partly
  | cons name rest ih =>
    have earlier : ∀ before ∈ done, before < name := by
      have sorted := saved.sorted
      rw [names] at sorted
      exact fun before among => (pairwise_append.mp sorted).2.2 before among name (by simp)
    refine ih (done ++ [name]) (by simp [names]) (partly.adjust ?_ ?_)
    · exact fun among => List.lt_irrefl name (earlier name among)
    · rintro before among rfl
      exact clear before (by simp [names, among]) (by simp [names]) (earlier before among)

theorem foldl_adjust_none (key : List Char) (names : List (List Char))
    (none : cvd_files key = none) (apart : ∀ name ∈ names, key ≠ base_dir ++ '/' :: name) :
    names.foldl (adjust base_dir) cvd_files key = .none := by
  induction names generalizing cvd_files with
  | nil => exact none
  | cons name rest ih =>
    refine ih ?_ fun other among => apart other (mem_cons_of_mem _ among)
    by_cases same : key = name
    · simp [same, adjust]
    · rw [adjust, update_of_ne same, update_of_ne (apart name mem_cons_self),
        none]

theorem relocated_iff_clear :
    Relocated base_dir saved (saved.getMemberNames.foldl (adjust base_dir) saved.cvd_files) ↔
      Clear base_dir saved := by
  have absent (key : List Char) (other : key ∉ saved.getMemberNames) :
      saved.cvd_files key = none := by
    rwa [saved.members, Bool.not_eq_true, isSome_eq_false_iff, isNone_iff_eq_none]
      at other
  constructor
  · intro relocated name among moved later
    -- The name that is moved over comes later, and is moved away itself then.
    obtain ⟨before, after, names⟩ := append_of_mem moved
    have sorted := saved.sorted
    rw [names, pairwise_append, pairwise_cons] at sorted
    have apart : ∀ other ∈ after, base_dir ++ '/' :: name ≠ base_dir ++ '/' :: other := by
      intro other held same
      obtain rfl := moved_inj same
      exact List.lt_asymm later (sorted.2.1.1 _ held)
    have kept := relocated.1 name
    rw [names, foldl_append, foldl_cons,
      foldl_adjust_none _ after (by simp [adjust]) apart] at kept
    have some := (saved.members name).mp among
    rw [← kept] at some
    cases some
  · intro clear
    have start : Partly base_dir saved [] saved.cvd_files :=
      ⟨fun _ among => absurd among (by simp), fun key _ => by simp⟩
    have partly := foldl_adjust clear [] saved.getMemberNames rfl start
    refine ⟨fun name => ?_, fun key elsewhere => ?_⟩
    · by_cases among : name ∈ saved.getMemberNames
      · exact partly.there name among
      · rw [partly.gone _ fun other held same => among (by rwa [moved_inj same]),
          absent name among]
        split_ifs with moved
        · rfl
        · exact absent _ moved
    · rw [partly.gone key fun name _ => elsewhere name]
      split_ifs with among
      · rfl
      · exact absent key among

theorem relocated_here : Relocated ['.'] saved saved.cvd_files ↔ saved.getMemberNames = [] := by
  constructor
  · intro relocated
    -- by the length of a name: in the directory there is a shorter one
    have none (size : Nat) : ∀ name ∈ saved.getMemberNames, name.length ≠ size := by
      induction size using Nat.strong_induction_on with
      | h size ih =>
        rintro name among rfl
        have some := (saved.members name).mp among
        by_cases elsewhere : ∀ other, name ≠ ['.'] ++ '/' :: other
        · rw [relocated.2 name elsewhere] at some
          cases some
        · obtain ⟨other, rfl⟩ := not_forall_not.mp elsewhere
          rw [relocated.1 other] at some
          have shorter : other.length < (['.'] ++ '/' :: other).length := by
            simp only [length_append, length_cons]
            omega
          exact ih other.length shorter other ((saved.members other).mpr some) rfl
    exact eq_nil_iff_forall_not_mem.mpr fun name among => none _ name among rfl
  · intro none
    have absent (key : List Char) : saved.cvd_files key = .none := by
      have other : key ∉ saved.getMemberNames := by simp [none]
      rwa [saved.members, Bool.not_eq_true, isSome_eq_false_iff,
        isNone_iff_eq_none] at other
    exact ⟨fun name => by rw [absent, absent], fun key _ => absent key⟩

end Relocation

/-- The config lists what was fetched in the allowed ways, and is relocated exactly when nothing is
moved over what is still to be moved. -/
theorem fetched_files_listed {Index : Type} [DecidableEq Index] (root : List Char)
    (artifacts : Index → Artifact) :
    (∀ state, (Fetching.machine root artifacts).Reaches (Fetching.Allowed root artifacts) state →
      state.Exact root) ∧
    ∀ base_dir saved, Relocated base_dir saved (LoadFromFile base_dir saved) ↔
      if base_dir = ['.'] then saved.getMemberNames = [] else Clear base_dir saved := by
  refine ⟨fun state reached => Fetching.exact_kept reached, fun base_dir saved => ?_⟩
  unfold LoadFromFile
  split_ifs with here
  · subst here
    exact relocated_here
  · exact relocated_iff_clear

/-- An archive in the directory `/r`. -/
def archive : Artifact where
  artifact_name_ := ['z']
  target_directory_ := ['/', 'r']

theorem fetched_files_listed_extracted : ∃ state : Fetching Unit, state.Exact ['/', 'r'] ∧
    state.listed ['z'] = none ∧ state.listed ['d', '/', 'm'] =
      some { archive.file ['z'] ['d', '/', 'm'] with file_path := ['d', '/', 'm']} := by
  have reached : (Fetching.machine ['/', 'r'] fun _ : Unit => archive).Reaches
      (Fetching.Allowed ['/', 'r'] fun _ : Unit => archive)
      (((Fetching.machine ['/', 'r'] fun _ : Unit => archive).runAllowed
        (Fetching.Allowed ['/', 'r'] fun _ : Unit => archive) {}
        [((), .done, .Download archive), ((), .done, .ExtractOne ['d', '/', 'm']),
          ((), .done, .DeleteLocalFile)]).getD {}) :=
    .getD_runAllowed _ (.start rfl) (by decide)
  exact ⟨_, (fetched_files_listed ['/', 'r'] fun _ : Unit => archive).1 _ reached,
    by decide, by decide⟩

def downloadedTwice : Fetching Unit × Bool :=
  ((({} : Fetching Unit).apply ['/', 'r'] (fun _ => archive) () .done (.DownloadTo ['a'])).1).apply
    ['/', 'r'] (fun _ => archive) () .done (.DownloadTo ['b'])

def extractedAs : Fetching Unit × Bool :=
  ({} : Fetching Unit).apply ['/', 'r'] (fun _ => archive) () .done (.ExtractOneTo ['m'] ['l'])

def twice : Saved where
  cvd_files key := if key ∈ [['A'], ['a', '/', 'A']] then some {} else none
  getMemberNames := [['A'], ['a', '/', 'A']]
  sorted := by decide
  members name := by split_ifs <;> simp_all

theorem config_not_exact :
    downloadedTwice.2 = true ∧ ¬ downloadedTwice.1.Exact ['/', 'r'] ∧
      extractedAs.2 = true ∧ ¬ extractedAs.1.Exact ['/', 'r'] ∧
        ¬ Relocated ['a'] twice (LoadFromFile ['a'] twice) := by
  have there {state : Fetching Unit} {name : List Char} {file : CvdFile}
      (exact : state.Exact ['/', 'r']) (found : state.files [['r'], name] = some file) :
      state.listed name = some {file with file_path := name} := by
    obtain ⟨key, normal_key, place, entry⟩ := exact.there _ file found
    have root : normal ['/', 'r'] = [['r']] := by decide
    rw [root] at place
    have members : StrSplit key = [name] := (List.cons.inj place).2.symm
    have same : key = name := by
      rw [← normal_key.joined, members]
      simp [StrJoin]
    rwa [same] at entry
  refine ⟨by decide, fun exact => ?_, by decide, fun exact => ?_, fun relocated => ?_⟩
  · have found : downloadedTwice.1.files [['r'], ['b']] = some (archive.file [] []) := by decide
    exact absurd (there exact found) (by decide)
  · have found : extractedAs.1.files [['r'], ['l']] = some (archive.file ['z'] ['m']) := by decide
    exact absurd (there exact found) (by decide)
  · exact absurd (relocated.1 ['A']) (by decide)

end Ika.Fetch
