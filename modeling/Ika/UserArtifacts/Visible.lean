import Ika.UserArtifacts.Calls

/-! What holds while calls run: which files are where, and what each call can rely on.

A step is careful when what it creates or opens is where the call is to work, and when a working
directory holds nothing but the chunk's file as it is moved.
-/

set_option autoImplicit false

namespace Ika.UserArtifacts

open Links UserArtifactsManagerImpl List

def LeadsInto (dir : Place) (files : State) (follow : Bool) (path : Place) : Prop :=
  ∀ found ∈ walk files.tree follow maxLinks path.reverse [], dir <:+ found.1
  deriving Decidable

def UpdateCareful (home : Place) (files : State) (checksum : String) (chunk : UserArtifactChunk) :
    UpdateStage → Prop
  | .opening => checksum :: home <:+ Join (checksum :: home) chunk.Name
  | .moving => ∀ name ∈ Disk.names files.disk (checksum :: home),
    Join (checksum :: home) chunk.Name = name :: checksum :: home
  | _ => True

def NextCareful (dir : Place) (files : State) : Next → Prop
  | .header ⟨Name, .TypeReg _ _⟩ =>
    isSafeToExtract dir (Join dir Name) = true → LeadsInto dir files true (Join dir Name)
  | .header ⟨Name, .TypeSymlink _ _⟩ =>
    isSafeToExtract dir (Join dir Name) = true → LeadsInto dir files false (Join dir Name)
  | .zipped Name _ _ _ =>
    isSafeToExtract dir (Join dir Name) = true → LeadsInto dir files true (Join dir Name)
  | _ => True

def ExtractCareful (files : State) (next : Next) : ExtractStage → Prop
  | .extracting dir _ => NextCareful dir files next
  | .descending dir (path :: _) => LeadsInto dir files false path
  | _ => True

def Careful (home : Place) (system : System) : Event → Prop
  | .update checksum _ | .extract checksum => IsChecksum checksum
  | .run pid answer =>
    match system.calls[pid]? with
    | some (.update checksum chunk stage) => UpdateCareful home system.m.files checksum chunk stage
    | some (.extract _ stage) => ExtractCareful system.m.files answer.next stage
    | none => True

section Decidable

variable (dir home path : Place) (files : State)

instance (checksum : String) (chunk : UserArtifactChunk) : (stage : UpdateStage) →
    Decidable (UpdateCareful home files checksum chunk stage)
  | .opening => inferInstanceAs (Decidable (_ <:+ _))
  | .moving => inferInstanceAs (Decidable (∀ name ∈ _, _ = _))
  | .locking | .looking | .making | .copying _ _ _ | .loading | .updating | .asking | .upgrading
  | .lookingAgain | .reopening | .hashing _ | .deleting | .done _ => isTrue trivial

instance : (next : Next) → Decidable (NextCareful dir files next)
  | .header ⟨_, .TypeReg _ _⟩ => inferInstanceAs (Decidable (_ → _))
  | .header ⟨_, .TypeSymlink _ _⟩ => inferInstanceAs (Decidable (_ → _))
  | .header ⟨_, .TypeDir⟩ | .header ⟨_, .other⟩ => isTrue trivial
  | .zipped _ _ _ _ => inferInstanceAs (Decidable (_ → _))
  | .end | .broken => isTrue trivial

instance (next : Next) : (stage : ExtractStage) → Decidable (ExtractCareful files next stage)
  | .extracting _ _ => inferInstanceAs (Decidable (NextCareful _ _ _))
  | .descending _ (_ :: _) => inferInstanceAs (Decidable (LeadsInto _ _ _ _))
  | .descending _ [] => isTrue trivial
  | .looking | .finding | .reading | .making _ | .climbing _ _ _ | .checking _ _ _
  | .unpacking _ _ _ _ _ _ | .moving _ | .done _ => isTrue trivial

instance (system : System) : (event : Event) → Decidable (Careful home system event)
  | .update checksum _ | .extract checksum => inferInstanceAs (Decidable (IsChecksum checksum))
  | .run pid answer =>
    match found : system.calls[pid]? with
    | some (.update checksum chunk stage) =>
      decidable_of_iff (UpdateCareful home system.m.files checksum chunk stage)
        (by rw [Careful, found])
    | some (.extract _ stage) =>
      decidable_of_iff (ExtractCareful system.m.files answer.next stage) (by rw [Careful, found])
    | none => isTrue (by rw [Careful, found]; trivial)

end Decidable

section Invariant

variable (RootDir : Place) (uuid : String) (sha256 : List UInt8 → String)

/-- The artifact is one regular file with the checksum, and nothing else. -/
def Verified (tree : Tree) (checksum : String) : Prop :=
  ∃ name bytes, tree (checksum :: RootDir) = some .dir ∧
    tree (name :: checksum :: RootDir) = some (.file bytes) ∧ checksum = sha256 bytes ∧
      ∀ place, Below RootDir checksum place → tree place ≠ none →
        place = checksum :: RootDir ∨ place = name :: checksum :: RootDir

/-- The working directory holds regular files only. -/
def Working (tree : Tree) (checksum : String) : Prop :=
  (∀ place, Below (uuidWorkDir RootDir uuid) checksum place → tree place = none) ∨
    tree (checksum :: uuidWorkDir RootDir uuid) = some .dir ∧
      ∀ place, Below (uuidWorkDir RootDir uuid) checksum place → tree place ≠ none →
        place = checksum :: uuidWorkDir RootDir uuid ∨
          ∃ name bytes, place = name :: checksum :: uuidWorkDir RootDir uuid ∧
            tree place = some (.file bytes)

structure Files (tree : Tree) : Prop where
  rooted : Rooted (uuidWorkDir RootDir uuid) tree
  artifacts : ∀ checksum, IsChecksum checksum →
    tree (checksum :: RootDir) = none ∨ Verified RootDir sha256 tree checksum
  working : ∀ checksum, IsChecksum checksum → Working RootDir uuid tree checksum

def Named (checksum : String) (chunk : UserArtifactChunk) (name : String) : Prop :=
  Plain name ∧ Join (checksum :: uuidWorkDir RootDir uuid) chunk.Name =
    name :: checksum :: uuidWorkDir RootDir uuid

def UpdateRelies (tree : Tree) (checksum : String) (chunk : UserArtifactChunk) :
    UpdateStage → Prop
  | .opening => tree (checksum :: uuidWorkDir RootDir uuid) = some .dir
  | .copying fd _ _ => ∃ name bytes, Named RootDir uuid checksum chunk name ∧
      fd = name :: checksum :: uuidWorkDir RootDir uuid ∧ tree fd = some (.file bytes)
  | .loading | .updating | .asking | .upgrading | .lookingAgain =>
    ∃ name, Named RootDir uuid checksum chunk name
  | .reopening =>
    (∃ name, Named RootDir uuid checksum chunk name) ∧ tree (checksum :: RootDir) = none
  | .hashing fd => ∃ name bytes, Named RootDir uuid checksum chunk name ∧
      fd = name :: checksum :: uuidWorkDir RootDir uuid ∧ tree fd = some (.file bytes) ∧
        tree (checksum :: RootDir) = none
  | .moving => ∃ name bytes, Named RootDir uuid checksum chunk name ∧
      tree (name :: checksum :: uuidWorkDir RootDir uuid) = some (.file bytes) ∧
        checksum = sha256 bytes ∧ tree (checksum :: RootDir) = none
  | _ => True

def IsTempDir (tree : Tree) (dir : Place) : Prop :=
  ∃ name, IsTempName name ∧ dir = name :: uuidWorkDir RootDir uuid ∧ tree dir = some .dir

def ExtractRelies (tree : Tree) (checksum : String) : ExtractStage → Prop
  | .looking | .finding | .making _ => True
  | .reading => tree (checksum :: RootDir) = some .dir
  | .extracting dir _ | .climbing dir _ _ | .descending dir _ | .checking dir _ _ | .moving dir =>
    IsTempDir RootDir uuid tree dir
  | .unpacking dir _ fd _ _ _ => IsTempDir RootDir uuid tree dir ∧ dir <:+ fd
  | .done error => error ≠ some several

def Call.Relies (tree : Tree) : Call → Prop
  | .update checksum chunk stage =>
    IsChecksum checksum ∧ UpdateRelies RootDir uuid sha256 tree checksum chunk stage
  | .extract checksum stage =>
    IsChecksum checksum ∧ ExtractRelies RootDir uuid tree checksum stage

def ExtractStage.dir : ExtractStage → Option Place
  | .extracting dir _ | .climbing dir .. | .descending dir _ | .checking dir .. | .moving dir
  | .unpacking dir .. => some dir
  | _ => none

def Call.dir : Call → Option Place
  | .update .. => none
  | .extract _ stage => stage.dir

structure Sound (system : System) : Prop where
  files : Files RootDir uuid sha256 system.m.files.tree
  relies : ∀ (pid : Nat) (call : Call), system.calls[pid]? = some call →
    call.Relies RootDir uuid sha256 system.m.files.tree
  exclusive : ∀ (pid other : Nat) (call another : Call) (checksum : String), pid ≠ other →
    system.calls[pid]? = some call → system.calls[other]? = some another →
      call.writes checksum = true →
        another.reads checksum = false ∧ another.writes checksum = false
  apart : ∀ (pid other : Nat) (call another : Call) (dir : Place), pid ≠ other →
    system.calls[pid]? = some call → system.calls[other]? = some another →
      call.dir = some dir → another.dir ≠ some dir

/-- What a step of one call leaves to the others. -/
structure Frame (system : System) (pid : Nat) (after : Tree) : Prop where
  files : Files RootDir uuid sha256 after
  others : ∀ (other : Nat) (call : Call), other ≠ pid → system.calls[other]? = some call →
    call.Relies RootDir uuid sha256 after
  visible : ∀ checksum, IsChecksum checksum →
    system.m.files.tree (checksum :: RootDir) ≠ none →
      ∀ place, Below RootDir checksum place → after place = system.m.files.tree place

end Invariant

section Frames

variable {RootDir : Place} {uuid : String} {sha256 : List UInt8 → String}
variable {tree after : Tree} {checksum : String} {chunk : UserArtifactChunk}

variable {name : String} {stage : UpdateStage} {call : Call} {target : Place}

theorem below_self {home : Place} : Below home name (name :: home) :=
  suffix_rfl

theorem below_child {home : Place} {child : String} :
    Below home name (child :: name :: home) := suffix_cons _ _

theorem Verified.congr (verified : Verified RootDir sha256 tree checksum)
    (same : ∀ place, Below RootDir checksum place → after place = tree place) :
    Verified RootDir sha256 after checksum := by
  obtain ⟨name, bytes, stands, file, right, only⟩ := verified
  refine ⟨name, bytes, ?_, ?_, right, ?_⟩
  · rw [same _ below_self, stands]
  · rw [same _ below_child, file]
  · intro place below found
    rw [same place below] at found
    exact only place below found

theorem Working.congr (working : Working RootDir uuid tree checksum)
    (same : ∀ place, Below (uuidWorkDir RootDir uuid) checksum place → after place = tree place) :
    Working RootDir uuid after checksum := by
  rcases working with missing | ⟨stands, files⟩
  · left
    intro place below
    rw [same place below, missing place below]
  · right
    refine ⟨(same _ below_self).trans stands, ?_⟩
    intro place below found
    rw [same place below] at found ⊢
    exact files place below found

section

variable (relies : UpdateRelies RootDir uuid sha256 tree checksum chunk stage)
include relies

theorem UpdateRelies.congr
    (working : ∀ place, Below (uuidWorkDir RootDir uuid) checksum place → after place = tree place)
    (artifact : after (checksum :: RootDir) = tree (checksum :: RootDir)) :
    UpdateRelies RootDir uuid sha256 after checksum chunk stage := by
  cases stage with
  | opening => exact (working _ below_self).trans relies
  | copying fd offset rest =>
    obtain ⟨name, bytes, named, rfl, stands⟩ := relies
    exact ⟨name, bytes, named, rfl, (working _ below_child).trans stands⟩
  | reopening => exact ⟨relies.1, artifact.trans relies.2⟩
  | hashing fd =>
    obtain ⟨name, bytes, named, rfl, stands, free⟩ := relies
    exact ⟨name, bytes, named, rfl, (working _ below_child).trans stands, artifact.trans free⟩
  | moving =>
    obtain ⟨name, bytes, named, stands, right, free⟩ := relies
    exact ⟨name, bytes, named, (working _ below_child).trans stands, right, artifact.trans free⟩
  | locking | looking | making | loading | updating | asking | upgrading | lookingAgain | deleting
  | done error => exact relies

theorem UpdateRelies.grown (reading : stage.writes = false)
    (dir : tree (checksum :: uuidWorkDir RootDir uuid) = some .dir →
      after (checksum :: uuidWorkDir RootDir uuid) = some .dir)
    (files : ∀ place bytes, tree place = some (.file bytes) →
      ∃ others, after place = some (.file others)) :
    UpdateRelies RootDir uuid sha256 after checksum chunk stage := by
  cases stage with
  | opening => exact dir relies
  | copying fd offset rest =>
    obtain ⟨name, bytes, named, rfl, stands⟩ := relies
    obtain ⟨others, still⟩ := files _ bytes stands
    exact ⟨name, others, named, rfl, still⟩
  | reopening | hashing fd | moving | lookingAgain | deleting => cases reading
  | locking | looking | making | loading | updating | asking | upgrading | done error =>
    exact relies

theorem UpdateRelies.idle (quiet : stage.reads = false) (silent : stage.writes = false) :
    UpdateRelies RootDir uuid sha256 after checksum chunk stage := by
  cases stage with
  | looking | making | opening | copying fd offset rest | loading | updating | asking => cases quiet
  | lookingAgain | reopening | hashing fd | moving | deleting => cases silent
  | locking | upgrading | done error => exact relies

end

theorem ExtractRelies.congr {stage : ExtractStage}
    (relies : ExtractRelies RootDir uuid tree checksum stage)
    (dirs : ∀ name, stage.dir = some (name :: uuidWorkDir RootDir uuid) →
      after (name :: uuidWorkDir RootDir uuid) = tree (name :: uuidWorkDir RootDir uuid))
    (artifact : tree (checksum :: RootDir) = some .dir → after (checksum :: RootDir) = some .dir) :
    ExtractRelies RootDir uuid after checksum stage := by
  have held {dir : Place} (mine : stage.dir = some dir) (made : IsTempDir RootDir uuid tree dir) :
      IsTempDir RootDir uuid after dir := by
    obtain ⟨name, named, rfl, stands⟩ := made
    exact ⟨name, named, rfl, (dirs name mine).trans stands⟩
  cases stage with
  | reading => exact artifact relies
  | extracting dir tar | climbing dir path below | descending dir below | checking dir path below
  | moving dir => exact held rfl relies
  | unpacking dir tar fd offset rest whole => exact ⟨held rfl relies.1, relies.2⟩
  | looking | finding | making file | done error => exact relies

variable {system : System} {pid : Nat}

theorem Sound.same (sound : Sound RootDir uuid sha256 system) (pid : Nat) :
    Frame RootDir uuid sha256 system pid system.m.files.tree where
  files := sound.files
  others other call _ among := sound.relies other call among
  visible _ _ _ _ _ := rfl

theorem Sound.frame (sound : Sound RootDir uuid sha256 system) {artifact : Option String}
    (untouched : Untouched RootDir uuid (some name) artifact system.m.files.tree after)
    (apart : ∀ other ∈ artifact, other ≠ "working")
    (own : ∀ other ∈ artifact, IsChecksum other → other = name ∧
      system.m.files.tree (other :: RootDir) = none ∧ Verified RootDir sha256 after other)
    (working : IsChecksum name → Working RootDir uuid after name)
    (mine : ∀ (other : Nat) (chunk : UserArtifactChunk) (stage : UpdateStage), other ≠ pid →
      system.calls[other]? = some (.update name chunk stage) →
        UpdateRelies RootDir uuid sha256 after name chunk stage)
    (dirs : ∀ (other : Nat) (call : Call), other ≠ pid → system.calls[other]? = some call →
      call.dir ≠ some (name :: uuidWorkDir RootDir uuid)) :
    Frame RootDir uuid sha256 system pid after where
  files :=
    { rooted := untouched.rooted apart sound.files.rooted
      artifacts := by
        intro checksum is
        by_cases new : checksum ∈ artifact
        · exact .inr (own checksum new is).2.2
        · have same (place : Place) (below : Below RootDir checksum place) :=
            untouched.below_artifact new is.ne_working below
          rcases sound.files.artifacts checksum is with missing | verified
          · exact .inl ((same _ below_self).trans missing)
          · exact .inr (verified.congr same)
      working := by
        intro checksum is
        by_cases here : checksum = name
        · subst here
          exact working is
        · apply (sound.files.working checksum is).congr
          intro place below
          exact untouched.below_working apart (fun among => here (Option.some.inj among).symm) below}
  others := by
    intro other call another among
    have before := sound.relies other call among
    cases call with
    | update checksum chunk stage =>
      obtain ⟨is, relies⟩ := before
      refine ⟨is, ?_⟩
      by_cases here : checksum = name
      · subst here
        exact mine other chunk stage another among
      · apply relies.congr
        · intro place below
          exact untouched.below_working apart (fun among => here (Option.some.inj among).symm) below
        · apply untouched.below_artifact _ is.ne_working below_self
          intro new
          exact here (own checksum new is).1
    | extract checksum stage =>
      obtain ⟨is, relies⟩ := before
      refine ⟨is, relies.congr ?_ ?_⟩
      · intro temp held
        apply untouched.below_working apart _ below_self
        intro same
        rw [Option.some.inj same] at dirs
        exact dirs other _ another among held
      · intro stands
        apply (untouched.below_artifact _ is.ne_working below_self).trans stands
        intro new
        rw [(own checksum new is).2.1] at stands
        cases stands
  visible := by
    intro checksum is stands place below
    apply untouched.below_artifact _ is.ne_working below
    intro new
    exact stands (own checksum new is).2.1

structure Proceeds (RootDir : Place) (uuid : String) (sha256 : List UInt8 → String)
    (system : System) (pid : Nat) (call next : Call) (after : Tree) : Prop where
  relies : next.Relies RootDir uuid sha256 after
  /-- A lock is one that it has, or one that nobody is in the way of. -/
  reads : ∀ checksum, next.reads checksum = true → call.reads checksum = true ∨
    ∀ (other : Nat) (another : Call), system.calls[other]? = some another →
      another.writes checksum = false
  writes : ∀ checksum, next.writes checksum = true → call.writes checksum = true ∨
    ∀ (other : Nat) (another : Call), system.calls[other]? = some another →
      another.reads checksum = false ∧ another.writes checksum = false
  dir : ∀ dir, next.dir = some dir → call.dir = some dir ∨
    ∀ (other : Nat) (another : Call), system.calls[other]? = some another →
      another.dir ≠ some dir

theorem Frame.sound (sound : Sound RootDir uuid sha256 system) {m : UserArtifactsManagerImpl}
    {calls : List Call} {next : Call} (frame : Frame RootDir uuid sha256 system pid m.files.tree)
    (found : system.calls[pid]? = some call)
    (ok : Proceeds RootDir uuid sha256 system pid call next m.files.tree)
    (mine : calls[pid]? = some next)
    (others : ∀ other, other ≠ pid → calls[other]? = system.calls[other]?) :
    Sound RootDir uuid sha256 ⟨m, calls⟩ where
  files := frame.files
  relies := by
    intro other another among
    by_cases here : other = pid
    · subst here
      rw [mine] at among
      cases among
      exact ok.relies
    · exact frame.others other another here ((others other here).symm.trans among)
  exclusive := by
    intro one two first second checksum apart among among' writing
    by_cases here : one = pid
    · subst here
      rw [mine] at among
      cases among
      have there := (others two (Ne.symm apart)).symm.trans among'
      rcases ok.writes checksum writing with before | free
      · exact sound.exclusive one two call second checksum apart found there before
      · exact free two second there
    · have earlier := (others one here).symm.trans among
      by_cases there : two = pid
      · subst there
        rw [mine] at among'
        cases among'
        have before := sound.exclusive one two first call checksum apart earlier found writing
        constructor
        · apply Bool.eq_false_iff.mpr
          intro reading
          rcases ok.reads checksum reading with had | free
          · rw [before.1] at had
            cases had
          · rw [free one first earlier] at writing
            cases writing
        · apply Bool.eq_false_iff.mpr
          intro too
          rcases ok.writes checksum too with had | free
          · rw [before.2] at had
            cases had
          · rw [(free one first earlier).2] at writing
            cases writing
      · exact sound.exclusive one two first second checksum apart earlier
          ((others two there).symm.trans among') writing
  apart := by
    intro one two first second dir apart among among' held
    by_cases here : one = pid
    · subst here
      rw [mine] at among
      cases among
      have there := (others two (Ne.symm apart)).symm.trans among'
      rcases ok.dir dir held with had | free
      · exact sound.apart one two call second dir apart found there had
      · exact free two second there
    · have earlier := (others one here).symm.trans among
      by_cases there : two = pid
      · subst there
        rw [mine] at among'
        cases among'
        intro too
        rcases ok.dir dir too with had | free
        · exact sound.apart one two first call dir apart earlier found held had
        · exact free one first earlier held
      · exact sound.apart one two first second dir apart earlier
          ((others two there).symm.trans among') held

theorem Proceeds.update {stage next : UpdateStage} (is : IsChecksum checksum)
    (relies : UpdateRelies RootDir uuid sha256 after checksum chunk next)
    (reads : next.reads = true → stage.reads = true ∨
      ∀ (other : Nat) (another : Call), system.calls[other]? = some another →
        another.writes checksum = false)
    (writes : next.writes = true → stage.writes = true ∨
      ∀ (other : Nat) (another : Call), system.calls[other]? = some another →
        another.reads checksum = false ∧ another.writes checksum = false) :
    Proceeds RootDir uuid sha256 system pid (.update checksum chunk stage)
      (.update checksum chunk next) after where
  relies := ⟨is, relies⟩
  reads := by
    intro lock held
    obtain ⟨rfl, holds⟩ := of_decide_eq_true held
    exact (reads holds).imp_left fun had => decide_eq_true ⟨rfl, had⟩
  writes := by
    intro lock held
    obtain ⟨rfl, holds⟩ := of_decide_eq_true held
    exact (writes holds).imp_left fun had => decide_eq_true ⟨rfl, had⟩
  dir := nofun

theorem Proceeds.extract {stage next : ExtractStage} (is : IsChecksum checksum)
    (relies : ExtractRelies RootDir uuid after checksum next)
    (dir : ∀ dir, next.dir = some dir → stage.dir = some dir ∨
      ∀ (other : Nat) (another : Call), system.calls[other]? = some another →
        another.dir ≠ some dir) :
    Proceeds RootDir uuid sha256 system pid (.extract checksum stage) (.extract checksum next)
      after where
  relies := ⟨is, relies⟩
  reads := nofun
  writes := nofun
  dir := dir

theorem temp_ne_checksum (temp : IsTempName name) (is : IsChecksum checksum) : name ≠ checksum := by
  rintro rfl
  have short := temp.1
  rw [is.1] at short
  exact absurd short (by decide)

theorem Call.Relies.temp {dir : Place} (relies : call.Relies RootDir uuid sha256 tree)
    (held : call.dir = some dir) : IsTempDir RootDir uuid tree dir := by
  cases call with
  | update _ _ _ => cases held
  | extract checksum stage =>
    obtain ⟨_, relies⟩ := relies
    cases stage with
    | extracting _ _ | climbing _ _ _ | descending _ _ | checking _ _ _ | moving _ =>
      cases held
      exact relies
    | unpacking _ _ _ _ _ _ =>
      cases held
      exact relies.1
    | looking | finding | reading | making _ | done _ => cases held

theorem Call.Relies.dir_ne (relies : call.Relies RootDir uuid sha256 tree)
    (is : IsChecksum checksum) : call.dir ≠ some (checksum :: uuidWorkDir RootDir uuid) := by
  intro held
  obtain ⟨name, temp, same, _⟩ := relies.temp held
  exact temp_ne_checksum temp is (cons.inj same).1.symm

theorem moved_of_not_below {source place : Place} (outside : ¬source <:+ place) :
    Disk.moved source target place = place := if_neg outside

theorem not_below_child {child : String} (apart : checksum ≠ name) :
    ¬name :: uuidWorkDir RootDir uuid <:+ child :: checksum :: uuidWorkDir RootDir uuid := by
  intro below
  cases Below.unique below below_child
  exact apart rfl

theorem Call.relocate_apart (relies : call.Relies RootDir uuid sha256 tree)
    (idle : call.reads name = false ∧ call.writes name = false)
    (elsewhere : call.dir ≠ some (name :: uuidWorkDir RootDir uuid)) :
    call.relocate (name :: uuidWorkDir RootDir uuid) target = call := by
  cases call with
  | update checksum chunk stage =>
    cases stage with
    | copying fd offset rest =>
      obtain ⟨_, child, bytes, _, rfl, _⟩ := relies
      have apart : checksum ≠ name := fun same => of_decide_eq_false idle.1 ⟨same, rfl⟩
      exact congrArg (fun fd => Call.update checksum chunk (.copying fd offset rest))
        (moved_of_not_below (not_below_child apart))
    | hashing fd =>
      obtain ⟨_, child, bytes, _, rfl, _⟩ := relies
      have apart : checksum ≠ name := fun same => of_decide_eq_false idle.2 ⟨same, rfl⟩
      exact congrArg (fun fd => Call.update checksum chunk (.hashing fd))
        (moved_of_not_below (not_below_child apart))
    | locking | looking | making | opening | loading | updating | asking | upgrading
    | lookingAgain | reopening | moving | deleting | done error => rfl
  | extract checksum stage =>
    cases stage with
    | unpacking dir tar fd offset rest whole =>
      obtain ⟨_, ⟨temp, _, rfl, _⟩, inside⟩ := relies
      have outside : ¬name :: uuidWorkDir RootDir uuid <:+ fd := by
        intro below
        cases Below.unique below inside
        exact elsewhere rfl
      exact congrArg (fun fd => Call.extract checksum
        (.unpacking (temp :: uuidWorkDir RootDir uuid) tar fd offset rest whole))
        (moved_of_not_below outside)
    | looking | finding | reading | making file | extracting dir tar | climbing dir path below
    | descending dir below | checking dir path below | moving dir | done error => rfl

end Frames

end Ika.UserArtifacts
