import Ika.UserArtifacts.ChunkState
import Ika.UserArtifacts.Untar

/-!
Uploads of user artifacts in chunks.

An artifact is put together in a working directory, and moved to the root directory when all its
bytes were received and its checksum is right.
-/

set_option autoImplicit false

namespace Ika.UserArtifacts

open Links

/-- The name is split at its slashes. -/
structure UserArtifactChunk where
  Name : List String
  File : List UInt8
  OffsetBytes : Int
  SizeBytes : Int
  FileSizeBytes : Int
  deriving DecidableEq, Repr

inductive Error where
  | BadRequest (text : String)
  | Conflict (text : String)
  | NotFound (text : String)
  /-- The texts that were put around what the system said. -/
  | wrapped (texts : List String)
  deriving DecidableEq, Repr

inductive SystemCall where
  | StatArtifact | Chmod | Seek | Copy | StatArtifactAgain | Open | Stat | Read | ReadDir

structure Faults where
  permits : Place → Bool := fun _ => true
  fails : SystemCall → Bool := fun _ => false
  copied : Nat := 0

structure UserArtifactsManagerImpl where
  files : State
  chunkStates : String → Option chunkState := fun _ => none

def uuidWorkDir (RootDir : Place) (uuid : String) : Place := uuid :: "working" :: RootDir

/-- The sum of two 64-bit integers. -/
def addInt64 (left right : Int) : Int := (left + right).bmod (2 ^ 64)

/-- Where the error of `Update` is not looked at. -/
def chunkState.updated (cs : chunkState) (start stop : Int) : chunkState :=
  match cs.Update start stop with
  | .ok updated => updated
  | .error _ => cs

def dirExists (state : State) (dir : Place) : Bool := state.lookup true dir = some .dir

section Calls

variable (faults : Faults)

def createDir (state : State) (dir : Place) : State × Bool :=
  match state.Mkdir faults.permits dir with
  | some made => (made, !faults.fails .Chmod)
  | none => (state, (state.lookup false dir).isSome)

def writeChunk (state : State) (filename : Place) (chunk : UserArtifactChunk) :
    State × Option String :=
  match state.OpenFile faults.permits filename with
  | some (opened, place) =>
    if faults.fails .Seek then (opened, some "failed to seek offset of working file")
    else
      let offset := chunk.OffsetBytes.toNat
      if faults.fails .Copy then
        (opened.Write place offset (chunk.File.take faults.copied),
          some "failed to copy chunk into working file")
      else (opened.Write place offset chunk.File, none)
  | none => (state, some "failed to open or create working file")

end Calls

namespace UserArtifactsManagerImpl

section Manager

variable (RootDir WorkDir : Place) (sha256 : List UInt8 → String)
variable (faults : Faults) (m : UserArtifactsManagerImpl) (checksum : String)
  (chunk : UserArtifactChunk)

def UpdatedArtifactPath : Place := Join RootDir [checksum]

def workDir : Place := Join WorkDir [checksum]

def getChunkState (fileSize : Int) : chunkState :=
  (m.chunkStates checksum).getD (NewChunkState fileSize)

def writeChunkAndUpdateState : UserArtifactsManagerImpl × Except Error Bool :=
  if faults.fails .StatArtifact then
    (m, .error (.wrapped ["failed to check existence of directory"]))
  else if dirExists m.files (UpdatedArtifactPath RootDir checksum) then
    (m, .error (.Conflict ("user artifact(checksum:" ++ checksum.quote ++ ") already exists")))
  else
    match createDir faults m.files (workDir WorkDir checksum) with
    | (files, false) =>
      ({m with files}, .error (.wrapped ["failed to create working directory"]))
    | (files, true) =>
      match writeChunk faults files (Join (workDir WorkDir checksum) chunk.Name) chunk with
      | (files, some text) => ({m with files}, .error (.wrapped [text]))
      | (files, none) =>
        let cs := (m.getChunkState checksum chunk.FileSizeBytes).updated chunk.OffsetBytes
          (addInt64 chunk.OffsetBytes chunk.SizeBytes)
        ({files, chunkStates := Function.update m.chunkStates checksum (some cs)},
          .ok cs.IsCompleted)

def validateChecksum : Except String Bool :=
  match m.files.lookup true (Join (workDir WorkDir checksum) chunk.Name) with
  | some (.file bytes) =>
    if faults.fails .Open then .error "failed to open working file"
    else if faults.fails .Stat then .error "failed to stat"
    else if chunk.FileSizeBytes ≠ bytes.length then .ok false
    else if faults.fails .Read then .error "failed to read"
    else .ok (checksum = sha256 bytes)
  | _ => .error "failed to open working file"

def moveArtifactIfNeeded : UserArtifactsManagerImpl × Option String :=
  let dir := UpdatedArtifactPath RootDir checksum
  if faults.fails .StatArtifactAgain then (m, some "failed to check existence of directory")
  else if dirExists m.files dir then (m, none)
  else
    match m.validateChecksum WorkDir sha256 faults checksum chunk with
    | .error _ => (m, some "failed to validate checksum of the user artifact")
    | .ok false => (m, none)
    | .ok true =>
      match m.files.Rename faults.permits (workDir WorkDir checksum) dir with
      | none => (m, some "failed to move the user artifact")
      | some files =>
        ({files, chunkStates := Function.update m.chunkStates checksum none}, none)

def invalid : Option Error :=
  if chunk.OffsetBytes < 0 then
    some (.BadRequest s!"invalid value (chunk_offset:{chunk.OffsetBytes})")
  else if chunk.SizeBytes < 0 then
    some (.wrapped [s!"invalid value (chunk_size:{chunk.SizeBytes})"])
  else if chunk.FileSizeBytes < 0 then
    some (.BadRequest s!"invalid value (file_size:{chunk.FileSizeBytes})")
  else if addInt64 chunk.OffsetBytes chunk.SizeBytes > chunk.FileSizeBytes then
    some (.BadRequest (s!"invalid value pair (chunk_offset:{chunk.OffsetBytes}, " ++
      s!"chunk_size:{chunk.SizeBytes}, file_size:{chunk.FileSizeBytes})"))
  else none

def UpdateArtifact : UserArtifactsManagerImpl × Option Error :=
  match invalid chunk with
  | some error => (m, some error)
  | none =>
    match m.writeChunkAndUpdateState RootDir WorkDir faults checksum chunk with
    | (m, .error (.wrapped texts)) => (m, some (.wrapped ("failed to update chunk" :: texts)))
    | (m, .error error) => (m, some error)
    | (m, .ok false) => (m, none)
    | (m, .ok true) =>
      match m.moveArtifactIfNeeded RootDir WorkDir sha256 faults checksum chunk with
      | (m, some text) =>
        (m, some (.wrapped ["failed to move the user artifact from working directory", text]))
      | (m, none) => (m, none)

variable {RootDir WorkDir sha256 faults m checksum chunk}

theorem UpdateArtifact_fst {middle : UserArtifactsManagerImpl} {complete : Bool}
    (valid : invalid chunk = none)
    (wrote : m.writeChunkAndUpdateState RootDir WorkDir faults checksum chunk =
      (middle, .ok complete)) :
    (m.UpdateArtifact RootDir WorkDir sha256 faults checksum chunk).1 =
      if complete then (middle.moveArtifactIfNeeded RootDir WorkDir sha256 faults checksum chunk).1
      else middle := by
  unfold UpdateArtifact
  rw [valid, wrote]
  cases complete with
  | false => rfl
  | true =>
    dsimp only
    cases middle.moveArtifactIfNeeded RootDir WorkDir sha256 faults checksum chunk with
    | mk after error => cases error <;> rfl

end Manager

end UserArtifactsManagerImpl

section Updated

variable {cs : chunkState} {start stop byte : Int}

theorem updated_fileSize : (cs.updated start stop).fileSize = cs.fileSize := by
  unfold chunkState.updated chunkState.Update
  split_ifs <;> rfl

theorem updated_wellFormed (wellFormed : cs.WellFormed) : (cs.updated start stop).WellFormed := by
  unfold chunkState.updated
  cases stands : cs.Update start stop with
  | error text => exact wellFormed
  | ok updated => exact chunkState.Update_wellFormed wellFormed stands

theorem updated_records (wellFormed : cs.WellFormed) (first : 0 ≤ start) :
    (cs.updated start stop).Records byte ↔
      cs.Records byte ∨ start ≤ byte ∧ byte < stop ∧ stop ≤ cs.fileSize := by
  by_cases taken : start < stop ∧ stop ≤ cs.fileSize
  · obtain ⟨updated, stands⟩ := chunkState.Update_ok first taken.1 taken.2
    unfold chunkState.updated
    rw [stands]
    apply (chunkState.Update_records wellFormed.ranges stands).trans
    rw [← and_assoc, and_iff_left taken.2]
  · have refused : cs.updated start stop = cs := by
      unfold chunkState.updated chunkState.Update
      split_ifs with negative long empty
      · rfl
      · rfl
      · rfl
      · exact absurd ⟨not_le.mp empty, not_lt.mp long⟩ taken
    rw [refused]
    constructor
    · exact .inl
    · rintro (before | ⟨low, high, last⟩)
      · exact before
      · exact absurd ⟨low.trans_lt high, last⟩ taken

end Updated

def isHexDigit (c : Char) : Bool := c.isDigit || ('a' ≤ c && c ≤ 'f') || ('A' ≤ c && c ≤ 'F')

def IsChecksum (checksum : String) : Prop :=
  checksum.length = 64 ∧ checksum.toList.all isHexDigit = true
  deriving Decidable

theorem IsChecksum.ne {checksum : String} (is : IsChecksum checksum) {other : String}
    (short : other.length ≠ 64) : checksum ≠ other := fun same => short (same ▸ is.1)

theorem IsChecksum.plain {checksum : String} (is : IsChecksum checksum) : Plain checksum :=
  ⟨is.ne (by decide), is.ne (by decide), is.ne (by decide)⟩

theorem Join_name {directory : Place} {name : String} (plain : Plain name) :
    Join directory [name] = name :: directory := by
  rw [Join, if_neg (not_or.mpr ⟨plain.1, plain.2.1⟩), if_neg plain.2.2, Join]

/-! What lies below one name of the working directory, or of the root directory.

A step changes what is below one name of the working directory, and a move also what is below one
name of the root directory. All that is known of other names is as it was.
-/

open UserArtifactsManagerImpl List

def Below (home : Place) (name : String) (place : Place) : Prop := name :: home <:+ place

section Regions

variable {RootDir place : Place} {uuid name other : String} {tree after : Tree}

theorem Below.unique {home : Place} (first : Below home name place)
    (second : Below home other place) : name = other := by
  have inner := suffix_of_suffix_length_le first second (Nat.le_refl _)
  exact (cons.inj (inner.eq_of_length rfl)).1

theorem Below.artifact (working : Below (uuidWorkDir RootDir uuid) name place)
    (artifact : Below RootDir other place) : other = "working" := by
  have inside : Below RootDir "working" place :=
    (suffix_append [name, uuid] ("working" :: RootDir)).trans working
  exact artifact.unique inside

theorem not_below_working {name : String} (above : place <:+ uuidWorkDir RootDir uuid) :
    ¬Below (uuidWorkDir RootDir uuid) name place :=
  fun below => absurd (below.trans above).length_le (Nat.not_succ_le_self _)

theorem not_below_root (above : place <:+ uuidWorkDir RootDir uuid) (apart : other ≠ "working") :
    ¬Below RootDir other place := by
  intro below
  have inside : Below RootDir "working" (uuidWorkDir RootDir uuid) :=
    suffix_append [uuid] ("working" :: RootDir)
  exact apart (Below.unique (below.trans above) inside)

/-- Nothing is changed but below these names of the working directory and of the root directory. -/
def Untouched (RootDir : Place) (uuid : String) (working artifact : Option String)
    (tree after : Tree) : Prop :=
  ∀ place, (∀ name ∈ working, ¬Below (uuidWorkDir RootDir uuid) name place) →
    (∀ name ∈ artifact, ¬Below RootDir name place) → after place = tree place

variable {working artifact : Option String}

section

variable (untouched : Untouched RootDir uuid working artifact tree after)
include untouched

theorem Untouched.rooted (apart : ∀ name ∈ artifact, name ≠ "working")
    (rooted : Rooted (uuidWorkDir RootDir uuid) tree) : Rooted (uuidWorkDir RootDir uuid) after where
  stands place above := by
    rw [untouched place (fun _ _ => not_below_working above)
      fun name among => not_below_root above (apart name among)]
    exact rooted.stands place above
  plain := rooted.plain

theorem Untouched.below_working
    (apart : ∀ other ∈ artifact, other ≠ "working") (free : name ∉ working)
    (below : Below (uuidWorkDir RootDir uuid) name place) : after place = tree place := by
  apply untouched
  · intro other among inside
    exact free (below.unique inside ▸ among)
  · intro other among inside
    exact apart other among (below.artifact inside)

theorem Untouched.below_artifact
    (free : name ∉ artifact) (named : name ≠ "working") (below : Below RootDir name place) :
    after place = tree place := by
  apply untouched
  · intro other _ inside
    exact named (inside.artifact below)
  · intro other among inside
    exact free (below.unique inside ▸ among)

end

theorem untouched_update {node : Node} (below : Below (uuidWorkDir RootDir uuid) name place) :
    Untouched RootDir uuid (some name) none tree (Function.update tree place (some node)) := by
  intro other outside _
  apply Function.update_of_ne
  rintro rfl
  exact outside name rfl below

theorem not_working_above_artifact : ¬name :: uuidWorkDir RootDir uuid <:+ other :: RootDir := by
  intro above
  have lengths := above.length_le
  unfold uuidWorkDir at lengths
  rw [length_cons, length_cons, length_cons, length_cons] at lengths
  omega

theorem artifact_ne_working : other :: RootDir ≠ name :: uuidWorkDir RootDir uuid := by
  intro same
  apply @not_working_above_artifact RootDir uuid name other
  rw [same]

theorem not_artifact_above_working (apart : other ≠ "working") :
    ¬other :: RootDir <:+ name :: uuidWorkDir RootDir uuid := by
  intro above
  rcases List.suffix_cons_iff.mp above with same | above
  · exact artifact_ne_working same
  · exact not_below_root suffix_rfl apart above

section Moved

variable {disk : Disk} (apart : other ≠ "working")

include apart

theorem tree_move_eq : (disk.move (name :: uuidWorkDir RootDir uuid) (other :: RootDir)).tree place =
    (Disk.origin (name :: uuidWorkDir RootDir uuid) (other :: RootDir) place).bind disk.tree :=
  Disk.tree_move not_working_above_artifact (not_artifact_above_working apart)

theorem untouched_move : Untouched RootDir uuid (some name) (some other) disk.tree
    (disk.move (name :: uuidWorkDir RootDir uuid) (other :: RootDir)).tree := by
  intro place outside elsewhere
  have new : ¬other :: RootDir <:+ place := elsewhere other rfl
  have old : ¬name :: uuidWorkDir RootDir uuid <:+ place := outside name rfl
  rw [tree_move_eq apart, Disk.origin, if_neg new, if_neg old]
  rfl

theorem tree_move_source (below : Below (uuidWorkDir RootDir uuid) name place) :
    (disk.move (name :: uuidWorkDir RootDir uuid) (other :: RootDir)).tree place = none := by
  have new : ¬other :: RootDir <:+ place := fun inside => apart (below.artifact inside)
  have old : name :: uuidWorkDir RootDir uuid <:+ place := below
  rw [tree_move_eq apart, Disk.origin, if_neg new, if_pos old]
  rfl

theorem tree_move_target (rest : Place) :
    (disk.move (name :: uuidWorkDir RootDir uuid) (other :: RootDir)).tree
        (rest ++ other :: RootDir) = disk.tree (rest ++ name :: uuidWorkDir RootDir uuid) := by
  rw [tree_move_eq apart, Disk.origin_below]
  rfl

end Moved

theorem Rename_working {files : State} (rooted : Rooted (uuidWorkDir RootDir uuid) files.tree)
    (plain : Plain name) (plain' : Plain other)
    (stands : files.tree (name :: uuidWorkDir RootDir uuid) = some .dir) (permits : Place → Bool) :
    files.Rename permits (name :: uuidWorkDir RootDir uuid) (other :: RootDir) =
      if files.tree (other :: RootDir) = none ∧ permits (other :: RootDir) then
        some
          { disk := files.disk.move (name :: uuidWorkDir RootDir uuid) (other :: RootDir)
            touched := (other :: RootDir) :: files.touched}
      else none := by
  unfold State.Rename
  rw [rooted.walk_child plain, rooted.above.above.walk_child plain']
  dsimp only
  rw [stands]
  by_cases missing : files.tree (other :: RootDir) = none
  · have allowed : ¬(some Node.dir = none ∨ files.tree (other :: RootDir) = some .dir ∨
        some Node.dir = some Node.dir ∧ files.tree (other :: RootDir) ≠ none ∨
          name :: uuidWorkDir RootDir uuid <:+ other :: RootDir) := by
      rw [missing]
      rintro (absent | taken | ⟨_, taken⟩ | inside)
      · cases absent
      · cases taken
      · exact taken rfl
      · exact not_working_above_artifact inside
    rw [if_neg allowed]
    by_cases permitted : permits (other :: RootDir) = true
    · rw [if_pos permitted, if_pos ⟨missing, permitted⟩]
    · rw [if_neg permitted, if_neg (fun both => permitted both.2)]
  · rw [if_pos (.inr (.inr (.inl ⟨rfl, missing⟩))), if_neg (fun both => missing both.1)]

variable {checksum : String}

theorem IsChecksum.ne_working (is : IsChecksum checksum) : checksum ≠ "working" :=
  is.ne (by decide)

theorem UpdatedArtifactPath_eq (is : IsChecksum checksum) :
    UpdatedArtifactPath RootDir checksum = checksum :: RootDir := Join_name is.plain

theorem workDir_eq (is : IsChecksum checksum) :
    workDir (uuidWorkDir RootDir uuid) checksum = checksum :: uuidWorkDir RootDir uuid :=
  Join_name is.plain

end Regions

end Ika.UserArtifacts
