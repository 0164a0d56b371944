import Ika.UserArtifacts.UpdateArtifact

/-! When an upload is completed, after whatever was uploaded for its checksum before.

What earlier calls leave behind is the chunk state with the file size of the first chunk, and the
files in the working directory.
-/

set_option autoImplicit false

namespace Ika.UserArtifacts

open Links UserArtifactsManagerImpl List Function

section Uploads

variable (RootDir : Place) (uuid : String) (sha256 : List UInt8 → String) (checksum : String)

/-- What holds of the directories and of the chunk state whatever is uploaded. -/
structure Grounded (m : UserArtifactsManagerImpl) : Prop where
  rooted : Rooted (uuidWorkDir RootDir uuid) m.files.tree
  working : m.files.tree (checksum :: uuidWorkDir RootDir uuid) = none ∨
    m.files.tree (checksum :: uuidWorkDir RootDir uuid) = some .dir
  artifact : ¬Linked m.files.tree (checksum :: RootDir)
  chunks : ∀ cs, m.chunkStates checksum = some cs → cs.WellFormed

def update (m : UserArtifactsManagerImpl) (call : Faults × UserArtifactChunk) :
    UserArtifactsManagerImpl :=
  (m.UpdateArtifact RootDir (uuidWorkDir RootDir uuid) sha256 call.1 checksum call.2).1

variable {RootDir uuid sha256 checksum}
variable {m : UserArtifactsManagerImpl} {faults : Faults} {chunk : UserArtifactChunk}

theorem Grounded.root (grounded : Grounded RootDir uuid checksum m) :
    Rooted RootDir m.files.tree := grounded.rooted.above.above

theorem Grounded.getChunkState (grounded : Grounded RootDir uuid checksum m) (fileSize : Int) :
    (m.getChunkState checksum fileSize).WellFormed := by
  unfold UserArtifactsManagerImpl.getChunkState
  cases stands : m.chunkStates checksum with
  | none => exact chunkState.NewChunkState_wellFormed fileSize
  | some cs => exact grounded.chunks cs stands

/-! ## What a call keeps -/

structure Prepared (RootDir : Place) (uuid checksum : String) (files : State) : Prop where
  rooted : Rooted (uuidWorkDir RootDir uuid) files.tree
  working : files.tree (checksum :: uuidWorkDir RootDir uuid) = some .dir
  artifact : ¬Linked files.tree (checksum :: RootDir)

variable {files : State} {place : Place} {bytes : List UInt8}

theorem Prepared.putFile (prepared : Prepared RootDir uuid checksum files)
    (other : files.tree place ≠ some .dir) :
    Prepared RootDir uuid checksum (files.put place (.file bytes)) where
  rooted := by
    rw [State.tree_put]
    exact prepared.rooted.update other
  working := by
    have apart : checksum :: uuidWorkDir RootDir uuid ≠ place :=
      fun same => other (same ▸ prepared.working)
    rw [State.tree_put, update_of_ne apart]
    exact prepared.working
  artifact := by
    rintro ⟨absolute, target, linked⟩
    rw [State.tree_put] at linked
    by_cases here : checksum :: RootDir = place
    · rw [here, update_self] at linked
      cases linked
    · rw [update_of_ne here] at linked
      exact prepared.artifact ⟨absolute, target, linked⟩

theorem Prepared.write (prepared : Prepared RootDir uuid checksum files) (place : Place)
    (offset : Nat) (content : List UInt8) :
    Prepared RootDir uuid checksum (files.Write place offset content) := by
  unfold State.Write
  cases stands : files.tree place with
  | none => exact prepared
  | some node =>
    cases node with
    | dir => exact prepared
    | link absolute target => exact prepared
    | file bytes =>
      apply prepared.putFile
      rw [stands]
      exact nofun

theorem Prepared.writeChunk {files : State} (prepared : Prepared RootDir uuid checksum files)
    (filename : Place) :
    Prepared RootDir uuid checksum (writeChunk faults files filename chunk).1 := by
  unfold UserArtifacts.writeChunk
  cases opening : files.OpenFile faults.permits filename with
  | none => exact prepared
  | some opened =>
    have held : Prepared RootDir uuid checksum opened.1 := by
      obtain ⟨_, _, other, same | put⟩ := OpenFile_spec opening
      · rw [same]
        exact prepared
      · rw [put]
        exact prepared.putFile other
    dsimp only
    split_ifs
    · exact held
    · exact held.write _ _ _
    · exact held.write _ _ _

theorem Grounded.createDir (grounded : Grounded RootDir uuid checksum m)
    (is : IsChecksum checksum) :
    Grounded RootDir uuid checksum
        {m with files := (createDir faults m.files (checksum :: uuidWorkDir RootDir uuid)).1} ∧
      ((createDir faults m.files (checksum :: uuidWorkDir RootDir uuid)).2 = true →
        Prepared RootDir uuid checksum
          (createDir faults m.files (checksum :: uuidWorkDir RootDir uuid)).1) := by
  unfold UserArtifacts.createDir State.Mkdir
  rw [create_child grounded.rooted is.plain]
  rcases grounded.working with missing | stands
  · rw [missing]
    by_cases permitted : faults.permits (checksum :: uuidWorkDir RootDir uuid) = true
    · rw [if_pos ⟨rfl, permitted⟩]
      have rooted := @Rooted.update _ (checksum :: uuidWorkDir RootDir uuid) _ .dir grounded.rooted
        (missing ▸ nofun)
      have apart := @artifact_ne_working RootDir uuid checksum checksum
      have artifact : ¬Linked (m.files.put (checksum :: uuidWorkDir RootDir uuid) .dir).tree
          (checksum :: RootDir) := by
        rintro ⟨absolute, target, linked⟩
        rw [State.tree_put, update_of_ne apart] at linked
        exact grounded.artifact ⟨absolute, target, linked⟩
      have working : (m.files.put (checksum :: uuidWorkDir RootDir uuid) .dir).tree
          (checksum :: uuidWorkDir RootDir uuid) = some .dir := by
        rw [State.tree_put, update_self]
      rw [← State.tree_put] at rooted
      have prepared : Prepared RootDir uuid checksum
          (m.files.put (checksum :: uuidWorkDir RootDir uuid) .dir) := ⟨rooted, working, artifact⟩
      exact ⟨⟨rooted, .inr working, artifact, grounded.chunks⟩, fun _ => prepared⟩
    · rw [if_neg (fun both => permitted both.2)]
      have absent : m.files.lookup false (checksum :: uuidWorkDir RootDir uuid) = none :=
        (lookup_child grounded.rooted is.plain false (not_linked_of_ne missing nofun)).trans missing
      rw [absent]
      exact ⟨grounded, nofun⟩
  · rw [stands, if_neg (fun both => nomatch both.1)]
    exact ⟨grounded, fun _ => ⟨grounded.rooted, stands, grounded.artifact⟩⟩

/-! ## The move -/

theorem Prepared.renamed {moved : State} (prepared : Prepared RootDir uuid checksum files)
    (is : IsChecksum checksum) {permits : Place → Bool}
    (renamed : files.Rename permits (checksum :: uuidWorkDir RootDir uuid) (checksum :: RootDir) =
      some moved) :
    Rooted (uuidWorkDir RootDir uuid) moved.tree ∧
      moved.tree (checksum :: uuidWorkDir RootDir uuid) = none ∧
        moved.tree (checksum :: RootDir) = some .dir := by
  rw [Rename_working prepared.rooted is.plain is.plain prepared.working] at renamed
  split_ifs at renamed
  cases renamed
  refine ⟨?_, tree_move_source is.ne_working suffix_rfl, ?_⟩
  · apply (untouched_move is.ne_working).rooted _ prepared.rooted
    rintro name among
    rw [← Option.some.inj among]
    exact is.ne_working
  · exact (tree_move_target is.ne_working []).trans prepared.working

/-! ## Whole calls -/

theorem Grounded.dirExists_iff (grounded : Grounded RootDir uuid checksum m)
    (is : IsChecksum checksum) :
    dirExists m.files (UpdatedArtifactPath RootDir checksum) = true ↔
      m.files.tree (checksum :: RootDir) = some .dir := by
  unfold dirExists
  rw [UpdatedArtifactPath_eq is, lookup_child grounded.root is.plain true grounded.artifact,
    decide_eq_true_iff]

theorem Prepared.grounded {chunkStates : String → Option chunkState} {files : State}
    (prepared : Prepared RootDir uuid checksum files)
    (chunks : ∀ cs, chunkStates checksum = some cs → cs.WellFormed) :
    Grounded RootDir uuid checksum ⟨files, chunkStates⟩ :=
  ⟨prepared.rooted, .inr prepared.working, prepared.artifact, chunks⟩

theorem Grounded.writeChunkAndUpdateState (grounded : Grounded RootDir uuid checksum m)
    (is : IsChecksum checksum) {after : UserArtifactsManagerImpl} {result : Except Error Bool}
    (wrote : m.writeChunkAndUpdateState RootDir (uuidWorkDir RootDir uuid) faults checksum chunk =
      (after, result)) :
    Grounded RootDir uuid checksum after ∧
      (∀ complete, result = .ok complete → Prepared RootDir uuid checksum after.files) := by
  unfold UserArtifactsManagerImpl.writeChunkAndUpdateState at wrote
  rw [workDir_eq is] at wrote
  split_ifs at wrote
  · cases wrote
    exact ⟨grounded, nofun⟩
  · cases wrote
    exact ⟨grounded, nofun⟩
  · have created := @Grounded.createDir RootDir uuid checksum m faults grounded is
    cases making : UserArtifacts.createDir faults m.files (checksum :: uuidWorkDir RootDir uuid) with
    | mk files made =>
      rw [making] at created wrote
      cases made with
      | false =>
        cases wrote
        exact ⟨created.1, nofun⟩
      | true =>
        have prepared := @Prepared.writeChunk RootDir uuid checksum faults chunk files
          (created.2 rfl) (Join (checksum :: uuidWorkDir RootDir uuid) chunk.Name)
        dsimp only at wrote
        cases writing : writeChunk faults files
            (Join (checksum :: uuidWorkDir RootDir uuid) chunk.Name) chunk with
        | mk files error =>
          rw [writing] at prepared wrote
          cases error with
          | some text =>
            cases wrote
            exact ⟨prepared.grounded grounded.chunks, nofun⟩
          | none =>
            cases wrote
            refine ⟨prepared.grounded ?_, fun _ _ => prepared⟩
            intro cs stands
            rw [update_self] at stands
            cases stands
            exact updated_wellFormed (grounded.getChunkState _)

theorem Prepared.moveArtifactIfNeeded (prepared : Prepared RootDir uuid checksum m.files)
    (grounded : Grounded RootDir uuid checksum m) (is : IsChecksum checksum) :
    Grounded RootDir uuid checksum
      (m.moveArtifactIfNeeded RootDir (uuidWorkDir RootDir uuid) sha256 faults checksum chunk).1 := by
  unfold UserArtifactsManagerImpl.moveArtifactIfNeeded
  dsimp only
  split_ifs
  · exact grounded
  · exact grounded
  · cases m.validateChecksum (uuidWorkDir RootDir uuid) sha256 faults checksum chunk with
    | error text => exact grounded
    | ok matches_ =>
      cases matches_ with
      | false => exact grounded
      | true =>
        rw [workDir_eq is, UpdatedArtifactPath_eq is]
        dsimp only
        cases moves : m.files.Rename faults.permits (checksum :: uuidWorkDir RootDir uuid)
            (checksum :: RootDir) with
        | none => exact grounded
        | some moved =>
          obtain ⟨rooted, working, artifact⟩ := prepared.renamed is moves
          refine ⟨rooted, .inl working, not_linked_of_ne artifact nofun, ?_⟩
          intro cs stands
          dsimp only at stands
          rw [update_self] at stands
          cases stands

section

variable (grounded : Grounded RootDir uuid checksum m)
include grounded

theorem Grounded.update (is : IsChecksum checksum) (call : Faults × UserArtifactChunk) :
    Grounded RootDir uuid checksum (update RootDir uuid sha256 checksum m call) := by
  unfold UserArtifacts.update UserArtifactsManagerImpl.UpdateArtifact
  cases invalid call.2 with
  | some error => exact grounded
  | none =>
    cases writing : m.writeChunkAndUpdateState RootDir (uuidWorkDir RootDir uuid) call.1 checksum
        call.2 with
    | mk after result =>
      obtain ⟨held, prepared⟩ := grounded.writeChunkAndUpdateState is writing
      cases result with
      | error error => cases error <;> exact held
      | ok complete =>
        cases complete with
        | false => exact held
        | true =>
          have moved := @Prepared.moveArtifactIfNeeded RootDir uuid sha256 checksum after call.1
            call.2 (prepared true rfl) held is
          dsimp only
          cases moving : after.moveArtifactIfNeeded RootDir (uuidWorkDir RootDir uuid) sha256 call.1
              checksum call.2 with
          | mk final error =>
            rw [moving] at moved
            cases error <;> exact moved

theorem Grounded.history (is : IsChecksum checksum) (calls : List (Faults × UserArtifactChunk)) :
    Grounded RootDir uuid checksum
      (calls.foldl (UserArtifacts.update RootDir uuid sha256 checksum) m) := by
  induction calls generalizing m with
  | nil => exact grounded
  | cons call rest ih => exact ih (grounded.update is call)

/-! ## A chunk that is written without a fault -/

theorem createDir_stands (is : IsChecksum checksum) :
    ∃ files, createDir {} m.files (checksum :: uuidWorkDir RootDir uuid) = (files, true) ∧
      Prepared RootDir uuid checksum files ∧
        ∀ place, place ≠ checksum :: uuidWorkDir RootDir uuid →
          files.tree place = m.files.tree place := by
  have created := @Grounded.createDir RootDir uuid checksum m {} grounded is
  rcases grounded.working with missing | stands
  · have made : createDir {} m.files (checksum :: uuidWorkDir RootDir uuid) =
        (m.files.put (checksum :: uuidWorkDir RootDir uuid) .dir, true) := by
      unfold createDir State.Mkdir
      rw [create_child grounded.rooted is.plain, if_pos ⟨missing, rfl⟩]
      rfl
    rw [made] at created
    refine ⟨_, made, created.2 rfl, ?_⟩
    intro place apart
    rw [State.tree_put, update_of_ne apart]
  · have made : createDir {} m.files (checksum :: uuidWorkDir RootDir uuid) = (m.files, true) := by
      have looked : m.files.lookup false (checksum :: uuidWorkDir RootDir uuid) = some .dir :=
        (lookup_child grounded.rooted is.plain false (not_linked_of_ne stands nofun)).trans stands
      unfold createDir State.Mkdir
      rw [create_child grounded.rooted is.plain, stands, if_neg (fun both => nomatch both.1), looked]
      rfl
    rw [made] at created
    exact ⟨_, made, created.2 rfl, fun _ _ => rfl⟩

end

def Contains (files : State) (place : Place) (bytes : List UInt8) : Prop :=
  files.tree place = some (.file bytes) ∨ files.tree place = none ∧ bytes = []

theorem Contains.not_linked (contains : Contains files place bytes) : ¬Linked files.tree place := by
  rcases contains with stands | ⟨missing, _⟩
  · exact not_linked_of_ne stands nofun
  · exact not_linked_of_ne missing nofun

theorem Write_file (stands : files.tree place = some (.file bytes)) (offset : Nat)
    (content : List UInt8) :
    files.Write place offset content =
      files.put place (.file (Contents.overwrite bytes offset content)) := by
  unfold State.Write
  rw [stands]

theorem writeChunk_stands {files : State} {name : String} {bytes : List UInt8}
    (prepared : Prepared RootDir uuid checksum files) (is : IsChecksum checksum)
    (plain : Plain name)
    (contains : Contains files (name :: checksum :: uuidWorkDir RootDir uuid) bytes) :
    ∃ written,
      writeChunk {} files (name :: checksum :: uuidWorkDir RootDir uuid) chunk = (written, none) ∧
        written.tree (name :: checksum :: uuidWorkDir RootDir uuid) =
            some (.file (Contents.overwrite bytes chunk.OffsetBytes.toNat chunk.File)) ∧
          ∀ place, place ≠ name :: checksum :: uuidWorkDir RootDir uuid →
            written.tree place = files.tree place := by
  have rooted := prepared.rooted.child is.plain prepared.working
  unfold writeChunk
  rw [OpenFile_child rooted plain contains.not_linked]
  rcases contains with stands | ⟨missing, rfl⟩
  · rw [stands]
    refine ⟨_, rfl, ?_, ?_⟩
    · rw [Write_file stands, State.tree_put, update_self]
    · intro place apart
      rw [Write_file stands, State.tree_put, update_of_ne apart]
  · have opened : (files.put (name :: checksum :: uuidWorkDir RootDir uuid) (.file [])).tree
        (name :: checksum :: uuidWorkDir RootDir uuid) = some (.file []) := by
      rw [State.tree_put, update_self]
    rw [missing]
    refine ⟨_, rfl, ?_, ?_⟩
    · rw [Write_file opened, State.tree_put, update_self]
    · intro place apart
      rw [Write_file opened, State.tree_put, update_of_ne apart, State.tree_put,
        update_of_ne apart]

theorem writeChunkAndUpdateState_stands {name : String} {bytes : List UInt8}
    (grounded : Grounded RootDir uuid checksum m) (is : IsChecksum checksum) (plain : Plain name)
    (named : chunk.Name = [name]) (unpublished : m.files.tree (checksum :: RootDir) ≠ some .dir)
    (contains : Contains m.files (name :: checksum :: uuidWorkDir RootDir uuid) bytes) :
    ∃ files,
      let cs := (m.getChunkState checksum chunk.FileSizeBytes).updated chunk.OffsetBytes
        (addInt64 chunk.OffsetBytes chunk.SizeBytes)
      m.writeChunkAndUpdateState RootDir (uuidWorkDir RootDir uuid) {} checksum chunk =
          (⟨files, Function.update m.chunkStates checksum (some cs)⟩, .ok cs.IsCompleted) ∧
        files.tree (name :: checksum :: uuidWorkDir RootDir uuid) =
            some (.file (Contents.overwrite bytes chunk.OffsetBytes.toNat chunk.File)) ∧
          files.tree (checksum :: RootDir) = m.files.tree (checksum :: RootDir) := by
  obtain ⟨files, created, prepared, same⟩ := createDir_stands grounded is
  have below : name :: checksum :: uuidWorkDir RootDir uuid ≠ checksum :: uuidWorkDir RootDir uuid :=
    cons_ne_self _ _
  have contained : Contains files (name :: checksum :: uuidWorkDir RootDir uuid) bytes := by
    unfold Contains
    rw [same _ below]
    exact contains
  obtain ⟨written, writing, stands, others⟩ :=
    @writeChunk_stands RootDir uuid checksum chunk files name bytes prepared is plain contained
  refine ⟨written, ?_, stands, ?_⟩
  · have absent : ¬dirExists m.files (UpdatedArtifactPath RootDir checksum) = true :=
      fun exists_ => unpublished ((grounded.dirExists_iff is).mp exists_)
    unfold UserArtifactsManagerImpl.writeChunkAndUpdateState
    rw [if_neg Bool.false_ne_true, if_neg absent, workDir_eq is, created, named]
    dsimp only
    rw [Join_name plain, writing]
  · have apart : checksum :: RootDir ≠ name :: checksum :: uuidWorkDir RootDir uuid := by
      intro same
      have lengths := congrArg List.length same
      unfold uuidWorkDir at lengths
      rw [length_cons, length_cons, length_cons, length_cons,
        length_cons] at lengths
      omega
    rw [others _ apart, same _ artifact_ne_working]

theorem moveArtifactIfNeeded_stands {name : String} {bytes : List UInt8}
    (prepared : Prepared RootDir uuid checksum m.files)
    (grounded : Grounded RootDir uuid checksum m) (is : IsChecksum checksum) (plain : Plain name)
    (named : chunk.Name = [name]) (unpublished : m.files.tree (checksum :: RootDir) ≠ some .dir)
    (stands : m.files.tree (name :: checksum :: uuidWorkDir RootDir uuid) = some (.file bytes)) :
    if (chunk.FileSizeBytes = bytes.length ∧ checksum = sha256 bytes) ∧
        m.files.tree (checksum :: RootDir) = none then
      (m.moveArtifactIfNeeded RootDir (uuidWorkDir RootDir uuid) sha256 {} checksum
        chunk).1.files.tree (checksum :: RootDir) = some .dir
    else
      (m.moveArtifactIfNeeded RootDir (uuidWorkDir RootDir uuid) sha256 {} checksum chunk).1 = m := by
  have rooted := prepared.rooted.child is.plain prepared.working
  have looked : m.files.lookup true (name :: checksum :: uuidWorkDir RootDir uuid) =
      some (.file bytes) :=
    (lookup_child rooted plain true (not_linked_of_ne stands nofun)).trans stands
  have validated : m.validateChecksum (uuidWorkDir RootDir uuid) sha256 {} checksum chunk =
      .ok (decide (chunk.FileSizeBytes = bytes.length ∧ checksum = sha256 bytes)) := by
    unfold validateChecksum
    rw [workDir_eq is, named, Join_name plain, looked]
    by_cases sized : chunk.FileSizeBytes = bytes.length
    · simp [sized]
    · simp [sized]
  have absent : ¬dirExists m.files (UpdatedArtifactPath RootDir checksum) = true :=
    fun exists_ => unpublished ((grounded.dirExists_iff is).mp exists_)
  unfold UserArtifactsManagerImpl.moveArtifactIfNeeded
  dsimp only
  rw [if_neg Bool.false_ne_true, if_neg absent, validated]
  by_cases valid : chunk.FileSizeBytes = bytes.length ∧ checksum = sha256 bytes
  · rw [decide_eq_true valid, workDir_eq is, UpdatedArtifactPath_eq is]
    dsimp only
    cases moves : m.files.Rename (fun _ => true) (checksum :: uuidWorkDir RootDir uuid)
        (checksum :: RootDir) with
    | none =>
      have taken : m.files.tree (checksum :: RootDir) ≠ none := by
        intro missing
        rw [Rename_working prepared.rooted is.plain is.plain prepared.working,
          if_pos ⟨missing, rfl⟩] at moves
        cases moves
      rw [if_neg (fun both => taken both.2)]
    | some moved =>
      have missing : m.files.tree (checksum :: RootDir) = none := by
        rw [Rename_working prepared.rooted is.plain is.plain prepared.working] at moves
        split_ifs at moves with free
        exact free.1
      rw [if_pos ⟨valid, missing⟩]
      exact (prepared.renamed is moves).2.2
  · rw [decide_eq_false valid, if_neg (fun both => valid both.1)]

/-! ## An upload -/

/-- A chunk of the file with its own offset, size and file size. -/
structure IsChunk (file : List UInt8) (name : String) (chunk : UserArtifactChunk) : Prop where
  named : chunk.Name = [name]
  fileSize : chunk.FileSizeBytes = file.length
  offset : 0 ≤ chunk.OffsetBytes
  size : 0 ≤ chunk.SizeBytes
  within : chunk.OffsetBytes + chunk.SizeBytes ≤ file.length
  bytes : chunk.File = (file.drop chunk.OffsetBytes.toNat).take chunk.SizeBytes.toNat

def Taken (fileSize : Int) (chunks : List UserArtifactChunk) (byte : Int) : Prop :=
  ∃ chunk ∈ chunks, chunk.OffsetBytes ≤ byte ∧ byte < chunk.OffsetBytes + chunk.SizeBytes ∧
    chunk.OffsetBytes + chunk.SizeBytes ≤ fileSize

def Fills (cs : chunkState) (chunks : List UserArtifactChunk) : Prop :=
  0 < cs.fileSize ∧ ∀ byte, 0 ≤ byte → byte < cs.fileSize →
    cs.Records byte ∨ Taken cs.fileSize chunks byte

/-- While chunks of a file are uploaded that is not published yet. -/
structure Uploading (RootDir : Place) (uuid checksum : String) (file : List UInt8) (name : String)
    (artifact : Option Node) (cs : chunkState) (sent : List UserArtifactChunk)
    (m : UserArtifactsManagerImpl) : Prop where
  grounded : Grounded RootDir uuid checksum m
  artifact : m.files.tree (checksum :: RootDir) = artifact
  contents : ∃ bytes, Contains m.files (name :: checksum :: uuidWorkDir RootDir uuid) bytes ∧
    bytes.length ≤ file.length ∧ ∀ byte : Nat, (∃ chunk ∈ sent, chunk.OffsetBytes ≤ byte ∧
      byte < chunk.OffsetBytes + chunk.SizeBytes) → bytes[byte]? = file[byte]?
  fileSize : (m.getChunkState checksum file.length).fileSize = cs.fileSize
  records : ∀ byte, (m.getChunkState checksum file.length).Records byte ↔
    cs.Records byte ∨ Taken cs.fileSize sent byte

def Covered (file : List UInt8) (chunks : List UserArtifactChunk) : Prop :=
  ∀ byte : Nat, byte < file.length → ∃ chunk ∈ chunks, chunk.OffsetBytes ≤ byte ∧
    byte < chunk.OffsetBytes + chunk.SizeBytes

section Steps

variable {file : List UInt8} {name : String} {artifact : Option Node} {cs : chunkState}
  {sent : List UserArtifactChunk}

theorem IsChunk.invalid (piece : IsChunk file name chunk) (small : file.length < 2 ^ 63) :
    addInt64 chunk.OffsetBytes chunk.SizeBytes = chunk.OffsetBytes + chunk.SizeBytes ∧
      invalid chunk = none := by
  obtain ⟨_, fileSize, offset, size, within, _⟩ := piece
  have sum : addInt64 chunk.OffsetBytes chunk.SizeBytes = chunk.OffsetBytes + chunk.SizeBytes := by
    unfold addInt64
    rw [Int.bmod_eq_of_le]
    · omega
    · omega
  refine ⟨sum, ?_⟩
  unfold UserArtifactsManagerImpl.invalid
  rw [if_neg (by omega), if_neg (by omega), if_neg (by omega), if_neg (by rw [sum]; omega)]

variable {bytes : List UInt8}

theorem IsChunk.overwrite (piece : IsChunk file name chunk) (short : bytes.length ≤ file.length)
    (same : ∀ byte : Nat, (∃ chunk ∈ sent, chunk.OffsetBytes ≤ byte ∧
      byte < chunk.OffsetBytes + chunk.SizeBytes) → bytes[byte]? = file[byte]?) :
    let written := Contents.overwrite bytes chunk.OffsetBytes.toNat chunk.File
    written.length ≤ file.length ∧ ∀ byte : Nat, (∃ other ∈ sent ++ [chunk],
      other.OffsetBytes ≤ byte ∧ byte < other.OffsetBytes + other.SizeBytes) →
        written[byte]? = file[byte]? := by
  obtain ⟨_, _, offset, size, within, content⟩ := piece
  have fits : chunk.OffsetBytes.toNat + chunk.SizeBytes.toNat ≤ file.length := by omega
  dsimp only
  rw [content]
  constructor
  · have total := @Contents.length_overwrite_le bytes
      ((file.drop chunk.OffsetBytes.toNat).take chunk.SizeBytes.toNat) chunk.OffsetBytes.toNat
    rw [length_take, length_drop] at total
    omega
  · rintro byte ⟨other, among, low, high⟩
    apply Contents.overwrite_part short fits
    rcases mem_append.mp among with among | among
    · exact .inl (same byte ⟨other, among, low, high⟩)
    · rw [mem_singleton.mp among] at low high
      exact .inr ⟨by omega, by omega⟩

theorem Covered.eq (covered : Covered file sent) (short : bytes.length ≤ file.length)
    (same : ∀ byte : Nat, (∃ chunk ∈ sent, chunk.OffsetBytes ≤ byte ∧
      byte < chunk.OffsetBytes + chunk.SizeBytes) → bytes[byte]? = file[byte]?) : bytes = file := by
  apply ext_getElem?
  intro byte
  by_cases inside : byte < file.length
  · exact same byte (covered byte inside)
  · rw [getElem?_eq_none (short.trans (not_lt.mp inside)),
      getElem?_eq_none (not_lt.mp inside)]

theorem Uploading.completed_iff
    (uploading : Uploading RootDir uuid checksum file name artifact cs sent m) :
    (m.getChunkState checksum file.length).IsCompleted = true ↔ Fills cs sent := by
  rw [chunkState.IsCompleted_iff (uploading.grounded.getChunkState _), uploading.fileSize]
  apply and_congr_right
  intro _
  apply forall_congr'
  intro byte
  rw [uploading.records]

theorem taken_append {fileSize byte : Int} : Taken fileSize (sent ++ [chunk]) byte ↔
    Taken fileSize sent byte ∨ chunk.OffsetBytes ≤ byte ∧
      byte < chunk.OffsetBytes + chunk.SizeBytes ∧
        chunk.OffsetBytes + chunk.SizeBytes ≤ fileSize := by
  unfold Taken
  constructor
  · rintro ⟨other, among, inside⟩
    rcases mem_append.mp among with among | among
    · exact .inl ⟨other, among, inside⟩
    · rw [mem_singleton.mp among] at inside
      exact .inr inside
  · rintro (⟨other, among, inside⟩ | inside)
    · exact ⟨other, mem_append_left _ among, inside⟩
    · exact ⟨chunk, mem_append_right _ mem_cons_self, inside⟩

theorem Uploading.write (uploading : Uploading RootDir uuid checksum file name artifact cs sent m)
    (is : IsChecksum checksum) (plain : Plain name) (small : file.length < 2 ^ 63)
    (piece : IsChunk file name chunk) (unpublished : artifact ≠ some .dir) :
    ∃ middle bytes, m.writeChunkAndUpdateState RootDir (uuidWorkDir RootDir uuid) {} checksum
          chunk = (middle, .ok (middle.getChunkState checksum file.length).IsCompleted) ∧
        Prepared RootDir uuid checksum middle.files ∧
          Uploading RootDir uuid checksum file name artifact cs (sent ++ [chunk]) middle ∧
            middle.files.tree (name :: checksum :: uuidWorkDir RootDir uuid) =
              some (.file bytes) ∧ (Covered file (sent ++ [chunk]) → bytes = file) := by
  obtain ⟨bytes, contains, short, same⟩ := uploading.contents
  have absent : m.files.tree (checksum :: RootDir) ≠ some .dir := by
    rw [uploading.artifact]
    exact unpublished
  obtain ⟨files, writing, stands, untouched⟩ := @writeChunkAndUpdateState_stands RootDir uuid
    checksum m chunk name bytes uploading.grounded is plain piece.named absent contains
  obtain ⟨grounded, prepared⟩ := uploading.grounded.writeChunkAndUpdateState is writing
  obtain ⟨contained, agrees⟩ := piece.overwrite short same
  rw [(piece.invalid small).1, piece.fileSize] at writing grounded prepared
  have kept : getChunkState ⟨files, Function.update m.chunkStates checksum
      (some ((m.getChunkState checksum file.length).updated chunk.OffsetBytes
        (chunk.OffsetBytes + chunk.SizeBytes)))⟩ checksum file.length =
      (m.getChunkState checksum file.length).updated chunk.OffsetBytes
        (chunk.OffsetBytes + chunk.SizeBytes) := by
    unfold getChunkState
    dsimp only
    rw [update_self]
    rfl
  refine ⟨_, _, writing.trans (by rw [kept]), prepared _ rfl, ⟨grounded, ?_, ?_, ?_, ?_⟩, stands,
    fun covered => covered.eq contained agrees⟩
  · exact untouched.trans uploading.artifact
  · exact ⟨_, .inl stands, contained, agrees⟩
  · rw [kept, updated_fileSize]
    exact uploading.fileSize
  · intro byte
    rw [kept, updated_records (uploading.grounded.getChunkState _) piece.offset,
      uploading.records, uploading.fileSize, taken_append, or_assoc]

theorem Uploading.step (uploading : Uploading RootDir uuid checksum file name artifact cs sent m)
    (is : IsChecksum checksum) (plain : Plain name) (small : file.length < 2 ^ 63)
    (piece : IsChunk file name chunk) (unpublished : artifact ≠ some .dir) :
    let after := update RootDir uuid sha256 checksum m ({}, chunk)
    (after.files.tree (checksum :: RootDir) = some .dir ∧ Grounded RootDir uuid checksum after ∧
        artifact = none ∧ Fills cs (sent ++ [chunk])) ∨
      (Uploading RootDir uuid checksum file name artifact cs (sent ++ [chunk]) after ∧
        ¬(artifact = none ∧ checksum = sha256 file ∧ Fills cs (sent ++ [chunk]) ∧
          Covered file (sent ++ [chunk]))) := by
  obtain ⟨middle, bytes, writing, prepared, held, stands, whole⟩ :=
    uploading.write is plain small piece unpublished
  have grounded := @Grounded.update RootDir uuid sha256 checksum m uploading.grounded is ({}, chunk)
  have absent : middle.files.tree (checksum :: RootDir) ≠ some .dir := by
    rw [held.artifact]
    exact unpublished
  have moved := @moveArtifactIfNeeded_stands RootDir uuid sha256 checksum middle chunk name bytes
    prepared held.grounded is plain piece.named absent stands
  have after : update RootDir uuid sha256 checksum m ({}, chunk) = _ :=
    UpdateArtifact_fst (piece.invalid small).2 writing
  dsimp only
  rw [after] at grounded ⊢
  by_cases completed : (middle.getChunkState checksum file.length).IsCompleted = true
  · have filled := held.completed_iff.mp completed
    rw [if_pos completed] at grounded ⊢
    split_ifs at moved with met
    · exact .inl ⟨moved, grounded, held.artifact.symm.trans met.2, filled⟩
    · refine .inr ⟨moved.symm ▸ held, ?_⟩
      rintro ⟨free, right, _, covered⟩
      apply met
      rw [whole covered, piece.fileSize]
      exact ⟨⟨rfl, right⟩, held.artifact.trans free⟩
  · rw [if_neg completed]
    refine .inr ⟨held, ?_⟩
    rintro ⟨_, _, filled, _⟩
    exact completed (held.completed_iff.mpr filled)

theorem Fills.more (filled : Fills cs sent) (more : List UserArtifactChunk) :
    Fills cs (sent ++ more) := by
  refine ⟨filled.1, ?_⟩
  intro byte low high
  rcases filled.2 byte low high with before | ⟨chunk, among, inside⟩
  · exact .inl before
  · exact .inr ⟨chunk, mem_append_left _ among, inside⟩

theorem update_published (grounded : Grounded RootDir uuid checksum m) (is : IsChecksum checksum)
    (published : m.files.tree (checksum :: RootDir) = some .dir)
    (call : Faults × UserArtifactChunk) : update RootDir uuid sha256 checksum m call = m := by
  have exists_ := (grounded.dirExists_iff is).mpr published
  unfold update UserArtifactsManagerImpl.UpdateArtifact
    UserArtifactsManagerImpl.writeChunkAndUpdateState
  rw [if_pos exists_]
  cases invalid call.2 with
  | some error => rfl
  | none =>
    dsimp only
    split_ifs <;> rfl

/-- The manager after an upload in which no system call fails. -/
def uploaded (RootDir : Place) (uuid : String) (sha256 : List UInt8 → String) (checksum : String)
    (m : UserArtifactsManagerImpl) (chunks : List UserArtifactChunk) : UserArtifactsManagerImpl :=
  chunks.foldl (fun m chunk => update RootDir uuid sha256 checksum m ({}, chunk)) m

theorem uploaded_published (grounded : Grounded RootDir uuid checksum m) (is : IsChecksum checksum)
    (published : m.files.tree (checksum :: RootDir) = some .dir)
    (chunks : List UserArtifactChunk) : uploaded RootDir uuid sha256 checksum m chunks = m := by
  induction chunks with
  | nil => rfl
  | cons chunk rest ih =>
    unfold uploaded at ih ⊢
    rw [foldl_cons, update_published grounded is published]
    exact ih

theorem Uploading.run (uploading : Uploading RootDir uuid checksum file name artifact cs sent m)
    (is : IsChecksum checksum) (plain : Plain name) (small : file.length < 2 ^ 63)
    {chunks : List UserArtifactChunk} (pieces : ∀ chunk ∈ chunks, IsChunk file name chunk)
    (unpublished : artifact ≠ some .dir) :
    let after := uploaded RootDir uuid sha256 checksum m chunks
    Grounded RootDir uuid checksum after ∧
      ((after.files.tree (checksum :: RootDir) = some .dir ∧ artifact = none ∧
          Fills cs (sent ++ chunks)) ∨
        (after.files.tree (checksum :: RootDir) = artifact ∧
          (chunks ≠ [] → ¬(artifact = none ∧ checksum = sha256 file ∧ Fills cs (sent ++ chunks) ∧
            Covered file (sent ++ chunks))))) := by
  induction chunks generalizing sent m with
  | nil => exact ⟨uploading.grounded, .inr ⟨uploading.artifact, fun some => absurd rfl some⟩⟩
  | cons chunk rest ih =>
    have stepped := @Uploading.step RootDir uuid sha256 checksum m chunk file name artifact cs sent
      uploading is plain small (pieces chunk mem_cons_self) unpublished
    have order : sent ++ chunk :: rest = sent ++ [chunk] ++ rest := by
      rw [append_assoc, singleton_append]
    rw [order]
    rcases stepped with ⟨published, grounded, free, filled⟩ | ⟨further, pending⟩
    · have same := @uploaded_published RootDir uuid sha256 checksum _ grounded is published rest
      have after : uploaded RootDir uuid sha256 checksum m (chunk :: rest) = _ := same
      dsimp only
      rw [after]
      exact ⟨grounded, .inl ⟨published, free, filled.more rest⟩⟩
    · obtain ⟨grounded, ended⟩ := ih further fun other among =>
        pieces other (mem_cons_of_mem _ among)
      refine ⟨grounded, ended.imp_right fun ⟨kept, last⟩ => ⟨kept, fun _ => ?_⟩⟩
      cases rest with
      | nil =>
        rw [append_nil]
        exact pending
      | cons next rest => exact last (cons_ne_nil _ _)

end Steps

structure Fresh (RootDir : Place) (uuid checksum : String) (m : UserArtifactsManagerImpl) :
    Prop where
  rooted : Rooted (uuidWorkDir RootDir uuid) m.files.tree
  empty : ∀ place, uuidWorkDir RootDir uuid <:+ place → place ≠ uuidWorkDir RootDir uuid →
    m.files.tree place = none
  artifact : ¬Linked m.files.tree (checksum :: RootDir)
  chunkStates : ∀ other, m.chunkStates other = none

theorem Fresh.grounded (fresh : Fresh RootDir uuid checksum m) :
    Grounded RootDir uuid checksum m where
  rooted := fresh.rooted
  working := .inl (fresh.empty _ (suffix_cons _ _) (cons_ne_self _ _))
  artifact := fresh.artifact
  chunks cs stands := by
    rw [fresh.chunkStates] at stands
    cases stands

end Uploads

/-- An upload is published just when nothing else stands in its place and its bytes are there or
come within the size of its first chunk. -/
theorem upload_completes_iff (RootDir : Place) (uuid : String) (sha256 : List UInt8 → String)
    (checksum : String) (m : UserArtifactsManagerImpl)
    (calls : List (Faults × UserArtifactChunk)) (file : List UInt8) (name : String)
    (chunks : List UserArtifactChunk) (fresh : Fresh RootDir uuid checksum m)
    (is : IsChecksum checksum) (right : checksum = sha256 file) (small : file.length < 2 ^ 63)
    (plain : Plain name) (pieces : ∀ chunk ∈ chunks, IsChunk file name chunk)
    (covered : Covered file chunks) (some_ : chunks ≠ [])
    (unpublished : dirExists (calls.foldl (update RootDir uuid sha256 checksum) m).files
      (UpdatedArtifactPath RootDir checksum) = false)
    (new : (calls.foldl (update RootDir uuid sha256 checksum) m).files.tree
      (name :: checksum :: uuidWorkDir RootDir uuid) = none) :
    let before := calls.foldl (update RootDir uuid sha256 checksum) m
    dirExists (uploaded RootDir uuid sha256 checksum before chunks).files
        (UpdatedArtifactPath RootDir checksum) = true ↔
      before.files.tree (checksum :: RootDir) = none ∧
        Fills (before.getChunkState checksum file.length) chunks := by
  have grounded := @Grounded.history RootDir uuid sha256 checksum m fresh.grounded is calls
  generalize calls.foldl (update RootDir uuid sha256 checksum) m = before at *
  dsimp only
  have absent : before.files.tree (checksum :: RootDir) ≠ some .dir := by
    intro published
    rw [(grounded.dirExists_iff is).mpr published] at unpublished
    cases unpublished
  have begins : Uploading RootDir uuid checksum file name
      (before.files.tree (checksum :: RootDir)) (before.getChunkState checksum file.length) []
      before := by
    refine ⟨grounded, rfl, ⟨[], .inr ⟨new, rfl⟩, Nat.zero_le _, nofun⟩, rfl, ?_⟩
    intro byte
    exact ⟨.inl, fun either => either.resolve_right nofun⟩
  obtain ⟨after, ended⟩ := @Uploading.run RootDir uuid sha256 checksum before file name _ _ []
    begins is plain small chunks pieces absent
  rw [after.dirExists_iff is]
  rw [nil_append] at ended
  constructor
  · intro published
    rcases ended with ⟨_, free, filled⟩ | ⟨kept, _⟩
    · exact ⟨free, filled⟩
    · exact absurd (kept.symm.trans published) absent
  · rintro ⟨free, filled⟩
    rcases ended with ⟨published, _⟩ | ⟨_, pending⟩
    · exact published
    · exact absurd ⟨free, right, filled, covered⟩ (pending some_)

/-! ## The upload of three bytes -/

def threeBytes : List UInt8 := [1, 2, 3]

def threeBytesSum : String := "039058c6f2c0cb492c533b0a4d14ef77cc0f78abccced5287d84a1a2011cfb81"

def threeBytesSha256 (bytes : List UInt8) : String :=
  if bytes = threeBytes then threeBytesSum else "another"

def newManager : UserArtifactsManagerImpl where
  files :=
    { disk := [(uuidWorkDir ["a"] "u", .dir), (["working", "a"], .dir), (["a"], .dir), ([], .dir)]}

def threeBytesChunks : List UserArtifactChunk :=
  [⟨["f"], [3], 2, 1, 3⟩, ⟨["f"], [1, 2], 0, 2, 3⟩]

theorem newManager_fresh : Fresh ["a"] "u" threeBytesSum newManager where
  rooted :=
    { stands := by
        have all : ∀ place ∈ (uuidWorkDir ["a"] "u").tails,
            newManager.files.tree place = some .dir := by decide
        exact fun place above => all place ((mem_tails _ _).mpr above)
      plain := by decide}
  empty := by
    intro place below apart
    by_contra stands
    obtain ⟨entry, among, same⟩ := Disk.tree_ne_none.mp stands
    have above : ∀ entry ∈ newManager.files.disk, entry.1 <:+ uuidWorkDir ["a"] "u" := by decide
    exact apart ((same ▸ above entry among).eq_of_length_le below.length_le)
  artifact := by decide
  chunkStates := fun _ => rfl

theorem threeBytesChunks_pieces : ∀ chunk ∈ threeBytesChunks, IsChunk threeBytes "f" chunk := by
  intro chunk among
  rcases mem_cons.mp among with rfl | among
  · constructor <;> decide
  · rw [mem_singleton.mp among]
    constructor <;> decide

theorem threeBytesChunks_covered : Covered threeBytes threeBytesChunks := by
  have length : threeBytes.length = 3 := rfl
  intro byte inside
  by_cases early : byte < 2
  · refine ⟨⟨["f"], [1, 2], 0, 2, 3⟩, by decide, ?_, ?_⟩ <;> dsimp only <;> omega
  · refine ⟨⟨["f"], [3], 2, 1, 3⟩, by decide, ?_, ?_⟩ <;> dsimp only <;> omega

/-- All bytes were received with other contents before. -/
theorem upload_completes_after_garbage :
    dirExists (uploaded ["a"] "u" threeBytesSha256 threeBytesSum
      ([({}, ⟨["g"], [9, 9, 9], 0, 3, 3⟩)].foldl (update ["a"] "u" threeBytesSha256 threeBytesSum)
        newManager) threeBytesChunks).files (UpdatedArtifactPath ["a"] threeBytesSum) = true := by
  apply (upload_completes_iff ["a"] "u" threeBytesSha256 threeBytesSum newManager
    [({}, ⟨["g"], [9, 9, 9], 0, 3, 3⟩)] threeBytes "f" threeBytesChunks newManager_fresh (by decide)
    (by decide) (by decide) (by decide) threeBytesChunks_pieces threeBytesChunks_covered (by decide)
    (by decide) (by decide)).mpr
  refine ⟨by decide, by decide, ?_⟩
  intro byte low high
  have received : (getChunkState ([({}, ⟨["g"], [9, 9, 9], 0, 3, 3⟩)].foldl
      (update ["a"] "u" threeBytesSha256 threeBytesSum) newManager) threeBytesSum
      threeBytes.length) = ⟨3, [(0, true), (3, false)]⟩ := by decide
  rw [received] at high ⊢
  left
  unfold chunkState.Records Boundaries.covers Boundaries.covers
  rw [if_pos low, if_neg (not_le.mpr high)]

/-- The first chunk of all declared a byte too much. -/
theorem upload_blocked :
    ¬∀ (RootDir : Place) (uuid : String) (sha256 : List UInt8 → String) (checksum : String)
      (m : UserArtifactsManagerImpl) (calls : List (Faults × UserArtifactChunk))
      (file : List UInt8) (name : String) (chunks : List UserArtifactChunk),
      Fresh RootDir uuid checksum m → IsChecksum checksum → checksum = sha256 file →
        file.length < 2 ^ 63 → Plain name → (∀ chunk ∈ chunks, IsChunk file name chunk) →
          Covered file chunks → chunks ≠ [] →
            dirExists (calls.foldl (update RootDir uuid sha256 checksum) m).files
                (UpdatedArtifactPath RootDir checksum) = false →
              (calls.foldl (update RootDir uuid sha256 checksum) m).files.tree
                  (name :: checksum :: uuidWorkDir RootDir uuid) = none →
                dirExists (uploaded RootDir uuid sha256 checksum
                  (calls.foldl (update RootDir uuid sha256 checksum) m) chunks).files
                    (UpdatedArtifactPath RootDir checksum) = true := by
  intro completes
  have published := completes ["a"] "u" threeBytesSha256 threeBytesSum newManager
    [({}, ⟨["g"], [1], 0, 1, 4⟩)] threeBytes "f" threeBytesChunks newManager_fresh (by decide)
    (by decide) (by decide) (by decide) threeBytesChunks_pieces threeBytesChunks_covered (by decide)
    (by decide) (by decide)
  revert published
  decide

end Ika.UserArtifacts
