import Ika.UserArtifacts.Calls

/-! A call of `UpdateArtifact` that runs alone does step by step what the function does at once. -/

set_option autoImplicit false

namespace Ika.UserArtifacts

open Links UserArtifactsManagerImpl

variable (RootDir WorkDir : Place) (sha256 : List UInt8 → String)
variable (checksum : String) (chunk : UserArtifactChunk)

/-- The steps of a call while there is no other. -/
inductive GoesOn : UserArtifactsManagerImpl → UpdateStage → UserArtifactsManagerImpl →
    UpdateStage → Prop where
  | here {m : UserArtifactsManagerImpl} {stage : UpdateStage} : GoesOn m stage m stage
  | step {m middle last : UserArtifactsManagerImpl} {stage next final : UpdateStage}
    {moved : Option (Place × Place)} (answer : Answer) :
    updateStep RootDir WorkDir sha256 answer [] m checksum chunk stage =
      some ⟨middle, next, moved⟩ →
      GoesOn middle next last final → GoesOn m stage last final

variable {RootDir WorkDir sha256 checksum chunk} {m middle last : UserArtifactsManagerImpl}
  {faults : Faults}

theorem GoesOn.trans {first second third : UpdateStage}
    (before : GoesOn RootDir WorkDir sha256 checksum chunk m first middle second)
    (after : GoesOn RootDir WorkDir sha256 checksum chunk middle second last third) :
    GoesOn RootDir WorkDir sha256 checksum chunk m first last third := by
  induction before with
  | here => exact after
  | step answer moved before ih => exact .step answer moved (ih after)

theorem copied_goesOn {fd : Place} {offset size : Nat} {rest : List UInt8} (some_ : rest ≠ [])
    (positive : size ≠ 0) : ∃ behind, GoesOn RootDir WorkDir sha256 checksum chunk m
      (.copying fd offset rest) {m with files := m.files.Write fd offset (rest.take size)}
      (.copying fd behind (rest.drop size)) := by
  obtain ⟨count, rfl⟩ := Nat.exists_eq_succ_of_ne_zero positive
  exact ⟨_, .step {faults := {copied := count}} (if_neg some_) .here⟩

theorem writeChunk_goesOn (some_ : chunk.File ≠ [])
    (part : faults.fails .Copy = true → faults.copied ≠ 0) {files : State}
    {error : Option String}
    (wrote : writeChunk faults m.files (Join (workDir WorkDir checksum) chunk.Name) chunk =
      (files, error)) :
    GoesOn RootDir WorkDir sha256 checksum chunk m .opening {m with files}
      (error.elim .loading failedUpdate) := by
  unfold writeChunk at wrote
  split at wrote
  · rename_i opened place found
    split_ifs at wrote with seek copy <;> cases wrote
    -- the seek fails, the copy fails behind a part of the chunk, or neither does
    · exact .step {faults} (by simp only [updateStep, found, seek]; rfl) .here
    · obtain ⟨behind, copied⟩ := copied_goesOn (m := {m with files := opened}) some_
        (part copy)
      refine .step {faults} (by simp only [updateStep, found, seek]; rfl) (copied.trans ?_)
      exact .step {faults} (if_pos copy) .here
    · obtain ⟨behind, copied⟩ := copied_goesOn (m := {m with files := opened}) some_
        (List.length_pos_iff.mpr some_).ne'
      refine .step {faults} (by simp only [updateStep, found, seek]; rfl) (copied.trans ?_)
      rw [List.take_length, List.drop_length]
      exact .step {} rfl .here
  · cases wrote
    rename_i missing
    exact .step {faults} (by simp only [updateStep, missing]; rfl) .here

theorem writeChunkAndUpdateState_goesOn (some_ : chunk.File ≠ [])
    (part : faults.fails .Copy = true → faults.copied ≠ 0) {result : Except Error Bool}
    (wrote : m.writeChunkAndUpdateState RootDir WorkDir faults checksum chunk = (middle, result)) :
    GoesOn RootDir WorkDir sha256 checksum chunk m .looking middle
      (match result with
        | .error (.wrapped texts) => .done (some (.wrapped ("failed to update chunk" :: texts)))
        | .error error => .done (some error)
        | .ok completed => if completed then .upgrading else .done none) := by
  unfold writeChunkAndUpdateState at wrote
  split_ifs at wrote with stat stands
  · cases wrote
    exact .step {faults} (if_pos stat) .here
  · cases wrote
    exact .step {faults} ((if_neg stat).trans (if_pos stands)) .here
  refine .step {faults} ((if_neg stat).trans (if_neg stands)) ?_
  split at wrote
  · rename_i files made
    cases wrote
    exact .step {faults} (by simp only [updateStep, made]; rfl) .here
  rename_i files made
  refine .step {faults} (by simp only [updateStep, made]; rfl) ?_
  split at wrote
  · rename_i written text stopped
    cases wrote
    exact writeChunk_goesOn (m := {m with files}) some_ part stopped
  · rename_i written whole
    refine (writeChunk_goesOn (m := {m with files}) some_ part whole).trans ?_
    cases wrote
    -- the chunk state is looked up, updated and asked whether it is complete
    refine .step {} rfl (.step {} rfl (.step {} rfl ?_))
    simp only [getChunkState, Function.update_self, Option.getD_some, Function.update_idem]
    exact .here

def afterValidation : Except String Bool → UpdateStage
  | .error _ => failedMove "failed to validate checksum of the user artifact"
  | .ok right => if right then .moving else .done none

theorem validateChecksum_goesOn {result : Except String Bool}
    (validated : m.validateChecksum WorkDir sha256 faults checksum chunk = result) :
    GoesOn RootDir WorkDir sha256 checksum chunk m .reopening m (afterValidation result) := by
  rw [← validated]
  unfold validateChecksum State.lookup
  cases walked : walk m.files.tree true maxLinks
      (Join (workDir WorkDir checksum) chunk.Name).reverse [] with
  | none => exact .step {} (by simp only [updateStep, walked]; rfl) .here
  | some found =>
    rw [Option.bind_some]
    split
    · rename_i bytes stands
      -- the size is only looked at once the file is open and was asked for it
      split_ifs with opens stats size reads
      · exact .step {faults} (by simp only [updateStep, walked, stands, opens]; rfl) .here
      · exact .step {faults} (by simp only [updateStep, walked, stands, stats, or_true]; rfl) .here
      all_goals have works := not_or.mpr ⟨opens, stats⟩
      · have other : updateStep RootDir WorkDir sha256 {faults} [] m checksum chunk .reopening =
            some {m, stage := .done none} := by
          simp only [updateStep, walked, stands]
          exact (if_neg works).trans (if_pos size)
        exact .step _ other .here
      all_goals
        have opened : updateStep RootDir WorkDir sha256 {faults} [] m checksum chunk .reopening =
            some {m, stage := .hashing found.1} := by
          simp only [updateStep, walked, stands]
          exact (if_neg works).trans (if_neg size)
        refine .step _ opened (.step {faults} (by simp only [updateStep, stands, reads]; rfl) ?_)
      · exact .here
      · simp only [afterValidation, decide_eq_true_eq]
        exact .here
    · exact .step {} (by simp only [updateStep, walked]; rfl) .here

theorem moveArtifactIfNeeded_goesOn {error : Option String}
    (moved : m.moveArtifactIfNeeded RootDir WorkDir sha256 faults checksum chunk = (last, error)) :
    GoesOn RootDir WorkDir sha256 checksum chunk m .lookingAgain last
      (error.elim (.done none) failedMove) := by
  unfold moveArtifactIfNeeded at moved
  dsimp only at moved
  split_ifs at moved with stat stands
  · cases moved
    exact .step {faults} (if_pos stat) .here
  · cases moved
    exact .step {faults} ((if_neg stat).trans (if_pos stands)) .here
  refine .step {faults} ((if_neg stat).trans (if_neg stands)) ?_
  -- a checksum that cannot be computed, one that is not right, and the artifact's
  split at moved <;> rename_i valid
  · cases moved
    exact validateChecksum_goesOn valid
  · cases moved
    exact validateChecksum_goesOn valid
  refine (validateChecksum_goesOn valid).trans ?_
  split at moved
  · rename_i renamed
    cases moved
    exact .step {faults} (by simp only [updateStep, renamed]; rfl) .here
  · rename_i renamed
    cases moved
    exact .step {faults} (by simp only [updateStep, renamed]; rfl) (.step {} rfl .here)

/-- From its lock on, a call comes to what the function leaves; a write of nothing is no step. -/
theorem UpdateArtifact_goesOn (valid : invalid chunk = none) (some_ : chunk.File ≠ [])
    (part : faults.fails .Copy = true → faults.copied ≠ 0) {error : Option Error}
    (updated : m.UpdateArtifact RootDir WorkDir sha256 faults checksum chunk = (last, error)) :
    GoesOn RootDir WorkDir sha256 checksum chunk m .locking last (.done error) := by
  unfold UpdateArtifact at updated
  rw [valid] at updated
  dsimp only at updated
  refine .step {} rfl ?_
  split at updated <;> rename_i wrote
  · cases updated
    exact writeChunkAndUpdateState_goesOn some_ part wrote
  · cases updated
    rename_i error plain
    cases error with
    | wrapped texts => exact absurd rfl (plain texts)
    | BadRequest | Conflict | NotFound => exact writeChunkAndUpdateState_goesOn some_ part wrote
  · cases updated
    exact writeChunkAndUpdateState_goesOn some_ part wrote
  · refine (writeChunkAndUpdateState_goesOn some_ part wrote).trans (.step {} rfl ?_)
    split at updated <;> rename_i moved <;> cases updated
    · exact moveArtifactIfNeeded_goesOn moved
    · exact moveArtifactIfNeeded_goesOn moved

end Ika.UserArtifacts
