import Ika.ImageAggregator.Table

/-! Where the images are in an aggregate. -/

set_option autoImplicit false

namespace Ika.ImageAggregator

open List

def Filled (images : String → Option Nat) (files : Files) (source : ImagePartition) : Prop :=
  ∃ bytes, files source.image_file_path = some bytes ∧
    sizeOf images source = roundUp bytes.length (2 ^ PARTITION_SIZE_SHIFT)

def Held (files : Files) (partitions : List ImagePartition) (disk : RawDisk) : Prop :=
  ∀ (index : Nat) (partition : ImagePartition), partitions[index]? = some partition →
    ∃ entry bytes zeros, disk.beginning.entries[index]? = some entry ∧
      files partition.image_file_path = some bytes ∧
      sizeofGptBeginning ≤ entry.first_lba * kSectorSize ∧
      (disk.data.drop (entry.first_lba * kSectorSize - sizeofGptBeginning)).take
          ((entry.last_lba + 1) * kSectorSize - entry.first_lba * kSectorSize) =
        bytes ++ .replicate zeros 0

theorem length_padded {bytes : List UInt8} (fits : (padded bytes).length < 2 ^ 63) :
    (padded bytes).length = roundUp bytes.length (2 ^ PARTITION_SIZE_SHIFT) := by
  have above := roundUp_ge bytes.length (Nat.two_pow_pos PARTITION_SIZE_SHIFT)
  have below := roundUp_lt bytes.length (Nat.two_pow_pos PARTITION_SIZE_SHIFT)
  have long : (padded bytes).length = bytes.length +
      u64 (AlignToPartitionSize bytes.length + 2 ^ 64 - bytes.length) := by
    unfold padded
    rw [length_append, length_replicate]
  have aligned : AlignToPartitionSize bytes.length =
      roundUp bytes.length (2 ^ PARTITION_SIZE_SHIFT) := by
    refine AlignToPowerOf2_eq ?_
    rw [page_eq]
    omega
  rw [aligned] at long
  unfold u64 at long
  rw [page_eq] at *
  omega

section Body

variable {images : String → Option Nat} {files : Files} {succeeds : Stage → Bool}
  {sources : List ImagePartition} {partition : PartitionInfo} {body : List UInt8}
  {next start index : Nat}

theorem copyAll_cons {rest : List PartitionInfo}
    (copied : copyAll succeeds files start (partition :: rest) = some body) :
    ∃ bytes others, files partition.source.image_file_path = some bytes ∧
      copyAll succeeds files (start + 1) rest = some others ∧ body = padded bytes ++ others := by
  unfold copyAll at copied
  split at copied
  · cases copied
  · rename_i bytes read
    split at copied
    · obtain ⟨others, later, rfl⟩ := Option.map_eq_some_iff.mp copied
      exact ⟨bytes, others, read, later, rfl⟩
    · cases copied

theorem Filled.taken {source : ImagePartition} {bytes : List UInt8}
    (filled : Filled images files source) (read : files source.image_file_path = some bytes)
    (fits : (padded bytes).length < 2 ^ 63) :
    (padded bytes).length = taken images source := by
  obtain ⟨same, found, size⟩ := filled
  cases read.symm.trans found
  unfold ImageAggregator.taken
  rw [size, roundUp_of_mod (Nat.two_pow_pos _) roundUp_mod]
  exact length_padded fits

theorem length_body (filled : ∀ source ∈ sources, Filled images files source)
    (copied : copyAll succeeds files start (placed images next sources) = some body)
    (fits : body.length < 2 ^ 63) : body.length = (sources.map (taken images)).sum := by
  induction sources generalizing next start body with
  | nil =>
    cases copied
    rfl
  | cons source rest ih =>
    obtain ⟨bytes, others, read, later, rfl⟩ := copyAll_cons copied
    rw [length_append] at fits ⊢
    have first := (filled source mem_cons_self).taken read (by omega)
    have behind := ih (fun source listed => filled source (mem_cons_of_mem _ listed)) later
      (by omega)
    rw [map_cons, sum_cons, first, behind]

theorem body_at (filled : ∀ source ∈ sources, Filled images files source)
    (copied : copyAll succeeds files start (placed images next sources) = some body)
    (fits : next + body.length < 2 ^ 63)
    (located : (placed images next sources)[index]? = some partition) :
    ∃ bytes before behind, files partition.source.image_file_path = some bytes ∧
      body = before ++ (padded bytes ++ behind) ∧ next + before.length = partition.offset ∧
      (padded bytes).length = roundUp partition.size (2 ^ PARTITION_SIZE_SHIFT) := by
  induction sources generalizing next start body index with
  | nil => cases located
  | cons source rest ih =>
    obtain ⟨bytes, others, read, later, rfl⟩ := copyAll_cons copied
    rw [length_append] at fits
    have first := (filled source mem_cons_self).taken read (by omega)
    cases index with
    | zero =>
      cases located
      exact ⟨bytes, [], others, read, rfl, rfl, first⟩
    | succ index =>
      -- what follows starts where the first image ends
      have moved := @next_eq images next source (by omega)
      rw [moved] at later
      unfold placed at located
      rw [getElem?_cons_succ, moved] at located
      obtain ⟨found, before, behind, same, rfl, offset, size⟩ :=
        ih (fun source listed => filled source (mem_cons_of_mem _ listed)) later (by omega)
          located
      refine ⟨found, padded bytes ++ before, behind, same, ?_, ?_, size⟩
      · rw [append_assoc]
      · rw [length_append]
        omega

end Body

section Entries

variable {formats : Formats} {simg2img : List UInt8 → Option (List UInt8)}
  {succeeds : Stage → Bool} {crc32 : Checksums} {guid : Nat → List UInt8} {files raw : Files}
  {partitions : List ImagePartition} {disk : RawDisk}

theorem ImageFromFile_some {bytes : List UInt8} {size : Nat}
    (read : formats.ImageFromFile bytes = some size) : 0 < bytes.length := by
  cases bytes with
  | nil => cases read
  | cons first rest => exact Nat.succ_pos _

theorem sized_of_filled {source : ImagePartition}
    (appendable : Appendable (ExpandedStorageSize formats raw) false source)
    (filled : Filled (ExpandedStorageSize formats raw) raw source) :
    Sized (ExpandedStorageSize formats raw) false source := by
  have known := appendable.sizeOf
  obtain ⟨size, read, fills⟩ := appendable
  cases known.symm.trans read
  obtain ⟨whole, fits⟩ := fills.resolve_left nofun
  obtain ⟨bytes, found, size⟩ := filled
  have some : 0 < bytes.length := by
    unfold ExpandedStorageSize at known
    rw [found] at known
    exact ImageFromFile_some known
  have above := roundUp_ge bytes.length (Nat.two_pow_pos PARTITION_SIZE_SHIFT)
  exact ⟨_, read, by omega, fits, fun _ => whole⟩

theorem Beginning_entries {builder : CompositeDiskBuilder} {beginning : GptBeginning}
    (begins : builder.Beginning crc32 guid = some beginning) :
    beginning.entries = builder.entries guid := by
  unfold CompositeDiskBuilder.Beginning at begins
  split at begins
  · cases begins
    rfl
  · cases begins

theorem held_of_filled
    (aggregated : AggregateImage formats simg2img succeeds crc32 guid files partitions =
      some (raw, disk))
    (appendable : ∀ source ∈ partitions,
      Appendable (ExpandedStorageSize formats raw) false source)
    (filled : ∀ source ∈ partitions, Filled (ExpandedStorageSize formats raw) raw source) :
    Held raw partitions disk := by
  obtain ⟨-, begins, copied, fits, -⟩ := AggregateImage_parts aggregated
  have built := build_placed appendable
  have partitions_ : (build (ExpandedStorageSize formats raw) false partitions).partitions_ =
      placed (ExpandedStorageSize formats raw) sizeofGptBeginning partitions := by rw [built]
  rw [partitions_] at copied
  have long := length_body filled copied (by omega)
  have total : sizeofGptBeginning +
      (partitions.map (taken (ExpandedStorageSize formats raw))).sum < 2 ^ 63 := long ▸ fits
  have ends : (build (ExpandedStorageSize formats raw) false partitions).next_disk_offset_ =
      sizeofGptBeginning + (partitions.map (taken (ExpandedStorageSize formats raw))).sum := by
    rw [built]
    exact afterAll_eq total
  have sized := fun source listed =>
    sized_of_filled (appendable source listed) (filled source listed)
  have whole : (sizeofGptBeginning +
      (partitions.map (taken (ExpandedStorageSize formats raw))).sum) %
        2 ^ PARTITION_SIZE_SHIFT = 0 := by
    have multiple := @sum_taken_mod (ExpandedStorageSize formats raw) partitions
    rw [page_eq, beginning_eq]
    omega
  intro index source found
  obtain ⟨partition, located, rfl⟩ := Option.map_eq_some_iff.mp (placed_getElem?.trans found)
  obtain ⟨bytes, before, behind, read, body, offset, size⟩ := body_at filled copied fits located
  have spans := @entry_spans _ _ crc32 guid _ _ ends (guid (index + 1)) total whole
    (placed_fits sized total (by decide) (mem_of_getElem? located))
  have first := spans.first
  have last := spans.last
  refine ⟨CompositeDiskBuilder.entry (guid (index + 1)) partition, bytes,
    u64 (AlignToPartitionSize bytes.length + 2 ^ 64 - bytes.length), ?_, read, ?_, ?_⟩
  · rw [Beginning_entries begins]
    exact entries_getElem? (partitions_ ▸ located)
  · omega
  · have start : partition.offset - sizeofGptBeginning = before.length := by omega
    rw [first, last, Nat.add_sub_cancel_left, start]
    unfold RawDisk.data
    rw [body, append_assoc, drop_left, append_assoc, ← size, take_left]
    rfl

end Entries

end Ika.ImageAggregator
