import Ika.ImageAggregator.CompositeDisk

/-! When the layout of a composite disk is consistent. -/

set_option autoImplicit false

namespace Ika.ImageAggregator

open List Nat

section Placed

variable (images : String → Option Nat)

def sizeOf (source : ImagePartition) : Nat := (images source.image_file_path).getD 0

def taken (source : ImagePartition) : Nat := roundUp (sizeOf images source) (2 ^ PARTITION_SIZE_SHIFT)

def trueDiskSize (sources : List ImagePartition) : Nat :=
  roundUp (sizeofGptBeginning + (sources.map (taken images)).sum + sizeofGptEnd)
    (2 ^ DISK_SIZE_SHIFT)

def placed : Nat → List ImagePartition → List PartitionInfo
  | _, [] => []
  | next, source :: rest =>
    ⟨source, sizeOf images source, next⟩ ::
      placed (u64 (next + AlignToPartitionSize (sizeOf images source))) rest

def afterAll : Nat → List ImagePartition → Nat
  | next, [] => next
  | next, source :: rest => afterAll (u64 (next + AlignToPartitionSize (sizeOf images source))) rest

def Appendable (read_only : Bool) (source : ImagePartition) : Prop :=
  ∃ size, images source.image_file_path = some size ∧
    (read_only = true ∨ size % 2 ^ PARTITION_SIZE_SHIFT = 0 ∧ size < 2 ^ 64)

/-- Images that can be read and are not empty, and whole pages where they are written to. -/
def Sized (read_only : Bool) (source : ImagePartition) : Prop :=
  ∃ size, images source.image_file_path = some size ∧ 0 < size ∧ size < 2 ^ 64 ∧
    (read_only = false → size % 2 ^ PARTITION_SIZE_SHIFT = 0)

variable {images}

variable {read_only : Bool}

variable {source : ImagePartition}

theorem Sized.sizeOf (sized : Sized images read_only source) :
    images source.image_file_path = some (sizeOf images source) ∧ 0 < sizeOf images source ∧
      sizeOf images source < 2 ^ 64 := by
  obtain ⟨size, read, some, fits, -⟩ := sized
  unfold ImageAggregator.sizeOf
  rw [read]
  exact ⟨rfl, some, fits⟩

theorem Sized.appendable (sized : Sized images read_only source) :
    Appendable images read_only source := by
  obtain ⟨size, read, -, fits, whole⟩ := sized
  refine ⟨size, read, ?_⟩
  cases read_only with
  | true => exact .inl rfl
  | false => exact .inr ⟨whole rfl, fits⟩

theorem Appendable.sizeOf (appendable : Appendable images read_only source) :
    images source.image_file_path = some (sizeOf images source) := by
  obtain ⟨size, read, -⟩ := appendable
  unfold ImageAggregator.sizeOf
  rw [read]
  rfl

theorem eq_AlignToPartitionSize_iff {size : Nat} :
    size = AlignToPartitionSize size ↔ size % 2 ^ PARTITION_SIZE_SHIFT = 0 ∧ size < 2 ^ 64 := by
  have computed : AlignToPartitionSize size = (size + 4095) % 2 ^ 64 / 4096 * 4096 := rfl
  rw [computed, show 2 ^ PARTITION_SIZE_SHIFT = 4096 from rfl]
  omega

variable {builder : CompositeDiskBuilder}

theorem AppendPartition_eq (appendable : Appendable images builder.read_only_ source) :
    builder.AppendPartition images source =
      some
        {builder with
          partitions_ := builder.partitions_ ++
            [⟨source, sizeOf images source, builder.next_disk_offset_⟩]
          next_disk_offset_ := u64 (builder.next_disk_offset_ +
            AlignToPartitionSize (sizeOf images source))} := by
  have read := appendable.sizeOf
  obtain ⟨size, same, fills⟩ := appendable
  cases read.symm.trans same
  unfold CompositeDiskBuilder.AppendPartition
  rw [read]
  refine if_pos ?_
  rcases fills with read_only | whole
  · exact .inr read_only
  · exact .inl (eq_AlignToPartitionSize_iff.mpr whole)

theorem AppendPartition_none (refused : ¬Appendable images builder.read_only_ source) :
    builder.AppendPartition images source = none := by
  unfold CompositeDiskBuilder.AppendPartition
  cases read : images source.image_file_path with
  | none => rfl
  | some size =>
    refine if_neg fun fills => refused ⟨size, read, ?_⟩
    rcases fills with whole | read_only
    · exact .inr (eq_AlignToPartitionSize_iff.mp whole)
    · exact .inl read_only

theorem appendAll_eq {sources : List ImagePartition}
    (appendable : ∀ source ∈ sources, Appendable images builder.read_only_ source) :
    builder.appendAll images sources =
      {builder with
        partitions_ := builder.partitions_ ++ placed images builder.next_disk_offset_ sources
        next_disk_offset_ := afterAll images builder.next_disk_offset_ sources} := by
  induction sources generalizing builder with
  | nil =>
    unfold CompositeDiskBuilder.appendAll placed afterAll
    rw [foldl_nil, append_nil]
  | cons source rest ih =>
    have first := AppendPartition_eq (appendable source mem_cons_self)
    unfold CompositeDiskBuilder.appendAll at ih ⊢
    rw [foldl_cons, first, Option.getD_some]
    refine Eq.trans (ih ?_) ?_
    · exact fun source listed => appendable source (mem_cons_of_mem _ listed)
    · rw [append_assoc]
      rfl

section Refused

variable {sources : List ImagePartition} {builder : CompositeDiskBuilder} {source : ImagePartition}

theorem AppendPartition_step :
    ((builder.AppendPartition images source).getD builder).partitions_.length ≤
        builder.partitions_.length + 1 ∧
      ((builder.AppendPartition images source).getD builder).read_only_ = builder.read_only_ := by
  by_cases appendable : Appendable images builder.read_only_ source
  · rw [AppendPartition_eq appendable, Option.getD_some, length_append]
    exact ⟨Nat.le_refl _, rfl⟩
  · rw [AppendPartition_none appendable]
    exact ⟨le_succ _, rfl⟩

theorem length_appendAll_le :
    (builder.appendAll images sources).partitions_.length ≤
      builder.partitions_.length + sources.length := by
  induction sources generalizing builder with
  | nil => exact Nat.le_refl _
  | cons source rest ih =>
    have later := @ih ((builder.AppendPartition images source).getD builder)
    have step := (@AppendPartition_step images builder source).1
    rw [length_cons]
    exact Nat.le_trans later (by omega)

theorem length_appendAll_lt (listed : source ∈ sources)
    (refused : ¬Appendable images builder.read_only_ source) :
    (builder.appendAll images sources).partitions_.length <
      builder.partitions_.length + sources.length := by
  induction sources generalizing builder with
  | nil => cases listed
  | cons first rest ih =>
    rw [length_cons]
    rcases mem_cons.mp listed with rfl | later
    · have skipped : builder.appendAll images (source :: rest) = builder.appendAll images rest := by
        unfold CompositeDiskBuilder.appendAll
        rw [foldl_cons, AppendPartition_none refused]
        rfl
      rw [skipped]
      exact lt_succ_of_le length_appendAll_le
    · obtain ⟨step, same⟩ := @AppendPartition_step images builder first
      have fewer := ih later (same.symm ▸ refused)
      exact Nat.lt_of_lt_of_le fewer (by omega)

end Refused

theorem length_placed {next : Nat} {sources : List ImagePartition} :
    (placed images next sources).length = sources.length := by
  induction sources generalizing next with
  | nil => rfl
  | cons source rest ih => exact congrArg Nat.succ ih

end Placed

section Fits

variable {images : String → Option Nat} {next : Nat} {sources : List ImagePartition}
  {partition : PartitionInfo}

/-- A partition where it should be, and before the end of the disk. -/
structure Fits (images : String → Option Nat) (low high : Nat) (partition : PartitionInfo) : Prop
    where
  size : partition.size = sizeOf images partition.source
  some : 0 < partition.size
  aligned : partition.AlignedSize = roundUp partition.size (2 ^ PARTITION_SIZE_SHIFT)
  whole : partition.offset % 2 ^ PARTITION_SIZE_SHIFT = 0
  low : low ≤ partition.offset
  high : partition.offset + roundUp partition.size (2 ^ PARTITION_SIZE_SHIFT) ≤ high

theorem AlignToPartitionSize_eq {size bound : Nat}
    (fits : roundUp size (2 ^ PARTITION_SIZE_SHIFT) ≤ bound) (small : bound < 2 ^ 63) :
    AlignToPartitionSize size = roundUp size (2 ^ PARTITION_SIZE_SHIFT) := by
  have above := roundUp_ge size (Nat.two_pow_pos PARTITION_SIZE_SHIFT)
  refine AlignToPowerOf2_eq ?_
  unfold PARTITION_SIZE_SHIFT at above fits ⊢
  omega

theorem next_eq {source : ImagePartition} (fits : next + taken images source < 2 ^ 63) :
    u64 (next + AlignToPartitionSize (sizeOf images source)) = next + taken images source := by
  have same : AlignToPartitionSize (sizeOf images source) = taken images source :=
    AlignToPartitionSize_eq (Nat.le_refl (taken images source)) (by omega)
  rw [same]
  exact mod_eq_of_lt (show next + taken images source < 2 ^ 64 by omega)

theorem afterAll_eq (fits : next + (sources.map (taken images)).sum < 2 ^ 63) :
    afterAll images next sources = next + (sources.map (taken images)).sum := by
  induction sources generalizing next with
  | nil => rfl
  | cons source rest ih =>
    rw [map_cons, sum_cons, ← Nat.add_assoc] at fits ⊢
    unfold afterAll
    rw [next_eq (by omega), ih fits]

theorem placed_fits {read_only : Bool} (sized : ∀ source ∈ sources, Sized images read_only source)
    (fits : next + (sources.map (taken images)).sum < 2 ^ 63)
    (whole : next % 2 ^ PARTITION_SIZE_SHIFT = 0) (listed : partition ∈ placed images next sources) :
    Fits images next (next + (sources.map (taken images)).sum) partition := by
  induction sources generalizing next with
  | nil => cases listed
  | cons source rest ih =>
    rw [map_cons, sum_cons, ← Nat.add_assoc] at fits ⊢
    unfold placed at listed
    rcases mem_cons.mp listed with rfl | later
    · have first : next + taken images source ≤
          next + taken images source + (rest.map (taken images)).sum := Nat.le_add_right _ _
      exact
        { size := rfl
          some := (sized source mem_cons_self).sizeOf.2.1
          aligned := AlignToPartitionSize_eq (Nat.le_refl (taken images source)) (by omega)
          whole := whole
          low := Nat.le_refl _
          high := first}
    · rw [next_eq (by omega)] at later
      have behind : (next + taken images source) % 2 ^ PARTITION_SIZE_SHIFT = 0 := by
        have multiple : taken images source % 2 ^ PARTITION_SIZE_SHIFT = 0 := roundUp_mod
        rw [add_mod, whole, multiple]
        exact zero_mod _
      have rest := ih (fun source listed => sized source (mem_cons_of_mem _ listed)) fits behind later
      exact {rest with low := Nat.le_trans (Nat.le_add_right _ _) rest.low}

theorem placed_ordered {read_only : Bool} (sized : ∀ source ∈ sources, Sized images read_only source)
    (fits : next + (sources.map (taken images)).sum < 2 ^ 63)
    (whole : next % 2 ^ PARTITION_SIZE_SHIFT = 0) :
    (placed images next sources).Pairwise fun one other =>
      one.offset + roundUp one.size (2 ^ PARTITION_SIZE_SHIFT) ≤ other.offset := by
  induction sources generalizing next with
  | nil => exact .nil
  | cons source rest ih =>
    rw [map_cons, sum_cons, ← Nat.add_assoc] at fits
    have sizedRest := fun source listed => sized source (mem_cons_of_mem _ listed)
    have behind : (next + taken images source) % 2 ^ PARTITION_SIZE_SHIFT = 0 := by
      have multiple : taken images source % 2 ^ PARTITION_SIZE_SHIFT = 0 := roundUp_mod
      rw [add_mod, whole, multiple]
      exact zero_mod _
    unfold placed
    rw [next_eq (by omega)]
    refine .cons (fun other listed => ?_) (ih sizedRest fits behind)
    exact (placed_fits sizedRest fits behind listed).low

end Fits

theorem sector_eq : kSectorSize = 512 := rfl

theorem page_eq : 2 ^ PARTITION_SIZE_SHIFT = 4096 := rfl

theorem beginning_eq : sizeofGptBeginning = 20480 := rfl

theorem end_eq : sizeofGptEnd = 16896 := rfl

theorem entries_eq : sizeofEntries = 16384 := rfl

theorem disk_eq : 2 ^ DISK_SIZE_SHIFT = 65536 := rfl

section Parts

variable {images : String → Option Nat} {builder : CompositeDiskBuilder} {crc32 : Checksums}
  {guid : Nat → List UInt8} {finish : Nat} {partition : PartitionInfo}

theorem entries_getElem? {index : Nat} (listed : builder.partitions_[index]? = some partition) :
    (builder.entries guid)[index]? =
      some (CompositeDiskBuilder.entry (guid (index + 1)) partition) := by
  have inside : index < builder.partitions_.length := (List.getElem?_eq_some_iff.mp listed).1
  unfold CompositeDiskBuilder.entries
  rw [getElem?_append_left (by rw [length_mapIdx]; exact inside), getElem?_mapIdx,
    listed]
  rfl

section

variable (ends : builder.next_disk_offset_ = finish)
include ends

theorem entry_spans {unique : List UInt8}
    (small : finish < 2 ^ 63) (whole : finish % 2 ^ PARTITION_SIZE_SHIFT = 0)
    (fits : Fits images sizeofGptBeginning finish partition) :
    Spans (builder.header crc32 guid) partition (CompositeDiskBuilder.entry unique partition) := by
  have multiple : roundUp partition.size (2 ^ PARTITION_SIZE_SHIFT) % 2 ^ PARTITION_SIZE_SHIFT = 0 :=
    roundUp_mod
  have above := roundUp_ge partition.size (Nat.two_pow_pos PARTITION_SIZE_SHIFT)
  obtain ⟨-, some, aligned, start, low, high⟩ := fits
  rw [beginning_eq] at low
  rw [page_eq] at *
  have first : (CompositeDiskBuilder.entry unique partition).first_lba = partition.offset / 512 := rfl
  have last : (CompositeDiskBuilder.entry unique partition).last_lba =
      u64 (u64 (partition.offset + partition.AlignedSize) / 512 + 2 ^ 64 - 1) := rfl
  have usable : (builder.header crc32 guid).first_usable_lba = 40 := rfl
  have limit : (builder.header crc32 guid).last_usable_lba =
      u64 (builder.next_disk_offset_ / 512 + 2 ^ 64 - 1) := rfl
  rw [aligned] at last
  rw [ends] at limit
  unfold u64 at last limit
  exact
    { first := by
        rw [sector_eq]
        omega
      last := by
        rw [sector_eq, page_eq]
        omega
      forward := by omega
      low := by omega
      high := by omega}

theorem DiskSize_eq (small : finish < 2 ^ 63) :
    builder.DiskSize = roundUp (finish + sizeofGptEnd) (2 ^ DISK_SIZE_SHIFT) := by
  unfold CompositeDiskBuilder.DiskSize
  rw [ends]
  have fits : u64 (finish + sizeofGptEnd) = finish + sizeofGptEnd := by
    rw [end_eq]
    exact mod_eq_of_lt (by omega)
  rw [fits]
  refine AlignToPowerOf2_eq ?_
  rw [end_eq, disk_eq]
  omega

theorem DiskSize_facts (small : finish < 2 ^ 62) :
    builder.DiskSize % 65536 = 0 ∧ finish + 16896 ≤ builder.DiskSize ∧
      builder.DiskSize < 2 ^ 63 := by
  have same := DiskSize_eq ends (by omega)
  have multiple : roundUp (finish + sizeofGptEnd) (2 ^ DISK_SIZE_SHIFT) % 2 ^ DISK_SIZE_SHIFT = 0 :=
    roundUp_mod
  have above := roundUp_ge (finish + sizeofGptEnd) (Nat.two_pow_pos DISK_SIZE_SHIFT)
  have below := roundUp_lt (finish + sizeofGptEnd) (Nat.two_pow_pos DISK_SIZE_SHIFT)
  rw [← same] at multiple above below
  rw [disk_eq] at multiple below
  rw [end_eq] at above below
  exact ⟨multiple, above, by omega⟩

theorem mirrored (small : finish < 2 ^ 62) :
    Mirrored builder.DiskSize
      ⟨ProtectiveMbr builder.DiskSize, builder.header crc32 guid, builder.entries guid⟩
      (builder.End crc32
        ⟨ProtectiveMbr builder.DiskSize, builder.header crc32 guid, builder.entries guid⟩) := by
  obtain ⟨multiple, above, below⟩ := DiskSize_facts ends small
  have backup : (builder.header crc32 guid).backup_lba =
      u64 (builder.DiskSize / 512 + 2 ^ 64 - 1) := rfl
  unfold u64 at backup
  exact
    { first := rfl
      last := by
        rw [sector_eq]
        dsimp only
        omega
      current := rfl
      backup := rfl
      entries := by
        have table : (builder.End crc32 ⟨ProtectiveMbr builder.DiskSize, builder.header crc32 guid,
            builder.entries guid⟩).footer.partition_entries_lba =
            u64 (u64 (builder.DiskSize + 2 ^ 64 - 16384) / 512 + 2 ^ 64 - 1) := rfl
        have current : (builder.End crc32 ⟨ProtectiveMbr builder.DiskSize,
            builder.header crc32 guid, builder.entries guid⟩).footer.current_lba =
            (builder.header crc32 guid).backup_lba := rfl
        rw [table, current, backup, sector_eq, entries_eq]
        unfold u64
        omega
      same := rfl}

theorem WriteEnd_eq {mbr : MasterBootRecord} {entries : List GptPartitionEntry}
    (small : finish < 2 ^ 62) (whole : finish % 2 ^ PARTITION_SIZE_SHIFT = 0)
    (positive : 0 < finish) :
    finish + WriteEnd (builder.End crc32 ⟨mbr, builder.header crc32 guid, entries⟩) =
      builder.DiskSize := by
  obtain ⟨multiple, above, below⟩ := DiskSize_facts ends small
  rw [page_eq] at whole
  have current : (builder.End crc32 ⟨mbr, builder.header crc32 guid, entries⟩).footer.current_lba =
      u64 (builder.DiskSize / 512 + 2 ^ 64 - 1) := rfl
  have usable : (builder.End crc32
      ⟨mbr, builder.header crc32 guid, entries⟩).footer.last_usable_lba =
      u64 (finish / 512 + 2 ^ 64 - 1) := by
    rw [← ends]
    rfl
  unfold WriteEnd
  rw [current, usable, sector_eq, end_eq]
  have disk : u64 (u64 (u64 (builder.DiskSize / 512 + 2 ^ 64 - 1) + 1) * 512) = builder.DiskSize := by
    unfold u64
    omega
  have start : u64 (u64 (u64 (finish / 512 + 2 ^ 64 - 1) + 1) * 512) = finish := by
    unfold u64
    omega
  rw [disk, start]
  unfold u64
  dsimp only
  omega

end

theorem num_sectors_iff {size : Nat} (units : size % 65536 = 0) :
    (size % 2 ^ 32 / kSectorSize ≤ min (size / kSectorSize) (2 ^ 32 - 1) + 1 ∧
      min (size / kSectorSize) (2 ^ 32 - 1) ≤ size % 2 ^ 32 / kSectorSize + 1) ↔ size < 2 ^ 32 := by
  rw [sector_eq]
  have split : size = 2 ^ 32 * (size / 2 ^ 32) + size % 2 ^ 32 := (div_add_mod _ _).symm
  constructor
  · rintro ⟨-, few⟩
    by_contra large
    omega
  · intro small
    omega

end Parts

section Components

variable {images : String → Option Nat} {builder : CompositeDiskBuilder} {next finish : Nat}
  {sources : List ImagePartition} {header_file : String} {length : String → Nat}

theorem backed_placed {read_only : Bool} {tail : List ComponentDisk}
    (sized : ∀ source ∈ sources, Sized images read_only source)
    (fits : next + (sources.map (taken images)).sum < 2 ^ 63)
    (long : ∀ source ∈ sources, sizeOf images source ≤ length source.image_file_path)
    (header : 2 ^ PARTITION_SIZE_SHIFT ≤ length header_file)
    (follows : nextOffset finish tail = next + (sources.map (taken images)).sum)
    (rest : Backed length finish tail) :
    nextOffset finish
        ((placed images next sources).flatMap (builder.components header_file) ++ tail) = next ∧
      Backed length finish
        ((placed images next sources).flatMap (builder.components header_file) ++ tail) := by
  induction sources generalizing next with
  | nil => exact ⟨follows, rest⟩
  | cons source others ih =>
    rw [map_cons, sum_cons, ← Nat.add_assoc] at fits follows
    have some := (sized source mem_cons_self).sizeOf.2.1
    have enough := long source mem_cons_self
    have above := roundUp_ge (sizeOf images source) (Nat.two_pow_pos PARTITION_SIZE_SHIFT)
    have below := roundUp_lt (sizeOf images source) (Nat.two_pow_pos PARTITION_SIZE_SHIFT)
    have same : roundUp (sizeOf images source) (2 ^ PARTITION_SIZE_SHIFT) = taken images source := rfl
    rw [same] at above below
    obtain ⟨starts, backed⟩ := ih (fun source listed => sized source (mem_cons_of_mem _ listed))
      fits (fun source listed => long source (mem_cons_of_mem _ listed)) follows
    have aligned : AlignToPartitionSize (sizeOf images source) = taken images source :=
      AlignToPartitionSize_eq (Nat.le_refl (taken images source)) (by omega)
    unfold placed
    rw [next_eq (by omega), flatMap_cons, append_assoc]
    unfold CompositeDiskBuilder.components PartitionInfo.AlignedSize
    dsimp only
    rw [aligned]
    split
    · -- the header stands for what the image lacks of its last page
      rename_i differ
      have gap : u64 (next + sizeOf images source) = next + sizeOf images source :=
        mod_eq_of_lt (by omega)
      rw [gap]
      refine ⟨rfl, ?_, ?_, ?_, ?_, backed⟩
      · exact Nat.lt_add_of_pos_right some
      · exact Nat.le_trans (Nat.le_of_eq (Nat.add_sub_cancel_left next _)) enough
      · refine Nat.lt_of_lt_of_eq ?_ starts.symm
        dsimp only
        omega
      · refine Nat.le_trans (Nat.le_of_eq (congrArg (· - _) starts)) ?_
        dsimp only
        omega
    · rename_i same
      refine ⟨rfl, ?_, ?_, backed⟩
      · refine Nat.lt_of_lt_of_eq ?_ starts.symm
        dsimp only
        omega
      · refine Nat.le_trans (Nat.le_of_eq (congrArg (· - _) starts)) ?_
        dsimp only
        omega

end Components

end Ika.ImageAggregator
