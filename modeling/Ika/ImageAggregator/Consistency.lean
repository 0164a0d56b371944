import Ika.ImageAggregator.Layout

/-! The layout of a composite disk is consistent just below 4 GiB. -/

set_option autoImplicit false

namespace Ika.ImageAggregator

open List

section Consistency

variable (images : String → Option Nat) (read_only : Bool) (header_file footer_file : String)
  (sources : List ImagePartition)

def build : CompositeDiskBuilder :=
  CompositeDiskBuilder.appendAll {read_only_ := read_only} images sources

def fileLength (footer : Nat) (path : String) : Nat :=
  if path = header_file then sizeofGptBeginning
  else if path = footer_file then footer
  else (images path).getD 0

/-- No more partitions than there are entries, and files of their own for header and footer. -/
structure Suitable : Prop where
  few : sources.length ≤ GPT_NUM_PARTITIONS
  sized : ∀ source ∈ sources, Sized images read_only source
  distinct : header_file ≠ footer_file
  apart : ∀ source ∈ sources,
    source.image_file_path ≠ header_file ∧ source.image_file_path ≠ footer_file

def Laid (crc32 : Checksums) (guid : Nat → List UInt8) : Prop :=
  ∃ beginning spec,
    (build images read_only sources).Beginning crc32 guid = some beginning ∧
    (build images read_only sources).MakeCompositeDiskSpec images header_file footer_file =
      some spec ∧
    Consistent (build images read_only sources) beginning
      ((build images read_only sources).End crc32 beginning) spec
      (fileLength images header_file footer_file
        (WriteEnd ((build images read_only sources).End crc32 beginning)))

variable {images read_only header_file footer_file sources} {crc32 : Checksums}
  {guid : Nat → List UInt8}

theorem build_eq (sized : ∀ source ∈ sources, Sized images read_only source) :
    (build images read_only sources).read_only_ = read_only ∧
      (build images read_only sources).partitions_ = placed images sizeofGptBeginning sources ∧
      (build images read_only sources).next_disk_offset_ =
        afterAll images sizeofGptBeginning sources := by
  unfold build
  rw [appendAll_eq fun source listed => (sized source listed).appendable]
  exact ⟨rfl, nil_append _, rfl⟩

theorem Beginning_eq (suitable : Suitable images read_only header_file footer_file sources) :
    (build images read_only sources).Beginning crc32 guid =
      some
        ⟨ProtectiveMbr (build images read_only sources).DiskSize,
          (build images read_only sources).header crc32 guid,
          (build images read_only sources).entries guid⟩ := by
  unfold CompositeDiskBuilder.Beginning
  refine if_pos ?_
  rw [(build_eq suitable.sized).2.1, length_placed]
  exact suitable.few

variable {next : Nat} {partition : PartitionInfo} {unique : List UInt8}

theorem placed_source (listed : partition ∈ placed images next sources) :
    partition.source ∈ sources ∧ partition.size = sizeOf images partition.source := by
  induction sources generalizing next with
  | nil => cases listed
  | cons source rest ih =>
    rcases mem_cons.mp listed with rfl | later
    · exact ⟨mem_cons_self, rfl⟩
    · obtain ⟨member, same⟩ := ih later
      exact ⟨mem_cons_of_mem _ member, same⟩

theorem MakeCompositeDiskSpec_eq
    (suitable : Suitable images read_only header_file footer_file sources) :
    (build images read_only sources).MakeCompositeDiskSpec images header_file footer_file =
      some
        { version := 2
          length := (build images read_only sources).DiskSize
          component_disks :=
            {file_path := header_file, offset := 0} ::
              ((build images read_only sources).partitions_.flatMap
                  ((build images read_only sources).components header_file) ++
                [{ file_path := footer_file
                   offset := (build images read_only sources).next_disk_offset_}])} := by
  unfold CompositeDiskBuilder.MakeCompositeDiskSpec
  refine if_pos fun partition listed => ?_
  rw [(build_eq suitable.sized).2.1] at listed
  obtain ⟨member, same⟩ := placed_source listed
  rw [same]
  exact (suitable.sized _ member).sizeOf.1

theorem sum_placed :
    ((placed images next sources).map fun partition =>
      roundUp partition.size (2 ^ PARTITION_SIZE_SHIFT)).sum = (sources.map (taken images)).sum := by
  induction sources generalizing next with
  | nil => rfl
  | cons source rest ih =>
    unfold placed
    rw [map_cons, sum_cons, ih, map_cons, sum_cons]
    rfl

theorem sum_taken_mod : (sources.map (taken images)).sum % 4096 = 0 := by
  induction sources with
  | nil => rfl
  | cons source rest ih =>
    have multiple : taken images source % 2 ^ PARTITION_SIZE_SHIFT = 0 := roundUp_mod
    rw [page_eq] at multiple
    rw [map_cons, sum_cons]
    omega

theorem taken_entries : ((build images read_only sources).entries guid).take
    (build images read_only sources).partitions_.length =
      (build images read_only sources).partitions_.mapIdx
        fun index partition => CompositeDiskBuilder.entry (guid (index + 1)) partition := by
  unfold CompositeDiskBuilder.entries
  exact take_left' (length_mapIdx)

theorem entry_apart {low high : Nat} {one other : PartitionInfo} {unique' : List UInt8}
    (fits : Fits images low high one) (small : high < 2 ^ 63)
    (ordered : one.offset + roundUp one.size (2 ^ PARTITION_SIZE_SHIFT) ≤ other.offset) :
    (CompositeDiskBuilder.entry unique one).last_lba <
      (CompositeDiskBuilder.entry unique' other).first_lba := by
  have above := roundUp_ge one.size (Nat.two_pow_pos PARTITION_SIZE_SHIFT)
  have multiple : roundUp one.size (2 ^ PARTITION_SIZE_SHIFT) % 2 ^ PARTITION_SIZE_SHIFT = 0 :=
    roundUp_mod
  obtain ⟨-, some, aligned, start, -, within⟩ := fits
  have last : (CompositeDiskBuilder.entry unique one).last_lba =
      u64 (u64 (one.offset + one.AlignedSize) / 512 + 2 ^ 64 - 1) := rfl
  have first : (CompositeDiskBuilder.entry unique' other).first_lba = other.offset / 512 := rfl
  rw [aligned] at last
  rw [last, first]
  rw [page_eq] at *
  unfold u64
  omega

theorem backed_build {footer : Nat}
    (suitable : Suitable images read_only header_file footer_file sources)
    (ends : (build images read_only sources).next_disk_offset_ =
      sizeofGptBeginning + (sources.map (taken images)).sum)
    (partitions : (build images read_only sources).partitions_ =
      placed images sizeofGptBeginning sources)
    (small : sizeofGptBeginning + (sources.map (taken images)).sum < 2 ^ 32)
    (written : sizeofGptBeginning + (sources.map (taken images)).sum + footer =
      (build images read_only sources).DiskSize) :
    Backed (fileLength images header_file footer_file footer)
      (build images read_only sources).DiskSize
      ({file_path := header_file, offset := 0} ::
        ((build images read_only sources).partitions_.flatMap
            ((build images read_only sources).components header_file) ++
          [{ file_path := footer_file
             offset := (build images read_only sources).next_disk_offset_}])) := by
  obtain ⟨-, behind, -⟩ := DiskSize_facts ends (by omega)
  have header : fileLength images header_file footer_file footer header_file =
      sizeofGptBeginning := if_pos rfl
  have last : fileLength images header_file footer_file footer footer_file = footer := by
    unfold fileLength
    rw [if_neg suitable.distinct.symm, if_pos rfl]
  have long : ∀ source ∈ sources, sizeOf images source ≤
      fileLength images header_file footer_file footer source.image_file_path := by
    intro source listed
    obtain ⟨notHeader, notFooter⟩ := suitable.apart source listed
    unfold fileLength
    rw [if_neg notHeader, if_neg notFooter]
    exact Nat.le_refl _
  rw [ends, partitions]
  have tail : Backed (fileLength images header_file footer_file footer)
      (build images read_only sources).DiskSize
      [{ file_path := footer_file
         offset := sizeofGptBeginning + (sources.map (taken images)).sum}] := by
    refine ⟨?_, ?_, trivial⟩
    · rw [nextOffset_nil]
      dsimp only
      omega
    · rw [nextOffset_nil]
      dsimp only
      rw [last]
      omega
  obtain ⟨starts, backed⟩ := backed_placed suitable.sized (by omega) long
    (by
      rw [header]
      decide)
    (nextOffset_cons _ _ _) tail
  refine ⟨?_, ?_, backed⟩
  · rw [starts]
    exact Nat.lt_of_sub_eq_succ rfl
  · rw [starts]
    dsimp only
    rw [header]
    exact Nat.le_refl _

theorem laid_of_small (suitable : Suitable images read_only header_file footer_file sources)
    (small : trueDiskSize images sources < 2 ^ 32) :
    Laid images read_only header_file footer_file sources crc32 guid := by
  obtain ⟨-, partitions, ends⟩ := build_eq suitable.sized
  have room := roundUp_ge (sizeofGptBeginning + (sources.map (taken images)).sum + sizeofGptEnd)
     (Nat.two_pow_pos DISK_SIZE_SHIFT)
  have total : roundUp (sizeofGptBeginning + (sources.map (taken images)).sum + sizeofGptEnd)
    (2 ^ DISK_SIZE_SHIFT) < 2 ^ 32 := small
  have below : sizeofGptBeginning + (sources.map (taken images)).sum < 2 ^ 32 := by omega
  rw [afterAll_eq (by omega)] at ends
  have whole : (sizeofGptBeginning + (sources.map (taken images)).sum) %
      2 ^ PARTITION_SIZE_SHIFT = 0 := by
    have multiple := @sum_taken_mod images sources
    rw [beginning_eq, page_eq]
    omega
  have fits : ∀ partition ∈ (build images read_only sources).partitions_,
      Fits images sizeofGptBeginning (sizeofGptBeginning + (sources.map (taken images)).sum)
        partition := fun partition listed =>
    placed_fits suitable.sized (by omega) rfl (partitions ▸ listed)
  have disk := DiskSize_eq ends (by omega)
  obtain ⟨units, behind, -⟩ := DiskSize_facts ends (by omega)
  have written := @WriteEnd_eq _ crc32 guid _ ends
    (ProtectiveMbr (build images read_only sources).DiskSize)
    ((build images read_only sources).entries guid) (by omega) whole
    (by rw [beginning_eq]; omega)
  refine ⟨_, _, Beginning_eq suitable, MakeCompositeDiskSpec_eq suitable, ?_⟩
  exact
    { spans := fun index partition listed =>
        ⟨_, entries_getElem? listed,
          entry_spans ends (by omega) whole (fits partition (mem_of_getElem? listed))⟩
      apart := by
        dsimp only
        rw [taken_entries, pairwise_iff_getElem]
        intro one other first second before
        rw [length_mapIdx] at first second
        rw [getElem_mapIdx, getElem_mapIdx]
        refine entry_apart (fits _ (getElem_mem first)) (by omega) ?_
        have ordered := @placed_ordered images sizeofGptBeginning _ _ suitable.sized (by omega) rfl
        rw [← partitions] at ordered
        exact pairwise_iff_getElem.mp ordered one other first second before
      mirrored := mirrored ends (by omega)
      total := by
        rw [partitions, sum_placed]
        exact written
      multiple := units
      start := rfl
      ends := rfl
      backed := backed_build suitable ends partitions (by omega) written
      mbr := by
        have few : (build images read_only sources).DiskSize < 2 ^ 32 := disk.trans_lt small
        exact ⟨_, rfl, (num_sectors_iff units).mpr few⟩}

theorem next_of_spans {header : GptHeader}
    (spans : Spans header partition (CompositeDiskBuilder.entry unique partition))
    (offset : partition.offset < 2 ^ 64) (size : partition.size < 2 ^ 64) :
    u64 (partition.offset + partition.AlignedSize) =
      partition.offset + roundUp partition.size (2 ^ PARTITION_SIZE_SHIFT) := by
  have first := spans.first
  have last := spans.last
  have below := roundUp_lt partition.size (Nat.two_pow_pos PARTITION_SIZE_SHIFT)
  have multiple : partition.AlignedSize % 4096 = 0 := Nat.mul_mod_left _ _
  have firstIs : (CompositeDiskBuilder.entry unique partition).first_lba =
      partition.offset / 512 := rfl
  have lastIs : (CompositeDiskBuilder.entry unique partition).last_lba =
      u64 (u64 (partition.offset + partition.AlignedSize) / 512 + 2 ^ 64 - 1) := rfl
  rw [firstIs] at first
  rw [lastIs] at last
  rw [sector_eq] at first last
  rw [page_eq] at last below ⊢
  unfold u64 at last ⊢
  omega

theorem u64_lt (value : Nat) : u64 value < 2 ^ 64 := Nat.mod_lt _ (Nat.two_pow_pos _)

theorem placed_offset_lt (small : next < 2 ^ 64) (listed : partition ∈ placed images next sources) :
    partition.offset < 2 ^ 64 := by
  induction sources generalizing next with
  | nil => cases listed
  | cons source rest ih =>
    rcases mem_cons.mp listed with rfl | later
    · exact small
    · exact ih (u64_lt _) later

theorem afterAll_of_next (nexts : ∀ partition ∈ placed images next sources,
      u64 (partition.offset + partition.AlignedSize) =
        partition.offset + roundUp partition.size (2 ^ PARTITION_SIZE_SHIFT)) :
    afterAll images next sources = next + (sources.map (taken images)).sum := by
  induction sources generalizing next with
  | nil => rfl
  | cons source rest ih =>
    have first := nexts _ mem_cons_self
    have rest := ih fun partition listed => nexts partition (mem_cons_of_mem _ listed)
    unfold afterAll
    rw [rest, map_cons, sum_cons, ← Nat.add_assoc]
    exact congrArg (· + _) first

theorem small_of_laid (suitable : Suitable images read_only header_file footer_file sources)
    (laid : Laid images read_only header_file footer_file sources crc32 guid) :
    trueDiskSize images sources < 2 ^ 32 := by
  obtain ⟨-, partitions, ends⟩ := build_eq suitable.sized
  obtain ⟨beginning, spec, begins, -, consistent⟩ := laid
  rw [Beginning_eq suitable] at begins
  cases begins
  have spans := consistent.spans
  have total := consistent.total
  have units := consistent.multiple
  obtain ⟨record, first, sectors⟩ := consistent.mbr
  cases first
  have below := (num_sectors_iff units).mp sectors
  rw [partitions] at spans total
  rw [sum_placed] at total
  -- no end of a partition wraps, as its entry spans it
  have nexts : ∀ partition ∈ placed images sizeofGptBeginning sources,
      u64 (partition.offset + partition.AlignedSize) =
        partition.offset + roundUp partition.size (2 ^ PARTITION_SIZE_SHIFT) := by
    intro partition listed
    obtain ⟨index, found⟩ := getElem?_of_mem listed
    obtain ⟨entry, same, spans⟩ := spans index partition found
    rw [← partitions] at found
    have known := same.symm.trans (entries_getElem? found)
    cases known
    obtain ⟨member, size⟩ := placed_source listed
    refine next_of_spans spans (placed_offset_lt (by decide) listed) ?_
    rw [size]
    exact (suitable.sized _ member).sizeOf.2.2
  rw [afterAll_of_next nexts] at ends
  -- neither does the end of the disk, as the footer lies before it
  have written : sizeofGptEnd ≤ WriteEnd ((build images read_only sources).End crc32
      ⟨ProtectiveMbr (build images read_only sources).DiskSize,
        (build images read_only sources).header crc32 guid,
        (build images read_only sources).entries guid⟩) := Nat.le_add_left _ _
  have disk : (build images read_only sources).DiskSize = trueDiskSize images sources :=
    DiskSize_eq ends (by omega)
  exact disk ▸ below

/-- The layout of a composite disk is consistent if and only if the disk is below 4 GiB. -/
theorem layout_consistent_iff
    (suitable : Suitable images read_only header_file footer_file sources) :
    Laid images read_only header_file footer_file sources crc32 guid ↔
      trueDiskSize images sources < 2 ^ 32 :=
  ⟨small_of_laid suitable, laid_of_small suitable⟩

end Consistency

/-- A boot image that does not fill its last page, and data of 2 MiB, or of 4 GiB. -/
def imageSizes (data : Nat) (path : String) : Option Nat :=
  if path = "boot.img" then some 5000 else if path = "data.img" then some data else none

def twoImages : List ImagePartition :=
  [{ label := [98, 111, 111, 116], image_file_path := "boot.img", type := .kEfiSystemPartition},
    { label := [100, 97, 116, 97], image_file_path := "data.img" }]

def noChecksums : Checksums := ⟨fun _ => 0, fun _ => 0⟩

theorem suitable_twoImages {data : Nat} (some : 0 < data) (fits : data < 2 ^ 64) :
    Suitable (imageSizes data) true "header.img" "footer.img" twoImages where
  few := by decide
  sized source listed := by
    unfold twoImages at listed
    rcases mem_cons.mp listed with rfl | listed
    · exact ⟨5000, rfl, by decide, by decide, nofun⟩
    · cases mem_singleton.mp listed
      exact ⟨data, rfl, some, fits, nofun⟩
  distinct := by decide
  apart := by decide

theorem layout_consistent_small :
    Laid (imageSizes (2 ^ 21)) true "header.img" "footer.img" twoImages noChecksums fun _ => [] :=
  (layout_consistent_iff (suitable_twoImages (by decide) (by decide))).mpr (by decide)

/-- Of a disk beyond 4 GiB the protective record only counts the sectors that are too many. -/
theorem layout_inconsistent_large :
    ¬Laid (imageSizes (2 ^ 32)) true "header.img" "footer.img" twoImages noChecksums (fun _ => []) ∧
      (build (imageSizes (2 ^ 32)) true twoImages).DiskSize = 2 ^ 32 + 65536 ∧
      (ProtectiveMbr (2 ^ 32 + 65536)).partitions.head?.map MbrPartitionEntry.num_sectors =
        some 128 := by
  refine ⟨fun laid => ?_, by decide, by decide⟩
  have below := small_of_laid (suitable_twoImages (by decide) (by decide)) laid
  exact absurd below (by decide)

end Ika.ImageAggregator
