import Ika.ImageAggregator.Consistency

/-! Image files, and one raw disk put together from them. -/

set_option autoImplicit false

namespace Ika.ImageAggregator

abbrev Files := String → Option (List UInt8)

def CompositeMagicString : List UInt8 :=
  [99, 111, 109, 112, 111, 115, 105, 116, 101, 95, 100, 105, 115, 107, 0x1d]

def Qcow2MagicString : List UInt8 := [81, 70, 73, 0xfb]

def kAndroidSparseImageMagic : List UInt8 := [0x3A, 0xFF, 0x26, 0xED]

structure Formats where
  composite : List UInt8 → Option UInt64
  qcow2 : List UInt8 → Option UInt64
  sparse : List UInt8 → Option UInt64

/-- The virtual size of an image. A file without a first byte cannot be read. -/
def Formats.ImageFromFile (formats : Formats) (bytes : List UInt8) : Option Nat :=
  let magic := bytes.take 4096
  if magic = [] then none
  else if CompositeMagicString.isPrefixOf magic then (formats.composite bytes).map UInt64.toNat
  else if Qcow2MagicString.isPrefixOf magic then (formats.qcow2 bytes).map UInt64.toNat
  else if kAndroidSparseImageMagic.isPrefixOf magic then (formats.sparse bytes).map UInt64.toNat
  else some bytes.length

def ExpandedStorageSize (formats : Formats) (files : Files) (file_path : String) : Option Nat :=
  (files file_path).bind formats.ImageFromFile

def IsSparseImage (bytes : List UInt8) : Bool :=
  (bytes ++ .replicate 4 32).take 4 = kAndroidSparseImageMagic

section Aggregation

variable (formats : Formats) (simg2img : List UInt8 → Option (List UInt8))

/-- What is converted replaces the image, unless the tool fails, or the lock or the renaming. -/
def ForceRawImage (image_path : String) (files : Files) : Option Files :=
  match files image_path with
  | none => none
  | some bytes =>
    if IsSparseImage bytes then
      (simg2img bytes).map fun raw path => if path = image_path then some raw else files path
    else some files

def DeAndroidSparse : List ImagePartition → Files → Option Files
  | [], files => some files
  | partition :: rest, files =>
    (ForceRawImage simg2img partition.image_file_path files).bind (DeAndroidSparse rest)

/-- What is done to the output, which may fail. -/
inductive Stage where
  | creat
  | beginning
  | image (index : Nat)
  | «end»

def padded (bytes : List UInt8) : List UInt8 :=
  bytes ++ .replicate (u64 (AlignToPartitionSize bytes.length + 2 ^ 64 - bytes.length)) 0

variable (succeeds : Stage → Bool)

def copyAll (files : Files) : Nat → List PartitionInfo → Option (List UInt8)
  | _, [] => some []
  | index, partition_info :: rest =>
    match files partition_info.source.image_file_path with
    | none => none
    | some bytes =>
      if succeeds (.image index) then
        (copyAll files (index + 1) rest).map (padded bytes ++ ·)
      else none

structure RawDisk where
  beginning : GptBeginning
  body : List UInt8
  «end» : GptEnd

def RawDisk.data (disk : RawDisk) : List UInt8 :=
  disk.body ++ .replicate (WriteEnd disk.end - sizeofGptEnd) 0

/-- The images as they have become, and the output, which is none of them. -/
def AggregateImage (crc32 : Checksums) (guid : Nat → List UInt8) (files : Files)
    (partitions : List ImagePartition) : Option (Files × RawDisk) := do
  let raw ← DeAndroidSparse simg2img partitions files
  let builder := build (ExpandedStorageSize formats raw) false partitions
  guard (succeeds .creat)
  let beginning ← builder.Beginning crc32 guid
  guard (succeeds .beginning)
  let body ← copyAll succeeds raw 0 builder.partitions_
  -- the offsets of a file are signed
  guard (sizeofGptBeginning + body.length < 2 ^ 63)
  guard (succeeds .end)
  return (raw, ⟨beginning, body, builder.End crc32 beginning⟩)

variable {formats simg2img succeeds} {crc32 : Checksums} {guid : Nat → List UInt8}
  {files raw : Files} {partitions : List ImagePartition} {disk : RawDisk}

theorem AggregateImage_parts
    (aggregated : AggregateImage formats simg2img succeeds crc32 guid files partitions =
      some (raw, disk)) :
    let builder := build (ExpandedStorageSize formats raw) false partitions
    DeAndroidSparse simg2img partitions files = some raw ∧
      builder.Beginning crc32 guid = some disk.beginning ∧
      copyAll succeeds raw 0 builder.partitions_ = some disk.body ∧
      sizeofGptBeginning + disk.body.length < 2 ^ 63 ∧
      disk.end = builder.End crc32 disk.beginning := by
  unfold AggregateImage at aggregated
  obtain ⟨converted, desparsed, aggregated⟩ := Option.bind_eq_some_iff.mp aggregated
  obtain ⟨-, -, aggregated⟩ := Option.bind_eq_some_iff.mp aggregated
  obtain ⟨beginning, begins, aggregated⟩ := Option.bind_eq_some_iff.mp aggregated
  obtain ⟨-, -, aggregated⟩ := Option.bind_eq_some_iff.mp aggregated
  obtain ⟨body, copied, aggregated⟩ := Option.bind_eq_some_iff.mp aggregated
  obtain ⟨_, room, aggregated⟩ := Option.bind_eq_some_iff.mp aggregated
  obtain ⟨-, -, returned⟩ := Option.bind_eq_some_iff.mp aggregated
  cases returned
  refine ⟨desparsed, begins, copied, ?_, rfl⟩
  by_contra large
  unfold guard at room
  rw [if_neg large] at room
  cases room

end Aggregation

end Ika.ImageAggregator

/-! When a partition table has every partition, and the aggregate every image. -/

namespace Ika.ImageAggregator

open List

/-- The name of an entry is a label: a unit for each character, and zeros behind them. -/
def Named (label : List UInt8) (name : List Nat) : Prop :=
  label.length ≤ 36 ∧ name = label.map UInt8.toNat ++ .replicate (36 - label.length) 0

/-- A label that fits, of characters that are not negative, and without a zero inside. -/
def Nameable (label : List UInt8) : Prop :=
  label.length ≤ 36 ∧ (∀ char ∈ label.takeWhile (· ≠ 0), char < 128) ∧
    ∀ char ∈ label.dropWhile (· ≠ 0), char = 0

theorem wide_eq_iff {char : UInt8} : wide char = char.toNat ↔ char < 128 := by
  unfold wide
  split
  · rename_i small
    exact iff_of_true rfl small
  · rename_i large
    exact iff_of_false (by omega) large

theorem map_wide_eq_iff {chars : List UInt8} :
    chars.map wide = chars.map UInt8.toNat ↔ ∀ char ∈ chars, char < 128 := by
  rw [map_inj_left]
  exact forall₂_congr fun char listed => wide_eq_iff

theorem map_toNat_eq_zeros_iff {chars : List UInt8} :
    chars.map UInt8.toNat = .replicate chars.length 0 ↔ ∀ char ∈ chars, char = 0 := by
  rw [eq_replicate_iff, length_map]
  constructor
  · rintro ⟨-, zeros⟩ char listed
    exact UInt8.toNat_inj.mp (zeros _ (mem_map_of_mem listed))
  · intro zeros
    refine ⟨rfl, fun unit listed => ?_⟩
    obtain ⟨char, member, rfl⟩ := mem_map.mp listed
    rw [zeros char member]
    rfl

theorem named_u16cpy_iff {label : List UInt8} : Named label (u16cpy label) ↔ Nameable label := by
  unfold Named Nameable
  refine and_congr_right fun short => ?_
  have split : label.takeWhile (· ≠ 0) ++ label.dropWhile (· ≠ 0) = label :=
    takeWhile_append_dropWhile
  have total : (label.takeWhile (· ≠ 0)).length + (label.dropWhile (· ≠ 0)).length =
      label.length := by rw [← length_append, split]
  have whole : (label.takeWhile (· ≠ 0)).take 36 = label.takeWhile (· ≠ 0) :=
    take_of_length_le (by omega)
  have copied : u16cpy label = (label.takeWhile (· ≠ 0)).map wide ++
      .replicate (36 - (label.takeWhile (· ≠ 0)).length) 0 := by
    unfold u16cpy
    dsimp only
    rw [whole, length_map]
  have expected : label.map UInt8.toNat = (label.takeWhile (· ≠ 0)).map UInt8.toNat ++
      (label.dropWhile (· ≠ 0)).map UInt8.toNat := by rw [← map_append, split]
  have zeros : (List.replicate (36 - (label.takeWhile (· ≠ 0)).length) 0 : List Nat) =
      .replicate (label.dropWhile (· ≠ 0)).length 0 ++ .replicate (36 - label.length) 0 := by
    rw [replicate_append_replicate]
    congr 1
    omega
  rw [copied, expected, append_assoc, zeros, ← map_wide_eq_iff, ← map_toNat_eq_zeros_iff]
  constructor
  · intro same
    obtain ⟨first, second⟩ := append_inj same (by rw [length_map, length_map])
    exact ⟨first, (append_cancel_right second).symm⟩
  · rintro ⟨first, second⟩
    rw [first, second]

structure Describes (partition : ImagePartition) (entry : GptPartitionEntry) : Prop where
  type : entry.partition_type_guid = GetPartitionGUID partition.type
  label : Named partition.label entry.partition_name

/-- The entries in use are those of the partitions, in their order. -/
structure Tabled (partitions : List ImagePartition) (entries : List GptPartitionEntry) : Prop where
  used : ∀ (index : Nat) (partition : ImagePartition), partitions[index]? = some partition →
    ∃ entry, entries[index]? = some entry ∧ Describes partition entry
  unused : ∀ (index : Nat) (entry : GptPartitionEntry), partitions.length ≤ index →
    entries[index]? = some entry → entry.partition_type_guid = .replicate 16 0

theorem GetPartitionGUID_ne (type : GptPartitionType) : GetPartitionGUID type ≠ .replicate 16 0 := by
  cases type with
  | kLinuxFilesystem => decide
  | kEfiSystemPartition => decide

section Tables

variable {images : String → Option Nat} {read_only : Bool} {partitions : List ImagePartition}
  {guid : Nat → List UInt8}

theorem entries_unused {builder : CompositeDiskBuilder} {index : Nat} {entry : GptPartitionEntry}
    (behind : builder.partitions_.length ≤ index)
    (found : (builder.entries guid)[index]? = some entry) : entry = {} := by
  unfold CompositeDiskBuilder.entries at found
  rw [getElem?_append_right (by rw [length_mapIdx]; exact behind)] at found
  exact eq_of_mem_replicate (mem_of_getElem? found)

theorem build_placed (appendable : ∀ source ∈ partitions, Appendable images read_only source) :
    build images read_only partitions =
      { read_only_ := read_only
        partitions_ := placed images sizeofGptBeginning partitions
        next_disk_offset_ := afterAll images sizeofGptBeginning partitions} := by
  unfold build
  rw [appendAll_eq appendable, nil_append]

theorem placed_getElem? {next index : Nat} :
    ((placed images next partitions)[index]?).map PartitionInfo.source = partitions[index]? := by
  induction partitions generalizing next index with
  | nil => rfl
  | cons source rest ih =>
    cases index with
    | zero => rfl
    | succ index => exact ih

theorem appendable_of_tabled
    (tabled : Tabled partitions ((build images read_only partitions).entries guid)) :
    ∀ source ∈ partitions, Appendable images read_only source := by
  by_contra refused
  push Not at refused
  obtain ⟨source, listed, refused⟩ := refused
  have fewer : (build images read_only partitions).partitions_.length < partitions.length := by
    have fewer := @length_appendAll_lt images partitions {read_only_ := read_only} source listed refused
    exact Nat.lt_of_lt_of_eq fewer (Nat.zero_add _)
  have last := getElem?_eq_getElem fewer
  obtain ⟨entry, found, describes⟩ := tabled.used _ _ last
  cases entries_unused (Nat.le_refl _) found
  exact GetPartitionGUID_ne _ describes.type.symm

theorem tabled_entries_iff :
    Tabled partitions ((build images read_only partitions).entries guid) ↔
      ∀ source ∈ partitions, Appendable images read_only source ∧ Nameable source.label := by
  constructor
  · intro tabled source listed
    have appendable := appendable_of_tabled tabled
    refine ⟨appendable source listed, ?_⟩
    obtain ⟨index, found⟩ := getElem?_of_mem listed
    obtain ⟨entry, same, describes⟩ := tabled.used index source found
    rw [build_placed appendable] at same
    obtain ⟨partition, located, rfl⟩ := Option.map_eq_some_iff.mp (placed_getElem?.trans found)
    rw [entries_getElem? located] at same
    cases same
    exact named_u16cpy_iff.mp describes.label
  · intro sound
    have appendable := fun source listed => (sound source listed).1
    rw [build_placed appendable]
    constructor
    · intro index source found
      obtain ⟨partition, located, rfl⟩ := Option.map_eq_some_iff.mp (placed_getElem?.trans found)
      refine ⟨_, entries_getElem? located, rfl, ?_⟩
      exact named_u16cpy_iff.mpr (sound _ (mem_of_getElem? found)).2
    · intro index entry behind found
      cases entries_unused (Nat.le_trans (Nat.le_of_eq length_placed) behind) found
      rfl

end Tables

end Ika.ImageAggregator
