import Ika.ImageAggregator.Gpt

/-! Building a composite disk: its partition table, its components, and what is written. -/

set_option autoImplicit false

namespace Ika.ImageAggregator

inductive GptPartitionType where
  | kLinuxFilesystem
  | kEfiSystemPartition

def GetPartitionGUID : GptPartitionType → List UInt8
  | .kLinuxFilesystem =>
    [0xaf, 0x3d, 0xc6, 0xf, 0x83, 0x84, 0x72, 0x47, 0x8e, 0x79, 0x3d, 0x69, 0xd8, 0x47, 0x7d, 0xe4]
  | .kEfiSystemPartition =>
    [0x28, 0x73, 0x2a, 0xc1, 0x1f, 0xf8, 0xd2, 0x11, 0xba, 0x4b, 0x0, 0xa0, 0xc9, 0x3e, 0xc9, 0x3b]

structure ImagePartition where
  label : List UInt8
  image_file_path : String
  type : GptPartitionType := .kLinuxFilesystem

structure PartitionInfo where
  source : ImagePartition
  size : Nat
  offset : Nat

def PartitionInfo.AlignedSize (partition : PartitionInfo) : Nat :=
  AlignToPartitionSize partition.size

inductive ReadWriteCapability where
  | READ_ONLY
  | READ_WRITE
  deriving DecidableEq, Repr

structure ComponentDisk where
  file_path : String
  offset : Nat
  read_write_capability : ReadWriteCapability := .READ_ONLY
  deriving DecidableEq, Repr

structure CompositeDisk where
  version : Nat
  component_disks : List ComponentDisk
  length : Nat
  deriving DecidableEq, Repr

/-- Characters are signed, and made wide as such. -/
def wide (char : UInt8) : Nat := if char < 128 then char.toNat else 0xFF00 + char.toNat

def u16cpy (label : List UInt8) : List Nat :=
  let units := ((label.takeWhile (· ≠ 0)).take 36).map wide
  units ++ .replicate (36 - units.length) 0

structure Checksums where
  entries : List GptPartitionEntry → Nat
  header : GptHeader → Nat

structure CompositeDiskBuilder where
  read_only_ : Bool
  partitions_ : List PartitionInfo := []
  next_disk_offset_ : Nat := sizeofGptBeginning

namespace CompositeDiskBuilder

variable (builder : CompositeDiskBuilder)

/-- The virtual sizes of the images are known where they can be read. -/
def AppendPartition (ExpandedStorageSize : String → Option Nat) (source : ImagePartition) :
    Option CompositeDiskBuilder :=
  match ExpandedStorageSize source.image_file_path with
  | none => none
  | some size =>
    let aligned_size := AlignToPartitionSize size
    if size = aligned_size ∨ builder.read_only_ then
      some
        {builder with
          partitions_ := builder.partitions_ ++ [⟨source, size, builder.next_disk_offset_⟩]
          next_disk_offset_ := u64 (builder.next_disk_offset_ + aligned_size)}
    else none

/-- A partition that cannot be appended is left out. -/
def appendAll (ExpandedStorageSize : String → Option Nat) (sources : List ImagePartition) :
    CompositeDiskBuilder :=
  sources.foldl
    (fun builder source => (builder.AppendPartition ExpandedStorageSize source).getD builder) builder

def DiskSize : Nat :=
  AlignToPowerOf2 (u64 (builder.next_disk_offset_ + sizeofGptEnd)) DISK_SIZE_SHIFT

/-- A partition, and the header again where it does not fill its last page. -/
def components (header_file : String) (partition : PartitionInfo) : List ComponentDisk :=
  let component : ComponentDisk :=
    { file_path := partition.source.image_file_path
      offset := partition.offset
      read_write_capability := if builder.read_only_ then .READ_ONLY else .READ_WRITE}
  if partition.AlignedSize ≠ partition.size then
    [component,
      { file_path := header_file, offset := u64 (partition.offset + partition.size)
        read_write_capability := .READ_ONLY}]
  else [component]

/-- The sizes of the images are read again, and must be what they were. -/
def MakeCompositeDiskSpec (ExpandedStorageSize : String → Option Nat)
    (header_file footer_file : String) : Option CompositeDisk :=
  if ∀ partition ∈ builder.partitions_,
      ExpandedStorageSize partition.source.image_file_path = some partition.size then
    some
      { version := 2
        length := builder.DiskSize
        component_disks :=
          {file_path := header_file, offset := 0} ::
            (builder.partitions_.flatMap (builder.components header_file) ++
              [{file_path := footer_file, offset := builder.next_disk_offset_}])}
  else none

def entry (unique_partition_guid : List UInt8) (partition : PartitionInfo) : GptPartitionEntry where
  partition_type_guid := GetPartitionGUID partition.source.type
  unique_partition_guid := unique_partition_guid
  first_lba := partition.offset / kSectorSize
  last_lba :=
    u64 (u64 (partition.offset + partition.AlignedSize) / kSectorSize + 2 ^ 64 - 1)
  partition_name := u16cpy partition.source.label

def entries (guid : Nat → List UInt8) : List GptPartitionEntry :=
  builder.partitions_.mapIdx (fun index partition => entry (guid (index + 1)) partition) ++
    .replicate (GPT_NUM_PARTITIONS - builder.partitions_.length) {}

def header (crc32 : Checksums) (guid : Nat → List UInt8) : GptHeader :=
  let header : GptHeader :=
    { signature := [69, 70, 73, 32, 80, 65, 82, 84]
      revision := [0, 0, 1, 0]
      header_size := sizeofGptHeader
      current_lba := 1
      backup_lba := u64 (builder.DiskSize / kSectorSize + 2 ^ 64 - 1)
      first_usable_lba := sizeofGptBeginning / kSectorSize
      last_usable_lba := u64 (builder.next_disk_offset_ / kSectorSize + 2 ^ 64 - 1)
      disk_guid := guid 0
      partition_entries_lba := 2
      num_partition_entries := GPT_NUM_PARTITIONS
      partition_entry_size := sizeofGptPartitionEntry
      partition_entries_crc32 := crc32.entries (builder.entries guid)}
  {header with header_crc32 := crc32.header header}

def Beginning (crc32 : Checksums) (guid : Nat → List UInt8) : Option GptBeginning :=
  if builder.partitions_.length ≤ GPT_NUM_PARTITIONS then
    some
      { protective_mbr := ProtectiveMbr builder.DiskSize
        header := builder.header crc32 guid
        entries := builder.entries guid}
  else none

def End (crc32 : Checksums) (head : GptBeginning) : GptEnd :=
  let footer : GptHeader :=
    {head.header with
      partition_entries_lba :=
        u64 (u64 (builder.DiskSize + 2 ^ 64 - sizeofEntries) / kSectorSize + 2 ^ 64 - 1)
      current_lba := head.header.backup_lba
      backup_lba := head.header.current_lba
      header_crc32 := 0}
  {entries := head.entries, footer := {footer with header_crc32 := crc32.header footer}}

end CompositeDiskBuilder

/-- How many bytes are written: the padding and the footer. -/
def WriteEnd («end» : GptEnd) : Nat :=
  let disk_size := u64 (u64 («end».footer.current_lba + 1) * kSectorSize)
  let footer_start := u64 (u64 («end».footer.last_usable_lba + 1) * kSectorSize)
  let padding := u64 (disk_size + 2 ^ 64 - footer_start + 2 ^ 64 - sizeofGptEnd)
  padding + sizeofGptEnd

def nextOffset (finish : Nat) : List ComponentDisk → Nat
  | [] => finish
  | component :: _ => component.offset

@[simp] theorem nextOffset_nil (finish : Nat) : nextOffset finish [] = finish := rfl

@[simp] theorem nextOffset_cons (finish : Nat) (component : ComponentDisk)
    (rest : List ComponentDisk) : nextOffset finish (component :: rest) = component.offset := rfl

def Backed (length : String → Nat) (finish : Nat) : List ComponentDisk → Prop
  | [] => True
  | component :: rest =>
    component.offset < nextOffset finish rest ∧
      nextOffset finish rest - component.offset ≤ length component.file_path ∧
      Backed length finish rest

/-- A partition's entry spans what the partition takes, within what the header says is usable. -/
structure Spans (header : GptHeader) (partition : PartitionInfo) (entry : GptPartitionEntry) : Prop
    where
  first : entry.first_lba * kSectorSize = partition.offset
  last : (entry.last_lba + 1) * kSectorSize =
    partition.offset + roundUp partition.size (2 ^ PARTITION_SIZE_SHIFT)
  forward : entry.first_lba ≤ entry.last_lba
  low : header.first_usable_lba ≤ entry.first_lba
  high : entry.last_lba ≤ header.last_usable_lba

/-- The header and the footer describe each other. -/
structure Mirrored (disk_size : Nat) (beginning : GptBeginning) («end» : GptEnd) : Prop where
  first : beginning.header.current_lba = 1
  last : (beginning.header.backup_lba + 1) * kSectorSize = disk_size
  current : «end».footer.current_lba = beginning.header.backup_lba
  backup : «end».footer.backup_lba = beginning.header.current_lba
  entries : «end».footer.partition_entries_lba * kSectorSize + sizeofEntries =
    «end».footer.current_lba * kSectorSize
  same : «end».entries = beginning.entries

/-- What makes a builder's disk consistent, with the lengths of the files that hold it. -/
structure Consistent (builder : CompositeDiskBuilder) (beginning : GptBeginning) («end» : GptEnd)
    (spec : CompositeDisk) (length : String → Nat) : Prop where
  spans : ∀ (index : Nat) (partition : PartitionInfo),
    builder.partitions_[index]? = some partition →
      ∃ entry, beginning.entries[index]? = some entry ∧ Spans beginning.header partition entry
  apart : (beginning.entries.take builder.partitions_.length).Pairwise fun one other =>
    one.last_lba < other.first_lba
  mirrored : Mirrored builder.DiskSize beginning «end»
  total : sizeofGptBeginning +
      (builder.partitions_.map fun partition =>
        roundUp partition.size (2 ^ PARTITION_SIZE_SHIFT)).sum + WriteEnd «end» =
    builder.DiskSize
  multiple : builder.DiskSize % 2 ^ DISK_SIZE_SHIFT = 0
  start : spec.component_disks.head?.map ComponentDisk.offset = some 0
  ends : spec.length = builder.DiskSize
  backed : Backed length spec.length spec.component_disks
  /-- The sectors of the protective record are those of the disk, give or take one. -/
  mbr : ∃ entry, beginning.protective_mbr.partitions.head? = some entry ∧
    entry.num_sectors ≤ min (builder.DiskSize / kSectorSize) (2 ^ 32 - 1) + 1 ∧
    min (builder.DiskSize / kSectorSize) (2 ^ 32 - 1) ≤ entry.num_sectors + 1

end Ika.ImageAggregator
