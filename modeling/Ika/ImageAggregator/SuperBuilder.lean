import Ika.ImageAggregator.Table

/-! Building a super image: its partitions, what they leave free, and the holes that are filled
with the header. -/

set_option autoImplicit false

namespace Ika.ImageAggregator.SuperBuilder

open List Nat

/-! ## The metadata -/

def LP_SECTOR_SIZE : Nat := 512
def LP_PARTITION_RESERVED_BYTES : Nat := 4096
def LP_METADATA_GEOMETRY_SIZE : Nat := 4096
def LP_PARTITION_ATTR_READONLY : Nat := 1
def kMetadataMaxSize : Nat := 256 * 1024
def kMetadataSlotCount : Nat := 2
def kLogicalBlockSize : Nat := 4096

structure Interval where
  device_index : Nat
  start : Nat
  «end» : Nat
  ordered : start ≤ «end»

def Interval.length (interval : Interval) : Nat := interval.end - interval.start

structure LinearExtent where
  num_sectors : Nat
  device_index : Nat
  physical_sector : Nat

structure Partition where
  name : String
  group_name : String
  attributes : Nat
  extents : List LinearExtent := []

structure MetadataBuilder where
  size : Nat
  groups : List String := []
  partitions : List Partition := []

def MetadataBuilder.extents (builder : MetadataBuilder) : List LinearExtent :=
  builder.partitions.flatMap Partition.extents

structure LpMetadata where
  geometry : List UInt8
  tables : List UInt8
  partitions : List Partition

/-- The functions of the library. Where one of them says no, nothing is added. -/
structure Liblp where
  New : Nat → Bool
  AddGroup : MetadataBuilder → String → Bool
  AddPartition : MetadataBuilder → String → String → Bool
  GetFreeRegions : MetadataBuilder → List Interval
  Export : MetadataBuilder → Option LpMetadata

def resize (blob : List UInt8) (size : Nat) : List UInt8 :=
  blob.take size ++ .replicate (size - blob.length) 0

def SerializeGeometry (metadata : LpMetadata) : List UInt8 :=
  resize metadata.geometry LP_METADATA_GEOMETRY_SIZE

def SerializeMetadata (metadata : LpMetadata) : List UInt8 :=
  resize metadata.tables kMetadataMaxSize

section Building

variable (liblp : Liblp) (sizes : String → Option Nat)

structure Source where
  name : String
  host_path : String
  group_name : String

/-- The first region is taken that is longer than the partition. -/
def AddPartition (source : Source) (metadata_builder : MetadataBuilder) :
    Option (ComponentDisk × MetadataBuilder) := do
  let partition_size ← sizes source.host_path
  guard (partition_size % LP_SECTOR_SIZE = 0)
  let num_sectors := partition_size / LP_SECTOR_SIZE
  let chosen_interval ←
    (liblp.GetFreeRegions metadata_builder).find? fun interval => interval.length > num_sectors
  let extent : LinearExtent := ⟨num_sectors, chosen_interval.device_index, chosen_interval.start⟩
  guard (liblp.AddPartition metadata_builder (source.name ++ "_a") (source.group_name ++ "_a"))
  let partition_a : Partition :=
    ⟨source.name ++ "_a", source.group_name ++ "_a", LP_PARTITION_ATTR_READONLY, [extent]⟩
  let metadata_builder :=
    {metadata_builder with partitions := metadata_builder.partitions ++ [partition_a]}
  guard (liblp.AddPartition metadata_builder (source.name ++ "_b") (source.group_name ++ "_b"))
  let partition_b : Partition :=
    ⟨source.name ++ "_b", source.group_name ++ "_b", LP_PARTITION_ATTR_READONLY, []⟩
  let metadata_builder :=
    {metadata_builder with partitions := metadata_builder.partitions ++ [partition_b]}
  return (⟨source.host_path, u64 (chosen_interval.start * LP_SECTOR_SIZE), .READ_WRITE⟩,
    metadata_builder)

def addPartitions : List Source → MetadataBuilder → Option (List ComponentDisk × MetadataBuilder)
  | [], metadata_builder => some ([], metadata_builder)
  | source :: rest, metadata_builder =>
    match AddPartition liblp sizes source metadata_builder with
    | none => none
    | some (component, metadata_builder) =>
      (addPartitions rest metadata_builder).map fun added => (component :: added.1, added.2)

def CreateMetadataBuilder (size : Nat) : Option MetadataBuilder :=
  if liblp.New size then some {size} else none

def addGroups : List String → MetadataBuilder → Option MetadataBuilder
  | [], metadata_builder => some metadata_builder
  | name :: rest, metadata_builder =>
    if liblp.AddGroup metadata_builder name then
      addGroups rest {metadata_builder with groups := metadata_builder.groups ++ [name]}
    else none

end Building

/-! ## The holes -/

inductive Attempt (Value : Type) where
  | failed
  | unfinished
  | returned (value : Value)

def Attempt.map {Value Other : Type} (change : Value → Other) : Attempt Value → Attempt Other
  | failed => failed
  | unfinished => unfinished
  | returned value => returned (change value)

/-- The loop from a component on; a hole is begun with the header. -/
def fillHoles (sizes : String → Option Nat) (header_path : String) (size_ : Nat) :
    Nat → ComponentDisk → List ComponentDisk → Attempt (List ComponentDisk)
  | 0, _, _ => .unfinished
  | fuel + 1, it, rest =>
    match sizes it.file_path with
    | none => .failed
    | some part_size =>
      let «end» := u64 (it.offset + part_size)
      let next_offset := (rest.head?.map ComponentDisk.offset).getD size_
      if «end» < next_offset then
        (fillHoles sizes header_path size_ fuel ⟨header_path, «end», .READ_WRITE⟩ rest).map
          (it :: ·)
      else
        match rest with
        | [] => .returned [it]
        | next :: rest => (fillHoles sizes header_path size_ fuel next rest).map (it :: ·)

/-! ## The image -/

structure CompositeSuperImageBuilder where
  size_ : UInt64
  system_partitions_ : List (String × String)
  vendor_partitions_ : List (String × String)

def kSystemGroup : String := "google_system_dynamic_partitions"
def kVendorGroup : String := "google_vendor_dynamic_partitions"

def CompositeSuperImageBuilder.sources (builder : CompositeSuperImageBuilder) : List Source :=
  builder.system_partitions_.map (fun (name, path) => ⟨name, path, kSystemGroup⟩) ++
    builder.vendor_partitions_.map fun (name, path) => ⟨name, path, kVendorGroup⟩

/-- What is done to files, which may fail. -/
inductive Output where
  | openHeader
  | seekHeader
  | logMetadata
  | writeHeader
  | openComposite
  | writeMagic
  | writeComposite

/-- The header behind the reserved bytes, with two copies of each table. -/
def headerBytes (metadata : LpMetadata) : List UInt8 :=
  .replicate LP_PARTITION_RESERVED_BYTES 0 ++
    (SerializeGeometry metadata ++ SerializeGeometry metadata ++ SerializeMetadata metadata ++
      SerializeMetadata metadata)

/-- The metadata, the files in their order, and the disk that is put together. -/
structure Written where
  file_path : String
  metadata : LpMetadata
  files : Files
  composite : CompositeDisk

section Write

variable (liblp : Liblp) (formats : Formats) (succeeds : Output → Bool) (files : Files)
  (output_dir file_name header_name : String) (builder : CompositeSuperImageBuilder)

def headerPath : String := output_dir ++ "/" ++ header_name

def withGroups : Option MetadataBuilder :=
  (CreateMetadataBuilder liblp builder.size_.toNat).bind (addGroups liblp
    [kSystemGroup ++ "_a", kSystemGroup ++ "_b", kVendorGroup ++ "_a", kVendorGroup ++ "_b"])

def layOut : Option (List ComponentDisk × LpMetadata) := do
  let metadata_builder ← withGroups liblp builder
  let (components, metadata_builder) ←
    addPartitions liblp (ExpandedStorageSize formats files) builder.sources metadata_builder
  let metadata ← liblp.Export metadata_builder
  return (components, metadata)

def withHeader (metadata : LpMetadata) : Files := fun path =>
  if path = headerPath output_dir header_name then some (headerBytes metadata) else files path

/-- The holes are filled in so many rounds at most. -/
def WriteToDirectory (rounds : Nat) : Attempt Written :=
  match layOut liblp formats files builder with
  | none => .failed
  | some (components, metadata) =>
    if succeeds .openHeader ∧ succeeds .seekHeader ∧ succeeds .logMetadata ∧
        succeeds .writeHeader then
      let files := withHeader files output_dir header_name metadata
      let header_component : ComponentDisk :=
        ⟨headerPath output_dir header_name, 0, .READ_WRITE⟩
      match fillHoles (ExpandedStorageSize formats files) (headerPath output_dir header_name)
          builder.size_.toNat rounds header_component components with
      | .failed => .failed
      | .unfinished => .unfinished
      | .returned components =>
        if succeeds .openComposite ∧ succeeds .writeMagic ∧ succeeds .writeComposite then
          .returned ⟨output_dir ++ "/" ++ file_name, metadata, files,
            ⟨2, components, builder.size_.toNat⟩⟩
        else .failed
    else .failed

end Write

/-! ## What the library promises -/

def first_logical_sector : Nat :=
  (LP_PARTITION_RESERVED_BYTES +
    (LP_METADATA_GEOMETRY_SIZE + kMetadataMaxSize * kMetadataSlotCount) * 2) / LP_SECTOR_SIZE

def LinearExtent.end (extent : LinearExtent) : Nat := extent.physical_sector + extent.num_sectors

def LinearExtent.Apart (extent other : LinearExtent) : Prop :=
  extent.end ≤ other.physical_sector ∨ other.end ≤ extent.physical_sector

def LinearExtent.Inside (size : Nat) (extent : LinearExtent) : Prop :=
  first_logical_sector ≤ extent.physical_sector ∧ extent.end * LP_SECTOR_SIZE ≤ size

structure MetadataBuilder.Sound (liblp : Liblp) (builder : MetadataBuilder) : Prop where
  accepted : liblp.New builder.size = true
  inside : ∀ extent ∈ builder.extents, extent.Inside builder.size
  apart : builder.extents.Pairwise LinearExtent.Apart

/-- What the documentation of liblp says of devices, regions and exports. -/
structure Documented (liblp : Liblp) : Prop where
  blocks : ∀ size, liblp.New size = true → size % kLogicalBlockSize = 0
  inside : ∀ builder : MetadataBuilder, builder.Sound liblp →
    ∀ interval ∈ liblp.GetFreeRegions builder,
      first_logical_sector ≤ interval.start ∧ interval.end * LP_SECTOR_SIZE ≤ builder.size
  free : ∀ builder : MetadataBuilder, builder.Sound liblp →
    ∀ interval ∈ liblp.GetFreeRegions builder, ∀ extent ∈ builder.extents,
      extent.end ≤ interval.start ∨ interval.end ≤ extent.physical_sector
  recorded : ∀ builder metadata, liblp.Export builder = some metadata →
    metadata.partitions = builder.partitions

/-! ## Where the partitions are -/

structure Placed where
  source : Source
  extent : LinearExtent

namespace Placed

variable (placed : Placed)

def partition_a : Partition :=
  ⟨placed.source.name ++ "_a", placed.source.group_name ++ "_a", LP_PARTITION_ATTR_READONLY,
    [placed.extent]⟩

def partition_b : Partition :=
  ⟨placed.source.name ++ "_b", placed.source.group_name ++ "_b", LP_PARTITION_ATTR_READONLY, []⟩

def partitions : List Partition := [placed.partition_a, placed.partition_b]

def component : ComponentDisk :=
  ⟨placed.source.host_path, placed.extent.physical_sector * LP_SECTOR_SIZE, .READ_WRITE⟩

@[simp] theorem partitions_extents : placed.partitions.flatMap Partition.extents =
    [placed.extent] := rfl

end Placed

def MetadataBuilder.with (builder : MetadataBuilder) (placed : Placed) : MetadataBuilder :=
  {builder with partitions := builder.partitions ++ placed.partitions}

@[simp] theorem MetadataBuilder.with_size (builder : MetadataBuilder) (placed : Placed) :
    (builder.with placed).size = builder.size := rfl

@[simp] theorem MetadataBuilder.with_partitions (builder : MetadataBuilder) (placed : Placed) :
    (builder.with placed).partitions = builder.partitions ++ placed.partitions := rfl

@[simp] theorem MetadataBuilder.with_extents (builder : MetadataBuilder) (placed : Placed) :
    (builder.with placed).extents = builder.extents ++ [placed.extent] := by
  simp [MetadataBuilder.extents]

section Placement

variable {liblp : Liblp} {sizes : String → Option Nat} {source : Source}
  {builder after : MetadataBuilder} {component : ComponentDisk}

theorem of_guard {condition : Prop} [Decidable condition] {done : Unit}
    (passed : (guard condition : Option Unit) = some done) : condition := by
  by_contra holds
  simp [guard, holds] at passed

theorem AddPartition_placed
    (added : AddPartition liblp sizes source builder = some (component, after)) :
    ∃ placed : Placed, ∃ interval ∈ liblp.GetFreeRegions builder, placed.source = source ∧
      sizes source.host_path = some (placed.extent.num_sectors * LP_SECTOR_SIZE) ∧
      placed.extent.num_sectors < interval.length ∧
      placed.extent.physical_sector = interval.start ∧
      component = ⟨source.host_path, u64 (interval.start * LP_SECTOR_SIZE), .READ_WRITE⟩ ∧
      after = builder.with placed := by
  unfold AddPartition at added
  obtain ⟨partition_size, sized, added⟩ := Option.bind_eq_some_iff.mp added
  obtain ⟨_, whole, added⟩ := Option.bind_eq_some_iff.mp added
  obtain ⟨interval, chosen, added⟩ := Option.bind_eq_some_iff.mp added
  obtain ⟨-, -, added⟩ := Option.bind_eq_some_iff.mp added
  obtain ⟨-, -, returned⟩ := Option.bind_eq_some_iff.mp added
  cases returned
  let placed : Placed :=
    ⟨source, partition_size / LP_SECTOR_SIZE, interval.device_index, interval.start⟩
  refine ⟨placed, interval, mem_of_find?_eq_some chosen, rfl, ?_, ?_, rfl, rfl, ?_⟩
  · -- the size is one of whole sectors, so nothing of it is lost
    rw [sized]
    exact congrArg some (Nat.div_mul_cancel (dvd_of_mod_eq_zero (of_guard whole))).symm
  · simpa using find?_some chosen
  · simp [MetadataBuilder.with, Placed.partitions, Placed.partition_a, Placed.partition_b, placed]

theorem MetadataBuilder.Sound.with_placed (documented : Documented liblp)
    (sound : builder.Sound liblp) {placed : Placed} {interval : Interval}
    (listed : interval ∈ liblp.GetFreeRegions builder)
    (fits : placed.extent.num_sectors < interval.length)
    (begins : placed.extent.physical_sector = interval.start) :
    (builder.with placed).Sound liblp ∧ placed.extent.Inside builder.size := by
  obtain ⟨behind, inside⟩ := documented.inside builder sound interval listed
  have ends : placed.extent.end ≤ interval.end := by
    unfold LinearExtent.end
    unfold Interval.length at fits
    omega
  have placedInside : placed.extent.Inside builder.size := by
    exact ⟨by omega, Nat.le_trans (Nat.mul_le_mul_right _ ends) inside⟩
  -- the region is free, so that the new extent is apart from each of the others
  refine ⟨⟨sound.accepted, ?_, ?_⟩, placedInside⟩
  · intro extent held
    rw [MetadataBuilder.with_extents, mem_append, mem_singleton] at held
    rcases held with held | rfl
    · exact sound.inside extent held
    · exact placedInside
  · rw [MetadataBuilder.with_extents, pairwise_append]
    refine ⟨sound.apart, pairwise_singleton .., ?_⟩
    intro extent held other added
    rw [mem_singleton] at added
    subst added
    unfold LinearExtent.Apart
    rcases documented.free builder sound interval listed extent held with before | behind
    · left; omega
    · right; omega

theorem addPartitions_placed (documented : Documented liblp) {sources : List Source}
    {components : List ComponentDisk} (sound : builder.Sound liblp)
    (bounded : builder.size < 2 ^ 64)
    (added : addPartitions liblp sizes sources builder = some (components, after)) :
    ∃ placed : List Placed, placed.map Placed.source = sources ∧
      components = placed.map Placed.component ∧
      (∀ one ∈ placed,
        sizes one.source.host_path = some (one.extent.num_sectors * LP_SECTOR_SIZE)) ∧
      after.partitions = builder.partitions ++ placed.flatMap Placed.partitions ∧
      after.size = builder.size ∧ after.Sound liblp := by
  induction sources generalizing builder components with
  | nil =>
    cases added
    exact ⟨[], by simpa using sound⟩
  | cons source rest ih =>
    rw [addPartitions] at added
    split at added
    · cases added
    · rename_i component next placing
      obtain ⟨⟨others, last⟩, remaining, same⟩ := Option.map_eq_some_iff.mp added
      cases same
      obtain ⟨one, interval, listed, rfl, sized, fits, begins, rfl, rfl⟩ :=
        AddPartition_placed placing
      obtain ⟨nextSound, inside⟩ := sound.with_placed documented listed fits begins
      obtain ⟨placed, rfl, rfl, sizesOfRest, partitions, size, afterSound⟩ :=
        ih nextSound bounded remaining
      -- the offset is on the device, so nothing of it is cut off
      have offset : u64 (interval.start * LP_SECTOR_SIZE) = one.component.offset := by
        have held := inside.2
        simp only [LinearExtent.end, Placed.component, LP_SECTOR_SIZE, u64] at held ⊢
        rw [begins] at held ⊢
        omega
      refine ⟨one :: placed, rfl, ?_, ?_, ?_, size, afterSound⟩
      · simp [offset, Placed.component]
      · simpa [sized] using sizesOfRest
      · simpa using partitions

end Placement

theorem addGroups_same {liblp : Liblp} {names : List String} {builder after : MetadataBuilder}
    (added : addGroups liblp names builder = some after) :
    after.size = builder.size ∧ after.partitions = builder.partitions := by
  induction names generalizing builder with
  | nil => cases added; exact ⟨rfl, rfl⟩
  | cons name rest ih =>
    rw [addGroups] at added
    split at added
    · have same := ih added
      exact same
    · cases added

theorem withGroups_sound {liblp : Liblp} {builder : CompositeSuperImageBuilder}
    {metadata_builder : MetadataBuilder}
    (created : withGroups liblp builder = some metadata_builder) :
    metadata_builder.size = builder.size_.toNat ∧ metadata_builder.partitions = [] ∧
      metadata_builder.Sound liblp := by
  obtain ⟨start, begun, added⟩ := Option.bind_eq_some_iff.mp created
  unfold CreateMetadataBuilder at begun
  split at begun
  · rename_i accepted
    cases begun
    obtain ⟨size, partitions⟩ := addGroups_same added
    have none : metadata_builder.extents = [] := by simp [MetadataBuilder.extents, partitions]
    refine ⟨size, partitions, by rwa [size], ?_, ?_⟩ <;> simp [none]
  · cases begun

/-! ## How the holes are filled -/

def Reaches (sizes : String → Option Nat) (size_ : Nat) : List ComponentDisk → Prop
  | [] => True
  | it :: rest =>
    (∃ part_size, sizes it.file_path = some part_size ∧
      (rest.head?.map ComponentDisk.offset).getD size_ ≤ it.offset + part_size) ∧
    Reaches sizes size_ rest

/-- The second list is the first one with the header put in at some places. -/
inductive Filled (header_path : String) : List ComponentDisk → List ComponentDisk → Prop where
  | nil : Filled header_path [] []
  | kept (component : ComponentDisk) {components filled : List ComponentDisk} :
    Filled header_path components filled →
    Filled header_path (component :: components) (component :: filled)
  | hole (offset : Nat) {components filled : List ComponentDisk} :
    Filled header_path components filled →
    Filled header_path components (⟨header_path, offset, .READ_WRITE⟩ :: filled)

section Holes

variable {sizes : String → Option Nat} {header_path : String} {size_ : Nat}

variable {it : ComponentDisk} {rest : List ComponentDisk}

theorem Reaches.covers (reaches : Reaches sizes size_ (it :: rest)) {position : Nat}
    (behind : it.offset ≤ position) (inside : position < size_) :
    ∃ component ∈ it :: rest, ∃ part_size, sizes component.file_path = some part_size ∧
      component.offset ≤ position ∧ position < component.offset + part_size := by
  induction rest generalizing it with
  | nil =>
    obtain ⟨⟨part_size, sized, last⟩, -⟩ := reaches
    exact ⟨it, mem_singleton_self it, part_size, sized, behind, by simp at last; omega⟩
  | cons next rest ih =>
    obtain ⟨⟨part_size, sized, meets⟩, reaches⟩ := reaches
    by_cases later : next.offset ≤ position
    · obtain ⟨component, listed, covered⟩ := ih reaches later
      exact ⟨component, mem_cons_of_mem _ listed, covered⟩
    · refine ⟨it, mem_cons_self, part_size, sized, behind, ?_⟩
      simp only [head?_cons, Option.map_some, Option.getD_some] at meets
      omega

theorem Attempt.map_returned {Value Other : Type} {change : Value → Other} {attempt : Attempt Value}
    {result : Other} (returned : attempt.map change = .returned result) :
    ∃ value, attempt = .returned value ∧ change value = result := by
  cases attempt with
  | failed => cases returned
  | unfinished => cases returned
  | returned value => exact ⟨value, rfl, Attempt.returned.inj returned⟩

theorem fillHoles_returned {fuel : Nat} {components : List ComponentDisk}
    (returned : fillHoles sizes header_path size_ fuel it rest = .returned components) :
    ∃ filled, components = it :: filled ∧ Filled header_path rest filled ∧
      Reaches sizes size_ components := by
  induction fuel generalizing it rest components with
  | zero => cases returned
  | succ fuel ih =>
    unfold fillHoles at returned
    split at returned
    · cases returned
    · rename_i part_size sized
      have cut : u64 (it.offset + part_size) ≤ it.offset + part_size := mod_le _ _
      dsimp only at returned
      split at returned
      · -- the header was put in at the end of the component, and the loop went on from there
        obtain ⟨others, more, rfl⟩ := Attempt.map_returned returned
        obtain ⟨filled, rfl, only, reaches⟩ := ih more
        exact ⟨_, rfl, .hole _ only, ⟨part_size, sized, by simpa using cut⟩, reaches⟩
      · rename_i closed
        have meets : (rest.head?.map ComponentDisk.offset).getD size_ ≤ it.offset + part_size := by
          omega
        split at returned
        · cases returned
          exact ⟨[], rfl, .nil, ⟨part_size, sized, meets⟩, trivial⟩
        · rename_i next rest
          obtain ⟨others, more, rfl⟩ := Attempt.map_returned returned
          obtain ⟨filled, rfl, only, reaches⟩ := ih more
          exact ⟨_, rfl, .kept next only, ⟨part_size, sized, meets⟩, reaches⟩

theorem headers_reach (offset : Nat) :
    ∃ count, 2 ^ 64 - kLogicalBlockSize ≤ (offset + count * 536576) % 2 ^ 64 := by
  -- the header has 131 blocks, which has an inverse modulo the number of all blocks
  refine ⟨(2 ^ 52 - 1 - offset / 4096 % 2 ^ 52) * 2406503617678891, ?_⟩
  unfold kLogicalBlockSize
  omega

theorem hole_closes (header : sizes header_path = some 536576) {rest : List ComponentDisk}
    {count part_size : Nat} {it : ComponentDisk} (sized : sizes it.file_path = some part_size)
    (reaches : (rest.head?.map ComponentDisk.offset).getD size_ ≤
      (it.offset + part_size + count * 536576) % 2 ^ 64)
    (goesOn : ∀ (it : ComponentDisk) (part_size : Nat), sizes it.file_path = some part_size →
      ¬ u64 (it.offset + part_size) < (rest.head?.map ComponentDisk.offset).getD size_ →
      ∃ fuel components, fillHoles sizes header_path size_ fuel it rest = .returned components) :
    ∃ fuel components, fillHoles sizes header_path size_ fuel it rest = .returned components := by
  induction count generalizing it part_size with
  | zero =>
    refine goesOn it part_size sized ?_
    simpa [u64] using reaches
  | succ count ih =>
    by_cases closed : u64 (it.offset + part_size) < (rest.head?.map ComponentDisk.offset).getD size_
    · -- the header begins where the component ends, wherever that is after wrapping around
      have further : (rest.head?.map ComponentDisk.offset).getD size_ ≤
          (u64 (it.offset + part_size) + 536576 + count * 536576) % 2 ^ 64 := by
        have same : (u64 (it.offset + part_size) + 536576 + count * 536576) % 2 ^ 64 =
            (it.offset + part_size + (count + 1) * 536576) % 2 ^ 64 := by
          unfold u64
          omega
        rwa [same]
      let fill_hole : ComponentDisk := ⟨header_path, u64 (it.offset + part_size), .READ_WRITE⟩
      have again : ∃ fuel components,
          fillHoles sizes header_path size_ fuel fill_hole rest = .returned components :=
        ih header further
      obtain ⟨fuel, components, returned⟩ := again
      refine ⟨fuel + 1, it :: components, ?_⟩
      simp [fillHoles, sized, closed, fill_hole, returned, Attempt.map]
    · exact goesOn it part_size sized closed

theorem fillHoles_ends (header : sizes header_path = some 536576)
    (room : size_ ≤ 2 ^ 64 - kLogicalBlockSize) {it : ComponentDisk} {rest : List ComponentDisk}
    (known : ∀ component ∈ it :: rest, ∃ part_size, sizes component.file_path = some part_size)
    (begins : ∀ component ∈ rest, component.offset ≤ 2 ^ 64 - kLogicalBlockSize) :
    ∃ fuel components, fillHoles sizes header_path size_ fuel it rest = .returned components := by
  induction rest generalizing it with
  | nil =>
    obtain ⟨part_size, sized⟩ := known it mem_cons_self
    obtain ⟨count, reaches⟩ := headers_reach (it.offset + part_size)
    refine hole_closes header sized (Nat.le_trans room reaches) ?_
    intro it part_size sized closed
    simp only [head?_nil, Option.map_none, Option.getD_none] at closed
    exact ⟨1, [it], by simp [fillHoles, sized, closed]⟩
  | cons next rest ih =>
    obtain ⟨part_size, sized⟩ := known it mem_cons_self
    obtain ⟨count, reaches⟩ := headers_reach (it.offset + part_size)
    have nextBegins := begins next mem_cons_self
    obtain ⟨fuel, components, returned⟩ :=
      ih (fun component listed => known component (mem_cons_of_mem _ listed))
        (fun component listed => begins component (mem_cons_of_mem _ listed))
    refine hole_closes header sized (Nat.le_trans nextBegins reaches) ?_
    intro it part_size sized closed
    refine ⟨fuel + 1, it :: components, ?_⟩
    simp only [head?_cons, Option.map_some, Option.getD_some] at closed
    simp [fillHoles, sized, closed, returned, Attempt.map]

end Holes

/-! ## The header -/

@[simp] theorem resize_length (blob : List UInt8) (size : Nat) :
    (resize blob size).length = size := by
  simp only [resize, length_append, length_take, length_replicate]
  omega

theorem headerBytes_length (metadata : LpMetadata) : (headerBytes metadata).length = 536576 := by
  simp only [headerBytes, SerializeGeometry, SerializeMetadata, length_append,
    length_replicate, resize_length]
  rfl

theorem ImageFromFile_zero (formats : Formats) (bytes : List UInt8) :
    formats.ImageFromFile (0 :: bytes) = some (bytes.length + 1) := by
  simp [Formats.ImageFromFile, CompositeMagicString, Qcow2MagicString, kAndroidSparseImageMagic]

theorem ImageFromFile_header (formats : Formats) (metadata : LpMetadata) :
    formats.ImageFromFile (headerBytes metadata) = some 536576 := by
  have zero : ∃ rest, headerBytes metadata = 0 :: rest := ⟨_, rfl⟩
  obtain ⟨rest, same⟩ := zero
  have length := headerBytes_length metadata
  rw [same] at length ⊢
  rw [ImageFromFile_zero]
  exact congrArg some length

section Header

variable (formats : Formats) (files : Files) (output_dir header_name : String)
  (metadata : LpMetadata)

theorem withHeader_size : ExpandedStorageSize formats
    (withHeader files output_dir header_name metadata) (headerPath output_dir header_name) =
      some 536576 := by
  simp [ExpandedStorageSize, withHeader, ImageFromFile_header]

theorem withHeader_known {path : String} {size : Nat}
    (known : ExpandedStorageSize formats files path = some size) :
    ∃ part_size, ExpandedStorageSize formats
      (withHeader files output_dir header_name metadata) path = some part_size := by
  by_cases same : path = headerPath output_dir header_name
  · subst same
    exact ⟨536576, withHeader_size formats files output_dir header_name metadata⟩
  · refine ⟨size, ?_⟩
    simpa [ExpandedStorageSize, withHeader, same] using known

end Header

/-! ## The device is covered -/

/-- What a written image is to be, with its partitions at these places. -/
structure Covers (before after : String → Option Nat) (header_path : String)
    (builder : CompositeSuperImageBuilder) (written : Written) (placed : List Placed) : Prop where
  sources : placed.map Placed.source = builder.sources
  recorded : written.metadata.partitions = placed.flatMap Placed.partitions
  sizes : ∀ one ∈ placed,
    before one.source.host_path = some (one.extent.num_sectors * LP_SECTOR_SIZE)
  apart : placed.Pairwise fun one other => one.extent.Apart other.extent
  header : after header_path = some (headerBytes written.metadata).length
  behind : ∀ one ∈ placed, (headerBytes written.metadata).length ≤ one.component.offset
  inside : ∀ one ∈ placed, one.extent.end * LP_SECTOR_SIZE ≤ builder.size_.toNat
  listed : ∃ rest, written.composite.component_disks = ⟨header_path, 0, .READ_WRITE⟩ :: rest ∧
    Filled header_path (placed.map Placed.component) rest
  reaches : Reaches after builder.size_.toNat written.composite.component_disks
  covered : ∀ position < builder.size_.toNat, ∃ component ∈ written.composite.component_disks,
    ∃ part_size, after component.file_path = some part_size ∧
      component.offset ≤ position ∧ position < component.offset + part_size
  length : written.composite.length = builder.size_.toNat

/-- Nothing but the room for it keeps a partition from being added. -/
structure Admitted (liblp : Liblp) (sizes : String → Option Nat) (builder : MetadataBuilder)
    (placed : Placed) : Prop where
  sized : sizes placed.source.host_path = some (placed.extent.num_sectors * LP_SECTOR_SIZE)
  added_a : liblp.AddPartition builder placed.partition_a.name placed.partition_a.group_name = true
  added_b : liblp.AddPartition
    {builder with partitions := builder.partitions ++ [placed.partition_a]}
    placed.partition_b.name placed.partition_b.group_name = true

/-- Partitions with more than enough room, each in the first region that has it. -/
inductive Room (liblp : Liblp) (sizes : String → Option Nat) :
    MetadataBuilder → List Placed → MetadataBuilder → Prop where
  | begun (builder : MetadataBuilder) : Room liblp sizes builder [] builder
  | more {builder after : MetadataBuilder} {placed : Placed} {rest : List Placed}
      {interval : Interval} :
    Admitted liblp sizes builder placed →
    (liblp.GetFreeRegions builder).find?
      (fun interval => interval.length > placed.extent.num_sectors) = some interval →
    placed.extent.device_index = interval.device_index →
    placed.extent.physical_sector = interval.start →
    Room liblp sizes (builder.with placed) rest after →
    Room liblp sizes builder (placed :: rest) after

/-- A partition is exactly as long as the longest region that is left, and could be the last. -/
structure FillsRegion (liblp : Liblp) (sizes : String → Option Nat) (builder : MetadataBuilder)
    (placed : Placed) : Prop extends Admitted liblp sizes builder placed where
  listed : ∃ interval ∈ liblp.GetFreeRegions builder,
    placed.extent = ⟨interval.length, interval.device_index, interval.start⟩
  longest : ∀ other ∈ liblp.GetFreeRegions builder, other.length ≤ placed.extent.num_sectors
  exported : (liblp.Export (builder.with placed)).isSome = true

section Covering

variable (liblp : Liblp) (formats : Formats) (succeeds : Output → Bool) (files : Files)
  (output_dir file_name header_name : String) (builder : CompositeSuperImageBuilder)

/-- The last source exactly fills what is free. -/
def Fills : Prop :=
  ∃ front placed first metadata_builder,
    builder.sources = (front ++ [placed]).map Placed.source ∧
    withGroups liblp builder = some first ∧
    Room liblp (ExpandedStorageSize formats files) first front metadata_builder ∧
    FillsRegion liblp (ExpandedStorageSize formats files) metadata_builder placed ∧
    ∀ output, succeeds output = true

structure CoversDevice : Prop where
  terminates : ∃ rounds,
    WriteToDirectory liblp formats succeeds files output_dir file_name header_name builder rounds ≠
      .unfinished
  covers : ∀ rounds written,
    WriteToDirectory liblp formats succeeds files output_dir file_name header_name builder rounds =
      .returned written →
    ∃ placed, Covers (ExpandedStorageSize formats files)
      (ExpandedStorageSize formats written.files) (headerPath output_dir header_name) builder
      written placed
  accepts : Fills liblp formats succeeds files builder → ∃ rounds written,
    WriteToDirectory liblp formats succeeds files output_dir file_name header_name builder rounds =
      .returned written

end Covering

section Main

variable {liblp : Liblp} {formats : Formats} {succeeds : Output → Bool} {files : Files}
  {output_dir file_name header_name : String} {builder : CompositeSuperImageBuilder}
  {components : List ComponentDisk} {metadata : LpMetadata}

theorem layOut_placed (documented : Documented liblp)
    (laid : layOut liblp formats files builder = some (components, metadata)) :
    builder.size_.toNat ≤ 2 ^ 64 - kLogicalBlockSize ∧
    ∃ placed : List Placed, placed.map Placed.source = builder.sources ∧
      components = placed.map Placed.component ∧
      metadata.partitions = placed.flatMap Placed.partitions ∧
      (∀ one ∈ placed, ExpandedStorageSize formats files one.source.host_path =
        some (one.extent.num_sectors * LP_SECTOR_SIZE)) ∧
      (∀ one ∈ placed, one.extent.Inside builder.size_.toNat) ∧
      placed.Pairwise fun one other => one.extent.Apart other.extent := by
  have bounded := builder.size_.toNat_lt
  unfold layOut at laid
  obtain ⟨first, created, laid⟩ := Option.bind_eq_some_iff.mp laid
  obtain ⟨⟨listed, last⟩, added, laid⟩ := Option.bind_eq_some_iff.mp laid
  obtain ⟨exported, recorded, returned⟩ := Option.bind_eq_some_iff.mp laid
  cases returned
  obtain ⟨size, none, sound⟩ := withGroups_sound created
  have whole := documented.blocks _ sound.accepted
  rw [size] at whole
  refine ⟨by unfold kLogicalBlockSize at whole ⊢; omega, ?_⟩
  obtain ⟨placed, sources, rfl, sizes, partitions, lastSize, lastSound⟩ :=
    addPartitions_placed documented sound (by omega) added
  -- each source has one extent, so that the extents of the builder are those of the sources
  have extents : last.extents = placed.map Placed.extent := by
    rw [MetadataBuilder.extents, partitions, none, nil_append]
    simp [flatMap_assoc, map_eq_flatMap]
  refine ⟨placed, sources, rfl, ?_, sizes, ?_, ?_⟩
  · rw [documented.recorded _ _ recorded, partitions, none, nil_append]
  · intro one held
    have inside := lastSound.inside one.extent (by rw [extents]; exact mem_map_of_mem held)
    rwa [lastSize, size] at inside
  · have apart := lastSound.apart
    rwa [extents, pairwise_map] at apart

theorem LinearExtent.Inside.offset_le {placed : Placed} {size : Nat}
    (inside : placed.extent.Inside size) : placed.component.offset ≤ size := by
  have ends : placed.extent.physical_sector ≤ placed.extent.end := Nat.le_add_right _ _
  exact Nat.le_trans (Nat.mul_le_mul_right _ ends) inside.2

theorem fillHoles_laid (documented : Documented liblp)
    (laid : layOut liblp formats files builder = some (components, metadata)) :
    ∃ rounds filled, fillHoles
      (ExpandedStorageSize formats (withHeader files output_dir header_name metadata))
      (headerPath output_dir header_name) builder.size_.toNat rounds
      ⟨headerPath output_dir header_name, 0, .READ_WRITE⟩ components = .returned filled := by
  obtain ⟨room, placed, -, rfl, -, sizes, inside, -⟩ := layOut_placed documented laid
  have header := withHeader_size formats files output_dir header_name metadata
  refine fillHoles_ends header room ?_ ?_
  · -- an image that is stored where the header goes has become the header
    intro component listed
    rcases mem_cons.mp listed with rfl | listed
    · exact ⟨536576, header⟩
    · obtain ⟨one, held, rfl⟩ := mem_map.mp listed
      exact withHeader_known formats files output_dir header_name metadata (sizes one held)
  · intro component listed
    obtain ⟨one, held, rfl⟩ := mem_map.mp listed
    exact Nat.le_trans (inside one held).offset_le room

variable {rounds : Nat} {written : Written} {first : MetadataBuilder}

theorem WriteToDirectory_returned
    (returned : WriteToDirectory liblp formats succeeds files output_dir file_name header_name
      builder rounds = .returned written) :
    ∃ components filled, layOut liblp formats files builder = some (components, written.metadata) ∧
      written.files = withHeader files output_dir header_name written.metadata ∧
      fillHoles (ExpandedStorageSize formats written.files) (headerPath output_dir header_name)
        builder.size_.toNat rounds ⟨headerPath output_dir header_name, 0, .READ_WRITE⟩ components =
          .returned filled ∧
      written.composite = ⟨2, filled, builder.size_.toNat⟩ := by
  unfold WriteToDirectory at returned
  split at returned
  · cases returned
  · rename_i components metadata laid
    split at returned
    · dsimp only at returned
      split at returned
      · cases returned
      · cases returned
      · rename_i filled loop
        split at returned
        · cases returned
          exact ⟨components, filled, laid, rfl, loop, rfl⟩
        · cases returned
    · cases returned

theorem written_covers (documented : Documented liblp)
    (returned : WriteToDirectory liblp formats succeeds files output_dir file_name header_name
      builder rounds = .returned written) :
    ∃ placed, Covers (ExpandedStorageSize formats files)
      (ExpandedStorageSize formats written.files) (headerPath output_dir header_name) builder
      written placed := by
  obtain ⟨components, filled, laid, sameFiles, loop, composite⟩ :=
    WriteToDirectory_returned returned
  obtain ⟨-, placed, sources, rfl, recorded, sizes, inside, apart⟩ := layOut_placed documented laid
  obtain ⟨rest, rfl, only, reaches⟩ := fillHoles_returned loop
  refine ⟨placed, ?_⟩
  constructor
  case sources => exact sources
  case recorded => exact recorded
  case sizes => exact sizes
  case apart => exact apart
  case header =>
    rw [headerBytes_length, sameFiles]
    exact withHeader_size formats files output_dir header_name written.metadata
  case behind =>
    intro one held
    have behind := (inside one held).1
    rw [headerBytes_length]
    simp only [Placed.component, first_logical_sector, LP_PARTITION_RESERVED_BYTES,
      LP_METADATA_GEOMETRY_SIZE, kMetadataMaxSize, kMetadataSlotCount, LP_SECTOR_SIZE] at behind ⊢
    omega
  case inside => exact fun one held => (inside one held).2
  case listed => exact ⟨rest, by rw [composite], only⟩
  case reaches => rw [composite]; exact reaches
  case covered =>
    intro position below
    rw [composite]
    exact reaches.covers (Nat.zero_le position) below
  case length => rw [composite]

theorem WriteToDirectory_ends (documented : Documented liblp) : ∃ rounds,
    WriteToDirectory liblp formats succeeds files output_dir file_name header_name builder rounds ≠
      .unfinished := by
  cases laid : layOut liblp formats files builder with
  | none => exact ⟨0, by simp [WriteToDirectory, laid]⟩
  | some found =>
    obtain ⟨components, metadata⟩ := found
    obtain ⟨rounds, filled, loop⟩ : ∃ rounds filled, fillHoles
        (ExpandedStorageSize formats (withHeader files output_dir header_name metadata))
        (headerPath output_dir header_name) builder.size_.toNat rounds
        ⟨headerPath output_dir header_name, 0, .READ_WRITE⟩ components = .returned filled :=
      fillHoles_laid documented laid
    refine ⟨rounds, ?_⟩
    simp only [WriteToDirectory, laid, loop]
    split
    · split <;> simp
    · simp

/-! ## What exactly fills the device -/

theorem sectors_whole (sectors : Nat) : sectors * LP_SECTOR_SIZE / LP_SECTOR_SIZE = sectors :=
  Nat.mul_div_cancel _ (by decide)

variable {sizes : String → Option Nat}

theorem AddPartition_added {placed : Placed} {interval : Interval}
    (admitted : Admitted liblp sizes first placed) (chosen : (liblp.GetFreeRegions first).find?
      (fun interval => interval.length > placed.extent.num_sectors) = some interval)
    (device : placed.extent.device_index = interval.device_index)
    (begins : placed.extent.physical_sector = interval.start) :
    ∃ component, AddPartition liblp sizes placed.source first =
      some (component, first.with placed) := by
  have extent : (⟨placed.extent.num_sectors, interval.device_index, interval.start⟩ :
      LinearExtent) = placed.extent := by
    rw [← device, ← begins]
  have added_a := admitted.added_a
  have added_b := admitted.added_b
  simp only [Placed.partition_a, Placed.partition_b] at added_a added_b
  refine ⟨⟨placed.source.host_path, u64 (interval.start * LP_SECTOR_SIZE), .READ_WRITE⟩, ?_⟩
  simp [AddPartition, admitted.sized, sectors_whole, chosen, extent, added_a, added_b,
    MetadataBuilder.with, Placed.partitions, Placed.partition_a, Placed.partition_b]

theorem Room.refused {after : MetadataBuilder}
    {placed : List Placed} {rest : List Source} (room : Room liblp sizes first placed after)
    (refused : addPartitions liblp sizes rest after = none) :
    addPartitions liblp sizes (placed.map Placed.source ++ rest) first = none := by
  induction room with
  | begun builder => exact refused
  | more admitted chosen device begins _ ih =>
    obtain ⟨component, added⟩ := AddPartition_added admitted chosen device begins
    simp [addPartitions, added, ih refused]

theorem AddPartition_refused {placed : Placed} (fills : FillsRegion liblp sizes first placed) :
    AddPartition liblp sizes placed.source first = none := by
  have none : (liblp.GetFreeRegions first).find? (fun interval =>
      decide (interval.length > placed.extent.num_sectors)) = none := by
    rw [List.find?_eq_none]
    intro interval listed
    have longest := fills.longest interval listed
    simpa using longest
  simp [AddPartition, fills.sized, sectors_whole, none]

theorem layOut_refused (fills : Fills liblp formats succeeds files builder) :
    layOut liblp formats files builder = none := by
  obtain ⟨front, placed, first, last, sources, created, room, fills, -⟩ := fills
  have refused : addPartitions liblp (ExpandedStorageSize formats files) builder.sources first =
      none := by
    rw [sources, map_append]
    exact room.refused (by simp [addPartitions, AddPartition_refused fills])
  simp [layOut, created, refused]

theorem WriteToDirectory_refused (fills : Fills liblp formats succeeds files builder)
    (rounds : Nat) :
    WriteToDirectory liblp formats succeeds files output_dir file_name header_name builder rounds =
      .failed := by
  simp [WriteToDirectory, layOut_refused fills]

end Main

variable (liblp : Liblp) (formats : Formats) (succeeds : Output → Bool) (files : Files)
  (output_dir file_name header_name : String) (builder : CompositeSuperImageBuilder)

/-- The super image is as it should be unless its partitions exactly fill what is free. -/
theorem covers_device_iff (documented : Documented liblp) :
    CoversDevice liblp formats succeeds files output_dir file_name header_name builder ↔
      ¬ Fills liblp formats succeeds files builder := by
  constructor
  · intro covers fills
    obtain ⟨rounds, written, returned⟩ := covers.accepts fills
    rw [WriteToDirectory_refused fills] at returned
    cases returned
  · intro partly
    exact ⟨WriteToDirectory_ends documented, fun _ _ => written_covers documented,
      fun fills => absurd fills partly⟩

/-! A library that leaves the end of a device free, from the next whole block on. -/

def endOfDevice (builder : MetadataBuilder) : Nat :=
  builder.extents.foldr (fun extent sector => max ((extent.end + 7) / 8 * 8) sector)
    first_logical_sector

def freeEnd (builder : MetadataBuilder) : List Interval :=
  if ordered : endOfDevice builder ≤ builder.size / LP_SECTOR_SIZE then
    [⟨0, endOfDevice builder, builder.size / LP_SECTOR_SIZE, ordered⟩]
  else []

def oneRegion : Liblp where
  New size := size % kLogicalBlockSize = 0
  AddGroup builder name := name ∉ builder.groups
  AddPartition builder name group_name :=
    name ∉ builder.partitions.map Partition.name ∧ group_name ∈ builder.groups
  GetFreeRegions := freeEnd
  Export builder := some ⟨[], [], builder.partitions⟩

theorem endOfDevice_le (builder : MetadataBuilder) : first_logical_sector ≤ endOfDevice builder ∧
    ∀ extent ∈ builder.extents, extent.end ≤ endOfDevice builder := by
  unfold endOfDevice
  induction builder.extents with
  | nil => simp
  | cons extent rest ih =>
    simp only [foldr_cons, mem_cons, forall_eq_or_imp]
    refine ⟨by omega, by omega, ?_⟩
    intro other held
    have below := ih.2 other held
    omega

theorem oneRegion_documented : Documented oneRegion := by
  have only : ∀ builder, ∀ interval ∈ oneRegion.GetFreeRegions builder,
      interval.start = endOfDevice builder ∧ interval.end = builder.size / LP_SECTOR_SIZE := by
    intro builder interval listed
    change interval ∈ freeEnd builder at listed
    unfold freeEnd at listed
    split at listed
    · rw [mem_singleton] at listed
      subst listed
      exact ⟨rfl, rfl⟩
    · cases listed
  constructor
  case blocks =>
    intro size accepted
    exact of_decide_eq_true accepted
  case inside =>
    intro builder _ interval listed
    obtain ⟨start, ends⟩ := only builder interval listed
    rw [start, ends]
    exact ⟨(endOfDevice_le builder).1, div_mul_le_self _ _⟩
  case free =>
    intro builder _ interval listed extent held
    left
    rw [(only builder interval listed).1]
    exact (endOfDevice_le builder).2 extent held
  case recorded =>
    intro builder metadata exported
    cases exported
    rfl

def onePage : Files := fun path => if path = "system.img" then some (.replicate 4096 0) else none

def noFormats : Formats := ⟨fun _ => none, fun _ => none, fun _ => none⟩

theorem onePage_size : ExpandedStorageSize noFormats onePage "system.img" = some 4096 := by
  have raw := ImageFromFile_zero noFormats (.replicate 4095 0)
  rw [length_replicate] at raw
  exact raw

theorem oneRegion_free {builder : MetadataBuilder} {sectors : Nat}
    (fresh : builder.partitions = []) (sized : builder.size = sectors * LP_SECTOR_SIZE)
    (room : first_logical_sector ≤ sectors) :
    oneRegion.GetFreeRegions builder = [⟨0, first_logical_sector, sectors, room⟩] := by
  have begins : endOfDevice builder = first_logical_sector := by
    simp [endOfDevice, MetadataBuilder.extents, fresh]
  have ends : builder.size / LP_SECTOR_SIZE = sectors := by
    rw [sized, sectors_whole]
  simp [oneRegion, freeEnd, begins, ends, room]

/-- With a free region of two pages, one page is not all of it. -/
theorem covers_device_two_pages :
    CoversDevice oneRegion noFormats (fun _ => true) onePage "out" "super.img" "header.img"
      ⟨1069056, [("system", "system.img")], []⟩ := by
  refine (covers_device_iff oneRegion noFormats (fun _ => true) onePage "out" "super.img"
    "header.img" _ oneRegion_documented).mpr ?_
  rintro ⟨front, placed, first, last, sources, created, room, fills, -⟩
  -- the one source is the last one
  have alone : front = [] := by
    have length := congrArg List.length sources
    simpa [CompositeSuperImageBuilder.sources] using length
  subst alone
  cases room
  have sized := fills.sized
  have same : placed.source.host_path = "system.img" := by
    have first := head_eq_of_cons_eq sources
    rw [← first]
  rw [same, onePage_size] at sized
  obtain ⟨size, fresh, -⟩ := withGroups_sound created
  have free : oneRegion.GetFreeRegions first = [⟨0, first_logical_sector, 2088, by decide⟩] :=
    oneRegion_free fresh (by rw [size]; rfl) (by decide)
  have longest := fills.longest _ (by rw [free]; exact mem_singleton_self _)
  have long := Option.some.inj sized
  have region : 2088 - first_logical_sector = 16 := rfl
  simp only [Interval.length, region] at longest
  unfold LP_SECTOR_SIZE at long
  omega

/-- A page that is all that is free is refused. -/
theorem one_page_refused :
    ¬ CoversDevice oneRegion noFormats (fun _ => true) onePage "out" "super.img" "header.img"
      ⟨1064960, [("system", "system.img")], []⟩ := by
  let first : MetadataBuilder := ⟨1064960,
    [kSystemGroup ++ "_a", kSystemGroup ++ "_b", kVendorGroup ++ "_a", kVendorGroup ++ "_b"], []⟩
  let placed : Placed := ⟨⟨"system", "system.img", kSystemGroup⟩, 8, 0, 2072⟩
  have created : withGroups oneRegion ⟨1064960, [("system", "system.img")], []⟩ = some first := by
    simp [withGroups, CreateMetadataBuilder, oneRegion, addGroups, kLogicalBlockSize, kSystemGroup,
      kVendorGroup, first]
  have free : oneRegion.GetFreeRegions first = [⟨0, first_logical_sector, 2080, by decide⟩] :=
    oneRegion_free rfl rfl (by decide)
  have fills : FillsRegion oneRegion (ExpandedStorageSize noFormats onePage) first placed := by
    constructor
    case listed =>
      rw [free]
      exact ⟨_, mem_singleton_self _, rfl⟩
    case longest =>
      rw [free]
      intro other listed
      rw [mem_singleton] at listed
      subst listed
      have region : 2080 - first_logical_sector = 8 := rfl
      simp [Interval.length, region, placed]
    case exported => rfl
    case toAdmitted =>
      constructor
      · have page : 8 * LP_SECTOR_SIZE = 4096 := rfl
        simp [placed, page, onePage_size]
      · simp [oneRegion, first, placed, Placed.partition_a]
      · simp [oneRegion, first, placed, Placed.partition_a, Placed.partition_b]
  intro covers
  obtain ⟨rounds, written, returned⟩ :=
    covers.accepts ⟨[], placed, first, first, rfl, created, .begun first, fills, fun _ => rfl⟩
  rw [WriteToDirectory_refused
    ⟨[], placed, first, first, rfl, created, .begun first, fills, fun _ => rfl⟩] at returned
  cases returned

end Ika.ImageAggregator.SuperBuilder
