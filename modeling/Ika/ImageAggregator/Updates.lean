import Mathlib.Data.List.TakeWhile
import Ika.ImageAggregator.Aggregate

/-! The files of a composite disk, updated where the partitions are not those they were. -/

set_option autoImplicit false

namespace Ika.ImageAggregator

open List Option

inductive Outcome (Content : Type) where
  | unopened
  /-- The writing is cut short, and leaves a file that reads so, or does not. -/
  | cut (left : Option Content)
  | written

namespace Outcome

variable {Content : Type}

def leaves (content : Content) (before : Option Content) : Outcome Content → Option Content
  | .unopened => before
  | .cut left => left
  | .written => some content

def creates (before : Option Content) : Outcome Content → Option Content
  | .unopened => before
  | _ => none

def succeeds : Outcome Content → Bool
  | .written => true
  | _ => false

end Outcome

/-- What the files at the three paths read as. -/
structure Disk where
  composite : Option CompositeDisk
  header : Option GptBeginning
  footer : Option GptEnd

structure Paths where
  header_file : String
  footer_file : String
  distinct : footer_file ≠ header_file

structure Call where
  partitions : List ImagePartition
  read_only : Bool
  raw : Bool := true
  images : String → Option UInt64
  guid : Nat → List UInt8
  composite : Outcome CompositeDisk := .written
  /-- What the composite file reads as where its last buffer is lost. -/
  unflushed : Option (Option CompositeDisk) := none
  header : Outcome GptBeginning := .written
  footer : Outcome GptEnd := .written

namespace Call

variable (call : Call) (crc32 : Checksums) (paths : Paths)

def sizes (file_path : String) : Option Nat := (call.images file_path).map UInt64.toNat

def builder : CompositeDiskBuilder := build call.sizes call.read_only call.partitions

/-- Flushing the stream is not checked. -/
def WriteCompositeDiskToFile (composite_proto : CompositeDisk) (before : Option CompositeDisk) :
    Option CompositeDisk :=
  match call.composite, call.unflushed with
  | .written, some left => left
  | outcome, _ => outcome.leaves composite_proto before

def writeFiles (composite_proto : CompositeDisk) (disk : Disk) : Bool × Disk :=
  let disk :=
    {disk with composite := call.WriteCompositeDiskToFile composite_proto disk.composite}
  if call.composite.succeeds then
    match call.builder.Beginning crc32 call.guid with
    | none => (false, {disk with header := call.header.creates disk.header})
    | some beginning =>
      let disk := {disk with header := call.header.leaves beginning disk.header}
      if call.header.succeeds then
        (call.footer.succeeds,
          {disk with footer := call.footer.leaves (call.builder.End crc32 beginning) disk.footer})
      else (false, disk)
  else (false, disk)

def spec : Option CompositeDisk :=
  call.builder.MakeCompositeDiskSpec call.sizes paths.header_file paths.footer_file

/-- Whether it comes to writing: the composite disk on the disk is not the one to be written. -/
def writes (disk : Disk) : Prop :=
  (call.read_only = true ∨ call.raw = true) ∧ call.spec paths ≠ none ∧
    disk.composite ≠ call.spec paths
  deriving Decidable

/-- Writable composite disks need raw images. -/
def CreateOrUpdateCompositeDisk (disk : Disk) : Bool × Disk :=
  if call.read_only ∨ call.raw then
    match call.spec paths with
    | none => (false, disk)
    | some composite_proto =>
      if disk.composite = some composite_proto then (true, disk)
      else call.writeFiles crc32 composite_proto disk
  else (false, disk)

end Call

section Calls

variable {call : Call} {crc32 : Checksums} {paths : Paths} {disk after : Disk}
  {composite_proto : CompositeDisk}

variable {partition : PartitionInfo}

theorem appendAll_source {images : String → Option Nat} {sources : List ImagePartition}
    {builder : CompositeDiskBuilder}
    (listed : partition ∈ (builder.appendAll images sources).partitions_) :
    partition ∈ builder.partitions_ ∨
      partition.source ∈ sources ∧
        images partition.source.image_file_path = some partition.size := by
  induction sources generalizing builder with
  | nil => exact .inl listed
  | cons source rest ih =>
    rcases @ih ((builder.AppendPartition images source).getD builder) listed with first | later
    · by_cases appendable : Appendable images builder.read_only_ source
      · rw [AppendPartition_eq appendable, getD_some] at first
        rcases mem_append.mp first with before | last
        · exact .inl before
        · cases mem_singleton.mp last
          exact .inr ⟨mem_cons_self, appendable.sizeOf⟩
      · rw [AppendPartition_none appendable] at first
        exact .inl first
    · exact .inr ⟨mem_cons_of_mem _ later.1, later.2⟩

theorem builder_source (listed : partition ∈ call.builder.partitions_) :
    partition.source ∈ call.partitions ∧
      call.sizes partition.source.image_file_path = some partition.size :=
  (appendAll_source listed).resolve_left not_mem_nil

theorem spec_eq :
    call.spec paths =
      some
        { version := 2
          length := call.builder.DiskSize
          component_disks :=
            {file_path := paths.header_file, offset := 0} ::
              (call.builder.partitions_.flatMap (call.builder.components paths.header_file) ++
                [{file_path := paths.footer_file, offset := call.builder.next_disk_offset_}])} :=
  if_pos fun _ listed => (builder_source listed).2

/-- Every file is written, though the last buffer of the composite file may be lost. -/
structure WrittenAll (call : Call) (crc32 : Checksums) (composite_proto : CompositeDisk)
    (after : Disk) : Prop where
  stream : call.composite = .written
  composite : after.composite = call.unflushed.getD (some composite_proto)
  beginning : ∃ beginning, call.builder.Beginning crc32 call.guid = some beginning ∧
    after.header = some beginning ∧ after.footer = some (call.builder.End crc32 beginning)
  header : call.header = .written
  footer : call.footer = .written

theorem succeeds_iff {Content : Type} {outcome : Outcome Content} :
    outcome.succeeds = true ↔ outcome = .written := by
  cases outcome with
  | unopened => exact iff_of_false nofun nofun
  | cut left => exact iff_of_false nofun nofun
  | written => exact iff_of_true rfl rfl

theorem writeFiles_true (wrote : call.writeFiles crc32 composite_proto disk = (true, after)) :
    WrittenAll call crc32 composite_proto after := by
  unfold Call.writeFiles at wrote
  dsimp only at wrote
  split at wrote
  · rename_i streamed
    have stream := succeeds_iff.mp streamed
    have composite : call.WriteCompositeDiskToFile composite_proto disk.composite =
        call.unflushed.getD (some composite_proto) := by
      unfold Call.WriteCompositeDiskToFile
      rw [stream]
      cases call.unflushed with
      | none => rfl
      | some left => rfl
    split at wrote
    · cases wrote
    · rename_i beginning begins
      split at wrote
      · rename_i headed
        obtain ⟨footed, rfl⟩ := Prod.mk.inj wrote
        have header := succeeds_iff.mp headed
        have footer := succeeds_iff.mp footed
        rw [header, footer, composite]
        exact ⟨stream, rfl, ⟨beginning, begins, rfl, rfl⟩, header, footer⟩
      · cases wrote
  · cases wrote

theorem update_true (success : call.CreateOrUpdateCompositeDisk crc32 paths disk = (true, after)) :
    ∃ composite_proto, call.spec paths = some composite_proto ∧
      ((¬call.writes paths disk ∧ disk.composite = some composite_proto ∧ after = disk) ∨
        (call.writes paths disk ∧ WrittenAll call crc32 composite_proto after)) := by
  unfold Call.CreateOrUpdateCompositeDisk at success
  split at success
  · rename_i converted
    rw [spec_eq] at success ⊢
    dsimp only at success
    split at success
    · rename_i same
      cases success
      refine ⟨_, rfl, .inl ⟨fun writes => writes.2.2 ?_, same, rfl⟩⟩
      exact same.trans spec_eq.symm
    · rename_i differs
      refine ⟨_, rfl, .inr ⟨⟨converted, ?_, ?_⟩, writeFiles_true success⟩⟩
      · exact fun missing => some_ne_none _ (spec_eq.symm.trans missing)
      · exact fun same => differs (same.trans spec_eq)
  · cases success

end Calls

/-- The components that are not the header are those of the partitions, and the footer. -/
def Listed (paths : Paths) (partitions : List ImagePartition) (composite : CompositeDisk) : Prop :=
  (composite.component_disks.filter (·.file_path ≠ paths.header_file)).map ComponentDisk.file_path =
    partitions.map ImagePartition.image_file_path ++ [paths.footer_file]

def Kept (paths : Paths) (partitions : List ImagePartition) (disk : Disk) : Prop :=
  (∃ beginning, disk.header = some beginning ∧ Tabled partitions beginning.entries) ∧
    ∃ composite, disk.composite = some composite ∧ Listed paths partitions composite

def Apart (paths : Paths) (partitions : List ImagePartition) : Prop :=
  ∀ source ∈ partitions, source.image_file_path ≠ paths.header_file

section Kept

variable {call : Call} {crc32 : Checksums} {paths : Paths} {disk after : Disk}

theorem filter_components {builder : CompositeDiskBuilder} {partitions : List PartitionInfo}
    (apart : ∀ partition ∈ partitions, partition.source.image_file_path ≠ paths.header_file) :
    ((partitions.flatMap (builder.components paths.header_file)).filter
        (·.file_path ≠ paths.header_file)).map ComponentDisk.file_path =
      partitions.map fun partition => partition.source.image_file_path := by
  induction partitions with
  | nil => rfl
  | cons partition rest ih =>
    have later := ih fun partition listed => apart partition (mem_cons_of_mem _ listed)
    have first := apart partition mem_cons_self
    have one : ((builder.components paths.header_file partition).filter
        (·.file_path ≠ paths.header_file)).map ComponentDisk.file_path =
        [partition.source.image_file_path] := by
      unfold CompositeDiskBuilder.components
      by_cases whole : partition.AlignedSize = partition.size
      · simp [whole, first]
      · simp [whole, first]
    rw [flatMap_cons, filter_append, map_append, one, later]
    rfl

theorem listed_spec_iff (apart : Apart paths call.partitions) {composite_proto : CompositeDisk}
    (made : call.spec paths = some composite_proto) :
    Listed paths call.partitions composite_proto ↔
      ∀ source ∈ call.partitions, Appendable call.sizes call.read_only source := by
  have disks : composite_proto.component_disks =
      {file_path := paths.header_file, offset := 0} ::
        (call.builder.partitions_.flatMap (call.builder.components paths.header_file) ++
          [{file_path := paths.footer_file, offset := call.builder.next_disk_offset_}]) := by
    rw [spec_eq] at made
    cases made
    rfl
  have apart_ : ∀ partition ∈ call.builder.partitions_,
      partition.source.image_file_path ≠ paths.header_file :=
    fun partition listed => apart _ (builder_source listed).1
  have components : Listed paths call.partitions composite_proto ↔
      call.builder.partitions_.map (fun partition => partition.source.image_file_path) =
        call.partitions.map ImagePartition.image_file_path := by
    unfold Listed
    rw [disks, filter_cons_of_neg (by simp), filter_append, map_append,
      filter_components apart_, filter_cons_of_pos (by simpa using paths.distinct)]
    exact append_left_inj _
  rw [components]
  constructor
  · intro same
    by_contra refused
    push Not at refused
    obtain ⟨source, listed, refused⟩ := refused
    have fewer := @length_appendAll_lt call.sizes call.partitions
      {read_only_ := call.read_only} source listed refused
    have long := congrArg List.length same
    rw [length_map, length_map] at long
    unfold Call.builder build at long
    rw [long] at fewer
    exact absurd fewer (by simp)
  · intro appendable
    unfold Call.builder
    rw [build_placed appendable]
    refine ext_getElem? fun index => ?_
    rw [getElem?_map, getElem?_map, ← @placed_getElem? call.sizes _ sizeofGptBeginning,
      Option.map_map]
    rfl

/-- What a call and the disk before it are where a success keeps every partition. -/
structure Keeps (call : Call) (paths : Paths) (disk : Disk) : Prop where
  appendable : ∀ source ∈ call.partitions, Appendable call.sizes call.read_only source
  written : call.writes paths disk →
    (∀ source ∈ call.partitions, Nameable source.label) ∧
      ∀ left, call.unflushed = some left →
        ∃ composite, left = some composite ∧ Listed paths call.partitions composite
  standing : ¬call.writes paths disk →
    ∃ beginning, disk.header = some beginning ∧ Tabled call.partitions beginning.entries

theorem listed_written_iff (apart : Apart paths call.partitions) {composite_proto : CompositeDisk}
    (made : call.spec paths = some composite_proto)
    (wrote : WrittenAll call crc32 composite_proto after)
    (appendable : ∀ source ∈ call.partitions, Appendable call.sizes call.read_only source) :
    (∃ composite, after.composite = some composite ∧ Listed paths call.partitions composite) ↔
      ∀ left, call.unflushed = some left →
        ∃ composite, left = some composite ∧ Listed paths call.partitions composite := by
  rw [wrote.composite]
  cases call.unflushed with
  | none =>
    refine iff_of_true ⟨composite_proto, rfl, ?_⟩ nofun
    exact (listed_spec_iff apart made).mpr appendable
  | some left =>
    rw [getD_some]
    constructor
    · intro listed left same
      cases same
      exact listed
    · exact fun all => all left rfl

theorem kept_iff (apart : Apart paths call.partitions)
    (success : call.CreateOrUpdateCompositeDisk crc32 paths disk = (true, after)) :
    Kept paths call.partitions after ↔ Keeps call paths disk := by
  obtain ⟨composite_proto, made, ⟨stands, same, rfl⟩ | ⟨writes, wrote⟩⟩ := update_true success
  · have listed : (∃ composite, after.composite = some composite ∧
        Listed paths call.partitions composite) ↔
        ∀ source ∈ call.partitions, Appendable call.sizes call.read_only source := by
      rw [same, ← listed_spec_iff apart made]
      constructor
      · rintro ⟨composite, read, listed⟩
        cases read
        exact listed
      · exact fun listed => ⟨_, rfl, listed⟩
    unfold Kept
    rw [listed]
    constructor
    · rintro ⟨tabled, appendable⟩
      exact ⟨appendable, fun writes => absurd writes stands, fun _ => tabled⟩
    · intro keeps
      exact ⟨keeps.standing stands, keeps.appendable⟩
  · obtain ⟨beginning, begins, header, -⟩ := wrote.beginning
    have tabled : (∃ beginning, after.header = some beginning ∧
        Tabled call.partitions beginning.entries) ↔
        ∀ source ∈ call.partitions,
          Appendable call.sizes call.read_only source ∧ Nameable source.label := by
      rw [header, ← @tabled_entries_iff _ _ _ call.guid]
      have entries := Beginning_entries begins
      unfold Call.builder at entries
      rw [← entries]
      constructor
      · rintro ⟨_, read, tabled⟩
        cases read
        exact tabled
      · exact fun tabled => ⟨_, rfl, tabled⟩
    unfold Kept
    rw [tabled]
    constructor
    · rintro ⟨sound, listed⟩
      have appendable := fun source member => (sound source member).1
      refine ⟨appendable, fun _ => ⟨fun source member => (sound source member).2, ?_⟩,
        fun stands => absurd writes stands⟩
      exact (listed_written_iff apart made wrote appendable).mp listed
    · intro keeps
      obtain ⟨nameable, lost⟩ := keeps.written writes
      refine ⟨fun source member => ⟨keeps.appendable source member, nameable source member⟩, ?_⟩
      exact (listed_written_iff apart made wrote keeps.appendable).mpr lost

end Kept

/-- No partition is dropped, in both ways to make a disk, where each can be appended and named. -/
theorem partitions_kept_iff (formats : Formats) (simg2img : List UInt8 → Option (List UInt8))
    (succeeds : Stage → Bool) (crc32 : Checksums) (guid : Nat → List UInt8) (files raw : Files)
    (partitions : List ImagePartition) (disk : RawDisk) (paths : Paths) (call : Call)
    (before after : Disk) :
    (AggregateImage formats simg2img succeeds crc32 guid files partitions = some (raw, disk) →
      (Tabled partitions disk.beginning.entries ↔
        ∀ source ∈ partitions,
          Appendable (ExpandedStorageSize formats raw) false source ∧ Nameable source.label) ∧
      ((∀ source ∈ partitions, Filled (ExpandedStorageSize formats raw) raw source) →
        (Tabled partitions disk.beginning.entries ∧ Held raw partitions disk ↔
          ∀ source ∈ partitions,
            Appendable (ExpandedStorageSize formats raw) false source ∧
              Nameable source.label))) ∧
    (Apart paths call.partitions →
      call.CreateOrUpdateCompositeDisk crc32 paths before = (true, after) →
        (Kept paths call.partitions after ↔ Keeps call paths before)) := by
  refine ⟨fun aggregated => ?_, fun apart success => kept_iff apart success⟩
  obtain ⟨-, begins, -⟩ := AggregateImage_parts aggregated
  have tabled : Tabled partitions disk.beginning.entries ↔ _ :=
    Beginning_entries begins ▸ tabled_entries_iff
  refine ⟨tabled, fun filled => ?_⟩
  constructor
  · exact fun ⟨kept, _⟩ => tabled.mp kept
  · intro sound
    refine ⟨tabled.mpr sound, ?_⟩
    exact held_of_filled aggregated (fun source listed => (sound source listed).1) filled

def qcow2Image (version : UInt8) : List UInt8 :=
  Qcow2MagicString ++ [0, 0, 0, version] ++ .replicate 15 0 ++ [16, 0, 0, 0, 0, 0, 0, 16, 0] ++
    .replicate 40 0

def qcow2Size (bytes : List UInt8) : Option UInt64 :=
  if bytes.length < 72 then none
  else some (((bytes.drop 24).take 8).foldl (fun size byte => size * 256 + byte.toUInt64) 0)

example : (qcow2Image 3).length = 72 ∧ qcow2Size (qcow2Image 3) = some 4096 := by decide

def qcow2Only : Formats := ⟨fun _ => none, qcow2Size, fun _ => none⟩

def oneImage : List ImagePartition := [{ label := [97], image_file_path := "a.img" }]

def oneFile (bytes : List UInt8) (path : String) : Option (List UInt8) :=
  if path = "a.img" then some bytes else none

def threePaths : Paths := ⟨"header.img", "footer.img", by decide⟩

def oneCall : Call where
  partitions := oneImage
  read_only := false
  images path := if path = "a.img" then some 4096 else none
  guid _ := []

def noFiles : Disk := ⟨none, none, none⟩

theorem nameable_of_all {label : List UInt8} (short : label.length ≤ 36)
    (plain : label.all (fun char => char ≠ 0 && char < 128) = true) : Nameable label := by
  simp only [List.all_eq_true, Bool.and_eq_true, decide_eq_true_eq] at plain
  have written : label.takeWhile (· ≠ 0) = label :=
    takeWhile_eq_self_iff.mpr fun char listed => decide_eq_true (plain char listed).1
  have behind : label.dropWhile (· ≠ 0) = [] :=
    dropWhile_eq_nil_iff.mpr fun char listed => decide_eq_true (plain char listed).1
  refine ⟨short, ?_, ?_⟩
  · rw [written]
    exact fun char listed => (plain char listed).2
  · rw [behind]
    exact nofun

theorem oneCall_nameable : ∀ source ∈ oneCall.partitions, Nameable source.label := by
  intro source listed
  cases mem_singleton.mp listed
  exact nameable_of_all (by decide) (by decide)

theorem oneCall_appendable : ∀ source ∈ oneCall.partitions,
    Appendable oneCall.sizes oneCall.read_only source := by
  intro source listed
  cases mem_singleton.mp listed
  exact ⟨4096, by decide, .inr (by decide)⟩

theorem oneCall_apart : Apart threePaths oneCall.partitions := by
  intro source listed
  cases mem_singleton.mp listed
  decide

def twoFiles (path : String) : Option (List UInt8) :=
  if path = "boot.img" then some (qcow2Image 3)
  else if path = "data.img" then some (qcow2Image 2)
  else none

def twoCall : Call where
  partitions := twoImages
  read_only := false
  images path :=
    if path = "boot.img" then some 4096
    else if path = "data.img" then some 8192
    else none
  guid _ := []

theorem twoImages_cases {property : ImagePartition → Prop}
    (boot : property ⟨[98, 111, 111, 116], "boot.img", .kEfiSystemPartition⟩)
    (data : property ⟨[100, 97, 116, 97], "data.img", .kLinuxFilesystem⟩) :
    ∀ source ∈ twoImages, property source :=
  forall_mem_cons.mpr ⟨boot, forall_mem_singleton.mpr data⟩

theorem twoImages_nameable : ∀ source ∈ twoImages, Nameable source.label :=
  twoImages_cases (nameable_of_all (by decide) (by decide)) (nameable_of_all (by decide) (by decide))

set_option maxRecDepth 40000 in
theorem partitions_kept_pages :
    (∃ disk, AggregateImage qcow2Only (fun _ => none) (fun _ => true) noChecksums (fun _ => [])
        twoFiles twoImages = some (twoFiles, disk) ∧
      Tabled twoImages disk.beginning.entries ∧ Held twoFiles twoImages disk) ∧
    ∃ after, twoCall.CreateOrUpdateCompositeDisk noChecksums threePaths noFiles = (true, after) ∧
      Kept threePaths twoImages after := by
  obtain ⟨disk, aggregated⟩ : ∃ disk, AggregateImage qcow2Only (fun _ => none) (fun _ => true)
      noChecksums (fun _ => []) twoFiles twoImages = some (twoFiles, disk) := ⟨_, rfl⟩
  obtain ⟨after, success⟩ : ∃ after,
      twoCall.CreateOrUpdateCompositeDisk noChecksums threePaths noFiles = (true, after) := ⟨_, rfl⟩
  obtain ⟨kept, updated⟩ := partitions_kept_iff qcow2Only (fun _ => none) (fun _ => true)
    noChecksums (fun _ => []) twoFiles twoFiles twoImages disk threePaths twoCall noFiles after
  have apart : Apart threePaths twoCall.partitions := twoImages_cases (by decide) (by decide)
  constructor
  · refine ⟨disk, aggregated, ((kept aggregated).2 ?_).mpr ?_⟩
    · exact twoImages_cases ⟨qcow2Image 3, rfl, by decide⟩ ⟨qcow2Image 2, rfl, by decide⟩
    · exact fun source listed => ⟨twoImages_cases ⟨4096, by decide, .inr (by decide)⟩
        ⟨4096, by decide, .inr (by decide)⟩ source listed, twoImages_nameable source listed⟩
  · refine ⟨after, success, (updated apart success).mpr ?_⟩
    have writes : twoCall.writes threePaths noFiles := by decide
    refine ⟨?_, fun _ => ⟨twoImages_nameable, nofun⟩, fun stands => absurd writes stands⟩
    exact twoImages_cases ⟨4096, by decide, .inr (by decide)⟩ ⟨8192, by decide, .inr (by decide)⟩

/-- An image of one byte is left out, and neither command says so. -/
theorem unaligned_image_dropped :
    (∃ raw disk, AggregateImage qcow2Only (fun _ => none) (fun _ => true) noChecksums (fun _ => [])
        (oneFile [1]) oneImage = some (raw, disk) ∧ ¬Tabled oneImage disk.beginning.entries) ∧
    ∃ after, {oneCall with images := fun _ => some 1}.CreateOrUpdateCompositeDisk noChecksums
        threePaths noFiles = (true, after) ∧ ¬Kept threePaths oneImage after := by
  constructor
  · refine ⟨_, _, rfl, fun tabled => ?_⟩
    obtain ⟨entry, found, describes⟩ := tabled.used 0 _ rfl
    cases found
    exact absurd describes.type (by decide)
  · refine ⟨_, rfl, fun kept => ?_⟩
    obtain ⟨beginning, read, tabled⟩ := kept.1
    cases read
    obtain ⟨entry, found, describes⟩ := tabled.used 0 _ rfl
    cases found
    exact absurd describes.type (by decide)

end Ika.ImageAggregator
