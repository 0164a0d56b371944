import Ika.ImageAggregator.Updates

/-! What the files of a composite disk are after any history of updates. -/

set_option autoImplicit false

namespace Ika.ImageAggregator

open List

def Call.whole (call : Call) : CompositeDiskBuilder where
  read_only_ := call.read_only
  partitions_ := placed call.sizes sizeofGptBeginning call.partitions
  next_disk_offset_ := afterAll call.sizes sizeofGptBeginning call.partitions

/-- The three files describe exactly the partitions of the call, under some identifiers. -/
structure Matching (crc32 : Checksums) (paths : Paths) (call : Call) (disk : Disk) : Prop where
  composite : ∃ composite_proto,
    call.whole.MakeCompositeDiskSpec call.sizes paths.header_file paths.footer_file =
        some composite_proto ∧
      disk.composite = some composite_proto
  table : ∃ guid beginning,
    call.whole.Beginning crc32 guid = some beginning ∧ disk.header = some beginning ∧
      disk.footer = some (call.whole.End crc32 beginning) ∧
        Tabled call.partitions beginning.entries

structure History where
  disk : Disk
  last : Option Call := none

def History.next (crc32 : Checksums) (paths : Paths) (call : Call)
    (history : History) : History where
  disk := (call.CreateOrUpdateCompositeDisk crc32 paths history.disk).2
  last := if call.writes paths history.disk then some call else history.last

/-- What the composite file does not say of the partitions. -/
def Call.names (call : Call) : List (List UInt8 × GptPartitionType) :=
  call.partitions.map fun partition => (partition.label, partition.type)

/-- All the files of the call could be written, and no part of them was lost. -/
structure Call.Finished (call : Call) : Prop where
  few : call.partitions.length ≤ GPT_NUM_PARTITIONS
  composite : call.composite = .written
  header : call.header = .written
  footer : call.footer = .written

/-- A call that finds its composite disk there only where the last one wrote the same names. -/
structure Sound (paths : Paths) (history : History) (call : Call) : Prop where
  appendable : ∀ source ∈ call.partitions, Appendable call.sizes call.read_only source
  nameable : ∀ source ∈ call.partitions, Nameable source.label
  apart : Apart paths call.partitions
  flushed : call.unflushed = none
  fresh : history.disk.composite = call.spec paths →
    ∃ last, history.last = some last ∧ last.Finished ∧ last.names = call.names

inductive Reached (crc32 : Checksums) (paths : Paths) : History → Prop
  | start (disk : Disk) (none : disk.composite = none) : Reached crc32 paths {disk := disk}
  | call {history : History} {call : Call} (reached : Reached crc32 paths history)
      (sound : Sound paths history call) : Reached crc32 paths (history.next crc32 paths call)

section Specifications

variable {paths : Paths} {read_only : Bool} {images : String → Option Nat} {next : Nat}
  {sources : List ImagePartition}

def componentsFrom (paths : Paths) (read_only : Bool) (images : String → Option Nat) (next : Nat)
    (sources : List ImagePartition) : List ComponentDisk :=
  (placed images next sources).flatMap
      (CompositeDiskBuilder.components {read_only_ := read_only} paths.header_file) ++
    [{file_path := paths.footer_file, offset := afterAll images next sources}]

/-- The header where an image does not fill its last page. -/
def filler (paths : Paths) (next size : Nat) : List ComponentDisk :=
  if AlignToPartitionSize size ≠ size then
    [{file_path := paths.header_file, offset := u64 (next + size)}]
  else []

theorem components_eq {builder : CompositeDiskBuilder} {partition : PartitionInfo} :
    builder.components paths.header_file partition =
      ⟨partition.source.image_file_path, partition.offset,
        if builder.read_only_ then .READ_ONLY else .READ_WRITE⟩ ::
        filler paths partition.offset partition.size := by
  unfold CompositeDiskBuilder.components filler PartitionInfo.AlignedSize
  by_cases whole : AlignToPartitionSize partition.size = partition.size
  · simp only [whole, ne_eq, not_true_eq_false, if_false]
  · simp only [whole, ne_eq, not_false_eq_true, if_true]

variable {source : ImagePartition} {read_only' : Bool} {sources' : List ImagePartition}

theorem componentsFrom_cons :
    componentsFrom paths read_only images next (source :: sources) =
      ⟨source.image_file_path, next, if read_only then .READ_ONLY else .READ_WRITE⟩ ::
        (filler paths next (sizeOf images source) ++
          componentsFrom paths read_only images
            (u64 (next + AlignToPartitionSize (sizeOf images source))) sources) := by
  have first := @components_eq paths {read_only_ := read_only} ⟨source, sizeOf images source, next⟩
  unfold componentsFrom
  rw [placed, flatMap_cons, first, afterAll, append_assoc, cons_append]

theorem componentsFrom_head (apart : Apart paths sources) :
    ∃ first rest, componentsFrom paths read_only images next sources = first :: rest ∧
      first.offset = next ∧ first.file_path ≠ paths.header_file := by
  cases sources with
  | nil => exact ⟨_, [], rfl, rfl, paths.distinct⟩
  | cons source others => exact ⟨_, _, componentsFrom_cons, rfl, apart source mem_cons_self⟩

theorem size_of_follows {images' : String → Option Nat} {size size' : Nat} (small : size < 2 ^ 64)
    (small' : size' < 2 ^ 64) (apart : Apart paths sources) (apart' : Apart paths sources')
    (same : filler paths next size ++
        componentsFrom paths read_only images (u64 (next + AlignToPartitionSize size)) sources =
      filler paths next size' ++
        componentsFrom paths read_only' images' (u64 (next + AlignToPartitionSize size')) sources') :
    size = size' := by
  obtain ⟨first, rest, starts, offset, differs⟩ := @componentsFrom_head paths read_only images
    (u64 (next + AlignToPartitionSize size)) sources apart
  obtain ⟨first', rest', starts', offset', differs'⟩ := @componentsFrom_head paths read_only' images'
    (u64 (next + AlignToPartitionSize size')) sources' apart'
  rw [starts, starts'] at same
  have cancel : ∀ {one other : Nat}, one < 2 ^ 64 → other < 2 ^ 64 →
      u64 (next + one) = u64 (next + other) → one = other := by
    intro one other less less' equal
    unfold u64 at equal
    omega
  unfold filler at same
  split at same
  · split at same
    · have head := (List.cons.inj same).1
      exact cancel small small' (congrArg ComponentDisk.offset head)
    · -- the header is not the start of a partition, nor the footer
      have head := (List.cons.inj same).1
      exact absurd (congrArg ComponentDisk.file_path head).symm differs'
  · split at same
    · have head := (List.cons.inj same).1
      exact absurd (congrArg ComponentDisk.file_path head) differs
    · rename_i whole whole'
      have head := (List.cons.inj same).1
      rw [not_not] at whole whole'
      rw [head, offset', whole, whole'] at offset
      exact (cancel small' small offset).symm

theorem source_eq {source' : ImagePartition}
    (name : (source.label, source.type) = (source'.label, source'.type))
    (path : source.image_file_path = source'.image_file_path) : source = source' := by
  cases source
  cases source'
  cases name
  cases path
  rfl

theorem placed_eq {images' : String → Option Nat} (small : ∀ source, sizeOf images source < 2 ^ 64)
    (small' : ∀ source, sizeOf images' source < 2 ^ 64) (apart : Apart paths sources)
    (apart' : Apart paths sources')
    (names : (sources.map fun source => (source.label, source.type)) =
      sources'.map fun source => (source.label, source.type))
    (same : componentsFrom paths read_only images next sources =
      componentsFrom paths read_only' images' next sources') :
    placed images next sources = placed images' next sources' ∧
      afterAll images next sources = afterAll images' next sources' := by
  induction sources generalizing next sources' with
  | nil =>
    cases sources' with
    | nil => exact ⟨rfl, rfl⟩
    | cons source' rest' => cases names
  | cons source rest ih =>
    cases sources' with
    | nil => cases names
    | cons source' rest' =>
      obtain ⟨name, names⟩ := List.cons.inj names
      rw [componentsFrom_cons, componentsFrom_cons] at same
      obtain ⟨head, tail⟩ := List.cons.inj same
      have equal := source_eq name (congrArg ComponentDisk.file_path head)
      have apartRest : Apart paths rest := fun s listed => apart s (mem_cons_of_mem _ listed)
      have apartRest' : Apart paths rest' := fun s listed => apart' s (mem_cons_of_mem _ listed)
      have size := size_of_follows (small source) (small' source') apartRest apartRest' tail
      rw [← size] at tail
      have behind := append_cancel_left tail
      have later := ih apartRest apartRest' names behind
      cases equal
      unfold placed afterAll
      rw [← size, later.1, later.2]
      exact ⟨rfl, rfl⟩

end Specifications

section Runs

variable {crc32 : Checksums} {paths : Paths} {call last : Call} {history : History}
  {disk after : Disk}

theorem whole_eq
    (appendable : ∀ source ∈ call.partitions, Appendable call.sizes call.read_only source) :
    call.builder = call.whole := build_placed appendable

theorem sizeOf_lt {source : ImagePartition} : sizeOf call.sizes source < 2 ^ 64 := by
  unfold sizeOf Call.sizes
  cases call.images source.image_file_path with
  | none => decide
  | some size => exact UInt64.toNat_lt size

variable {composite_proto : CompositeDisk}

theorem component_disks_eq {builder : CompositeDiskBuilder} {images : String → Option Nat}
    (made : builder.MakeCompositeDiskSpec images paths.header_file paths.footer_file =
      some composite_proto) :
    composite_proto.component_disks =
      ⟨paths.header_file, 0, .READ_ONLY⟩ ::
        (builder.partitions_.flatMap (builder.components paths.header_file) ++
          [⟨paths.footer_file, builder.next_disk_offset_, .READ_ONLY⟩]) := by
  unfold CompositeDiskBuilder.MakeCompositeDiskSpec at made
  split at made
  · cases made
    rfl
  · cases made

theorem Matching.same (matching : Matching crc32 paths last disk) (apart : Apart paths last.partitions)
    (apart' : Apart paths call.partitions) (names : last.names = call.names)
    (appendable : ∀ source ∈ call.partitions, Appendable call.sizes call.read_only source)
    (same : disk.composite = call.spec paths) : Matching crc32 paths call disk := by
  obtain ⟨⟨composite_proto, made, read⟩, guid, beginning, begins, header, footer, tabled⟩ := matching
  have made' := same.symm.trans read
  unfold Call.spec at made'
  rw [whole_eq appendable] at made'
  have disks := (List.cons.inj ((component_disks_eq made).symm.trans (component_disks_eq made'))).2
  obtain ⟨partitions_, ends⟩ := placed_eq (fun source => sizeOf_lt) (fun source => sizeOf_lt) apart
    apart' names disks
  -- the table and the footer are made from the partitions and the offset behind them
  have whole : last.whole = {call.whole with read_only_ := last.read_only} := by
    unfold Call.whole
    rw [partitions_, ends]
  rw [whole] at begins footer
  refine ⟨⟨composite_proto, made', read⟩, guid, beginning, begins, header, footer, ?_⟩
  have sources : last.partitions = call.partitions := by
    refine ext_getElem? fun index => ?_
    rw [← @placed_getElem? last.sizes _ sizeofGptBeginning,
      ← @placed_getElem? call.sizes _ sizeofGptBeginning, partitions_]
  exact sources ▸ tabled

theorem WrittenAll.matching (wrote : WrittenAll call crc32 composite_proto after)
    (made : call.spec paths = some composite_proto)
    (appendable : ∀ source ∈ call.partitions, Appendable call.sizes call.read_only source)
    (nameable : ∀ source ∈ call.partitions, Nameable source.label)
    (flushed : call.unflushed = none) : Matching crc32 paths call after := by
  obtain ⟨beginning, begins, header, footer⟩ := wrote.beginning
  have composite := wrote.composite
  rw [flushed] at composite
  unfold Call.spec at made
  have tabled : Tabled call.partitions beginning.entries := by
    have entries : beginning.entries = _ := Beginning_entries begins
    rw [entries]
    exact tabled_entries_iff.mpr fun source listed =>
      ⟨appendable source listed, nameable source listed⟩
  rw [whole_eq appendable] at made begins footer
  exact ⟨⟨composite_proto, made, composite⟩, call.guid, beginning, begins, header, footer, tabled⟩

theorem update_of_not_writes (stands : ¬call.writes paths disk) :
    (call.CreateOrUpdateCompositeDisk crc32 paths disk).2 = disk := by
  unfold Call.CreateOrUpdateCompositeDisk
  split
  · rename_i converted
    split
    · rfl
    · rename_i composite_proto made
      refine congrArg Prod.snd (if_pos ?_)
      by_contra differs
      exact stands ⟨converted, by rw [made]; exact nofun, made ▸ differs⟩
  · rfl

theorem update_of_finished (writes : call.writes paths disk) (finished : call.Finished) :
    (call.CreateOrUpdateCompositeDisk crc32 paths disk).1 = true := by
  obtain ⟨converted, -, differs⟩ := writes
  have few : call.builder.partitions_.length ≤ GPT_NUM_PARTITIONS := by
    have most := @length_appendAll_le call.sizes call.partitions {read_only_ := call.read_only}
    exact Nat.le_trans (Nat.le_trans most (Nat.le_of_eq (Nat.zero_add _))) finished.few
  unfold Call.CreateOrUpdateCompositeDisk
  rw [if_pos converted]
  rw [spec_eq] at differs ⊢
  dsimp only
  rw [if_neg differs]
  unfold Call.writeFiles CompositeDiskBuilder.Beginning
  rw [finished.composite, finished.header, finished.footer, if_pos few]
  rfl

structure Traced (crc32 : Checksums) (paths : Paths) (history : History) : Prop where
  none : history.last = none → history.disk.composite = none
  last : ∀ last, history.last = some last → Apart paths last.partitions ∧
    (last.Finished → Matching crc32 paths last history.disk)

theorem update_pair {crc32 : Checksums} {call : Call} {disk : Disk}
    (success : (call.CreateOrUpdateCompositeDisk crc32 paths disk).1 = true) :
    call.CreateOrUpdateCompositeDisk crc32 paths disk =
      (true, (call.CreateOrUpdateCompositeDisk crc32 paths disk).2) := Prod.ext success rfl

theorem matching_of_success (traced : Traced crc32 paths history) (sound : Sound paths history call)
    (success : (call.CreateOrUpdateCompositeDisk crc32 paths history.disk).1 = true) :
    Matching crc32 paths call (call.CreateOrUpdateCompositeDisk crc32 paths history.disk).2 := by
  obtain ⟨composite_proto, made, ⟨stands, same, stays⟩ | ⟨writes, wrote⟩⟩ :=
    update_true (update_pair success)
  · rw [stays]
    have found := same.trans made.symm
    obtain ⟨last, remembered, finished, names⟩ := sound.fresh found
    obtain ⟨apart, matching⟩ := traced.last last remembered
    exact (matching finished).same apart sound.apart names sound.appendable found
  · exact wrote.matching made sound.appendable sound.nameable sound.flushed

theorem last_of_writes (writes : call.writes paths history.disk) :
    (history.next crc32 paths call).last = some call := if_pos writes

theorem Traced.next (traced : Traced crc32 paths history) (sound : Sound paths history call) :
    Traced crc32 paths (history.next crc32 paths call) := by
  by_cases writes : call.writes paths history.disk
  · have remembered := @last_of_writes crc32 paths call history writes
    refine ⟨fun none => ?_, fun last same => ?_⟩
    · rw [remembered] at none
      cases none
    · rw [remembered] at same
      cases same
      refine ⟨sound.apart, fun finished => ?_⟩
      exact matching_of_success traced sound (update_of_finished writes finished)
  · have kept : history.next crc32 paths call = history := by
      unfold History.next
      rw [update_of_not_writes writes, if_neg writes]
    rw [kept]
    exact traced

theorem Reached.traced (reached : Reached crc32 paths history) : Traced crc32 paths history := by
  induction reached with
  | start disk none => exact ⟨fun _ => none, nofun⟩
  | call reached sound ih => exact ih.next sound

/-- In every history of sound calls, each call that succeeds leaves files that match it. -/
theorem updates_leave_matching (reached : Reached crc32 paths history)
    (sound : Sound paths history call)
    (success : (call.CreateOrUpdateCompositeDisk crc32 paths history.disk).1 = true) :
    Matching crc32 paths call (call.CreateOrUpdateCompositeDisk crc32 paths history.disk).2 :=
  matching_of_success reached.traced sound success

end Runs

theorem oneCall_sound {history : History}
    (fresh : history.disk.composite = oneCall.spec threePaths →
      ∃ last, history.last = some last ∧ last.Finished ∧ last.names = oneCall.names) :
    Sound threePaths history oneCall where
  appendable := oneCall_appendable
  nameable := oneCall_nameable
  apart := oneCall_apart
  flushed := rfl
  fresh := fresh

/-- The disk after a call, and after the same call again. -/
theorem updates_leave_matching_twice :
    let history := History.next noChecksums threePaths oneCall {disk := noFiles}
    Matching noChecksums threePaths oneCall
      (oneCall.CreateOrUpdateCompositeDisk noChecksums threePaths history.disk).2 := by
  have first : Sound threePaths {disk := noFiles} oneCall :=
    oneCall_sound fun same => by rw [spec_eq] at same; cases same
  have reached : Reached noChecksums threePaths _ := .call (.start noFiles rfl) first
  refine @updates_leave_matching noChecksums threePaths oneCall _ reached (oneCall_sound ?_) ?_
  · intro same
    have writes : oneCall.writes threePaths noFiles := by decide
    have remembered : (History.next noChecksums threePaths oneCall {disk := noFiles}).last =
        some oneCall := last_of_writes writes
    exact ⟨oneCall, remembered, ⟨by decide, rfl, rfl, rfl⟩, rfl⟩
  · decide

def cutCall : Call := {oneCall with header := .cut none}

def relabelledCall : Call :=
  {oneCall with partitions := [{ label := [98], image_file_path := "a.img" }]}

/-- The same call again finds no header, and a relabelled one the old label, and both succeed. -/
theorem stale_header_stands :
    ((oneCall.CreateOrUpdateCompositeDisk noChecksums threePaths
          (cutCall.CreateOrUpdateCompositeDisk noChecksums threePaths noFiles).2).1 = true ∧
      ¬Matching noChecksums threePaths oneCall
        (oneCall.CreateOrUpdateCompositeDisk noChecksums threePaths
          (cutCall.CreateOrUpdateCompositeDisk noChecksums threePaths noFiles).2).2) ∧
    ((relabelledCall.CreateOrUpdateCompositeDisk noChecksums threePaths
          (oneCall.CreateOrUpdateCompositeDisk noChecksums threePaths noFiles).2).1 = true ∧
      ¬Matching noChecksums threePaths relabelledCall
        (relabelledCall.CreateOrUpdateCompositeDisk noChecksums threePaths
          (oneCall.CreateOrUpdateCompositeDisk noChecksums threePaths noFiles).2).2) := by
  refine ⟨⟨by decide, fun matching => ?_⟩, by decide, fun matching => ?_⟩
  · obtain ⟨guid, beginning, begins, header, -⟩ := matching.table
    have empty : (oneCall.CreateOrUpdateCompositeDisk noChecksums threePaths
        (cutCall.CreateOrUpdateCompositeDisk noChecksums threePaths noFiles).2).2.header = none := by
      decide
    rw [empty] at header
    cases header
  · obtain ⟨guid, beginning, begins, header, footer, tabled⟩ := matching.table
    obtain ⟨entry, found, describes⟩ := tabled.used 0 _ rfl
    cases header
    cases found
    exact absurd describes.label.2 (by decide)

end Ika.ImageAggregator
