import Ika.Cpio.Archive

/-! Reading archives back. -/

set_option autoImplicit false

namespace Ika.Cpio

open Ika.Io List Option Nat
open Ika.ImageAggregator (roundUp roundUp_ge roundUp_lt)
open Format (pad length_header parseHeader_header formatOf_header)

def fileOf (format : Format) (offset : Nat) (entry : Entry) : FileEntry where
  offset := format.dataOffset offset entry
  size := entry.contents.length
  mode := entry.mode

section Sizes

variable (format : Format) (offset : Nat) (entry : Entry)

theorem start_ge : offset ≤ roundUp offset format.headerUnit :=
  roundUp_ge offset format.units.1.1

theorem dataOffset_ge :
    roundUp offset format.headerUnit + format.headerSize + (entry.name.length + 1) ≤
      format.dataOffset offset entry := roundUp_ge _ format.units.2.1.1

theorem endOffset_ge :
    format.dataOffset offset entry + entry.contents.length ≤ format.endOffset offset entry :=
  roundUp_ge _ format.units.2.2.1

theorem length_pad {low high : Nat} : (pad low high).length = high - low := length_replicate

variable {format entry}

theorem length_record (fits : format.Fits entry.mode entry.ignored) :
    offset + (format.record offset entry).length = format.endOffset offset entry := by
  have start := start_ge format offset
  have data := dataOffset_ge format offset entry
  have stop := endOffset_ge format offset entry
  simp only [Format.record, length_append, @length_header format entry.header _ fits, length_pad,
    length_singleton]
  omega

end Sizes

section Turns

variable {format : Format} {reader : ReaderSeeker} {bytes : List UInt8}

theorem PReadExact_piece (denotes : Denotes reader bytes) (small : bytes.length < 2 ^ 63)
    {front piece rest : List UInt8} (split : bytes = front ++ (piece ++ rest)) {size offset : Nat}
    (length : piece.length = size) (before : front.length = offset) :
    PReadExact reader size offset = some piece := by
  have whole := congrArg List.length split
  rw [length_append] at whole
  rw [PReadExact_eq denotes (by omega) _ (by omega), split, drop_left' before,
    take_left' length]
  exact if_pos length

theorem nameLength_succ (length : Nat) (short : length ≤ 65534) :
    format.nameLength (length + 1) = length := by
  cases format <;> simp only [Format.nameLength] <;> omega

theorem turn_record (denotes : Denotes reader bytes) (small : bytes.length < 2 ^ 63)
    {front rest : List UInt8} {offset : Nat} {entry : Entry} (before : front.length = offset)
    (split : bytes = front ++ (format.record offset entry ++ rest))
    (representable : format.Representable entry) :
    turn format reader (format.alignHeader offset) =
      if entry.contents.length < 2 ^ 32 then
        .entry entry.name (fileOf format offset entry) (format.endOffset offset entry)
      else .error := by
  have start := start_ge format offset
  have data := dataOffset_ge format offset entry
  have stop := endOffset_ge format offset entry
  have size := length_record offset representable.fits
  have whole := congrArg List.length split
  rw [length_append, length_append] at whole
  have fits := representable.fits
  have short := representable.named.2
  have pieces : bytes = (front ++ pad offset (roundUp offset format.headerUnit)) ++
      (format.header entry.ignored entry.header ++ (entry.name ++ ([0] ++
      (pad (roundUp offset format.headerUnit + format.headerSize + (entry.name.length + 1))
        (format.dataOffset offset entry) ++ (entry.contents ++
      (pad (format.dataOffset offset entry + entry.contents.length)
        (format.endOffset offset entry) ++ rest)))))) := by
    rw [split, Format.record]
    simp only [append_assoc]
  have before_header : (front ++ pad offset (roundUp offset format.headerUnit)).length =
      roundUp offset format.headerUnit := by
    rw [length_append, length_pad, before]
    omega
  have header : readHeader format reader (roundUp offset format.headerUnit) =
      if entry.contents.length < 2 ^ 32 then some entry.header else none := by
    rw [readHeader, PReadExact_piece denotes small pieces
      (@length_header format entry.header _ fits) before_header,
      bind_some]
    exact @parseHeader_header format entry.header _ fits (lt_succ_of_le (succ_le_succ short))
      representable.size
  rw [format.alignHeader_eq (by omega), turn, header]
  split_ifs with fits32
  · have no_throw : ¬ format.nameLength (entry.name.length + 1) > max_size := by
      rw [nameLength_succ _ short, max_size]
      omega
    have unwrapped : (roundUp offset format.headerUnit + format.headerSize) % 2 ^ 64 =
        roundUp offset format.headerUnit + format.headerSize := mod_eq_of_lt (by omega)
    have before_name : (front ++ pad offset (roundUp offset format.headerUnit) ++
        format.header entry.ignored entry.header).length =
          roundUp offset format.headerUnit + format.headerSize := by
      rw [length_append, before_header, @length_header format entry.header _ fits]
    rw [← append_assoc] at pieces
    have behind : (roundUp offset format.headerUnit + format.headerSize +
        (entry.name.length + 1)) % 2 ^ 64 =
          roundUp offset format.headerUnit + format.headerSize + (entry.name.length + 1) :=
      mod_eq_of_lt (by omega)
    have data_end : (format.dataOffset offset entry + entry.contents.length) % 2 ^ 64 =
        format.dataOffset offset entry + entry.contents.length := mod_eq_of_lt (by omega)
    dsimp only [Entry.header]
    rw [if_neg no_throw, nameLength_succ _ short, unwrapped,
      PReadExact_piece denotes small pieces rfl before_name]
    dsimp only
    rw [if_neg representable.plain, behind, format.alignData_eq (by omega)]
    show Turn.entry _ ⟨format.dataOffset offset entry, _, _⟩
      (format.alignNext ((format.dataOffset offset entry + entry.contents.length) % 2 ^ 64)) = _
    rw [data_end, format.alignNext_eq (by omega)]
    rfl
  · rfl

theorem turn_trailer (denotes : Denotes reader bytes) (small : bytes.length < 2 ^ 63)
    {front tail : List UInt8} {offset mode : Nat} {ignored : Ignored}
    (before : front.length = offset) (fits : format.Fits mode ignored)
    (split : bytes = front ++ format.encode mode ignored tail offset []) :
    turn format reader (format.alignHeader offset) = .trailer := by
  have start := start_ge format offset
  have whole := congrArg List.length split
  rw [length_append] at whole
  have before_header : (front ++ pad offset (roundUp offset format.headerUnit)).length =
      roundUp offset format.headerUnit := by
    rw [length_append, length_pad, before]
    omega
  rw [Format.encode, ← append_assoc] at split
  rw [Format.encode, ← append_assoc] at whole
  have size := @length_header format
    (trailerHeader mode) ignored fits
  have header : readHeader format reader (roundUp offset format.headerUnit) =
      some (trailerHeader mode) := by
    rw [readHeader, PReadExact_piece denotes small split size before_header, bind_some,
      @parseHeader_header format (trailerHeader mode) ignored fits
        (show kTrailerName.length + 1 < 65536 by decide) format.sizeBound_pos]
    exact if_pos (Nat.two_pow_pos 32)
  have before_name : (front ++ pad offset (roundUp offset format.headerUnit) ++
      format.header ignored (trailerHeader mode)).length =
        roundUp offset format.headerUnit + format.headerSize := by
    rw [length_append, before_header, size]
  rw [← append_assoc] at split
  have unwrapped : (roundUp offset format.headerUnit + format.headerSize) % 2 ^ 64 =
      roundUp offset format.headerUnit + format.headerSize := by
    have length := congrArg List.length split
    rw [length_append, before_name] at length
    exact mod_eq_of_lt (by omega)
  have no_throw : ¬ format.nameLength (kTrailerName.length + 1) > max_size := by
    rw [nameLength_succ _ (by decide)]
    decide
  rw [format.alignHeader_eq (by omega), turn, header]
  dsimp only [trailerHeader]
  rw [if_neg no_throw, nameLength_succ _ (by decide), unwrapped,
    PReadExact_piece denotes small split rfl before_name]
  exact if_pos rfl

def files (format : Format) : Nat → List Entry → EntriesMap
  | _, [] => []
  | offset, entry :: rest =>
    (entry.name, fileOf format offset entry) :: files format (format.endOffset offset entry) rest

theorem emplace_new {name : List UInt8} {file : FileEntry} {known : EntriesMap}
    (absent : name ∉ known.map Prod.fst) : emplace name file known = known ++ [(name, file)] := by
  have none : known.lookup name = none := by
    rw [lookup_eq_none_iff]
    intro entry member
    rw [bne_iff_ne]
    rintro rfl
    exact absent (List.mem_map_of_mem member)
  rw [emplace, none]
  rfl

theorem parseEntries_encode (denotes : Denotes reader bytes) (small : bytes.length < 2 ^ 63)
    {mode : Nat} {ignored : Ignored} {tail : List UInt8} (fits : format.Fits mode ignored)
    {entries : List Entry} (representable : ∀ entry ∈ entries, format.Representable entry)
    {front : List UInt8} {offset : Nat} {known : EntriesMap} (before : front.length = offset)
    (split : bytes = front ++ format.encode mode ignored tail offset entries)
    (distinct : (known.map Prod.fst ++ entries.map Entry.name).Nodup) {fuel : Nat}
    (enough : entries.length < fuel) :
    parseEntries format reader fuel offset known =
      if ∀ entry ∈ entries, entry.contents.length < 2 ^ 32 then
        .entries (known ++ files format offset entries)
      else .error := by
  induction entries generalizing front offset known fuel with
  | nil =>
    obtain ⟨fuel, rfl⟩ := Nat.exists_eq_add_of_lt enough
    rw [parseEntries, turn_trailer denotes small before fits split, files, append_nil]
    exact (if_pos fun _ member => absurd member not_mem_nil).symm
  | cons entry rest induction_hypothesis =>
    obtain ⟨fuel, rfl⟩ := Nat.exists_eq_add_of_lt enough
    have own := representable entry mem_cons_self
    have taken := turn_record denotes small before split own
    rw [Nat.add_comm _ 1, Nat.add_comm 1, parseEntries, taken]
    simp only [forall_mem_cons]
    by_cases fits32 : entry.contents.length < 2 ^ 32
    · have absent : entry.name ∉ known.map Prod.fst := fun member =>
        (nodup_append.1 distinct).2.2 _ member _ mem_cons_self rfl
      have ended : (front ++ format.record offset entry).length = format.endOffset offset entry := by
        rw [length_append, before, length_record _ own.fits]
      have later : bytes = front ++ format.record offset entry ++
          format.encode mode ignored tail (format.endOffset offset entry) rest := by
        rw [split, Format.encode, append_assoc]
      have others : ((known ++ [(entry.name, fileOf format offset entry)]).map Prod.fst ++
          rest.map Entry.name).Nodup := by
        rw [map_append, append_assoc]
        exact distinct
      rw [if_pos fits32]
      dsimp only
      rw [emplace_new absent, induction_hypothesis
        (fun other member => representable other (mem_cons_of_mem _ member)) ended later others
        (by rw [length_cons]; omega), append_assoc]
      by_cases all : ∀ other ∈ rest, other.contents.length < 2 ^ 32
      · rw [if_pos all, if_pos ⟨fits32, all⟩]
        rfl
      · rw [if_neg all, if_neg fun both => all both.2]
    · rw [if_neg fits32, if_neg fun all => fits32 all.1]

theorem encode_header {mode : Nat} {ignored : Ignored} {tail : List UInt8} {entries : List Entry}
    (fits : format.Fits mode ignored)
    (representable : ∀ entry ∈ entries, format.Representable entry) :
    ∃ numbers own rest, format.encode mode ignored tail 0 entries =
      format.header own numbers ++ rest ∧ format.Fits numbers.mode own := by
  have origin : roundUp 0 format.headerUnit = 0 := by
    have unit := format.units.1
    rw [roundUp, div_eq_of_lt (by omega), Nat.zero_mul]
  cases entries with
  | nil =>
    refine ⟨trailerHeader mode, ignored, kTrailerName ++ ([0] ++ tail), ?_, fits⟩
    rw [Format.encode, origin]
    rfl
  | cons entry rest =>
    have own := (representable entry mem_cons_self).fits
    have record : ∃ after, format.record 0 entry =
        format.header entry.ignored entry.header ++ after := by
      rw [Format.record, origin]
      exact ⟨_, rfl⟩
    obtain ⟨after, starts⟩ := record
    refine ⟨entry.header, entry.ignored,
      after ++ format.encode mode ignored tail (format.endOffset 0 entry) rest, ?_, own⟩
    rw [Format.encode, starts, append_assoc]

theorem recognised_encode {mode : Nat} {ignored : Ignored} {tail : List UInt8}
    {entries : List Entry} (fits : format.Fits mode ignored)
    (representable : ∀ entry ∈ entries, format.Representable entry)
    (denotes : Denotes reader (format.encode mode ignored tail 0 entries))
    (small : (format.encode mode ignored tail 0 entries).length < 2 ^ 63) :
    (PReadExact reader 6 0).bind formatOf = some format := by
  obtain ⟨numbers, own, rest, begins, ownFits⟩ := @encode_header _ _ _ tail _ fits representable
  have known := @formatOf_header _ numbers own ownFits rest
  have size := @length_header format numbers own ownFits
  have long : 6 ≤ (format.header own numbers ++ rest).length := by
    rw [length_append, size]
    cases format <;> simp only [Format.headerSize] <;> omega
  rw [PReadExact_eq denotes (by omega) _ (by decide), begins, drop_zero, if_pos
    (length_take_of_le long), bind_some, known]

end Turns

section Files

variable {format : Format} {bytes : List UInt8}

theorem files_keys (offset : Nat) (entries : List Entry) :
    (files format offset entries).map Prod.fst = entries.map Entry.name := by
  induction entries generalizing offset with
  | nil => rfl
  | cons entry rest induction_hypothesis =>
    rw [files, map_cons, map_cons, induction_hypothesis]

theorem lookup_isSome {entries : EntriesMap} {name : List UInt8} :
    (entries.lookup name).isSome ↔ name ∈ entries.map Prod.fst := by
  rw [lookup_isSome_iff, List.mem_map]
  constructor
  · rintro ⟨entry, member, same⟩
    exact ⟨entry, member, (eq_of_beq same).symm⟩
  · rintro ⟨entry, member, rfl⟩
    exact ⟨entry, member, beq_self_eq_true _⟩

theorem lookup_files {mode : Nat} {ignored : Ignored} {tail : List UInt8} {entries : List Entry}
    (representable : ∀ entry ∈ entries, format.Representable entry)
    (distinct : (entries.map Entry.name).Nodup) {front : List UInt8} {offset : Nat}
    (before : front.length = offset)
    (split : bytes = front ++ format.encode mode ignored tail offset entries) {entry : Entry}
    (member : entry ∈ entries) :
    ∃ file, (files format offset entries).lookup entry.name = some file ∧ file.mode = entry.mode ∧
      file.offset + file.size ≤ bytes.length ∧
      (bytes.drop file.offset).take file.size = entry.contents := by
  induction entries generalizing front offset with
  | nil => exact absurd member not_mem_nil
  | cons first rest induction_hypothesis =>
    have own := representable first mem_cons_self
    have size := length_record offset own.fits
    rcases mem_cons.1 member with rfl | later
    · refine ⟨fileOf format offset entry, lookup_cons_self, rfl, ?_, ?_⟩
      · have stop := endOffset_ge format offset entry
        have whole := congrArg List.length split
        rw [Format.encode, length_append, length_append] at whole
        show format.dataOffset offset entry + entry.contents.length ≤ bytes.length
        omega
      · have start := start_ge format offset
        have data := dataOffset_ge format offset entry
        have pieces : bytes = (front ++ (pad offset (roundUp offset format.headerUnit) ++
            (format.header entry.ignored entry.header ++ (entry.name ++ ([0] ++
              pad (roundUp offset format.headerUnit + format.headerSize +
                (entry.name.length + 1)) (format.dataOffset offset entry)))))) ++
            (entry.contents ++ (pad (format.dataOffset offset entry + entry.contents.length)
              (format.endOffset offset entry) ++
              format.encode mode ignored tail (format.endOffset offset entry) rest)) := by
          rw [split, Format.encode, Format.record]
          simp only [append_assoc]
        rw [pieces, drop_left']
        · exact take_left' rfl
        · show _ = format.dataOffset offset entry
          simp only [length_append, @length_header format entry.header _ own.fits, length_pad,
            before, length_singleton]
          omega
    · have fresh : entry.name ≠ first.name := fun same =>
        (nodup_cons.1 distinct).1 (same ▸ List.mem_map_of_mem later)
      obtain ⟨file, found, facts⟩ := induction_hypothesis
        (fun other mem => representable other (mem_cons_of_mem _ mem))
        (nodup_cons.1 distinct).2
        (show (front ++ format.record offset first).length = format.endOffset offset first by
          rw [length_append, before, size])
        (by rw [split, Format.encode, append_assoc]) later
      refine ⟨file, ?_, facts⟩
      rw [files, lookup_cons, beq_eq_false_iff_ne.2 fresh]
      exact found

end Files

/-- The archive opens, knows the names and no others, and has the modes and the contents. -/
def ReadsBack (reader : ReaderSeeker) (entries : List Entry) : Prop :=
  ∃ cpio, (∃ enough, ∀ fuel, enough ≤ fuel → CpioReader.Open fuel reader = some cpio) ∧
    (∀ name, (cpio.FileAttributes name).isSome ↔ name ∈ entries.map Entry.name) ∧
    (∀ name, (cpio.OpenReadOnly name).isSome ↔ name ∈ entries.map Entry.name) ∧
    ∀ entry ∈ entries, cpio.FileAttributes entry.name = some entry.mode ∧
      ∃ file, cpio.OpenReadOnly entry.name = some file ∧
        ∃ enough, ∀ fuel, enough ≤ fuel → ReadToString file fuel = some entry.contents

theorem ReadToString_window {reader : ReaderSeeker} {bytes : List UInt8}
    (denotes : Denotes reader bytes) (small : bytes.length < 2 ^ 63) {offset size : Nat}
    (inside : offset + size ≤ bytes.length) {fuel : Nat} (enough : size < fuel) :
    ReadToString (ReadWindowView.create reader offset size) fuel =
      some ((bytes.drop offset).take size) := by
  have window := denotes_ReadWindowView denotes inside (by omega)
  have length : ((bytes.drop offset).take size).length = size := by
    rw [length_take, length_drop]
    omega
  have whole := @ReadToString_eq ((bytes.drop offset).take size)
    (ReadWindowView.PRead reader offset size) window.slices (by omega) fuel 0 (Nat.zero_le _)
    (by omega)
  rw [length] at whole
  exact whole

section Archives

variable {format : Format} {mode : Nat} {ignored : Ignored} {tail : List UInt8}
  {entries : List Entry} {reader : ReaderSeeker}

theorem Parse_encode (fits : format.Fits mode ignored)
    (representable : ∀ entry ∈ entries, format.Representable entry)
    (distinct : (entries.map Entry.name).Nodup)
    (denotes : Denotes reader (format.encode mode ignored tail 0 entries))
    (small : (format.encode mode ignored tail 0 entries).length < 2 ^ 63) {fuel : Nat}
    (enough : entries.length < fuel) :
    Parse fuel reader =
      if ∀ entry ∈ entries, entry.contents.length < 2 ^ 32 then
        .entries (files format 0 entries) else .error := by
  rw [Parse_eq, recognised_encode fits representable denotes small]
  exact @parseEntries_encode format reader _ denotes small mode ignored tail fits entries
    representable [] 0 [] rfl rfl distinct fuel enough

theorem large_not_read_back (fits : format.Fits mode ignored)
    (representable : ∀ entry ∈ entries, format.Representable entry)
    (distinct : (entries.map Entry.name).Nodup)
    (denotes : Denotes reader (format.encode mode ignored tail 0 entries))
    (small : (format.encode mode ignored tail 0 entries).length < 2 ^ 63)
    (large : ¬ ∀ entry ∈ entries, entry.contents.length < 2 ^ 32) : ¬ ReadsBack reader entries := by
  rintro ⟨cpio, ⟨enough, opened⟩, -⟩
  have failed := opened (enough + entries.length + 1) (by omega)
  rw [CpioReader.Open, Parse_encode fits representable distinct denotes small (by omega),
    if_neg large] at failed
  cases failed

/-- Archives are read back just where no contents in the format odc need more than 32 bits for their
size. -/
theorem cpio_reads_back_iff (fits : format.Fits mode ignored)
    (representable : ∀ entry ∈ entries, format.Representable entry)
    (distinct : (entries.map Entry.name).Nodup)
    (denotes : Denotes reader (format.encode mode ignored tail 0 entries))
    (small : (format.encode mode ignored tail 0 entries).length < 2 ^ 63) :
    ReadsBack reader entries ↔
      (format = .odc → ∀ entry ∈ entries, entry.contents.length < 2 ^ 32) := by
  constructor
  · intro readsBack _
    by_contra large
    exact large_not_read_back fits representable distinct denotes small large readsBack
  · intro given
    have all : ∀ entry ∈ entries, entry.contents.length < 2 ^ 32 := by
      intro entry member
      have size := (representable entry member).size
      -- the other fields have no room for larger sizes
      cases format with
      | newc => exact size
      | odc => exact given rfl entry member
      | bin big => exact size
    refine ⟨{reader_ := reader, entries_ := files format 0 entries}, ⟨entries.length + 1,
      fun fuel enough => ?_⟩, fun name => ?_, fun name => ?_, fun entry member => ?_⟩
    · rw [CpioReader.Open, Parse_encode fits representable distinct denotes small enough,
        if_pos all]
    · rw [CpioReader.FileAttributes, isSome_map, lookup_isSome, files_keys]
    · rw [CpioReader.OpenReadOnly, isSome_map, lookup_isSome, files_keys]
    · obtain ⟨file, found, sameMode, inside, contents⟩ :=
        @lookup_files format (format.encode mode ignored tail 0 entries) mode ignored tail _
          representable distinct [] 0 rfl (nil_append _).symm _ member
      refine ⟨?_, ReadWindowView.create reader file.offset file.size, ?_, file.size + 1,
        fun fuel enough => ?_⟩
      · rw [CpioReader.FileAttributes, found, map_some, sameMode]
      · rw [CpioReader.OpenReadOnly, found, map_some]
      · rw [ReadToString_window denotes small inside enough, contents]

end Archives

def newcFields : Ignored where
  first := List.replicate 8 48
  second := List.replicate 32 48
  third := List.replicate 32 48
  fourth := List.replicate 8 48

/-- A name and contents whose padding is not trivial, and an empty file. -/
def newcEntries : List Entry :=
  [⟨[97, 98], [1, 2, 3, 4, 5], 0x81a4, newcFields⟩, ⟨[99], [], 0x81ed, newcFields⟩]

theorem newcFields_fits {mode : Nat} (small : mode < 2 ^ 32) : Format.newc.Fits mode newcFields where
  mode := small
  first := rfl
  second := rfl
  third := rfl
  fourth := rfl

theorem cpio_reads_back_newc :
    ReadsBack (InMemory.create (Format.newc.encode 0 newcFields [] 0 newcEntries)) newcEntries := by
  refine (@cpio_reads_back_iff .newc 0 newcFields [] newcEntries _ (newcFields_fits (by decide)) ?_
    (by decide) (denotes_InMemoryIo _) (by decide +kernel)).2 nofun
  intro entry member
  rcases mem_cons.1 member with rfl | later
  · exact ⟨newcFields_fits (by decide), by decide, by decide, by decide, by decide⟩
  · rcases mem_singleton.1 later with rfl
    exact ⟨newcFields_fits (by decide), by decide, by decide, by decide, by decide⟩

def odcFields : Ignored where
  first := List.replicate 12 48
  second := List.replicate 35 48

theorem odcFields_fits : Format.odc.Fits 0 odcFields where
  mode := by decide
  first := rfl
  second := rfl
  third := rfl
  fourth := rfl

def largeEntry : Entry := ⟨[97], List.replicate (2 ^ 32) 0, 0, odcFields⟩

theorem large_odc_not_read :
    ¬ ∀ (format : Format) (mode : Nat) (ignored : Ignored) (tail : List UInt8)
      (entries : List Entry) (reader : ReaderSeeker), format.Fits mode ignored →
      (∀ entry ∈ entries, format.Representable entry) → (entries.map Entry.name).Nodup →
      Denotes reader (format.encode mode ignored tail 0 entries) →
      (format.encode mode ignored tail 0 entries).length < 2 ^ 63 → ReadsBack reader entries := by
  intro always
  have size : largeEntry.contents.length = 2 ^ 32 := length_replicate
  have representable : ∀ entry ∈ [largeEntry], Format.odc.Representable entry := by
    intro entry member
    rw [mem_singleton.1 member]
    refine ⟨odcFields_fits, by decide, by decide, by decide, ?_⟩
    rw [size]
    decide
  have small : (Format.odc.encode 0 odcFields [] 0 [largeEntry]).length < 2 ^ 63 := by
    have record := @length_record .odc 0 largeEntry odcFields_fits
    have data : Format.odc.dataOffset 0 largeEntry = 78 := by decide
    have stop : Format.odc.endOffset 0 largeEntry = 78 + 2 ^ 32 := by
      rw [Format.endOffset, data, size]
      exact Format.roundUp_one _
    have header := @length_header .odc (trailerHeader 0) odcFields odcFields_fits
    have trailer : (Format.odc.encode 0 odcFields [] (Format.odc.endOffset 0 largeEntry) []).length =
        87 := by
      have unit : Format.odc.headerUnit = 1 := rfl
      rw [Format.encode, length_append, length_append, length_pad, header, unit,
        Format.roundUp_one, Nat.sub_self]
      rfl
    rw [Format.encode, length_append, trailer]
    omega
  have distinct : ([largeEntry].map Entry.name).Nodup := pairwise_singleton _ _
  have denotes := denotes_InMemoryIo (Format.odc.encode 0 odcFields [] 0 [largeEntry])
  refine large_not_read_back odcFields_fits representable distinct denotes small (fun all => ?_)
    (always _ _ _ _ _ _ odcFields_fits representable distinct denotes small)
  have bound := all largeEntry (mem_singleton_self _)
  rw [size] at bound
  exact absurd bound (Nat.lt_irrefl _)

end Ika.Cpio
