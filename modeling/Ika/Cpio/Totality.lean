import Ika.Cpio.CpioReader

/-! Parsing archives of any bytes.

A turn of the loop that finds an entry has read a whole header, and the next header is sought
behind it; so there are only so many turns. What a turn asks memory for is another matter: a name
size of 0 is taken for one of `2 ^ 32` or of `2 ^ 64`, and no name size is compared with the archive.
-/

set_option autoImplicit false

namespace Ika.Cpio

open Ika.Io List Option
open Ika.ImageAggregator (AlignToPowerOf2 AlignToPowerOf2_eq roundUp roundUp_ge roundUp_lt)

namespace Format

def headerUnit : Format → Nat
  | newc => 4
  | odc | bin _ => 1

def dataUnit : Format → Nat
  | newc => 4
  | odc => 1
  | bin _ => 2

def nextUnit : Format → Nat
  | newc | odc => 1
  | bin _ => 2

def isText : Format → Bool
  | newc | odc => true
  | bin _ => false

section Layout

variable (format : Format) {offset : Nat}

theorem roundUp_one (value : Nat) : roundUp value 1 = value := by
  rw [roundUp, Nat.sub_self, Nat.add_zero, Nat.div_one, Nat.mul_one]

theorem alignHeader_eq (fits : offset + 4 ≤ 2 ^ 64) :
    format.alignHeader offset = roundUp offset format.headerUnit := by
  cases format with
  | newc => exact AlignToPowerOf2_eq fits
  | odc => exact (roundUp_one offset).symm
  | bin big => exact (roundUp_one offset).symm

theorem alignData_eq (fits : offset + 4 ≤ 2 ^ 64) :
    format.alignData offset = roundUp offset format.dataUnit := by
  cases format with
  | newc => exact AlignToPowerOf2_eq fits
  | odc => exact (roundUp_one offset).symm
  | bin big => exact AlignToPowerOf2_eq (Nat.le_trans (Nat.add_le_add_left (by decide) _) fits)

theorem alignNext_eq (fits : offset + 4 ≤ 2 ^ 64) :
    format.alignNext offset = roundUp offset format.nextUnit := by
  cases format with
  | newc => exact (roundUp_one offset).symm
  | odc => exact (roundUp_one offset).symm
  | bin big => exact AlignToPowerOf2_eq (Nat.le_trans (Nat.add_le_add_left (by decide) _) fits)

theorem units : (0 < format.headerUnit ∧ format.headerUnit ≤ 4) ∧
    (0 < format.dataUnit ∧ format.dataUnit ≤ 4) ∧ 0 < format.nextUnit ∧ format.nextUnit ≤ 4 := by
  cases format <;> simp [headerUnit, dataUnit, nextUnit]

theorem headerSize_bounds : 0 < format.headerSize ∧ format.headerSize ≤ 110 := by
  cases format <;> simp [headerSize]

theorem align_bounds (fits : offset + 4 ≤ 2 ^ 64) :
    (offset ≤ format.alignHeader offset ∧ format.alignHeader offset < offset + 4) ∧
    (offset ≤ format.alignData offset ∧ format.alignData offset < offset + 4) ∧
    offset ≤ format.alignNext offset ∧ format.alignNext offset < offset + 4 := by
  obtain ⟨header, data, next⟩ := format.units
  rw [format.alignHeader_eq fits, format.alignData_eq fits, format.alignNext_eq fits]
  have above_header := roundUp_lt offset header.1
  have above_data := roundUp_lt offset data.1
  have above_next := roundUp_lt offset next.1
  exact ⟨⟨roundUp_ge offset header.1, by omega⟩, ⟨roundUp_ge offset data.1, by omega⟩,
    roundUp_ge offset next.1, by omega⟩

end Layout

theorem value_lt (bytes : List UInt8) : ByteStream.value bytes < 256 ^ bytes.length := by
  induction bytes with
  | nil => exact Nat.one_pos
  | cons byte rest induction_hypothesis =>
    have low := byte.toNat_lt
    rw [ByteStream.value, length_cons, Nat.pow_succ]
    omega

theorem ReadUnaligned_lt (header : List UInt8) (offset : Nat) {size : Nat} (most : size ≤ 4)
    (big : Bool) : ReadUnaligned (field header offset size) big < 2 ^ 32 := by
  have length : (field header offset size).length ≤ 4 := by
    rw [field, length_take]
    omega
  have bound : ∀ bytes : List UInt8, bytes.length ≤ 4 → ByteStream.value bytes < 2 ^ 32 := by
    intro bytes short
    calc ByteStream.value bytes < 256 ^ bytes.length := value_lt bytes
      _ ≤ 256 ^ 4 := Nat.pow_le_pow_right (by decide) short
      _ = 2 ^ 32 := by decide
  unfold ReadUnaligned
  cases big with
  | false => exact bound _ length
  | true => exact bound _ (by rw [if_pos rfl, length_reverse]; exact length)

theorem from_chars_lt {base number : Nat} {text : List UInt8}
    (read : Digits.from_chars base text = some number) : number < 2 ^ 32 := by
  unfold Digits.from_chars at read
  dsimp only at read
  split_ifs at read with none fits
  cases read
  exact fits

theorem parseHeader_lt {format : Format} {bytes : List UInt8} {header : Header}
    (parsed : format.parseHeader bytes = some header) :
    header.namesize < 2 ^ 32 ∧ header.filesize < 2 ^ 32 := by
  cases format with
  | newc =>
    simp only [parseHeader] at parsed
    split_ifs at parsed
    simp only [bind_eq_bind, bind_eq_some_iff, Option.pure_def,
      Option.some.injEq] at parsed
    obtain ⟨filesize, size, namesize, name, mode, -, rfl⟩ := parsed
    exact ⟨from_chars_lt name, from_chars_lt size⟩
  | odc =>
    simp only [parseHeader] at parsed
    split_ifs at parsed
    simp only [bind_eq_bind, bind_eq_some_iff, Option.pure_def,
      Option.some.injEq] at parsed
    obtain ⟨mode, -, namesize, name, filesize, size, rfl⟩ := parsed
    exact ⟨from_chars_lt name, from_chars_lt size⟩
  | bin big =>
    simp only [parseHeader] at parsed
    split_ifs at parsed <;> cases parsed <;>
      exact ⟨ReadUnaligned_lt _ _ (by decide) _, ReadUnaligned_lt _ _ (by decide) _⟩

theorem nameLength_le_iff (format : Format) {namesize size : Nat} (number : namesize < 2 ^ 32)
    (small : size < 2 ^ 63) :
    format.nameLength namesize ≤ size ↔
      namesize ≤ size + 1 ∧ (namesize = 0 → format.isText = true ∧ 2 ^ 32 ≤ size + 1) := by
  have text : (namesize + (2 ^ 32 - 1)) % 2 ^ 32 ≤ size ↔
      namesize ≤ size + 1 ∧ (namesize = 0 → 2 ^ 32 ≤ size + 1) := by
    rcases Nat.eq_zero_or_pos namesize with rfl | positive
    · omega
    · have less : (namesize + (2 ^ 32 - 1)) % 2 ^ 32 = namesize - 1 := by omega
      rw [less]
      omega
  have number : (namesize + (2 ^ 64 - 1)) % 2 ^ 64 ≤ size ↔ namesize ≤ size + 1 ∧ ¬ namesize = 0 := by
    rcases Nat.eq_zero_or_pos namesize with rfl | positive
    · omega
    · have less : (namesize + (2 ^ 64 - 1)) % 2 ^ 64 = namesize - 1 := by omega
      rw [less]
      omega
  cases format with
  | newc => simpa only [nameLength, isText, true_and] using text
  | odc => simpa only [nameLength, isText, true_and] using text
  | bin big => simpa only [nameLength, isText, Bool.false_eq_true, false_and] using number

end Format

/-- The offsets of the headers that the loop comes to. -/
inductive Reached (format : Format) (reader : ReaderSeeker) : Nat → Prop where
  | start : Reached format reader (format.alignHeader 0)
  | next {offset next : Nat} {name : List UInt8} {file : FileEntry} :
      Reached format reader offset → turn format reader offset = .entry name file next →
      Reached format reader (format.alignHeader next)

def Modest (format : Format) (reader : ReaderSeeker) (size : Nat) : Prop :=
  ∀ offset, Reached format reader offset → ∀ header, readHeader format reader offset = some header →
    format.nameLength header.namesize ≤ size

section Turns

variable {format : Format} {reader : ReaderSeeker} {bytes : List UInt8}

variable {offset : Nat}

theorem readHeader_some (denotes : Denotes reader bytes) (small : bytes.length < 2 ^ 63)
    (counted : offset < 2 ^ 64) {header : Header}
    (read : readHeader format reader offset = some header) :
    offset + format.headerSize ≤ bytes.length ∧
      format.parseHeader (field bytes offset format.headerSize) = some header := by
  have positive := format.headerSize_bounds.1
  rw [readHeader, PReadExact_eq denotes (by omega) _ counted] at read
  split_ifs at read with whole
  · rw [length_take, length_drop] at whole
    exact ⟨by omega, read⟩
  · cases read

theorem turn_entry (denotes : Denotes reader bytes) (small : bytes.length < 2 ^ 63)
    {offset next : Nat} (counted : offset < 2 ^ 64) {name : List UInt8} {file : FileEntry}
    (taken : turn format reader offset = .entry name file next) :
    offset + format.headerSize ≤ bytes.length ∧ offset < next ∧ next < bytes.length + 2 ^ 34 := by
  unfold turn at taken
  cases read : readHeader format reader offset with
  | none =>
    rw [read] at taken
    cases taken
  | some header =>
    obtain ⟨whole, parsed⟩ := readHeader_some denotes small counted read
    obtain ⟨namesize, filesize⟩ := Format.parseHeader_lt parsed
    have positive := format.headerSize_bounds.1
    rw [read] at taken
    dsimp only at taken
    split_ifs at taken with long
    split at taken
    · cases taken
    · split_ifs at taken with trailer
      cases taken
      have behind : (offset + format.headerSize + header.namesize) % 2 ^ 64 =
          offset + format.headerSize + header.namesize := Nat.mod_eq_of_lt (by omega)
      rw [behind]
      have data := (@Format.align_bounds format (offset + format.headerSize + header.namesize)
        (by omega)).2.1
      have after : (format.alignData (offset + format.headerSize + header.namesize) +
          header.filesize) % 2 ^ 64 = format.alignData (offset + format.headerSize +
            header.namesize) + header.filesize := Nat.mod_eq_of_lt (by omega)
      rw [after]
      have next := (@Format.align_bounds format (format.alignData (offset + format.headerSize +
        header.namesize) + header.filesize) (by omega)).2.2
      omega

theorem turn_thrown (thrown : turn format reader offset = .thrown) :
    ∃ header, readHeader format reader offset = some header ∧
      max_size < format.nameLength header.namesize := by
  unfold turn at thrown
  split at thrown
  · cases thrown
  · rename_i header read
    dsimp only at thrown
    split_ifs at thrown with long
    · exact ⟨header, read, long⟩
    · split at thrown
      · cases thrown
      · split_ifs at thrown

theorem Reached.counted (denotes : Denotes reader bytes) (small : bytes.length < 2 ^ 63)
    (reached : Reached format reader offset) :
    offset < bytes.length + 2 ^ 34 + 4 := by
  induction reached with
  | start =>
    have first := (@Format.align_bounds format 0 (by decide)).1
    omega
  | @next offset after name file _ taken induction_hypothesis =>
    have bounds := turn_entry denotes small (by omega) taken
    have aligned := (@Format.align_bounds format after (by omega)).1.2
    omega

theorem parseEntries_returns (denotes : Denotes reader bytes) (small : bytes.length < 2 ^ 63)
    (reached : Reached format reader (format.alignHeader offset)) (entries : EntriesMap) :
    ∃ outcome, (∃ enough, ∀ fuel, enough ≤ fuel →
        parseEntries format reader fuel offset entries = outcome) ∧ outcome ≠ .running ∧
      (Modest format reader bytes.length → outcome ≠ .thrown) := by
  induction left : bytes.length + 2 ^ 34 + 4 - format.alignHeader offset
    using Nat.strong_induction_on generalizing offset entries with
  | _ left induction_hypothesis =>
    subst left
    have counted := reached.counted denotes small
    have last : ∀ outcome, (∀ fuel, parseEntries format reader (fuel + 1) offset entries = outcome) →
        ∃ enough, ∀ fuel, enough ≤ fuel → parseEntries format reader fuel offset entries = outcome :=
      fun outcome same => ⟨1, fun fuel some_fuel => by
        rw [← Nat.sub_add_cancel some_fuel]
        exact same _⟩
    cases taken : turn format reader (format.alignHeader offset) with
    | error =>
      exact ⟨.error, last _ fun fuel => by rw [parseEntries, taken], nofun, fun _ => nofun⟩
    | thrown =>
      refine ⟨.thrown, last _ fun fuel => by rw [parseEntries, taken], nofun, fun modest => ?_⟩
      obtain ⟨header, read, long⟩ := turn_thrown taken
      have bound := modest _ reached header read
      unfold max_size at long
      omega
    | trailer =>
      exact ⟨.entries entries, last _ fun fuel => by rw [parseEntries, taken], nofun,
        fun _ => nofun⟩
    | entry name file next =>
      obtain ⟨within, further, bound⟩ := turn_entry denotes small (by omega) taken
      have aligned := (@Format.align_bounds format next (by omega)).1.1
      obtain ⟨outcome, ⟨enough, same⟩, ended, thrown⟩ := induction_hypothesis _ (by omega)
        (.next reached taken) (emplace name file entries) rfl
      refine ⟨outcome, ⟨enough + 1, fun fuel more => ?_⟩, ended, thrown⟩
      obtain ⟨fuel, rfl⟩ := Nat.exists_eq_add_of_le' more
      rw [← Nat.add_assoc, parseEntries, taken]
      exact same _ (Nat.le_add_left _ _)


end Turns

/-- Parsing ends, allocates no more than the archive, and moves on with every entry. -/
structure Total (format : Format) (reader : ReaderSeeker) (size : Nat) : Prop where
  returns : ∃ outcome, (outcome = .error ∨ ∃ entries, outcome = .entries entries) ∧
    ∃ enough, ∀ fuel, enough ≤ fuel → Parse fuel reader = outcome
  modest : Modest format reader size
  increases : ∀ offset, Reached format reader offset → ∀ name file next,
    turn format reader offset = .entry name file next → offset < format.alignHeader next

/-- Parsing is total just where the name sizes of its headers go with the length of the archive. -/
theorem parse_total_iff {reader : ReaderSeeker} {bytes : List UInt8} {format : Format}
    (denotes : Denotes reader bytes) (small : bytes.length < 2 ^ 63)
    (recognised : (PReadExact reader 6 0).bind formatOf = some format) :
    Total format reader bytes.length ↔
      ∀ offset, Reached format reader offset → ∀ header,
        readHeader format reader offset = some header →
        header.namesize ≤ bytes.length + 1 ∧
          (header.namesize = 0 → format.isText = true ∧ 2 ^ 32 ≤ bytes.length + 1) := by
  have sized : ∀ offset, Reached format reader offset → ∀ header,
      readHeader format reader offset = some header → header.namesize < 2 ^ 32 := by
    intro offset reached header read
    have counted := reached.counted denotes small
    exact (Format.parseHeader_lt (readHeader_some denotes small (by omega) read).2).1
  constructor
  · intro total offset reached header read
    exact (format.nameLength_le_iff (sized offset reached header read) small).1
      (total.modest offset reached header read)
  · intro names
    have modest : Modest format reader bytes.length := fun offset reached header read =>
      (format.nameLength_le_iff (sized offset reached header read) small).2
        (names offset reached header read)
    refine ⟨?_, modest, ?_⟩
    · obtain ⟨outcome, ⟨enough, same⟩, ended, thrown⟩ :=
        parseEntries_returns denotes small .start []
      refine ⟨outcome, ?_, enough, fun fuel more => ?_⟩
      · cases outcome with
        | running => exact absurd rfl ended
        | error => exact .inl rfl
        | thrown => exact absurd rfl (thrown modest)
        | entries entries => exact .inr ⟨entries, rfl⟩
      · rw [Parse_eq, recognised]
        exact same fuel more
    · intro offset reached name file next taken
      have counted := reached.counted denotes small
      obtain ⟨-, further, bound⟩ := turn_entry denotes small (by omega) taken
      have aligned := (@Format.align_bounds format next (by omega)).1.1
      omega

def odcHeader (namesize filesize : Nat) : List UInt8 :=
  kMagicOdc ++ List.replicate 53 48 ++ Digits.fixed 8 6 namesize ++ Digits.fixed 8 11 filesize

def oneFile : List UInt8 :=
  odcHeader 2 3 ++ [97, 0] ++ [7, 8, 9] ++ odcHeader 11 0 ++ kTrailerName ++ [0]

theorem oneFile_headers : readHeader .odc (InMemory.create oneFile) 0 = some ⟨0, 2, 3⟩ ∧
    readHeader .odc (InMemory.create oneFile) 81 = some ⟨0, 11, 0⟩ := by
  constructor <;>
  · rw [readHeader, PReadExact_eq (denotes_InMemoryIo _) (by decide +kernel) _ (by decide +kernel)]
    decide +kernel

theorem oneFile_turns : turn .odc (InMemory.create oneFile) 0 = .entry [97] ⟨78, 3, 0⟩ 81 ∧
    turn .odc (InMemory.create oneFile) 81 = .trailer := by
  constructor
  · rw [turn, oneFile_headers.1]
    dsimp only
    rw [PReadExact_eq (denotes_InMemoryIo _) (by decide +kernel) _ (by decide +kernel)]
    decide +kernel
  · rw [turn, oneFile_headers.2]
    dsimp only
    rw [PReadExact_eq (denotes_InMemoryIo _) (by decide +kernel) _ (by decide +kernel)]
    decide +kernel

theorem parse_total_iff_oneFile : Total .odc (InMemory.create oneFile) oneFile.length := by
  have denotes := denotes_InMemoryIo oneFile
  have recognised : (PReadExact (InMemory.create oneFile) 6 0).bind formatOf = some .odc := by
    rw [PReadExact_eq denotes (by decide +kernel) _ (by decide +kernel)]
    decide +kernel
  have two : ∀ offset, Reached .odc (InMemory.create oneFile) offset → offset = 0 ∨ offset = 81 := by
    intro offset reached
    induction reached with
    | start => exact .inl rfl
    | next _ taken earlier =>
      rcases earlier with rfl | rfl
      · cases oneFile_turns.1.symm.trans taken
        exact .inr rfl
      · cases oneFile_turns.2.symm.trans taken
  refine (parse_total_iff denotes (by decide +kernel) recognised).2 fun offset reached header read => ?_
  rcases two offset reached with rfl | rfl
  · cases oneFile_headers.1.symm.trans read
    decide +kernel
  · cases oneFile_headers.2.symm.trans read
    decide +kernel

def namelessArchive : List UInt8 := kBinaryLeMagic ++ List.replicate 24 0

theorem nameless_throws :
    ¬ ∀ (reader : ReaderSeeker) (bytes : List UInt8) (format : Format), Denotes reader bytes →
      bytes.length < 2 ^ 63 → (PReadExact reader 6 0).bind formatOf = some format →
      Total format reader bytes.length := by
  intro always
  have denotes := denotes_InMemoryIo namelessArchive
  have recognised :
      (PReadExact (InMemory.create namelessArchive) 6 0).bind formatOf = some (.bin false) := by
    rw [PReadExact_eq denotes (by decide) _ (by decide)]
    decide
  have header : readHeader (.bin false) (InMemory.create namelessArchive) 0 = some ⟨0, 0, 0⟩ := by
    rw [readHeader, PReadExact_eq denotes (by decide) _ (by decide)]
    decide
  have modest := (always _ _ _ denotes (by decide) recognised).modest
  exact absurd (modest 0 .start _ header) (by decide)

end Ika.Cpio
