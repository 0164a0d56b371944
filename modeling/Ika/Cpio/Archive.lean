import Ika.Cpio.Totality

/-! Archives as the headers lay them out.

The fields of a header that are not read are arbitrary, and so is what follows the trailer. Padding
is of zeros.
-/

set_option autoImplicit false

namespace Ika.Cpio

open Ika.Io List
open Ika.ImageAggregator (roundUp roundUp_ge roundUp_lt)
open Digits (fixed length_fixed from_chars_fixed)
open ByteStream (bytes value value_bytes length_bytes)

/-- The fields of a header that are not read, in the runs that they stand in. -/
structure Ignored where
  crc : Bool := false
  first : List UInt8
  second : List UInt8
  third : List UInt8 := []
  fourth : List UInt8 := []

structure Entry where
  name : List UInt8
  contents : List UInt8
  mode : Nat
  ignored : Ignored

/-- The numbers of its header; the size of the name counts the zero behind it. -/
def Entry.header (entry : Entry) : Header where
  mode := entry.mode
  namesize := entry.name.length + 1
  filesize := entry.contents.length

def trailerHeader (mode : Nat) : Header where
  mode := mode
  namesize := kTrailerName.length + 1
  filesize := 0

namespace Format

/-- `dev` and `ino`; `uid` to `mtime` or `rdev`; `maj` to `rmin`; `chksum`. -/
def ignoredSizes : Format → Nat × Nat × Nat × Nat
  | newc => (8, 32, 32, 8)
  | odc => (12, 35, 0, 0)
  | bin _ => (4, 12, 0, 0)

def modeBound : Format → Nat
  | newc => 16 ^ 8
  | odc => 8 ^ 6
  | bin _ => 256 ^ 2

def sizeBound : Format → Nat
  | newc => 16 ^ 8
  | odc => 8 ^ 11
  | bin _ => 256 ^ 4

theorem sizeBound_pos (format : Format) : 0 < format.sizeBound := by
  cases format with
  | newc => exact Nat.pow_pos (by decide)
  | odc => exact Nat.pow_pos (by decide)
  | bin big => exact Nat.pow_pos (by decide)

def store (file_is_big_endian : Bool) (size number : Nat) : List UInt8 :=
  if file_is_big_endian then (bytes size number).reverse else bytes size number

def header (format : Format) (ignored : Ignored) (header : Header) : List UInt8 :=
  match format with
  | newc => (if ignored.crc then kMagicNewc2 else kMagicNewc1) ++ (ignored.first ++
      (fixed 16 8 header.mode ++ (ignored.second ++ (fixed 16 8 header.filesize ++
      (ignored.third ++ (fixed 16 8 header.namesize ++ ignored.fourth))))))
  | odc => kMagicOdc ++ (ignored.first ++ (fixed 8 6 header.mode ++ (ignored.second ++
      (fixed 8 6 header.namesize ++ fixed 8 11 header.filesize))))
  | bin big => (if big then kBinaryBeMagic else kBinaryLeMagic) ++ (ignored.first ++
      (store big 2 header.mode ++ (ignored.second ++ (store big 2 header.namesize ++
      store big 4 header.filesize))))

def dataOffset (format : Format) (offset : Nat) (entry : Entry) : Nat :=
  roundUp (roundUp offset format.headerUnit + format.headerSize + (entry.name.length + 1))
    format.dataUnit

def endOffset (format : Format) (offset : Nat) (entry : Entry) : Nat :=
  roundUp (format.dataOffset offset entry + entry.contents.length) format.nextUnit

def pad (low high : Nat) : List UInt8 := List.replicate (high - low) 0

def record (format : Format) (offset : Nat) (entry : Entry) : List UInt8 :=
  let start := roundUp offset format.headerUnit
  let named := start + format.headerSize + (entry.name.length + 1)
  let data := format.dataOffset offset entry
  pad offset start ++ (format.header entry.ignored entry.header ++ (entry.name ++ ([0] ++
    (pad named data ++ (entry.contents ++ pad (data + entry.contents.length)
      (format.endOffset offset entry))))))

/-- The archive from an offset on, with anything behind the trailer. -/
def encode (format : Format) (mode : Nat) (ignored : Ignored) (tail : List UInt8) :
    Nat → List Entry → List UInt8
  | offset, [] =>
    pad offset (roundUp offset format.headerUnit) ++ (format.header ignored (trailerHeader mode) ++
      (kTrailerName ++ ([0] ++ tail)))
  | offset, entry :: rest => format.record offset entry ++
      format.encode mode ignored tail (format.endOffset offset entry) rest

structure Fits (format : Format) (mode : Nat) (ignored : Ignored) : Prop where
  mode : mode < format.modeBound
  first : ignored.first.length = format.ignoredSizes.1
  second : ignored.second.length = format.ignoredSizes.2.1
  third : ignored.third.length = format.ignoredSizes.2.2.1
  fourth : ignored.fourth.length = format.ignoredSizes.2.2.2

structure Representable (format : Format) (entry : Entry) : Prop where
  fits : format.Fits entry.mode entry.ignored
  named : 1 ≤ entry.name.length ∧ entry.name.length ≤ 65534
  text : 0 ∉ entry.name
  plain : entry.name ≠ kTrailerName
  size : entry.contents.length < format.sizeBound

section Headers

variable {format : Format} {numbers : Header} {ignored : Ignored}

variable {rest : List UInt8} {size : Nat} {middle : List UInt8} (big : Bool)

theorem field_skip {front : List UInt8} {length offset total : Nat}
    (before : front.length = length) (sum : offset + length = total) :
    field (front ++ rest) total size = field rest offset size := by
  rw [field, field, ← sum, Nat.add_comm, ← drop_drop, drop_left' before]

theorem field_here (length : middle.length = size) : field (middle ++ rest) 0 size = middle := by
  rw [field, drop_zero, take_left' length]

theorem field_last (length : middle.length = size) : field middle 0 size = middle := by
  rw [field, drop_zero, ← length, take_length]

theorem length_store (size number : Nat) : (store big size number).length = size := by
  cases big with
  | false => exact length_bytes size number
  | true => exact (length_reverse).trans (length_bytes size number)

theorem ReadUnaligned_store {number : Nat} (fits : number < 256 ^ size) :
    ReadUnaligned (store big size number) big = number := by
  cases big with
  | false => exact (value_bytes size number).trans (Nat.mod_eq_of_lt fits)
  | true =>
    simp only [ReadUnaligned, store, if_true, reverse_reverse, value_bytes]
    exact Nat.mod_eq_of_lt fits

section

variable (fits : format.Fits numbers.mode ignored)
include fits

theorem length_header : (format.header ignored numbers).length = format.headerSize := by
  have first := fits.first
  have second := fits.second
  have third := fits.third
  have fourth := fits.fourth
  cases format with
  | newc =>
    have magic : (if ignored.crc then kMagicNewc2 else kMagicNewc1).length = 6 := by
      cases ignored.crc <;> rfl
    simp only [header, length_append, magic, length_fixed, first, second, third, fourth,
      ignoredSizes, headerSize]
  | odc =>
    simp only [header, length_append, length_fixed, first, second, ignoredSizes, headerSize]
    rfl
  | bin big =>
    have magic : (if big then kBinaryBeMagic else kBinaryLeMagic).length = 2 := by
      cases big <;> rfl
    simp only [header, length_append, magic, length_store, first, second, ignoredSizes,
      headerSize]

/-- A header is read back, unless its file size is too large for a `uint32_t`. -/
theorem parseHeader_header
    (name : numbers.namesize < 65536) (size : numbers.filesize < format.sizeBound) :
    format.parseHeader (format.header ignored numbers) =
      if numbers.filesize < 2 ^ 32 then some numbers else none := by
  obtain ⟨mode, namesize, filesize⟩ := numbers
  dsimp only at name size
  have first := fits.first
  have second := fits.second
  have third := fits.third
  have room := fits.mode
  cases format with
  | newc =>
    have magic : (if ignored.crc then kMagicNewc2 else kMagicNewc1).length = 6 := by
      cases ignored.crc <;> rfl
    have known : (if ignored.crc then kMagicNewc2 else kMagicNewc1) = kMagicNewc1 ∨
        (if ignored.crc then kMagicNewc2 else kMagicNewc1) = kMagicNewc2 := by
      cases ignored.crc
      · exact .inl rfl
      · exact .inr rfl
    dsimp only [ignoredSizes] at first second third
    have hex : ∀ number, number < 16 ^ 8 → ParseHex (fixed 16 8 number) = some number := by
      intro number small
      rw [ParseHex, from_chars_fixed (by decide) (by decide) (by decide) small]
      exact if_pos small
    have mode_field := @length_fixed 16 8 mode
    have size_field := @length_fixed 16 8 filesize
    have name_field := @length_fixed 16 8 namesize
    have small : filesize < 2 ^ 32 := size
    have read : field (newc.header ignored {mode, namesize, filesize}) 0 6 =
        if ignored.crc then kMagicNewc2 else kMagicNewc1 := field_here magic
    rw [← read] at known
    rw [parseHeader, if_pos known]
    simp only [header]
    rw [field_skip magic (rfl : _ + 6 = 54), field_skip first (rfl : _ + 8 = 48),
      field_skip mode_field (rfl : _ + 8 = 40), field_skip second (rfl : _ + 32 = 32),
      field_here size_field]
    rw [field_skip magic (rfl : _ + 6 = 94), field_skip first (rfl : _ + 8 = 88),
      field_skip mode_field (rfl : _ + 8 = 80), field_skip second (rfl : _ + 32 = 72),
      field_skip size_field (rfl : _ + 8 = 40), field_skip third (rfl : _ + 32 = 32),
      field_here name_field]
    rw [field_skip magic (rfl : _ + 6 = 14), field_skip first (rfl : _ + 8 = 8),
      field_here mode_field, hex filesize size, hex namesize (by omega), hex mode room, if_pos small]
    rfl
  | odc =>
    dsimp only [ignoredSizes] at first second
    have octal : ∀ width number, 0 < width → number < 8 ^ width →
        ParseOctal (fixed 8 width number) = if number < 2 ^ 32 then some number else none :=
      fun width number some_digits small =>
        from_chars_fixed (by decide) (by decide) some_digits small
    have magic : kMagicOdc.length = 6 := rfl
    have mode_field := @length_fixed 8 6 mode
    have name_field := @length_fixed 8 6 namesize
    have size_field := @length_fixed 8 11 filesize
    have mode_fits : mode < 2 ^ 32 := Nat.lt_trans room (by decide)
    have known : field (odc.header ignored {mode, namesize, filesize}) 0 6 = kMagicOdc :=
      field_here magic
    rw [parseHeader, if_pos known]
    simp only [header]
    rw [field_skip magic (rfl : _ + 6 = 18), field_skip first (rfl : _ + 12 = 12),
      field_here mode_field]
    rw [field_skip magic (rfl : _ + 6 = 59), field_skip first (rfl : _ + 12 = 53),
      field_skip mode_field (rfl : _ + 6 = 41), field_skip second (rfl : _ + 35 = 35),
      field_here name_field]
    rw [field_skip magic (rfl : _ + 6 = 65), field_skip first (rfl : _ + 12 = 59),
      field_skip mode_field (rfl : _ + 6 = 47), field_skip second (rfl : _ + 35 = 41),
      field_skip name_field (rfl : _ + 6 = 6), field_last size_field]
    rw [octal 6 mode (by decide) room, octal 6 namesize (by decide) (by omega),
      octal 11 filesize (by decide) size, if_pos mode_fits, if_pos (by omega : namesize < 2 ^ 32)]
    split_ifs <;> rfl
  | bin big =>
    dsimp only [ignoredSizes] at first second
    have magic : (if big then kBinaryBeMagic else kBinaryLeMagic).length = 2 := by
      cases big <;> rfl
    have mode_field := length_store big 2 mode
    have name_field := length_store big 2 namesize
    have size_field := length_store big 4 filesize
    have small : filesize < 2 ^ 32 := size
    have known : field ((bin big).header ignored {mode, namesize, filesize}) 0 2 =
        if big then kBinaryBeMagic else kBinaryLeMagic := field_here magic
    rw [parseHeader, if_pos known]
    simp only [header]
    rw [field_skip magic (rfl : _ + 2 = 6), field_skip first (rfl : _ + 4 = 4),
      field_here mode_field]
    rw [field_skip magic (rfl : _ + 2 = 20), field_skip first (rfl : _ + 4 = 18),
      field_skip mode_field (rfl : _ + 2 = 14), field_skip second (rfl : _ + 12 = 12),
      field_here name_field]
    rw [field_skip magic (rfl : _ + 2 = 22), field_skip first (rfl : _ + 4 = 20),
      field_skip mode_field (rfl : _ + 2 = 16), field_skip second (rfl : _ + 12 = 14),
      field_skip name_field (rfl : _ + 2 = 2), field_last size_field]
    rw [ReadUnaligned_store big room, ReadUnaligned_store big name, ReadUnaligned_store big size,
      if_pos small]

theorem formatOf_header (rest : List UInt8) :
    formatOf ((format.header ignored numbers ++ rest).take 6) = some format := by
  have first := fits.first
  cases format with
  | newc =>
    have magic : (if ignored.crc then kMagicNewc2 else kMagicNewc1).length = 6 := by
      cases ignored.crc <;> rfl
    rw [header, append_assoc, take_left' magic]
    cases ignored.crc <;> decide
  | odc =>
    have magic : kMagicOdc.length = 6 := rfl
    rw [header, append_assoc, take_left' magic]
    decide
  | bin big =>
    dsimp only [ignoredSizes] at first
    have start : ((if big then kBinaryBeMagic else kBinaryLeMagic) ++ ignored.first).length = 6 := by
      rw [length_append, first]
      cases big <;> rfl
    rw [header, ← append_assoc, append_assoc, take_left' start]
    cases big with
    | false => exact if_pos (prefix_append _ _)
    | true =>
      have other : ¬ kBinaryLeMagic <+: kBinaryBeMagic ++ ignored.first := fun same => by
        have byte := (List.cons_prefix_cons.1 same).1
        exact absurd byte (by decide)
      exact (if_neg other).trans (if_pos (prefix_append _ _))

end

end Headers

end Format

end Ika.Cpio
