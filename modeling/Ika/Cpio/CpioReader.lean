import Ika.Foundation.ByteStream
import Ika.Foundation.Decimal
import Ika.ImageAggregator.Gpt
import Ika.Io.Positions

/-! Reading CPIO archives in the formats newc, odc and binary.

The three parsers go through the headers in the same way. A format says how long its header is and
where the numbers stand in it, how its offsets are aligned, and how large a buffer it makes for a
name.
-/

set_option autoImplicit false

namespace Ika.Cpio

open Ika.Io
open Ika.ImageAggregator (AlignToPowerOf2)

def kMagicNewc1 : List UInt8 := [48, 55, 48, 55, 48, 49]

def kMagicNewc2 : List UInt8 := [48, 55, 48, 55, 48, 50]

def kMagicOdc : List UInt8 := [48, 55, 48, 55, 48, 55]

def kTrailerName : List UInt8 := [84, 82, 65, 73, 76, 69, 82, 33, 33, 33]

def kBinaryLeMagic : List UInt8 := [0xC7, 0x71]

def kBinaryBeMagic : List UInt8 := [0x71, 0xC7]

/-- The numbers of a header that are made use of. -/
structure Header where
  mode : Nat
  namesize : Nat
  filesize : Nat
  deriving DecidableEq

def field (header : List UInt8) (offset size : Nat) : List UInt8 := (header.drop offset).take size

def ParseHex (buf : List UInt8) : Option Nat := Digits.from_chars 16 buf

def ParseOctal (buf : List UInt8) : Option Nat := Digits.from_chars 8 buf

def ReadUnaligned (bytes : List UInt8) (file_is_big_endian : Bool) : Nat :=
  ByteStream.value (if file_is_big_endian then bytes.reverse else bytes)

inductive Format where
  | newc
  | odc
  | bin (file_is_big_endian : Bool)
  deriving DecidableEq

namespace Format

def headerSize : Format → Nat
  | newc => 110
  | odc => 76
  | bin _ => 26

/-- `none` for a wrong magic, or for a number that is none. -/
def parseHeader : Format → List UInt8 → Option Header
  | newc, header =>
    if field header 0 6 = kMagicNewc1 ∨ field header 0 6 = kMagicNewc2 then do
      let filesize ← ParseHex (field header 54 8)
      let namesize ← ParseHex (field header 94 8)
      let mode ← ParseHex (field header 14 8)
      return {mode, namesize, filesize}
    else none
  | odc, header =>
    if field header 0 6 = kMagicOdc then do
      let mode ← ParseOctal (field header 18 6)
      let namesize ← ParseOctal (field header 59 6)
      let filesize ← ParseOctal (field header 65 11)
      return {mode, namesize, filesize}
    else none
  | bin file_is_big_endian, header =>
    if field header 0 2 = (if file_is_big_endian then kBinaryBeMagic else kBinaryLeMagic) then
      some {
        mode := ReadUnaligned (field header 6 2) file_is_big_endian
        namesize := ReadUnaligned (field header 20 2) file_is_big_endian
        filesize := ReadUnaligned (field header 22 4) file_is_big_endian}
    else none

def alignHeader : Format → Nat → Nat
  | newc, offset => AlignToPowerOf2 offset 2
  | odc, offset | bin _, offset => offset

def alignData : Format → Nat → Nat
  | newc, offset => AlignToPowerOf2 offset 2
  | odc, offset => offset
  | bin _, offset => AlignToPowerOf2 offset 1

def alignNext : Format → Nat → Nat
  | newc, offset | odc, offset => offset
  | bin _, offset => AlignToPowerOf2 offset 1

/-- `namesize - 1` as a `size_t`, from a `uint32_t` in the texts and from an `int` otherwise. -/
def nameLength : Format → Nat → Nat
  | newc, namesize | odc, namesize => (namesize + (2 ^ 32 - 1)) % 2 ^ 32
  | bin _, namesize => (namesize + (2 ^ 64 - 1)) % 2 ^ 64

end Format

structure FileEntry where
  offset : Nat
  size : Nat
  mode : Nat
  deriving DecidableEq

abbrev EntriesMap := List (List UInt8 × FileEntry)

/-- `std::map::emplace`: what is there stays. -/
def emplace (name : List UInt8) (entry : FileEntry) (entries : EntriesMap) : EntriesMap :=
  if (entries.lookup name).isSome then entries else entries ++ [(name, entry)]

/-- The most characters a `std::string` can be made with. -/
def max_size : Nat := 2 ^ 63 - 1

inductive Turn where
  | error
  | thrown
  | trailer
  | entry (name : List UInt8) (file : FileEntry) (offset : Nat)
  deriving DecidableEq

def readHeader (format : Format) (reader : ReaderSeeker) (offset : Nat) : Option Header :=
  (PReadExact reader format.headerSize offset).bind format.parseHeader

def turn (format : Format) (reader : ReaderSeeker) (offset : Nat) : Turn :=
  match readHeader format reader offset with
  | none => .error
  | some header =>
    let nameLength := format.nameLength header.namesize
    if nameLength > max_size then .thrown
    else match PReadExact reader nameLength ((offset + format.headerSize) % 2 ^ 64) with
      | none => .error
      | some name =>
        if name = kTrailerName then .trailer
        else
          let data_offset :=
            format.alignData ((offset + format.headerSize + header.namesize) % 2 ^ 64)
          .entry name {offset := data_offset, size := header.filesize, mode := header.mode}
            (format.alignNext ((data_offset + header.filesize) % 2 ^ 64))

inductive Outcome where
  /-- Not done after so many turns. -/
  | running
  | error
  | thrown
  | entries (entries : EntriesMap)

def parseEntries (format : Format) (reader : ReaderSeeker) : Nat → Nat → EntriesMap → Outcome
  | 0, _, _ => .running
  | fuel + 1, offset, entries =>
    match turn format reader (format.alignHeader offset) with
    | .error => .error
    | .thrown => .thrown
    | .trailer => .entries entries
    | .entry name file next => parseEntries format reader fuel next (emplace name file entries)

def ParseNewc (fuel : Nat) (reader : ReaderSeeker) : Outcome := parseEntries .newc reader fuel 0 []

def ParseOdc (fuel : Nat) (reader : ReaderSeeker) : Outcome := parseEntries .odc reader fuel 0 []

def ParseBin (fuel : Nat) (reader : ReaderSeeker) (file_is_big_endian : Bool) : Outcome :=
  parseEntries (.bin file_is_big_endian) reader fuel 0 []

def formatOf (magic : List UInt8) : Option Format :=
  if kBinaryLeMagic <+: magic then some (.bin false)
  else if kBinaryBeMagic <+: magic then some (.bin true)
  else if magic = kMagicNewc1 ∨ magic = kMagicNewc2 then some .newc
  else if magic = kMagicOdc then some .odc
  else none

def Parse (fuel : Nat) (reader : ReaderSeeker) : Outcome :=
  match PReadExact reader 6 0 with
  | none => .error
  | some magic =>
    if kBinaryLeMagic <+: magic then ParseBin fuel reader false
    else if kBinaryBeMagic <+: magic then ParseBin fuel reader true
    else if magic = kMagicNewc1 ∨ magic = kMagicNewc2 then ParseNewc fuel reader
    else if magic = kMagicOdc then ParseOdc fuel reader
    else .error

structure CpioReader where
  reader_ : ReaderSeeker
  entries_ : EntriesMap

namespace CpioReader

def Open (fuel : Nat) (reader : ReaderSeeker) : Option CpioReader :=
  match Parse fuel reader with
  | .entries entries_ => some {reader_ := reader, entries_}
  | .running | .error | .thrown => none

def OpenReadOnly (cpio : CpioReader) (path : List UInt8) : Option ReaderSeeker :=
  (cpio.entries_.lookup path).map fun entry =>
    ReadWindowView.create cpio.reader_ entry.offset entry.size

def FileAttributes (cpio : CpioReader) (path : List UInt8) : Option Nat :=
  (cpio.entries_.lookup path).map fun entry => entry.mode

end CpioReader

theorem Parse_eq (fuel : Nat) (reader : ReaderSeeker) :
    Parse fuel reader = match (PReadExact reader 6 0).bind formatOf with
      | none => .error
      | some format => parseEntries format reader fuel 0 [] := by
  unfold Parse
  cases PReadExact reader 6 0 with
  | none => rfl
  | some magic =>
    simp only [Option.bind_some, formatOf]
    split_ifs <;> rfl

end Ika.Cpio
