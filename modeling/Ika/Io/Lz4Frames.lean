import Ika.Foundation.ByteStream
import Ika.Foundation.Lz4Literals

/-! LZ4 legacy frames: a magic number, blocks behind their lengths, and a length of zero.

The block codec is a parameter. The bytes that the sink was given and those that the source still
has are lists.
-/

set_option autoImplicit false

namespace Ika.Io

open ByteStream (bytes value)

def kLz4LegacyFrameMagic : Nat := 0x184C2102

def kLz4LegacyFrameBlockSize : Nat := 8 * 2 ^ 20

/-- The block functions of the library, given the buffer to write into or its size. -/
structure Codec where
  compressBound : Nat → Nat
  compress_default : List UInt8 → Nat → Int × List UInt8
  decompress_safe : List UInt8 → List UInt8 → Int × List UInt8

def resize (size : Nat) (vector : List UInt8) : List UInt8 :=
  vector.take size ++ List.replicate (size - vector.length) 0

structure Lz4LegacyWriter where
  sink_ : List UInt8
  footer_written_ : Bool := false

namespace Lz4LegacyWriter

def create : Lz4LegacyWriter := {sink_ := bytes 4 kLz4LegacyFrameMagic}

def writeBlock (codec : Codec) (chunk sink : List UInt8) : Option (List UInt8) :=
  let (compressed_size, compressed_) :=
    codec.compress_default chunk (codec.compressBound chunk.length)
  if compressed_size > 0 then
    some (sink ++ bytes 4 compressed_size.toNat ++ compressed_.take compressed_size.toNat)
  else none

def Write (codec : Codec) (buf : List UInt8) (writer : Lz4LegacyWriter) :
    Option (Nat × Lz4LegacyWriter) :=
  if writer.footer_written_ then none
  else
    let to_write := min buf.length kLz4LegacyFrameBlockSize
    let sink := if to_write > 0 then writeBlock codec (buf.take to_write) writer.sink_
      else some writer.sink_
    match sink with
    | none => none
    | some sink_ =>
      -- a call with no more than a block is taken for the last one
      if buf.length ≤ kLz4LegacyFrameBlockSize then
        some (to_write, {sink_ := sink_ ++ bytes 4 0, footer_written_ := true})
      else some (to_write, {writer with sink_})

end Lz4LegacyWriter

def WriteExact {Writer : Type} (Write : List UInt8 → Writer → Option (Nat × Writer))
    (buf : List UInt8) (writer : Writer) : Option Writer :=
  if _done : buf = [] then some writer
  else match Write buf writer with
    | none => none
    | some (data_written, after) =>
      if _progress : data_written > 0 then WriteExact Write (buf.drop data_written) after else none
termination_by buf.length
decreasing_by
  have filled := List.length_pos_iff.2 _done
  rw [List.length_drop]
  omega

structure Lz4LegacyReader where
  source_ : List UInt8
  decompressed_ : List UInt8 := []

namespace Lz4LegacyReader

def create (source : List UInt8) : Option Lz4LegacyReader :=
  if source.length < 4 then none
  else if value (source.take 4) = kLz4LegacyFrameMagic then some {source_ := source.drop 4}
  else none

def deliver (count : Nat) (reader : Lz4LegacyReader) : Option (List UInt8) × Lz4LegacyReader :=
  let len := min count reader.decompressed_.length
  (some (reader.decompressed_.take len),
    {reader with decompressed_ := reader.decompressed_.drop len})

/-- What was read, unless it failed, and the reader after it. -/
def Read (codec : Codec) (count : Nat) (reader : Lz4LegacyReader) :
    Option (List UInt8) × Lz4LegacyReader :=
  if reader.decompressed_ ≠ [] then deliver count reader
  else if reader.source_ = [] then (some [], reader)
  else if reader.source_.length < 4 then (none, {reader with source_ := []})
  else
    let length := value (reader.source_.take 4)
    let rest := reader.source_.drop 4
    if length = 0 then (some [], {reader with source_ := rest})
    else if rest.length < length then (none, {reader with source_ := []})
    else
      let (lz4_length, decompressed_) := codec.decompress_safe (rest.take length)
        (resize kLz4LegacyFrameBlockSize [])
      let filled := {source_ := rest.drop length, decompressed_ : Lz4LegacyReader}
      -- the buffer stays at the size of a whole block in the first two cases
      if lz4_length < 0 then (none, filled)
      else if lz4_length = 0 then (some [], filled)
      else deliver count {filled with decompressed_ := resize lz4_length.toNat decompressed_}

def reads (codec : Codec) (reader : Lz4LegacyReader) : List Nat → List (Option (List UInt8))
  | [] => []
  | count :: rest =>
    (Read codec count reader).1 :: reads codec (Read codec count reader).2 rest

end Lz4LegacyReader

def delivered (results : List (Option (List UInt8))) : List UInt8 :=
  results.flatMap fun result => result.getD []

end Ika.Io

/-! What the reader of LZ4 legacy frames delivers.

It delivers a prefix of the decompressed blocks of the stream as long as nobody reads on after a
block that decompresses to nothing or not at all, or behind the end of the frame; and all of what
was written, when its writer made the stream.
-/

namespace Ika.Io

open List Option

open ByteStream (bytes value value_bytes length_bytes)
open Lz4LegacyReader (Read deliver reads)

/-- What a block decompresses to; nothing, where it fails. -/
def decompressed (codec : Codec) (block : List UInt8) : List UInt8 :=
  let (lz4_length, buffer) := codec.decompress_safe block (resize kLz4LegacyFrameBlockSize [])
  resize lz4_length.toNat buffer

/-- All decompressed blocks of a stream, up to the first that it does not have all of. -/
def blocks (codec : Codec) (stream : List UInt8) : List UInt8 :=
  if _whole : stream.length < 4 then []
  else
    let length := value (stream.take 4)
    let rest := stream.drop 4
    if length = 0 then []
    else if rest.length < length then []
    else decompressed codec (rest.take length) ++ blocks codec (rest.drop length)
termination_by stream.length
decreasing_by
  simp only [length_drop]
  omega

/-- The next Read meets something behind the frame, or a block of nothing. -/
def Ill (codec : Codec) (reader : Lz4LegacyReader) : Prop :=
  let length := value (reader.source_.take 4)
  let rest := reader.source_.drop 4
  reader.decompressed_ = [] ∧ 4 ≤ reader.source_.length ∧
    (length = 0 ∧ rest ≠ [] ∨ length ≠ 0 ∧ length ≤ rest.length ∧
      (codec.decompress_safe (rest.take length) (resize kLz4LegacyFrameBlockSize [])).1 ≤ 0)

/-- After such a Read nothing more is asked for. -/
def Careful (codec : Codec) (reader : Lz4LegacyReader) : List Nat → Prop
  | [] => True
  | count :: rest => (Ill codec reader → ∀ later ∈ rest, later = 0) ∧
      Careful codec (Read codec count reader).2 rest

def pending (codec : Codec) (reader : Lz4LegacyReader) : List UInt8 :=
  reader.decompressed_ ++ blocks codec reader.source_

section Reading

variable {codec : Codec}

theorem blocks_nil : blocks codec [] = [] := by
  rw [blocks]
  exact dif_pos (by decide)

theorem blocks_short {stream : List UInt8} (short : stream.length < 4) :
    blocks codec stream = [] := by
  rw [blocks, dif_pos short]

theorem length_resize (size : Nat) (vector : List UInt8) : (resize size vector).length = size := by
  rw [resize, length_append, length_take, length_replicate]
  omega

theorem resize_zero (vector : List UInt8) : resize 0 vector = [] :=
  length_eq_zero_iff.1 (length_resize 0 vector)

variable {reader : Lz4LegacyReader} {counts : List Nat} (count : Nat)

theorem deliver_pending (reader : Lz4LegacyReader) :
    ((deliver count reader).1.getD []) ++ pending codec (deliver count reader).2 =
      pending codec reader := by
  simp only [deliver, pending, getD_some]
  rw [← append_assoc, take_append_drop]

theorem Read_header (empty : reader.decompressed_ = []) (header : ¬ reader.source_.length < 4) :
    Read codec count reader =
      if value (reader.source_.take 4) = 0 then (some [], {source_ := reader.source_.drop 4})
      else if (reader.source_.drop 4).length < value (reader.source_.take 4) then
        (none, {source_ := []})
      else
        let result := codec.decompress_safe
          ((reader.source_.drop 4).take (value (reader.source_.take 4)))
          (resize kLz4LegacyFrameBlockSize [])
        let source_ := (reader.source_.drop 4).drop (value (reader.source_.take 4))
        if result.1 < 0 then (none, {source_, decompressed_ := result.2})
        else if result.1 = 0 then (some [], {source_, decompressed_ := result.2})
        else deliver count {source_, decompressed_ := resize result.1.toNat result.2} := by
  have some_source : reader.source_ ≠ [] := fun none => header (by rw [none]; decide)
  rw [Read, if_neg (not_not_intro empty), if_neg some_source, if_neg header]
  simp only [empty]

theorem Read_pending (well : ¬ Ill codec reader) :
    (Read codec count reader).1.getD [] ++ pending codec (Read codec count reader).2 =
      pending codec reader := by
  by_cases filled : reader.decompressed_ = []
  · by_cases header : reader.source_.length < 4
    · -- no block begins here, whether the source is at its end or cut
      have rest : pending codec reader = [] := by
        rw [pending, filled, blocks_short header, append_nil]
      rw [rest, Read, if_neg (not_not_intro filled)]
      split_ifs with ended
      · exact rest
      · simp only [pending, filled, blocks_nil, getD_none, append_nil]
    · have all : pending codec reader = blocks codec reader.source_ := by
        rw [pending, filled, nil_append]
      rw [all, blocks, dif_neg header, Read_header count filled header]
      dsimp only
      split_ifs with footer cut failed nothing
      · have alone : reader.source_.drop 4 = [] := by
          by_contra more
          exact well ⟨filled, Nat.not_lt.1 header, .inl ⟨footer, more⟩⟩
        simp only [pending, alone, blocks_nil, getD_some, append_nil]
      · simp only [pending, blocks_nil, getD_none, append_nil]
      · exact absurd ⟨filled, Nat.not_lt.1 header, .inr ⟨footer, Nat.not_lt.1 cut,
          Int.le_of_lt failed⟩⟩ well
      · exact absurd ⟨filled, Nat.not_lt.1 header, .inr ⟨footer, Nat.not_lt.1 cut,
          Int.le_of_eq nothing⟩⟩ well
      · rw [deliver_pending]
        rfl
  · rw [Read, if_pos filled]
    exact deliver_pending count reader

theorem Read_ill (ill : Ill codec reader) : (Read codec count reader).1.getD [] = [] := by
  obtain ⟨empty, header, kind⟩ := ill
  rw [Read_header count empty (Nat.not_lt.2 header)]
  rcases kind with ⟨footer, -⟩ | ⟨length, whole, bad⟩
  · rw [if_pos footer]
    rfl
  · rw [if_neg length, if_neg (Nat.not_lt.2 whole)]
    dsimp only
    split_ifs with failed nothing
    · rfl
    · rfl
    · exact absurd (Int.le_antisymm bad (Int.not_lt.1 failed)) nothing

theorem Read_zero (reader : Lz4LegacyReader) : (Read codec 0 reader).1.getD [] = [] := by
  have nothing : ∀ any : Lz4LegacyReader, (deliver 0 any).1.getD [] = [] := fun any => by
    simp only [deliver, Nat.zero_min, take_zero, getD_some]
  unfold Read
  dsimp only
  split_ifs
  · exact nothing _
  · rfl
  · rfl
  · rfl
  · rfl
  · rfl
  · rfl
  · exact nothing _

theorem delivered_zeros (zeros : ∀ count ∈ counts, count = 0) (reader : Lz4LegacyReader) :
    delivered (reads codec reader counts) = [] := by
  induction counts generalizing reader with
  | nil => rfl
  | cons count rest induction_hypothesis =>
    obtain rfl := zeros count mem_cons_self
    rw [reads, delivered, flatMap_cons, Read_zero]
    exact induction_hypothesis (fun later member => zeros later (mem_cons_of_mem _ member)) _

theorem delivered_prefix (careful : Careful codec reader counts) :
    delivered (reads codec reader counts) <+: pending codec reader := by
  induction counts generalizing reader with
  | nil => exact nil_prefix
  | cons count rest induction_hypothesis =>
    have later := induction_hypothesis careful.2
    rw [reads, delivered, flatMap_cons]
    by_cases ill : Ill codec reader
    · have rest_nothing : delivered (reads codec (Read codec count reader).2 rest) = [] :=
        delivered_zeros (careful.1 ill) _
      rw [delivered] at rest_nothing
      rw [Read_ill count ill, rest_nothing]
      exact nil_prefix
    · rw [← Read_pending count ill]
      exact (prefix_append_right_inj _).2 later

end Reading

end Ika.Io
