import Ika.Io.Lz4Frames

/-! Writing LZ4 legacy frames and reading them back. -/

set_option autoImplicit false

namespace Ika.Io

open List Nat Int
open ByteStream (bytes value value_bytes length_bytes)
open Lz4LegacyReader (Read deliver reads)

/-- Chunks are decompressed to what they were, and `compressBound` is enough for them. -/
structure Codec.RoundTrips (codec : Codec) : Prop where
  compresses : ∀ chunk, chunk ≠ [] → chunk.length ≤ kLz4LegacyFrameBlockSize →
    let compressed := codec.compress_default chunk (codec.compressBound chunk.length)
    0 < compressed.1 ∧ compressed.1 < 2 ^ 31 ∧ compressed.1.toNat ≤ compressed.2.length
  decompresses : ∀ chunk destination, chunk ≠ [] → chunk.length ≤ kLz4LegacyFrameBlockSize →
    chunk.length ≤ destination.length →
    let compressed := codec.compress_default chunk (codec.compressBound chunk.length)
    let restored :=
      codec.decompress_safe (compressed.2.take compressed.1.toNat) destination
    restored.1 = chunk.length ∧ restored.2.take chunk.length = chunk

def encoded (codec : Codec) (chunk : List UInt8) : List UInt8 :=
  let compressed := codec.compress_default chunk (codec.compressBound chunk.length)
  bytes 4 compressed.1.toNat ++ compressed.2.take compressed.1.toNat

/-- Data and a stream of blocks that it is chunked into, to the end or to a footer. -/
inductive Frame (codec : Codec) : List UInt8 → List UInt8 → Prop where
  | «end» : Frame codec [] []
  | footer : Frame codec [] (bytes 4 0)
  | block {chunk rest stream : List UInt8} : chunk ≠ [] →
      chunk.length ≤ kLz4LegacyFrameBlockSize → Frame codec rest stream →
      Frame codec (chunk ++ rest) (encoded codec chunk ++ stream)

section RoundTrip

variable {codec : Codec}

variable {chunk data : List UInt8} {reader : Lz4LegacyReader}

theorem writeBlock_eq (trips : codec.RoundTrips) (filled : chunk ≠ [])
    (small : chunk.length ≤ kLz4LegacyFrameBlockSize) (sink : List UInt8) :
    Lz4LegacyWriter.writeBlock codec chunk sink = some (sink ++ encoded codec chunk) := by
  have size := (trips.compresses chunk filled small).1
  simp only [Lz4LegacyWriter.writeBlock, encoded, gt_iff_lt, size, if_true, append_assoc]

theorem WriteExact_nil {Writer : Type} (Write : List UInt8 → Writer → Option (Nat × Writer))
    (writer : Writer) : WriteExact Write [] writer = some writer := by
  rw [WriteExact, dif_pos rfl]

theorem WriteExact_step {Writer : Type} {Write : List UInt8 → Writer → Option (Nat × Writer)}
    {buf : List UInt8} {writer after : Writer} {data_written : Nat} (filled : buf ≠ [])
    (written : Write buf writer = some (data_written, after)) (progress : data_written > 0) :
    WriteExact Write buf writer = WriteExact Write (buf.drop data_written) after := by
  rw [WriteExact, dif_neg filled, written]
  exact dif_pos progress

theorem Write_last (trips : codec.RoundTrips) (filled : data ≠ [])
    (small : data.length ≤ kLz4LegacyFrameBlockSize) (sink : List UInt8) :
    Lz4LegacyWriter.Write codec data {sink_ := sink} = some (data.length,
      {sink_ := sink ++ encoded codec data ++ bytes 4 0, footer_written_ := true}) := by
  have length := length_pos_iff.2 filled
  simp only [Lz4LegacyWriter.Write, Bool.false_eq_true, if_false, Nat.min_eq_left small, gt_iff_lt,
    length, if_true, take_length, writeBlock_eq trips filled small, small]

theorem Write_more (trips : codec.RoundTrips) (large : kLz4LegacyFrameBlockSize < data.length)
    (sink : List UInt8) :
    Lz4LegacyWriter.Write codec data {sink_ := sink} = some (kLz4LegacyFrameBlockSize,
      {sink_ := sink ++ encoded codec (data.take kLz4LegacyFrameBlockSize)}) := by
  have block : 0 < kLz4LegacyFrameBlockSize := by decide
  have length : (data.take kLz4LegacyFrameBlockSize).length = kLz4LegacyFrameBlockSize := by
    rw [length_take, Nat.min_eq_left (Nat.le_of_lt large)]
  have filled : data.take kLz4LegacyFrameBlockSize ≠ [] := by
    rw [← length_pos_iff, length]
    exact block
  simp only [Lz4LegacyWriter.Write, Bool.false_eq_true, if_false,
    Nat.min_eq_right (Nat.le_of_lt large), gt_iff_lt, block, if_true,
    writeBlock_eq trips filled (Nat.le_of_eq length), Nat.not_le.2 large]

theorem WriteExact_frame (trips : codec.RoundTrips) (data sink : List UInt8) :
    ∃ writer stream, WriteExact (Lz4LegacyWriter.Write codec) data {sink_ := sink} = some writer ∧
      writer.sink_ = sink ++ stream ∧ Frame codec data stream := by
  induction size : data.length using Nat.strong_induction_on generalizing data sink with
  | _ size induction_hypothesis =>
    subst size
    by_cases empty : data = []
    · subst empty
      exact ⟨_, [], WriteExact_nil _ _, (append_nil _).symm, .end⟩
    · have length := length_pos_iff.2 empty
      by_cases small : data.length ≤ kLz4LegacyFrameBlockSize
      · refine ⟨{sink_ := sink ++ encoded codec data ++ bytes 4 0, footer_written_ := true},
          encoded codec data ++ bytes 4 0, ?_, append_assoc _ _ _, ?_⟩
        · rw [WriteExact_step empty (Write_last trips empty small sink) length, drop_length,
            WriteExact_nil]
        · have last := Frame.block empty small (@Frame.footer codec)
          rwa [append_nil] at last
      · have large := Nat.not_le.1 small
        have block : 0 < kLz4LegacyFrameBlockSize := by decide
        have shorter : (data.drop kLz4LegacyFrameBlockSize).length < data.length := by
          rw [length_drop]
          omega
        have taken : (data.take kLz4LegacyFrameBlockSize).length = kLz4LegacyFrameBlockSize := by
          rw [length_take, Nat.min_eq_left (Nat.le_of_lt large)]
        obtain ⟨writer, stream, result, sunk, frame⟩ := induction_hypothesis _ shorter
          (data.drop kLz4LegacyFrameBlockSize)
          (sink ++ encoded codec (data.take kLz4LegacyFrameBlockSize)) rfl
        refine ⟨writer, encoded codec (data.take kLz4LegacyFrameBlockSize) ++ stream, ?_, ?_, ?_⟩
        · rw [WriteExact_step empty (Write_more trips large sink) block, result]
        · rw [sunk, append_assoc]
        · have first := Frame.block (length_pos_iff.1 (taken.symm ▸ block))
            (Nat.le_of_eq taken) frame
          rwa [take_append_drop] at first

def Holds (codec : Codec) (reader : Lz4LegacyReader) (data : List UInt8) : Prop :=
  ∃ rest, data = reader.decompressed_ ++ rest ∧ Frame codec rest reader.source_

def Takes (codec : Codec) (count : Nat) (data : List UInt8)
    (result : Option (List UInt8) × Lz4LegacyReader) : Prop :=
  ∃ out left, result.1 = some out ∧ data = out ++ left ∧ Holds codec result.2 left ∧
    (0 < count → data ≠ [] → out ≠ [])

theorem deliver_takes (count : Nat) {reader : Lz4LegacyReader} {rest : List UInt8}
    (filled : reader.decompressed_ ≠ []) (frame : Frame codec rest reader.source_) :
    Takes codec count (reader.decompressed_ ++ rest) (deliver count reader) := by
  refine ⟨_, reader.decompressed_.drop (min count reader.decompressed_.length) ++ rest, rfl, ?_,
    ⟨rest, rfl, frame⟩, fun asked _ none => ?_⟩
  · rw [← append_assoc, take_append_drop]
  · have length := length_pos_iff.2 filled
    have zero := congrArg List.length none
    rw [length_take, length_nil] at zero
    omega

theorem Read_block (trips : codec.RoundTrips) (count : Nat) {stream : List UInt8}
    (filled : chunk ≠ []) (small : chunk.length ≤ kLz4LegacyFrameBlockSize) :
    Read codec count {source_ := encoded codec chunk ++ stream} =
      deliver count {source_ := stream, decompressed_ := chunk} := by
  have some_chunk : chunk.length ≠ 0 := fun none => filled (length_eq_zero_iff.1 none)
  have sizes := trips.compresses chunk filled small
  have zeros : chunk.length ≤ (resize kLz4LegacyFrameBlockSize []).length := by
    rw [length_resize]
    exact small
  have restores := trips.decompresses chunk (resize kLz4LegacyFrameBlockSize []) filled small zeros
  simp only [encoded]
  generalize codec.compress_default chunk (codec.compressBound chunk.length) = compressed
    at sizes restores
  obtain ⟨size, buffer⟩ := compressed
  obtain ⟨positive, int, within⟩ := sizes
  obtain ⟨restored_length, same⟩ := restores
  dsimp only at positive int within restored_length same ⊢
  have number : value (bytes 4 size.toNat) = size.toNat := by
    rw [value_bytes, mod_eq_of_lt (by omega)]
  have block : (buffer.take size.toNat).length = size.toNat := by
    rw [length_take, Nat.min_eq_left within]
  have header : ¬ (bytes 4 size.toNat ++ buffer.take size.toNat ++ stream).length < 4 := by
    rw [append_assoc, length_append, length_bytes]
    omega
  have length : ¬ size.toNat = 0 := by omega
  have enough : ¬ (buffer.take size.toNat ++ stream).length < size.toNat := by
    rw [length_append, block]
    omega
  rw [Read_header count rfl header]
  dsimp only
  rw [append_assoc, take_left' (length_bytes 4 _), drop_left' (length_bytes 4 _),
    number, if_neg length, if_neg enough, take_left' block, drop_left' block,
    restored_length, if_neg (by omega), if_neg (natCast_ne_zero.2 some_chunk),
    toNat_natCast, resize, same]
  have at_least : chunk.length - (codec.decompress_safe (buffer.take size.toNat)
      (resize kLz4LegacyFrameBlockSize [])).2.length = 0 := by
    have length := congrArg List.length same
    rw [length_take] at length
    omega
  rw [at_least, replicate_zero, append_nil]

theorem Read_takes (trips : codec.RoundTrips) (count : Nat) (holds : Holds codec reader data) :
    Takes codec count data (Read codec count reader) := by
  obtain ⟨rest, rfl, frame⟩ := holds
  by_cases filled : reader.decompressed_ = []
  · obtain ⟨source_, decompressed_⟩ := reader
    dsimp only at filled frame
    subst filled
    cases frame with
    | «end» => exact ⟨[], [], rfl, rfl, ⟨[], rfl, .end⟩, fun _ some => absurd rfl some⟩
    | footer => exact ⟨[], [], rfl, rfl, ⟨[], rfl, .end⟩, fun _ some => absurd rfl some⟩
    | block some_chunk small frame =>
      rw [Read_block trips count some_chunk small]
      exact @deliver_takes _ count ⟨_, _⟩ _ some_chunk frame
  · rw [Read, if_pos filled]
    exact deliver_takes count filled frame

theorem reads_holding (trips : codec.RoundTrips) (counts : List Nat)
    (holds : Holds codec reader data) :
    (∀ result ∈ reads codec reader counts, result.isSome) ∧
    delivered (reads codec reader counts) <+: data ∧
    (data.length ≤ counts.countP (0 < ·) → delivered (reads codec reader counts) = data) := by
  induction counts generalizing reader data with
  | nil =>
    refine ⟨fun _ member => absurd member not_mem_nil, nil_prefix, fun enough => ?_⟩
    rw [countP_nil, le_zero, length_eq_zero_iff] at enough
    exact enough.symm
  | cons count rest induction_hypothesis =>
    obtain ⟨out, left, success, rfl, after, progress⟩ := Read_takes trips count holds
    obtain ⟨others, initial, whole⟩ := induction_hypothesis after
    have all : delivered (reads codec reader (count :: rest)) =
        out ++ delivered (reads codec (Read codec count reader).2 rest) := by
      rw [reads, delivered, flatMap_cons, success]
      rfl
    refine ⟨?_, ?_, fun enough => ?_⟩
    · intro result member
      rcases mem_cons.1 member with rfl | later
      · rw [success]
        rfl
      · exact others result later
    · rw [all]
      exact (prefix_append_right_inj _).2 initial
    · have fewer : left.length ≤ rest.countP (0 < ·) := by
        rw [countP_cons, length_append] at enough
        by_cases asked : 0 < count
        · rw [if_pos (decide_eq_true asked)] at enough
          by_cases empty : out ++ left = []
          · rw [(append_eq_nil_iff.1 empty).2]
            exact Nat.zero_le _
          · have some_out := length_pos_iff.2 (progress asked empty)
            omega
        · rw [if_neg (by rw [decide_eq_true_iff]; exact asked)] at enough
          omega
      rw [all, whole fewer]

/-- What is written at once is read back; of any stream careful reads deliver a prefix. -/
theorem lz4_legacy_frames (codec : Codec) :
    (codec.RoundTrips → ∀ data, ∃ writer reader,
      WriteExact (Lz4LegacyWriter.Write codec) data .create = some writer ∧
      Lz4LegacyReader.create writer.sink_ = some reader ∧ ∀ counts,
        (∀ result ∈ reads codec reader counts, result.isSome) ∧
        delivered (reads codec reader counts) <+: data ∧
        (data.length ≤ counts.countP (0 < ·) → delivered (reads codec reader counts) = data)) ∧
    ∀ stream reader, Lz4LegacyReader.create stream = some reader → ∀ counts,
      Careful codec reader counts →
        delivered (reads codec reader counts) <+: blocks codec (stream.drop 4) := by
  constructor
  · intro trips data
    obtain ⟨writer, stream, written, sunk, frame⟩ :=
      WriteExact_frame trips data (bytes 4 kLz4LegacyFrameMagic)
    have magic : value (bytes 4 kLz4LegacyFrameMagic) = kLz4LegacyFrameMagic := by decide
    have long : ¬ (bytes 4 kLz4LegacyFrameMagic ++ stream).length < 4 := by
      rw [length_append, length_bytes]
      omega
    have opened : Lz4LegacyReader.create writer.sink_ = some {source_ := stream} := by
      rw [Lz4LegacyReader.create, sunk, if_neg long, take_left' (length_bytes 4 _),
        drop_left' (length_bytes 4 _), if_pos magic]
    exact ⟨writer, _, written, opened, fun counts =>
      reads_holding trips counts ⟨data, rfl, frame⟩⟩
  · intro stream reader opened counts careful
    have fresh : reader = {source_ := stream.drop 4} := by
      unfold Lz4LegacyReader.create at opened
      split_ifs at opened
      exact (Option.some.inj opened).symm
    subst fresh
    exact delivered_prefix careful

end RoundTrip

/-- The codec on blocks that are a single run of literals, as those of a few bytes are. -/
def literalCodec : Codec where
  compressBound size := size + size / 255 + 16
  compress_default chunk capacity :=
    let block := Lz4Literals.encode chunk
    if block.length ≤ capacity then (block.length, block) else (0, [])
  decompress_safe block destination :=
    match Lz4Literals.decode block with
    | none => (-1, destination)
    | some literals =>
      if literals.length ≤ destination.length then
        (literals.length, literals ++ destination.drop literals.length)
      else (-1, destination)

theorem literalCodec_trips : literalCodec.RoundTrips where
  compresses chunk filled small := by
    have bound := Lz4Literals.length_encode chunk
    have positive : 0 < (Lz4Literals.encode chunk).length := by
      unfold Lz4Literals.encode
      split <;> exact zero_lt_succ _
    have block : kLz4LegacyFrameBlockSize = 8388608 := rfl
    simp only [literalCodec, if_pos bound, toNat_natCast]
    omega
  decompresses chunk destination _ _ room := by
    have bound := Lz4Literals.length_encode chunk
    simp only [literalCodec, if_pos bound, toNat_natCast, take_length,
      Lz4Literals.decode_encode, if_pos room, take_left, and_self]

def emptyBlock : List UInt8 := bytes 4 kLz4LegacyFrameMagic ++ bytes 4 1 ++ [0]

theorem lz4_legacy_frames_literals :
    (∃ writer reader,
      WriteExact (Lz4LegacyWriter.Write literalCodec) [104, 105] .create = some writer ∧
      Lz4LegacyReader.create writer.sink_ = some reader ∧
      delivered (reads literalCodec reader [0, 1, 1]) = [104, 105]) ∧
    delivered (reads literalCodec {source_ := emptyBlock.drop 4} [7, 0]) <+:
      blocks literalCodec (emptyBlock.drop 4) := by
  obtain ⟨trips, prefixes⟩ := lz4_legacy_frames literalCodec
  obtain ⟨writer, reader, written, opened, reading⟩ := trips literalCodec_trips [104, 105]
  refine ⟨⟨writer, reader, written, opened, (reading [0, 1, 1]).2.2 (by decide)⟩, ?_⟩
  exact prefixes emptyBlock _ (by rfl) [7, 0]
    ⟨fun _ later member => mem_singleton.1 member,
      fun _ later member => absurd member not_mem_nil, trivial⟩

/-- The Read after one that met an empty block delivers the buffer. -/
theorem reads_after_empty_block :
    ¬ ∀ (codec : Codec) (stream : List UInt8) (reader : Lz4LegacyReader),
      Lz4LegacyReader.create stream = some reader → ∀ counts,
        delivered (reads codec reader counts) <+: blocks codec (stream.drop 4) := by
  intro always
  have block : 0 < kLz4LegacyFrameBlockSize := by decide
  have nothing : ∀ zeros, literalCodec.decompress_safe [0] zeros = (0, zeros) := fun zeros => by
    simp only [literalCodec, show Lz4Literals.decode [0] = some [] from rfl, length_nil,
      Nat.zero_le, if_true, drop_zero, nil_append, Int.natCast_zero]
  have header : ¬ ([1, 0, 0, 0, 0] : List UInt8).length < 4 := by decide
  have one : value (([1, 0, 0, 0, 0] : List UInt8).take 4) = 1 := by decide
  have rest : ([1, 0, 0, 0, 0] : List UInt8).drop 4 = [0] := by decide
  have all : ([0] : List UInt8).take 1 = [0] := by decide
  have enough : ¬ ([0] : List UInt8).length < 1 := by decide
  have first : Read literalCodec 1 {source_ := [1, 0, 0, 0, 0]} =
      (some [], {source_ := [], decompressed_ := resize kLz4LegacyFrameBlockSize []}) := by
    rw [Read_header 1 rfl header]
    dsimp only
    rw [one, rest, all, nothing, if_neg Nat.one_ne_zero, if_neg enough]
    dsimp only
    rw [if_neg (Int.lt_irrefl 0), if_pos rfl]
    rfl
  have none_before : blocks literalCodec [1, 0, 0, 0, 0] = [] := by
    rw [blocks, dif_neg header]
    dsimp only
    rw [one, rest, all, decompressed, nothing, if_neg Nat.one_ne_zero, if_neg enough]
    exact append_eq_nil_iff.2 ⟨resize_zero _, blocks_nil⟩
  have invented := always literalCodec emptyBlock {source_ := [1, 0, 0, 0, 0]} rfl [1, 1]
  rw [show emptyBlock.drop 4 = [1, 0, 0, 0, 0] from rfl, none_before, prefix_nil, reads,
    first] at invented
  -- the second Read finds the buffer at the size of a whole block
  have filled : resize kLz4LegacyFrameBlockSize [] ≠ [] := by
    rw [← length_pos_iff, length_resize]
    exact block
  obtain ⟨out, left, delivers, -, -, more⟩ := @deliver_takes literalCodec 1
    {source_ := [], decompressed_ := resize kLz4LegacyFrameBlockSize []} [] filled .end
  rw [reads, Read, if_pos filled, delivers] at invented
  have none_out := (append_eq_nil_iff.1 (append_eq_nil_iff.1 invented).2).1
  exact more Nat.one_pos (fun none => filled (append_eq_nil_iff.1 none).1) none_out

end Ika.Io
