import Ika.Io.Slices

/-! Reading and seeking through a tracked position.

`ReaderFakeSeeker` adds an offset to its position, or to its length, as `int64_t` before it clamps
the sum. As long as the sum can be represented every sequence of operations is the one on a plain
position; a sum past `2 ^ 63 - 1` wraps to a negative one and the position goes to the beginning.
-/

set_option autoImplicit false

namespace Ika.Io

def clamp (length : Nat) (position : Int) : Nat := min (max position 0).toNat length

def track (PRead : Nat → Nat → Option (List UInt8)) (length position : Nat) : Op → Outcome × Nat
  | .Read count =>
    (.data (PRead count position), position + ((PRead count position).getD []).length)
  | .SeekSet offset => (.position (clamp length offset), clamp length offset)
  | .SeekCur off =>
    (.position (clamp length (position + off.toInt)), clamp length (position + off.toInt))
  | .SeekEnd off =>
    (.position (clamp length (length + off.toInt)), clamp length (length + off.toInt))

def tracked (PRead : Nat → Nat → Option (List UInt8)) (length position : Nat) :
    List Op → List Outcome
  | [] => []
  | op :: rest => (track PRead length position op).1 ::
      tracked PRead length (track PRead length position op).2 rest

/-- The operation adds up to nothing past the largest `int64_t`. -/
def Representable (length position : Nat) : Op → Prop
  | .Read _ => True
  | .SeekSet _ => True
  | .SeekCur off => position < 2 ^ 63 ∧ position + off.toInt < 2 ^ 63
  | .SeekEnd off => length < 2 ^ 63 ∧ length + off.toInt < 2 ^ 63

def AllRepresentable (PRead : Nat → Nat → Option (List UInt8)) (length position : Nat) :
    List Op → Prop
  | [] => True
  | op :: rest => Representable length position op ∧
      AllRepresentable PRead length (track PRead length position op).2 rest

theorem clamp_natCast (length position : Nat) : clamp length position = min position length := by
  rw [clamp, max_natCast]

section Steps

variable {bytes : List UInt8} {position : Nat} {PRead : Nat → Nat → Option (List UInt8)}

section

variable (slices : ∀ count offset, offset < 2 ^ 64 → ∃ read, PRead count offset = some read ∧
    Slice bytes count offset read)
include slices

theorem read_inside (small : bytes.length < 2 ^ 64) (within : position ≤ bytes.length)
    (count : Nat) :
    ∃ read, PRead count position = some read ∧ position + read.length ≤ bytes.length := by
  obtain ⟨read, answer, slice⟩ := slices count position (Nat.lt_of_le_of_lt within small)
  have left := slice.initial.length_le
  rw [List.length_drop] at left
  exact ⟨read, answer, by omega⟩

theorem track_le (small : bytes.length < 2 ^ 64) (within : position ≤ bytes.length) (op : Op) :
    (track PRead bytes.length position op).2 ≤ bytes.length := by
  cases op with
  | Read count =>
    obtain ⟨read, answer, left⟩ := read_inside slices small within count
    simp only [track, answer, Option.getD_some]
    omega
  | SeekSet offset => exact Nat.min_le_right _ _
  | SeekCur off => exact Nat.min_le_right _ _
  | SeekEnd off => exact Nat.min_le_right _ _

theorem call_eq_track (small : bytes.length < 2 ^ 64) (within : position ≤ bytes.length) {op : Op}
    (representable : Representable bytes.length position op) :
    (ReaderSeeker.ReaderFakeSeeker position bytes.length PRead).call op =
      ((track PRead bytes.length position op).1,
        .ReaderFakeSeeker (track PRead bytes.length position op).2 bytes.length PRead) := by
  cases op with
  | Read count =>
    obtain ⟨read, answer, left⟩ := read_inside slices small within count
    have unwrapped : (position + read.length) % 2 ^ 64 = position + read.length :=
      Nat.mod_eq_of_lt (by omega)
    simp only [ReaderSeeker.call, ReaderSeeker.Read, track, answer, Option.getD_some, unwrapped,
      Prod.map_apply, id]
  | SeekSet offset =>
    simp only [ReaderSeeker.call, ReaderSeeker.SeekSet, track, clamp_natCast, Prod.map_apply, id]
  | SeekCur off =>
    simp only [ReaderSeeker.call, ReaderSeeker.SeekCur, track, clamp,
      int64_add representable.1 representable.2, Prod.map_apply, id]
  | SeekEnd off =>
    simp only [ReaderSeeker.call, ReaderSeeker.SeekEnd, track, clamp,
      int64_add representable.1 representable.2, Prod.map_apply, id]

theorem outcomes_eq_tracked
    (small : bytes.length < 2 ^ 64) {ops : List Op} (within : position ≤ bytes.length)
    (representable : AllRepresentable PRead bytes.length position ops) :
    (ReaderSeeker.ReaderFakeSeeker position bytes.length PRead).outcomes ops =
      tracked PRead bytes.length position ops := by
  induction ops generalizing position with
  | nil => rfl
  | cons op rest induction_hypothesis =>
    simp only [ReaderSeeker.outcomes, tracked,
      call_eq_track slices small within representable.1]
    rw [induction_hypothesis (track_le slices small within op) representable.2]

end

end Steps

/-- What `PRead` and the sequences of operations on a tree of readers are to answer. -/
structure ReadsSlices (reader : ReaderSeeker) (bytes : List UInt8)
    (allowed : List Op → Prop) : Prop where
  pread : ∀ count offset, offset < 2 ^ 64 → ∃ read, reader.PRead count offset = some read ∧
    read.length ≤ count ∧ read = (bytes.drop offset).take read.length ∧
    (read = [] → count = 0 ∨ bytes.length ≤ offset)
  sequences : ∀ ops length_ PRead, reader = .ReaderFakeSeeker 0 length_ PRead → allowed ops →
    reader.outcomes ops = tracked reader.PRead bytes.length 0 ops

/-- Trees of readers within what offsets can count denote their slices, and operations whose sums
can be represented read them. -/
theorem readers_denote_slices (tree : Tree) (formed : tree.WellFormed)
    (countable : tree.Countable) :
    ∃ reader, tree.reader = some reader ∧ ReadsSlices reader tree.denoted
      fun ops => AllRepresentable reader.PRead tree.denoted.length 0 ops := by
  obtain ⟨reader, made, denotes⟩ := tree_denotes tree formed countable
  refine ⟨reader, made, ?_, ?_⟩
  · intro count offset small
    obtain ⟨read, answer, slice⟩ := denotes.slices count offset small
    exact ⟨read, answer, slice.bounded, List.prefix_iff_eq_take.1 slice.initial, slice.ended⟩
  · rintro ops length_ PRead fake representable
    have own : reader = .ReaderFakeSeeker 0 tree.denoted.length PRead := by
      rcases denotes.fresh with rfl | ⟨PRead', rfl⟩
      · cases fake
      · cases fake
        rfl
    subst own
    exact outcomes_eq_tracked denotes.slices (denoted_length_lt formed countable)
      (Nat.zero_le _) representable

def nestedTree : Tree :=
  .ConcatReaderSeeker [.InMemoryIo [],
    .ReadWindowView (.ConcatReaderSeeker [.InMemoryIo [1, 2], .InMemoryIo [], .InMemoryIo [3]]) 1 2,
    .InMemoryIo [4]]

theorem readers_denote_slices_nested :
    nestedTree.denoted = [2, 3, 4] ∧
    ∃ reader, nestedTree.reader = some reader ∧ reader.outcomes
      [.SeekEnd (-2), .Read 5, .Read 5, .SeekCur (-3), .Read 1, .SeekSet 9, .Read 1] =
        [.position 1, .data (some [3]), .data (some [4]), .position 0, .data (some [2]),
          .position 3, .data (some [])] := by
  obtain ⟨reader, made, reads⟩ := readers_denote_slices nestedTree
    (by simp [nestedTree, Tree.WellFormed, Tree.AllWellFormed, Tree.denoted, Tree.allDenoted])
    (by simp [nestedTree, Tree.Countable, Tree.AllCountable, Tree.denoted, Tree.allDenoted])
  refine ⟨by decide, reader, made, ?_⟩
  cases made
  rw [reads.sequences _ _ _ rfl]
  · decide +kernel
  · exact ⟨⟨by decide +kernel, by decide +kernel⟩, trivial, trivial,
      ⟨by decide +kernel, by decide +kernel⟩, trivial, trivial, trivial, trivial⟩

/-- One byte is passed over, and as far on as an offset goes is the beginning again. -/
theorem seek_past_int64_rereads :
    ¬ ∀ tree : Tree, tree.WellFormed → ∃ reader, tree.reader = some reader ∧
      ReadsSlices reader tree.denoted fun _ => True := by
  intro always
  obtain ⟨reader, made, reads⟩ := always (.ConcatReaderSeeker [.InMemoryIo [7]])
    (by simp [Tree.WellFormed, Tree.AllWellFormed])
  cases made
  have rereads := reads.sequences [.SeekSet 1, .SeekCur 9223372036854775807, .Read 1] _ _ rfl trivial
  exact absurd rereads (by decide +kernel)

end Ika.Io

/-! Reading exactly so many bytes at an offset, and reading to the end. -/

namespace Ika.Io

open List

def PReadExact (reader : ReaderSeeker) (size offset : Nat) : Option (List UInt8) :=
  if _done : size = 0 then some []
  else match reader.PRead size offset with
    | none => none
    | some data_read =>
      if _progress : data_read.length > 0 then
        (PReadExact reader (size - data_read.length) ((offset + data_read.length) % 2 ^ 64)).map
          (data_read ++ ·)
      else none
termination_by size

/-- Reads into a buffer of `2 ^ 16` bytes until nothing more comes. -/
def ReadToString (reader : ReaderSeeker) : Nat → Option (List UInt8)
  | 0 => none
  | fuel + 1 =>
    match reader.Read (2 ^ 16) with
    | (none, _) => none
    | (some data_read, after) =>
      if data_read.length > 0 then (ReadToString after fuel).map (data_read ++ ·) else some []

section Denoted

variable {reader : ReaderSeeker} {bytes : List UInt8}

theorem PReadExact_eq (denotes : Denotes reader bytes) (countable : bytes.length < 2 ^ 64)
    (size : Nat) {offset : Nat} (small : offset < 2 ^ 64) :
    PReadExact reader size offset =
      if ((bytes.drop offset).take size).length = size then some ((bytes.drop offset).take size)
      else none := by
  induction size using Nat.strong_induction_on generalizing offset with
  | _ size induction_hypothesis =>
    rw [PReadExact]
    split_ifs with empty enough enough
    · rw [empty, take_zero]
    · exact absurd (by rw [empty, take_zero, length_nil]) enough
    all_goals
      obtain ⟨read, answer, slice⟩ := denotes.slices size offset small
      have left := slice.initial.length_le
      have bounded := slice.bounded
      rw [length_take, length_drop] at enough
      rw [length_drop] at left
      rw [answer]
      dsimp only
      split_ifs with progress
    · have unwrapped : (offset + read.length) % 2 ^ 64 = offset + read.length :=
        Nat.mod_eq_of_lt (by omega)
      rw [unwrapped, induction_hypothesis _ (by omega) (by omega), if_pos, Option.map_some]
      · congr 1
        -- what was read is the beginning, and the rest is read from behind it
        rw [← drop_drop]
        conv_lhs => lhs; rw [prefix_iff_eq_take.1 slice.initial]
        rw [← take_add, Nat.add_sub_cancel' bounded]
      · rw [length_take, length_drop]
        omega
    · have nothing : read = [] := length_eq_zero_iff.1 (by omega)
      have ended := slice.ended nothing
      omega
    · have unwrapped : (offset + read.length) % 2 ^ 64 = offset + read.length :=
        Nat.mod_eq_of_lt (by omega)
      rw [unwrapped, induction_hypothesis _ (by omega) (by omega), if_neg, Option.map_none]
      rw [length_take, length_drop]
      omega
    · rfl

theorem ReadToString_eq {PRead : Nat → Nat → Option (List UInt8)}
    (slices : ∀ count offset, offset < 2 ^ 64 →
      ∃ read, PRead count offset = some read ∧ Slice bytes count offset read)
    (countable : bytes.length < 2 ^ 64) {fuel position : Nat} (within : position ≤ bytes.length)
    (enough : bytes.length - position < fuel) :
    ReadToString (.ReaderFakeSeeker position bytes.length PRead) fuel =
      some (bytes.drop position) := by
  induction fuel generalizing position with
  | zero => exact absurd enough (Nat.not_lt_zero _)
  | succ fuel induction_hypothesis =>
    obtain ⟨read, answer, slice⟩ := slices (2 ^ 16) position (by omega)
    have left := slice.initial.length_le
    rw [length_drop] at left
    have unwrapped : (position + read.length) % 2 ^ 64 = position + read.length :=
      Nat.mod_eq_of_lt (by omega)
    simp only [ReadToString, ReaderSeeker.Read, answer, unwrapped]
    split_ifs with progress
    · rw [induction_hypothesis (by omega) (by omega), Option.map_some, ← drop_drop]
      congr 1
      conv_lhs => lhs; rw [prefix_iff_eq_take.1 slice.initial]
      exact take_append_drop _ _
    · have nothing : read = [] := length_eq_zero_iff.1 (by omega)
      have ended := slice.ended nothing
      rw [drop_eq_nil_of_le (by omega)]

end Denoted

end Ika.Io
