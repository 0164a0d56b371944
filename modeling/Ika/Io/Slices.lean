import Mathlib.Algebra.Order.Ring.Int
import Ika.Foundation.FloorMap
import Mathlib.Data.List.Forall2

/-! Readers over memory, over windows of other readers and over concatenations of them. -/

set_option autoImplicit false

namespace Ika.Io

/-- `static_cast<int64_t>`; also what an overflowing `int64_t` sum comes to on the machine. -/
def int64 (value : Int) : Int := value.bmod (2 ^ 64)

/-- A reader with its position. `PRead` takes a count and an offset. -/
inductive ReaderSeeker where
  | InMemoryIo (data_ : List UInt8) (cursor_ : Nat)
  | ReaderFakeSeeker (seek_pos_ length_ : Nat) (PRead : Nat → Nat → Option (List UInt8))

namespace InMemory

def ClampRange (data_ : List UInt8) (begin_ length : Nat) : Nat :=
  if begin_ > data_.length then 0 else min length (data_.length - begin_)

def PRead (data_ : List UInt8) (count offset : Nat) : Option (List UInt8) :=
  let to_read := ClampRange data_ offset count
  some (if to_read > 0 then (data_.drop offset).take to_read else [])

def GrowTo (new_size : Nat) (data_ : List UInt8) : List UInt8 :=
  data_ ++ List.replicate (new_size - data_.length) 0

def create (data_ : List UInt8) : ReaderSeeker := .InMemoryIo data_ 0

end InMemory

namespace ReaderSeeker

open InMemory (ClampRange GrowTo)

def PRead : ReaderSeeker → Nat → Nat → Option (List UInt8)
  | .InMemoryIo data_ _ => InMemory.PRead data_
  | .ReaderFakeSeeker _ _ PRead => PRead

def Read (count : Nat) : ReaderSeeker → Option (List UInt8) × ReaderSeeker
  | .InMemoryIo data_ cursor_ =>
    let to_read := ClampRange data_ cursor_ count
    (some (if to_read > 0 then (data_.drop cursor_).take to_read else []),
      .InMemoryIo data_ (cursor_ + to_read))
  | .ReaderFakeSeeker seek_pos_ length_ PRead =>
    match PRead count seek_pos_ with
    | none => (none, .ReaderFakeSeeker seek_pos_ length_ PRead)
    | some data_read => (some data_read,
        .ReaderFakeSeeker ((seek_pos_ + data_read.length) % 2 ^ 64) length_ PRead)

def SeekSet (offset : Nat) : ReaderSeeker → Nat × ReaderSeeker
  | .InMemoryIo data_ _ => (offset, .InMemoryIo (GrowTo offset data_) offset)
  | .ReaderFakeSeeker _ length_ PRead =>
    let seek_pos := min offset length_
    (seek_pos, .ReaderFakeSeeker seek_pos length_ PRead)

def SeekCur (off : Int64) : ReaderSeeker → Nat × ReaderSeeker
  | .InMemoryIo data_ cursor_ =>
    let new_pos := (max (int64 (int64 cursor_ + off.toInt)) 0).toNat
    (new_pos, .InMemoryIo (GrowTo new_pos data_) new_pos)
  | .ReaderFakeSeeker seek_pos_ length_ PRead =>
    let seek_pos_signed := max (int64 (int64 seek_pos_ + off.toInt)) 0
    let seek_pos := min seek_pos_signed.toNat length_
    (seek_pos, .ReaderFakeSeeker seek_pos length_ PRead)

def SeekEnd (off : Int64) : ReaderSeeker → Nat × ReaderSeeker
  | .InMemoryIo data_ _ =>
    let new_pos := (max (int64 (int64 data_.length + off.toInt)) 0).toNat
    (new_pos, .InMemoryIo (GrowTo new_pos data_) new_pos)
  | .ReaderFakeSeeker _ length_ PRead =>
    let seek_pos_signed := max (int64 (int64 length_ + off.toInt)) 0
    let seek_pos := min seek_pos_signed.toNat length_
    (seek_pos, .ReaderFakeSeeker seek_pos length_ PRead)

/-- The length of what is sought in, and the reader back where it was. -/
def Length (reader : ReaderSeeker) : Nat × ReaderSeeker :=
  let (current_pos, atCurrent) := reader.SeekCur 0
  let («end», atEnd) := atCurrent.SeekEnd 0
  («end», (atEnd.SeekSet current_pos).2)

end ReaderSeeker

namespace ReadWindowView

def PRead (data_provider_ : ReaderSeeker) (begin_ length_ count offset : Nat) :
    Option (List UInt8) :=
  if offset ≥ length_ then some []
  else data_provider_.PRead (min count (length_ - offset)) ((offset + begin_) % 2 ^ 64)

def create (data_provider : ReaderSeeker) (begin_ length : Nat) : ReaderSeeker :=
  .ReaderFakeSeeker 0 length (PRead data_provider begin_ length)

end ReadWindowView

namespace ConcatReaderSeeker

def PRead (off_to_reader_ : FloorMap ReaderSeeker) (count offset : Nat) : Option (List UInt8) :=
  match off_to_reader_.floor offset with
  | none => none
  | some (start, reader) => reader.PRead count (offset - start)

/-- One turn of the loop of `Create`: the readers taken so far and where the next one begins. -/
def take (taken : FloorMap ReaderSeeker × Nat) (reader : ReaderSeeker) :
    FloorMap ReaderSeeker × Nat :=
  let (length, reader) := reader.Length
  (taken.1.put taken.2 reader, (taken.2 + length) % 2 ^ 64)

def Create (readers : List ReaderSeeker) : Option ReaderSeeker :=
  if readers.isEmpty then none
  else
    let (off_to_reader_, offset) := readers.foldl take (.empty, 0)
    some (.ReaderFakeSeeker 0 offset (PRead off_to_reader_))

end ConcatReaderSeeker

inductive Op where
  | Read (count : Nat)
  | SeekSet (offset : Nat)
  | SeekCur (off : Int64)
  | SeekEnd (off : Int64)

inductive Outcome where
  | data (read : Option (List UInt8))
  | position (seek_pos : Nat)
  deriving DecidableEq

def ReaderSeeker.call (reader : ReaderSeeker) : Op → Outcome × ReaderSeeker
  | .Read count => (reader.Read count).map .data id
  | .SeekSet offset => (reader.SeekSet offset).map .position id
  | .SeekCur off => (reader.SeekCur off).map .position id
  | .SeekEnd off => (reader.SeekEnd off).map .position id

def ReaderSeeker.outcomes (reader : ReaderSeeker) : List Op → List Outcome
  | [] => []
  | op :: rest => (reader.call op).1 :: (reader.call op).2.outcomes rest

inductive Tree where
  | InMemoryIo (data : List UInt8)
  | ReadWindowView (data_provider : Tree) (begin_ length : Nat)
  | ConcatReaderSeeker (readers : List Tree)

mutual

def Tree.reader : Tree → Option ReaderSeeker
  | .InMemoryIo data => some (InMemory.create data)
  | .ReadWindowView data_provider begin_ length =>
    (data_provider.reader).map fun provider => ReadWindowView.create provider begin_ length
  | .ConcatReaderSeeker readers => (Tree.readers readers).bind ConcatReaderSeeker.Create

def Tree.readers : List Tree → Option (List ReaderSeeker)
  | [] => some []
  | tree :: rest => (tree.reader).bind fun reader => (Tree.readers rest).map (reader :: ·)

end

end Ika.Io

/-!
What readers denote.

`PRead` answers slices of it, and a position that is moved by reads and seeks is the one that they
describe as long as every sum can be represented.
-/

namespace Ika.Io

open List Option

mutual

def Tree.denoted : Tree → List UInt8
  | .InMemoryIo data => data
  | .ReadWindowView data_provider begin_ length => (data_provider.denoted.drop begin_).take length
  | .ConcatReaderSeeker readers => Tree.allDenoted readers

def Tree.allDenoted : List Tree → List UInt8
  | [] => []
  | tree :: rest => tree.denoted ++ Tree.allDenoted rest

end

mutual

/-- Windows lie inside their providers, concatenations have members, vectors fit memory. -/
def Tree.WellFormed : Tree → Prop
  | .InMemoryIo data => data.length < 2 ^ 63
  | .ReadWindowView data_provider begin_ length =>
    data_provider.WellFormed ∧ begin_ + length ≤ data_provider.denoted.length
  | .ConcatReaderSeeker readers => readers ≠ [] ∧ Tree.AllWellFormed readers

def Tree.AllWellFormed : List Tree → Prop
  | [] => True
  | tree :: rest => tree.WellFormed ∧ Tree.AllWellFormed rest

end

mutual

/-- The offsets of concatenations fit into 64 bits. -/
def Tree.Countable : Tree → Prop
  | .InMemoryIo _ => True
  | .ReadWindowView data_provider _ _ => data_provider.Countable
  | .ConcatReaderSeeker readers =>
    Tree.AllCountable readers ∧ (Tree.allDenoted readers).length < 2 ^ 64

def Tree.AllCountable : List Tree → Prop
  | [] => True
  | tree :: rest => (tree.Countable ∧ tree.denoted.length < 2 ^ 63) ∧ Tree.AllCountable rest

end

/-- What reading some bytes of a string from an offset on may answer. -/
structure Slice (bytes : List UInt8) (count offset : Nat) (read : List UInt8) : Prop where
  initial : read <+: bytes.drop offset
  bounded : read.length ≤ count
  /-- Nothing is read only where nothing is asked for or nothing is left. -/
  ended : read = [] → count = 0 ∨ bytes.length ≤ offset

structure Denotes (reader : ReaderSeeker) (bytes : List UInt8) : Prop where
  /-- The position is at the beginning and the end is known. -/
  fresh : reader = .InMemoryIo bytes 0 ∨ ∃ PRead, reader = .ReaderFakeSeeker 0 bytes.length PRead
  slices : ∀ count offset, offset < 2 ^ 64 →
    ∃ read, reader.PRead count offset = some read ∧ Slice bytes count offset read

section Seeking

theorem int64_of_lt {value : Int} (low : -2 ^ 63 ≤ value) (high : value < 2 ^ 63) :
    int64 value = value := by
  apply Int.bmod_eq_of_le
  · exact Int.le_trans (by decide) low
  · exact Int.lt_of_lt_of_le high (by decide)

theorem int64_natCast {value : Nat} (high : value < 2 ^ 63) : int64 value = value :=
  int64_of_lt (Int.le_trans (by decide) (Int.natCast_nonneg value)) (by exact_mod_cast high)

variable {position : Nat}

theorem int64_add {off : Int64} (small : position < 2 ^ 63) (sum : position + off.toInt < 2 ^ 63) :
    int64 (int64 position + off.toInt) = position + off.toInt := by
  rw [int64_natCast small]
  have low := off.le_toInt
  exact int64_of_lt (by omega) sum

theorem max_natCast (length : Nat) : (max (length : Int) 0).toNat = length := by
  rw [Int.max_eq_left (Int.natCast_nonneg length), Int.toNat_natCast]

theorem seek_nowhere (small : position < 2 ^ 63) :
    (max (int64 (int64 position + (0 : Int64).toInt)) 0).toNat = position := by
  have zero : (0 : Int64).toInt = 0 := rfl
  rw [int64_add small (by rw [zero]; omega), zero, Int.add_zero, max_natCast]

theorem GrowTo_of_le {size : Nat} {data : List UInt8} (within : size ≤ data.length) :
    InMemory.GrowTo size data = data := by
  rw [InMemory.GrowTo, Nat.sub_eq_zero_of_le within, replicate_zero, append_nil]

theorem Length_eq {reader : ReaderSeeker} {bytes : List UInt8} (denotes : Denotes reader bytes)
    (small : bytes.length < 2 ^ 63) : reader.Length = (bytes.length, reader) := by
  have start : (max (int64 (int64 (0 : Nat) + (0 : Int64).toInt)) 0).toNat = 0 :=
    seek_nowhere (by decide)
  rcases denotes.fresh with rfl | ⟨PRead, rfl⟩
  · simp only [ReaderSeeker.Length, ReaderSeeker.SeekCur, ReaderSeeker.SeekEnd,
      ReaderSeeker.SeekSet, start, GrowTo_of_le (Nat.zero_le _), seek_nowhere small,
      GrowTo_of_le (Nat.le_refl _)]
  · simp only [ReaderSeeker.Length, ReaderSeeker.SeekCur, ReaderSeeker.SeekEnd,
      ReaderSeeker.SeekSet, start, seek_nowhere small, Nat.min_self, Nat.zero_min]

end Seeking

theorem denotes_InMemoryIo (bytes : List UInt8) : Denotes (InMemory.create bytes) bytes where
  fresh := .inl rfl
  slices count offset _ := by
    refine ⟨_, rfl, ?_⟩
    dsimp only [InMemory.ClampRange]
    split_ifs with beyond reads reads
    · exact absurd reads (Nat.lt_irrefl 0)
    · exact ⟨ nil_prefix, Nat.zero_le _, fun _ => .inr (Nat.le_of_lt beyond)⟩
    · refine ⟨ take_prefix _ _, ?_, fun none => ?_⟩
      · simp only [length_take]
        omega
      · have empty := congrArg List.length none
        simp only [length_take, length_drop, length_nil] at empty
        omega
    · exact ⟨ nil_prefix, Nat.zero_le _, fun _ => by omega⟩

variable {bytes : List UInt8} {taken : FloorMap ReaderSeeker} {pieces : List (List UInt8)}

theorem denotes_ReadWindowView {provider : ReaderSeeker} {begin_ length : Nat}
    (denotes : Denotes provider bytes) (inside : begin_ + length ≤ bytes.length)
    (countable : bytes.length < 2 ^ 64) :
    Denotes (ReadWindowView.create provider begin_ length) ((bytes.drop begin_).take length) where
  fresh := .inr ⟨_, by
    rw [length_take, length_drop, Nat.min_eq_left (by omega)]; rfl⟩
  slices count offset _ := by
    have whole : ((bytes.drop begin_).take length).length = length := by
      rw [length_take, length_drop, Nat.min_eq_left (by omega)]
    show ∃ read, ReadWindowView.PRead provider begin_ length count offset = some read ∧ _
    unfold ReadWindowView.PRead
    split_ifs with past
    · exact ⟨[], rfl, nil_prefix, Nat.zero_le _, fun _ => .inr (by rw [whole]; exact past)⟩
    · have unwrapped : (offset + begin_) % 2 ^ 64 = offset + begin_ := Nat.mod_eq_of_lt (by omega)
      rw [unwrapped]
      obtain ⟨read, answer, slice⟩ :=
        denotes.slices (min count (length - offset)) (offset + begin_) (by omega)
      have bounded := slice.bounded
      refine ⟨read, answer, ?_, by omega, fun none => ?_⟩
      · -- no more is asked of the provider than the window has left
        rw [drop_take, drop_drop, Nat.add_comm begin_ offset]
        exact prefix_take_iff.2 ⟨slice.initial, by omega⟩
      · rcases slice.ended none with nothing | left
        · omega
        · omega

/-- Every offset is answered with its member, offsets past the end with the last one. -/
structure Covers (taken : FloorMap ReaderSeeker) (bytes : List UInt8) : Prop where
  keys : ∀ entry ∈ taken.entries, entry.1 ≤ bytes.length
  member : ∀ offset, offset < bytes.length ∨ taken.entries ≠ [] →
    ∃ start reader piece rest, taken.floor offset = some (start, reader) ∧ start ≤ offset ∧
      Denotes reader piece ∧ bytes.drop start = piece ++ rest ∧
      (rest = [] ∨ offset < start + piece.length)

theorem covers_empty : Covers .empty [] where
  keys _ member := absurd member not_mem_nil
  member _ inside := by
    rcases inside with inside | filled
    · exact absurd inside (Nat.not_lt_zero _)
    · exact absurd rfl filled

theorem Covers.put {taken : FloorMap ReaderSeeker} {bytes piece : List UInt8}
    {reader : ReaderSeeker} (covers : Covers taken bytes) (denotes : Denotes reader piece) :
    Covers (taken.put bytes.length reader) (bytes ++ piece) where
  keys := FloorMap.entries_put_le covers.keys (by rw [length_append]; omega)
  member offset _ := by
    by_cases earlier : offset < bytes.length
    · obtain ⟨start, found, own, rest, answer, reached, foundDenotes, split, within⟩ :=
        covers.member offset (.inl earlier)
      refine ⟨start, found, own, rest ++ piece, ?_, reached, foundDenotes, ?_, .inr ?_⟩
      · rw [FloorMap.floor_put_of_lt covers.keys earlier, answer]
      · rw [drop_append_of_le_length (by omega), split, append_assoc]
      · rcases within with last | within
        · have length := congrArg List.length split
          simp only [last, append_nil, length_drop] at length
          omega
        · exact within
    · have reached : bytes.length ≤ offset := Nat.not_lt.1 earlier
      refine ⟨bytes.length, reader, piece, [], FloorMap.floor_put_of_le covers.keys reached,
        reached, denotes, ?_, .inl rfl⟩
      rw [drop_left, append_nil]

structure Readable (reader : ReaderSeeker) (piece : List UInt8) : Prop where
  denotes : Denotes reader piece
  small : piece.length < 2 ^ 63

theorem take_eq {offset : Nat} {reader : ReaderSeeker} {piece : List UInt8}
    (readable : Readable reader piece) (fits : offset + piece.length < 2 ^ 64) :
    ConcatReaderSeeker.take (taken, offset) reader =
      (taken.put offset reader, offset + piece.length) := by
  rw [ConcatReaderSeeker.take, Length_eq readable.denotes readable.small]
  exact congrArg _ (Nat.mod_eq_of_lt fits)

theorem covers_foldl {readers : List ReaderSeeker}
    (readable : List.Forall₂ Readable readers pieces) (covers : Covers taken bytes)
    (countable : (bytes ++ pieces.flatten).length < 2 ^ 64) :
    ∃ off_to_reader, readers.foldl ConcatReaderSeeker.take (taken, bytes.length) =
        (off_to_reader, (bytes ++ pieces.flatten).length) ∧
      Covers off_to_reader (bytes ++ pieces.flatten) ∧
      (taken.entries ≠ [] ∨ readers ≠ [] → off_to_reader.entries ≠ []) := by
  induction readable generalizing taken bytes with
  | nil =>
    rw [flatten_nil, append_nil]
    exact ⟨taken, rfl, covers, fun filled => filled.elim id fun none => absurd rfl none⟩
  | @cons reader piece readers pieces first _ induction_hypothesis =>
    rw [flatten_cons, ← append_assoc] at countable ⊢
    have fits : (bytes ++ piece).length < 2 ^ 64 :=
      Nat.lt_of_le_of_lt (sublist_append_left _ _).length_le countable
    rw [length_append] at fits
    rw [foldl_cons, take_eq first fits, ← length_append]
    obtain ⟨off_to_reader, result, all, filled⟩ :=
      induction_hypothesis (covers.put first.denotes) countable
    exact ⟨off_to_reader, result, all, fun _ => filled (.inl (FloorMap.insert_ne_nil _ _ _))⟩

theorem Covers.denotes {off_to_reader : FloorMap ReaderSeeker}
    (covers : Covers off_to_reader bytes) (filled : off_to_reader.entries ≠ []) :
    Denotes (.ReaderFakeSeeker 0 bytes.length (ConcatReaderSeeker.PRead off_to_reader)) bytes where
  fresh := .inr ⟨_, rfl⟩
  slices count offset small := by
    obtain ⟨start, reader, piece, rest, answer, reached, denotes, split, within⟩ :=
      covers.member offset (.inr filled)
    obtain ⟨read, result, slice⟩ := denotes.slices count (offset - start) (by omega)
    have lengths := congrArg List.length split
    rw [length_append, length_drop] at lengths
    have from_start : bytes.drop offset = (piece ++ rest).drop (offset - start) := by
      rw [← split, drop_drop]
      congr 1
      omega
    refine ⟨read, ?_, ?_, slice.bounded, fun none => ?_⟩
    · show ConcatReaderSeeker.PRead off_to_reader count offset = some read
      simp only [ConcatReaderSeeker.PRead, answer, result]
    · rw [from_start, drop_append]
      exact slice.initial.trans (prefix_append _ _)
    · -- a member that is not read out lies before the end of the whole
      refine (slice.ended none).imp_right fun left => ?_
      rcases within with last | within
      · simp only [last, length_nil] at lengths
        have keys := covers.keys
        omega
      · omega

theorem denotes_Create {readers : List ReaderSeeker}
    (readable : List.Forall₂ Readable readers pieces) (some_reader : readers ≠ [])
    (countable : pieces.flatten.length < 2 ^ 64) :
    ∃ reader, ConcatReaderSeeker.Create readers = some reader ∧ Denotes reader pieces.flatten := by
  obtain ⟨off_to_reader, result, covers, filled⟩ := covers_foldl readable covers_empty countable
  rw [nil_append] at result covers
  refine ⟨_, ?_, covers.denotes (filled (.inr some_reader))⟩
  have given : readers.isEmpty = false := by
    rw [isEmpty_eq_false_iff]
    exact some_reader
  simp only [ConcatReaderSeeker.Create, given, Bool.false_eq_true, if_false]
  rw [show (FloorMap.empty, 0) = (FloorMap.empty, ([] : List UInt8).length) from rfl, result]

theorem denoted_length_lt {tree : Tree} (formed : tree.WellFormed) (countable : tree.Countable) :
    tree.denoted.length < 2 ^ 64 := by
  cases tree with
  | InMemoryIo data => exact Nat.lt_trans formed (by decide)
  | ReadWindowView data_provider begin_ length =>
    have inside := formed.2
    have bounded := denoted_length_lt formed.1 countable
    simp only [Tree.denoted, length_take, length_drop]
    omega
  | ConcatReaderSeeker readers => exact countable.2

theorem allDenoted_eq (trees : List Tree) :
    Tree.allDenoted trees = (trees.map Tree.denoted).flatten := by
  induction trees with
  | nil => rfl
  | cons tree rest induction_hypothesis =>
    rw [Tree.allDenoted, map_cons, flatten_cons, induction_hypothesis]

mutual

theorem tree_denotes (tree : Tree) (formed : tree.WellFormed) (countable : tree.Countable) :
    ∃ reader, tree.reader = some reader ∧ Denotes reader tree.denoted := by
  cases tree with
  | InMemoryIo data => exact ⟨_, rfl, denotes_InMemoryIo data⟩
  | ReadWindowView data_provider begin_ length =>
    obtain ⟨provider, made, denotes⟩ := tree_denotes data_provider formed.1 countable
    refine ⟨ReadWindowView.create provider begin_ length, ?_,
      denotes_ReadWindowView denotes formed.2 (denoted_length_lt formed.1 countable)⟩
    rw [Tree.reader, made, map_some]
  | ConcatReaderSeeker readers =>
    obtain ⟨members, made, readable⟩ := trees_readable readers formed.2 countable.1
    have some_reader : members ≠ [] := by
      rintro rfl
      exact formed.1 (map_eq_nil_iff.1 (forall₂_nil_left_iff.1 readable))
    have small := countable.2
    rw [allDenoted_eq] at small
    obtain ⟨reader, created, denotes⟩ := denotes_Create readable some_reader small
    refine ⟨reader, ?_, ?_⟩
    · rw [Tree.reader, made, bind_some, created]
    · rw [Tree.denoted, allDenoted_eq]
      exact denotes

theorem trees_readable (trees : List Tree) (formed : Tree.AllWellFormed trees)
    (countable : Tree.AllCountable trees) :
    ∃ readers, Tree.readers trees = some readers ∧
      List.Forall₂ Readable readers (trees.map Tree.denoted) := by
  cases trees with
  | nil => exact ⟨[], rfl, .nil⟩
  | cons tree rest =>
    obtain ⟨reader, made, denotes⟩ := tree_denotes tree formed.1 countable.1.1
    obtain ⟨readers, others, readable⟩ := trees_readable rest formed.2 countable.2
    refine ⟨reader :: readers, ?_, .cons ⟨denotes, countable.1.2⟩ readable⟩
    rw [Tree.readers, made, others, bind_some, map_some]

end

end Ika.Io
