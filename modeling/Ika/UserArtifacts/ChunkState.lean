import Ika.Foundation.Boundaries
import Mathlib.Data.List.Basic
import Mathlib.Data.List.Induction

/-! Which parts of a file were received, without looking at the file. -/

set_option autoImplicit false

namespace Ika.UserArtifacts

open Boundaries List Bool

/-- An offset, and whether what begins there is updated. -/
abbrev chunkStateItem := Int × Bool

/-- The tree of items, in the order of their offsets. -/
abbrev Items := List chunkStateItem

namespace Items

variable (items : Items)

def getItemOrPrev (offset : Int) : Option chunkStateItem :=
  (items.filter fun item => decide (item.1 ≤ offset)).getLast?

def getItemOrNext (offset : Int) : Option chunkStateItem :=
  items.find? fun item => decide (offset ≤ item.1)

def Delete (item : chunkStateItem) : Items := items.filter fun other => decide (other.1 ≠ item.1)

def ReplaceOrInsert (item : chunkStateItem) : Items :=
  below item.1 items ++ item :: above item.1 items

/-- The loop at the beginning of `Update`, at most once for each item. -/
def removeBetween (start stop : Int) : Nat → Items → Items
  | 0, items => items
  | bound + 1, items =>
    match getItemOrNext items start with
    | some item =>
      if item.1 ≤ stop then removeBetween start stop bound (Delete items item) else items
    | none => items

def setStart (start : Int) : Items :=
  match getItemOrPrev items start with
  | some prev => if prev.2 then items else ReplaceOrInsert items (start, true)
  | none => ReplaceOrInsert items (start, true)

def setEnd (stop : Int) : Items :=
  match getItemOrNext items stop with
  | some next => if next.2 then ReplaceOrInsert items (stop, false) else items
  | none => ReplaceOrInsert items (stop, false)

end Items

structure chunkState where
  fileSize : Int
  items : Items
  deriving DecidableEq, Repr

def NewChunkState (fileSize : Int) : chunkState := ⟨fileSize, []⟩

namespace chunkState

variable (cs : chunkState)

def Update (start stop : Int) : Except String chunkState :=
  if start < 0 then .error "invalid start offset of the range"
  else if stop > cs.fileSize then .error "invalid end offset of the range"
  else if start ≥ stop then .error "start offset should be less than end offset"
  else
    let items := Items.removeBetween start stop cs.items.length cs.items
    .ok {cs with items := (items.setStart start).setEnd stop}

def IsCompleted : Bool :=
  if cs.items.length ≠ 2 then false
  else cs.items.head? = some (0, true) ∧ cs.items.getLast? = some (cs.fileSize, false)

end chunkState

section Loop

variable {items lower between upper : Items} {start stop : Int}

theorem getItemOrNext_append {lower upper : Items} (earlier : ∀ item ∈ lower, item.1 < start) :
    Items.getItemOrNext (lower ++ upper) start = Items.getItemOrNext upper start := by
  unfold Items.getItemOrNext
  rw [find?_append]
  have none : lower.find? (fun item => decide (start ≤ item.1)) = none := by
    rw [List.find?_eq_none]
    intro item among
    rw [decide_eq_true_iff]
    exact not_le.mpr (earlier item among)
  rw [none, Option.none_or]

theorem getItemOrNext_cons {item : chunkStateItem} (reached : start ≤ item.1) :
    Items.getItemOrNext (item :: items) start = some item :=
  find?_cons_of_pos (decide_eq_true reached)

theorem removeBetween_eq {bound : Nat} (enough : between.length ≤ bound)
    (ascending : Ascending (lower ++ (between ++ upper))) (earlier : ∀ item ∈ lower, item.1 < start)
    (within : ∀ item ∈ between, start ≤ item.1 ∧ item.1 ≤ stop)
    (later : ∀ item ∈ upper, start ≤ item.1 ∧ stop < item.1) :
    Items.removeBetween start stop bound (lower ++ (between ++ upper)) = lower ++ upper := by
  induction between generalizing bound with
  | nil =>
    cases bound with
    | zero => rfl
    | succ bound =>
      rw [nil_append, Items.removeBetween, getItemOrNext_append earlier]
      cases upper with
      | nil => rfl
      | cons next rest =>
        obtain ⟨reached, behind⟩ := later next mem_cons_self
        rw [getItemOrNext_cons reached]
        exact if_neg (not_le.mpr behind)
  | cons item rest ih =>
    cases bound with
    | zero => exact absurd enough (Nat.not_succ_le_zero _)
    | succ bound =>
      obtain ⟨reached, inside⟩ := within item mem_cons_self
      have apart := pairwise_append.mp ascending
      have head := pairwise_cons.mp apart.2.1
      -- no other item has the place of the one that is deleted
      have deleted : Items.Delete (lower ++ (item :: rest ++ upper)) item =
          lower ++ (rest ++ upper) := by
        unfold Items.Delete
        rw [filter_append, cons_append,
          filter_cons_of_neg (by rw [decide_eq_true_iff]; exact not_not.mpr rfl)]
        congr 1
        · rw [filter_eq_self]
          intro other among
          exact decide_eq_true (apart.2.2 other among item mem_cons_self).ne
        · rw [filter_eq_self]
          intro other among
          exact decide_eq_true (head.1 other among).ne'
      rw [Items.removeBetween, getItemOrNext_append earlier, cons_append,
        getItemOrNext_cons reached]
      dsimp only
      rw [if_pos inside, ← cons_append, deleted]
      apply ih (Nat.le_of_succ_le_succ enough)
      · refine pairwise_append.mpr ⟨apart.1, head.2, ?_⟩
        intro one among two other
        exact apart.2.2 one among two (mem_cons_of_mem _ other)
      · intro other among
        exact within other (mem_cons_of_mem _ among)

end Loop

section Ends

variable {items lower upper : Items} {start stop : Int}

variable {place : Int}

theorem below_eq (earlier : ∀ item ∈ lower, item.1 < place)
    (later : ∀ item ∈ upper, place ≤ item.1) : below place (lower ++ upper) = lower := by
  unfold below
  rw [filter_append,
    filter_eq_self.mpr fun item among => decide_eq_true (earlier item among),
    filter_eq_nil_iff.mpr, append_nil]
  intro item among
  rw [decide_eq_true_iff]
  exact not_lt.mpr (later item among)

theorem above_eq (earlier : ∀ item ∈ lower, item.1 ≤ place)
    (later : ∀ item ∈ upper, place < item.1) : above place (lower ++ upper) = upper := by
  unfold above
  rw [filter_append,
    filter_eq_self.mpr fun item among => decide_eq_true (later item among),
    filter_eq_nil_iff.mpr, nil_append]
  intro item among
  rw [decide_eq_true_iff]
  exact not_lt.mpr (earlier item among)

theorem ReplaceOrInsert_eq {item : chunkStateItem} (earlier : ∀ other ∈ lower, other.1 < item.1)
    (later : ∀ other ∈ upper, item.1 < other.1) :
    Items.ReplaceOrInsert (lower ++ upper) item = lower ++ item :: upper := by
  unfold Items.ReplaceOrInsert
  rw [below_eq earlier fun other among => (later other among).le,
    above_eq (fun other among => (earlier other among).le) later]

theorem getItemOrPrev_eq (earlier : ∀ item ∈ lower, item.1 ≤ start)
    (later : ∀ item ∈ upper, start < item.1) :
    Items.getItemOrPrev (lower ++ upper) start = lower.getLast? := by
  unfold Items.getItemOrPrev
  rw [filter_append,
    filter_eq_self.mpr fun item among => decide_eq_true (earlier item among),
    filter_eq_nil_iff.mpr, append_nil]
  intro item among
  rw [decide_eq_true_iff]
  exact not_le.mpr (later item among)

theorem getItemOrNext_eq (earlier : ∀ item ∈ lower, item.1 < stop)
    (later : ∀ item ∈ upper, stop ≤ item.1) :
    Items.getItemOrNext (lower ++ upper) stop = upper.head? := by
  rw [getItemOrNext_append earlier]
  cases upper with
  | nil => rfl
  | cons item rest => exact getItemOrNext_cons (later item mem_cons_self)

theorem setStart_eq (earlier : ∀ item ∈ lower, item.1 < start)
    (later : ∀ item ∈ upper, start < item.1) :
    Items.setStart (lower ++ upper) start =
      lower ++ ((if lower.getLast?.elim false Prod.snd then [] else [(start, true)]) ++ upper) := by
  unfold Items.setStart
  rw [getItemOrPrev_eq (fun item among => (earlier item among).le) later]
  have inserted := @ReplaceOrInsert_eq lower upper (start, true) earlier later
  cases lower.getLast? with
  | none => exact inserted
  | some prev =>
    obtain ⟨offset, isUpdated⟩ := prev
    cases isUpdated with
    | false => exact inserted
    | true => rfl

theorem setEnd_eq (earlier : ∀ item ∈ lower, item.1 < stop)
    (later : ∀ item ∈ upper, stop < item.1) :
    Items.setEnd (lower ++ upper) stop =
      lower ++ ((if upper.head?.elim false fun item => !item.2 then [] else [(stop, false)]) ++
        upper) := by
  unfold Items.setEnd
  rw [getItemOrNext_eq earlier fun item among => (later item among).le]
  have inserted := @ReplaceOrInsert_eq lower upper (stop, false) earlier later
  cases upper.head? with
  | none => exact inserted
  | some next =>
    obtain ⟨offset, isUpdated⟩ := next
    cases isUpdated with
    | false => rfl
    | true => exact inserted

end Ends

namespace chunkState

variable {cs updated : chunkState} {start stop : Int}

def Records (cs : chunkState) (byte : Int) : Prop := covers false cs.items byte = true
  deriving Decidable

structure WellFormed (cs : chunkState) : Prop where
  ranges : Ranges cs.items
  within : ∀ byte, cs.Records byte → 0 ≤ byte ∧ byte < cs.fileSize

variable {range : Int × Int} (fileSize : Int)

theorem NewChunkState_wellFormed : (NewChunkState fileSize).WellFormed where
  ranges := .nil
  within _ records := nomatch records

theorem Update_eq (ranges : Ranges cs.items) (stands : cs.Update start stop = .ok updated) :
    0 ≤ start ∧ start < stop ∧ stop ≤ cs.fileSize ∧
      updated = {cs with items := add start stop cs.items} := by
  unfold Update at stands
  split_ifs at stands with negative long empty
  have ordered : start < stop := not_le.mp empty
  refine ⟨not_lt.mp negative, ordered, not_lt.mp long, ?_⟩
  obtain ⟨between, whole, within⟩ := ranges.ascending.parts ordered
  have lower : ∀ item ∈ below start cs.items, item.1 < start := fun _ among => mem_below among
  have upper : ∀ item ∈ above stop cs.items, stop < item.1 := fun _ among => mem_above among
  have removed : Items.removeBetween start stop cs.items.length cs.items =
      below start cs.items ++ above stop cs.items := by
    have enough : between.length ≤ cs.items.length := by
      have length := congrArg List.length whole
      rw [length_append, length_append] at length
      omega
    have ascending := ranges.ascending
    rw [whole] at ascending
    exact (congrArg (Items.removeBetween start stop cs.items.length) whole).trans
      (removeBetween_eq enough ascending lower within
        fun item among => ⟨(ordered.trans (upper item among)).le, upper item among⟩)
  -- the start is set first, and is then one of the items before the end
  have early : ∀ item ∈ below start cs.items ++
      (if (below start cs.items).getLast?.elim false Prod.snd then [] else [(start, true)]),
      item.1 < stop := by
    intro item among
    rcases mem_append.mp among with among | among
    · exact (lower item among).trans ordered
    · rw [mem_end among]
      exact ordered
  dsimp only at stands
  rw [removed, setStart_eq lower fun item among => ordered.trans (upper item among),
    ← append_assoc, setEnd_eq early upper, append_assoc] at stands
  exact (Except.ok.inj stands).symm

theorem Update_wellFormed (wellFormed : cs.WellFormed)
    (stands : cs.Update start stop = .ok updated) : updated.WellFormed := by
  obtain ⟨first, ordered, last, rfl⟩ := Update_eq wellFormed.ranges stands
  constructor
  · exact wellFormed.ranges.add ordered
  · intro byte records
    unfold Records at records
    rw [wellFormed.ranges.covers_add ordered, or_eq_true] at records
    rcases records with before | inside
    · exact wellFormed.within byte before
    · have range := of_decide_eq_true inside
      exact ⟨first.trans range.1, range.2.trans_le last⟩

theorem Update_records (ranges : Ranges cs.items) (stands : cs.Update start stop = .ok updated)
    {byte : Int} : updated.Records byte ↔ cs.Records byte ∨ start ≤ byte ∧ byte < stop := by
  obtain ⟨_, ordered, _, rfl⟩ := Update_eq ranges stands
  unfold Records
  rw [ranges.covers_add ordered, or_eq_true, decide_eq_true_iff]

theorem Update_ok (first : 0 ≤ start) (ordered : start < stop) (last : stop ≤ cs.fileSize) :
    ∃ updated, cs.Update start stop = .ok updated := by
  unfold Update
  rw [if_neg (not_lt.mpr first), if_neg (not_lt.mpr last), if_neg (not_le.mpr ordered)]
  exact ⟨_, rfl⟩

theorem IsCompleted_items : cs.IsCompleted = true ↔ cs.items = [(0, true), (cs.fileSize, false)] := by
  unfold IsCompleted
  constructor
  · intro completed
    split_ifs at completed with two
    obtain ⟨one, other, same⟩ := List.length_eq_two.mp (not_not.mp two)
    rw [same] at completed ⊢
    obtain ⟨head, last⟩ := of_decide_eq_true completed
    have first : one = (0, true) := Option.some.inj head
    have second : other = (cs.fileSize, false) := Option.some.inj last
    rw [first, second]
  · intro same
    rw [same]
    exact (if_neg (not_not.mpr rfl)).trans (decide_eq_true ⟨rfl, rfl⟩)

theorem IsCompleted_iff (wellFormed : cs.WellFormed) : cs.IsCompleted = true ↔
    0 < cs.fileSize ∧ ∀ byte, 0 ≤ byte → byte < cs.fileSize → cs.Records byte := by
  rw [IsCompleted_items, wellFormed.ranges.eq_single_iff]
  apply and_congr_right
  intro some
  apply forall_congr'
  intro byte
  constructor
  · intro same first last
    exact same.trans (decide_eq_true ⟨first, last⟩)
  · intro all
    by_cases inside : 0 ≤ byte ∧ byte < cs.fileSize
    · rw [decide_eq_true inside]
      exact all inside.1 inside.2
    · rw [decide_eq_false inside]
      apply eq_false_iff.mpr
      intro records
      exact inside (wellFormed.within byte records)

/-- The range is one that `Update` takes up. -/
def Accepted (fileSize : Int) (range : Int × Int) : Prop :=
  0 ≤ range.1 ∧ range.1 < range.2 ∧ range.2 ≤ fileSize

def InUnion (fileSize : Int) (ranges : List (Int × Int)) (byte : Int) : Prop :=
  ∃ range ∈ ranges, Accepted fileSize range ∧ range.1 ≤ byte ∧ byte < range.2

def called (cs : chunkState) (range : Int × Int) : chunkState :=
  match cs.Update range.1 range.2 with
  | .ok updated => updated
  | .error _ => cs

def calls (fileSize : Int) (ranges : List (Int × Int)) : chunkState :=
  ranges.foldl called (NewChunkState fileSize)

theorem Update_refused (refused : ¬Accepted cs.fileSize range) :
    ∃ message, cs.Update range.1 range.2 = .error message := by
  unfold Update
  split_ifs with negative long empty
  · exact ⟨_, rfl⟩
  · exact ⟨_, rfl⟩
  · exact ⟨_, rfl⟩
  · exact absurd ⟨not_lt.mp negative, not_le.mp empty, not_lt.mp long⟩ refused

theorem called_refused (refused : ¬Accepted cs.fileSize range) : cs.called range = cs := by
  obtain ⟨message, same⟩ := Update_refused refused
  unfold called
  rw [same]

theorem called_spec (wellFormed : cs.WellFormed) (range : Int × Int) :
    (cs.called range).WellFormed ∧ (cs.called range).fileSize = cs.fileSize ∧
      ∀ byte, (cs.called range).Records byte ↔ cs.Records byte ∨
        Accepted cs.fileSize range ∧ range.1 ≤ byte ∧ byte < range.2 := by
  by_cases accepted : Accepted cs.fileSize range
  · obtain ⟨updated, stands⟩ := Update_ok accepted.1 accepted.2.1 accepted.2.2
    have same : cs.called range = updated := by
      unfold called
      rw [stands]
    have size : updated.fileSize = cs.fileSize := by
      rw [(Update_eq wellFormed.ranges stands).2.2.2]
    rw [same]
    refine ⟨Update_wellFormed wellFormed stands, size, fun byte => ?_⟩
    simp [Update_records wellFormed.ranges stands, accepted]
  · rw [called_refused accepted]
    exact ⟨wellFormed, rfl, fun byte => by simp [accepted]⟩

theorem calls_spec (ranges : List (Int × Int)) :
    (calls fileSize ranges).WellFormed ∧ (calls fileSize ranges).fileSize = fileSize ∧
      ∀ byte, (calls fileSize ranges).Records byte ↔ InUnion fileSize ranges byte := by
  -- the last call comes on top of what all before it have done
  induction ranges using List.reverseRecOn with
  | nil =>
    refine ⟨NewChunkState_wellFormed fileSize, rfl, fun byte => ?_⟩
    exact iff_of_false nofun fun ⟨_, among, _⟩ => not_mem_nil among
  | append_singleton front range ih =>
    obtain ⟨wellFormed, size, records⟩ := ih
    have last : calls fileSize (front ++ [range]) = (calls fileSize front).called range := by
      unfold calls
      rw [foldl_append]
      rfl
    obtain ⟨kept, same, recorded⟩ := called_spec wellFormed range
    rw [last, size] at *
    refine ⟨kept, same, fun byte => ?_⟩
    rw [recorded, records]
    unfold InUnion
    simp [or_and_right, exists_or]

/-- Whatever the order of the calls, the items are the boundaries of the largest ranges in the
union. -/
theorem chunk_state_canonical {fileSize : Int} (some_bytes : 0 < fileSize)
    (ranges : List (Int × Int)) :
    Ascending (calls fileSize ranges).items ∧
      Toggles false (calls fileSize ranges).items false ∧
      (∃ intervals, (calls fileSize ranges).items = intervals.flatMap ends ∧ Apart intervals ∧
        ∀ low high, (low, high) ∈ intervals ↔ Maximal (InUnion fileSize ranges) low high) ∧
      (∀ range, ¬Accepted fileSize range →
        (∃ message, (calls fileSize ranges).Update range.1 range.2 = .error message) ∧
          calls fileSize (ranges ++ [range]) = calls fileSize ranges) ∧
      ((calls fileSize ranges).IsCompleted = true ↔
        ∀ byte, InUnion fileSize ranges byte ↔ 0 ≤ byte ∧ byte < fileSize) := by
  obtain ⟨wellFormed, size, records⟩ := calls_spec fileSize ranges
  refine ⟨wellFormed.ranges.ascending, wellFormed.ranges.closed, ?_, ?_, ?_⟩
  · obtain ⟨intervals, same, apart⟩ := wellFormed.ranges.exists_ranges
    have union : InUnion fileSize ranges =
        fun byte => ∃ range ∈ intervals, range.1 ≤ byte ∧ byte < range.2 := by
      funext byte
      rw [← records, Records, same, covers_ends apart]
    refine ⟨intervals, same, apart, fun low high => ?_⟩
    rw [union, apart.maximal_iff]
  · intro range refused
    rw [← size] at refused
    refine ⟨Update_refused refused, ?_⟩
    have last : calls fileSize (ranges ++ [range]) = (calls fileSize ranges).called range := by
      unfold calls
      rw [foldl_append]
      rfl
    rw [last, called_refused refused]
  · rw [IsCompleted_iff wellFormed, size]
    constructor
    · rintro ⟨_, all⟩ byte
      rw [← records]
      constructor
      · intro recorded
        have inside := wellFormed.within byte recorded
        rwa [size] at inside
      · rintro ⟨first, last⟩
        exact all byte first last
    · intro same
      refine ⟨some_bytes, fun byte first last => ?_⟩
      rw [records, same]
      exact ⟨first, last⟩

/-- Ranges that touch and one that is refused. -/
theorem chunk_state_canonical_merged :
    0 < (100 : Int) ∧ (calls 100 [(40, 50), (60, 70), (-1, 10), (50, 60)]).items =
      [(40, true), (70, false)] ∧
      Toggles false (calls 100 [(40, 50), (60, 70), (-1, 10), (50, 60)]).items false :=
  ⟨by decide, by decide, (chunk_state_canonical (by decide) _).2.1⟩

end chunkState

end Ika.UserArtifacts
