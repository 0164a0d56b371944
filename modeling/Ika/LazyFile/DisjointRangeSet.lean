import Mathlib.Algebra.Order.Ring.Int
import Mathlib.Data.List.Basic
import Mathlib.Data.List.TakeDrop

/-! A set of numbers as an ordered list of ranges that are apart. -/

set_option autoImplicit false

namespace Ika.LazyFile

open List

structure Range where
  start : Nat
  «end» : Nat
  deriving DecidableEq, Repr

namespace Range

variable (range other : Range)

def Contains : Bool := range.start ≤ other.start && other.end ≤ range.end

def CanMerge : Bool := range.start ≤ other.end && other.start ≤ range.end

def Merge : Range := ⟨min range.start other.start, max range.end other.end⟩

def isBefore : Bool :=
  range.start < other.start || (range.start = other.start && other.end < range.end)

def Has (number : Nat) : Prop := range.start ≤ number ∧ number < range.end
  deriving Decidable

end Range

abbrev DisjointRangeSet := List Range

namespace DisjointRangeSet

variable (ranges : DisjointRangeSet)

def upper_bound (range : Range) : List Range × List Range :=
  ranges.span fun other => !range.isBefore other

def ContainsRange (start «end» : Nat) : Bool :=
  let range : Range := ⟨start, «end»⟩
  -- the first range is looked at where all come after the given one
  match (ranges.upper_bound range).1.getLast?.or ranges.head? with
  | none => false
  | some found => found.Contains range

def mergeNext (new_range : Range) : List Range → Range × List Range
  | [] => (new_range, [])
  | next :: rest =>
    if new_range.CanMerge next then mergeNext (new_range.Merge next) rest
    else (new_range, next :: rest)

def InsertRange (start «end» : Nat) : DisjointRangeSet :=
  if ranges.ContainsRange start «end» then ranges
  else
    let (before, after) := ranges.upper_bound ⟨start, «end»⟩
    let (new_range, after) := mergeNext ⟨start, «end»⟩ after
    match before.getLast? with
    | none => new_range :: after
    | some previous =>
      if new_range.CanMerge previous then before.dropLast ++ new_range.Merge previous :: after
      else before ++ new_range :: after

/-- The end of the range that is tested may not be a number of 64 bits. -/
def EndOfContainingRange (start : Nat) : Option Nat :=
  let test : Range := ⟨start, (start + 1) % 2 ^ 64⟩
  match (ranges.upper_bound test).1.getLast? with
  | none => none
  | some found => if found.Contains test then some found.end else none

def reload : DisjointRangeSet :=
  ranges.foldl (fun set range => InsertRange set range.start range.end) []

def Covers (number : Nat) : Prop := ∃ range ∈ ranges, range.Has number
  deriving Decidable

variable {ranges} {number : Nat}

variable {before after : List Range} {new_range : Range}

theorem covers_append :
    Covers (before ++ after) number ↔ Covers before number ∨ Covers after number := by
  unfold Covers
  constructor
  · rintro ⟨range, listed, inside⟩
    rcases mem_append.mp listed with first | second
    · exact .inl ⟨range, first, inside⟩
    · exact .inr ⟨range, second, inside⟩
  · rintro (⟨range, listed, inside⟩ | ⟨range, listed, inside⟩)
    · exact ⟨range, mem_append_left _ listed, inside⟩
    · exact ⟨range, mem_append_right _ listed, inside⟩

theorem covers_cons {range : Range} {rest : List Range} :
    Covers (range :: rest) number ↔ range.Has number ∨ Covers rest number := by
  unfold Covers
  exact exists_mem_cons_iff _ _ _

theorem not_covers_nil : ¬Covers [] number := nofun

theorem upper_bound_append (range : Range) :
    (ranges.upper_bound range).1 ++ (ranges.upper_bound range).2 = ranges := by
  unfold upper_bound
  rw [span_eq_takeWhile_dropWhile]
  exact takeWhile_append_dropWhile

theorem merge_has {range other : Range} (may : range.CanMerge other = true) :
    (range.Merge other).Has number ↔ range.Has number ∨ other.Has number := by
  obtain ⟨below, above⟩ := Bool.and_eq_true_iff.mp may
  have touches := of_decide_eq_true below
  have reaches := of_decide_eq_true above
  unfold Range.Has Range.Merge
  dsimp only
  constructor
  · rintro ⟨low, high⟩
    by_cases own : range.start ≤ number ∧ number < range.end
    · exact .inl own
    · refine .inr ?_
      omega
  · rintro (⟨low, high⟩ | ⟨low, high⟩)
    · exact ⟨by omega, by omega⟩
    · exact ⟨by omega, by omega⟩

theorem mergeNext_spec :
    ((mergeNext new_range after).1.Has number ∨ Covers (mergeNext new_range after).2 number) ↔
      new_range.Has number ∨ Covers after number := by
  induction after generalizing new_range with
  | nil => exact Iff.rfl
  | cons next rest ih =>
    unfold mergeNext
    split_ifs with may
    · rw [ih, merge_has may, covers_cons, or_assoc]
    · exact Iff.rfl

theorem getLast?_append {previous : Range} (last : before.getLast? = some previous) :
    before.dropLast ++ [previous] = before := by
  exact dropLast_append_getLast? previous last

theorem ContainsRange_spec {start «end» : Nat} (contained : ranges.ContainsRange start «end» = true)
    (inside : start ≤ number ∧ number < «end») : ranges.Covers number := by
  unfold ContainsRange at contained
  dsimp only at contained
  split at contained
  · cases contained
  · rename_i found listed
    have member : found ∈ ranges := by
      rcases Option.or_eq_some_iff.mp listed with last | ⟨-, first⟩
      · rw [← ranges.upper_bound_append ⟨start, «end»⟩]
        exact mem_append_left _ (mem_of_getLast? last)
      · exact mem_of_head? first
    obtain ⟨low, high⟩ := Bool.and_eq_true_iff.mp contained
    have low := of_decide_eq_true low
    have high := of_decide_eq_true high
    dsimp only at low high
    exact ⟨found, member, by omega, by omega⟩

theorem covers_merged :
    Covers (match before.getLast? with
      | none => new_range :: after
      | some previous =>
        if new_range.CanMerge previous then before.dropLast ++ new_range.Merge previous :: after
        else before ++ new_range :: after) number ↔
      Covers before number ∨ new_range.Has number ∨ Covers after number := by
  split
  · rename_i none
    rw [List.getLast?_eq_none_iff.mp none, covers_cons]
    exact ⟨.inr, fun covered => covered.resolve_left not_covers_nil⟩
  · rename_i previous last
    split_ifs with may
    · have parts : Covers before number ↔
          Covers before.dropLast number ∨ previous.Has number := by
        conv_lhs => rw [← getLast?_append last, covers_append, covers_cons]
        exact or_congr Iff.rfl (or_iff_left not_covers_nil)
      rw [covers_append, covers_cons, merge_has may, parts, or_assoc, or_assoc]
      exact or_congr Iff.rfl or_left_comm
    · rw [covers_append, covers_cons]

theorem covers_InsertRange {start «end» : Nat} :
    (ranges.InsertRange start «end»).Covers number ↔
      ranges.Covers number ∨ start ≤ number ∧ number < «end» := by
  unfold InsertRange
  split_ifs with contained
  · exact ⟨.inl, fun covered => covered.elim id (ContainsRange_spec contained)⟩
  · calc
      _ ↔ Covers (ranges.upper_bound ⟨start, «end»⟩).1 number ∨
          Range.Has ⟨start, «end»⟩ number ∨
          Covers (ranges.upper_bound ⟨start, «end»⟩).2 number :=
        covers_merged.trans (or_congr Iff.rfl mergeNext_spec)
      _ ↔ ranges.Covers number ∨ Range.Has ⟨start, «end»⟩ number := by
        conv_rhs => rw [← ranges.upper_bound_append ⟨start, «end»⟩, covers_append]
        rw [or_assoc]
        exact or_congr Iff.rfl or_comm

theorem EndOfContainingRange_spec {start «end» : Nat} (fits : start + 1 < 2 ^ 64)
    (found : ranges.EndOfContainingRange start = some «end») :
    start < «end» ∧ ∀ number, start ≤ number → number < «end» → ranges.Covers number := by
  unfold EndOfContainingRange at found
  rw [Nat.mod_eq_of_lt fits] at found
  dsimp only at found
  split at found
  · cases found
  · rename_i range last
    split_ifs at found with contains
    cases found
    have member : range ∈ ranges := by
      rw [← ranges.upper_bound_append ⟨start, start + 1⟩]
      exact mem_append_left _ (mem_of_getLast? last)
    obtain ⟨low, high⟩ := Bool.and_eq_true_iff.mp contains
    have low := of_decide_eq_true low
    have high := of_decide_eq_true high
    dsimp only at low high
    exact ⟨by omega, fun number above below => ⟨range, member, by omega, below⟩⟩

theorem covers_reload : ranges.reload.Covers number ↔ ranges.Covers number := by
  have stepwise : ∀ written : List Range, ∀ set : DisjointRangeSet,
      (written.foldl (fun set range => InsertRange set range.start range.end) set).Covers number ↔
        set.Covers number ∨ Covers written number := by
    intro written
    induction written with
    | nil => exact fun set => ⟨.inl, fun covered => covered.resolve_right not_covers_nil⟩
    | cons range rest ih =>
      intro set
      rw [foldl_cons, ih, covers_InsertRange, covers_cons, or_assoc]
      exact Iff.rfl
  exact (stepwise ranges []).trans (or_iff_right not_covers_nil)

end DisjointRangeSet

end Ika.LazyFile
