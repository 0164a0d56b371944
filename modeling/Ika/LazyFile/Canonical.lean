import Ika.LazyFile.DisjointRangeSet
import Mathlib.Data.List.TakeWhile

/-! The ranges of a set are the maximal intervals of what was inserted.

They are kept apart: each ends before the next one starts, with a number between them.
-/

set_option autoImplicit false

namespace Ika.LazyFile

open List

/-! ## Ranges that are apart -/

/-- An interval of the set that no number next to it belongs to. -/
structure Maximal (S : Nat → Prop) (range : Range) : Prop where
  nonempty : range.start < range.end
  inside : ∀ number, range.Has number → S number
  above : ¬ S range.end
  below : ∀ number, number + 1 = range.start → ¬ S number

namespace DisjointRangeSet

structure Apart (ranges : DisjointRangeSet) : Prop where
  ordered : ∀ range ∈ ranges, range.start ≤ range.end
  apart : ranges.Pairwise fun range next => range.end < next.start

variable {ranges : DisjointRangeSet}

theorem Apart.nil : Apart [] := ⟨nofun, .nil⟩

variable {before after : List Range} {number : Nat}

theorem Apart.sides (apart : Apart (before ++ after)) :
    Apart before ∧ Apart after ∧
      ∀ range ∈ before, ∀ next ∈ after, range.end < next.start := by
  obtain ⟨first, second, across⟩ := pairwise_append.mp apart.apart
  exact ⟨⟨fun range listed => apart.ordered range (mem_append_left _ listed), first⟩,
    ⟨fun range listed => apart.ordered range (mem_append_right _ listed), second⟩, across⟩

theorem Apart.join (first : Apart before) (second : Apart after)
    (across : ∀ range ∈ before, ∀ next ∈ after, range.end < next.start) :
    Apart (before ++ after) where
  ordered range listed := by
    rcases mem_append.mp listed with listed | listed
    · exact first.ordered range listed
    · exact second.ordered range listed
  apart := pairwise_append.mpr ⟨first.apart, second.apart, across⟩

theorem Apart.cons {range : Range} {after : List Range} (ordered : range.start ≤ range.end)
    (apart : Apart after) (across : ∀ next ∈ after, range.end < next.start) :
    Apart (range :: after) where
  ordered other listed := by
    rcases mem_cons.mp listed with rfl | listed
    · exact ordered
    · exact apart.ordered other listed
  apart := pairwise_cons.mpr ⟨across, apart.apart⟩

theorem Apart.not_covers_beside (apart : Apart ranges) {range : Range} (listed : range ∈ ranges)
    (beside : number + 1 = range.start ∨ number = range.end) : ¬ ranges.Covers number := by
  obtain ⟨before, after, rfl⟩ := append_of_mem listed
  obtain ⟨-, rest, across⟩ := apart.sides
  have ordered := apart.ordered range listed
  rw [covers_append, covers_cons]
  rintro (⟨other, earlier, inside⟩ | inside | ⟨other, later, inside⟩)
  · have := across other earlier range (mem_cons_self ..)
    unfold Range.Has at inside
    omega
  · unfold Range.Has at inside
    omega
  · have := (pairwise_cons.mp rest.apart).1 other later
    unfold Range.Has at inside
    omega

theorem mem_iff_maximal (apart : Apart ranges)
    (nonempty : ∀ range ∈ ranges, range.start < range.end) (range : Range) :
    range ∈ ranges ↔ Maximal ranges.Covers range := by
  constructor
  · intro listed
    exact ⟨nonempty range listed, fun number inside => ⟨range, listed, inside⟩,
      apart.not_covers_beside listed (.inr rfl),
      fun _ before => apart.not_covers_beside listed (.inl before)⟩
  · intro maximal
    obtain ⟨other, listed, low, high⟩ := maximal.inside range.start ⟨Nat.le_refl _, maximal.nonempty⟩
    -- the range that the start is in starts and ends with it
    have starts : other.start = range.start := by
      by_contra different
      exact maximal.below (range.start - 1) (by omega) ⟨other, listed, by omega, by omega⟩
    have ends : other.end = range.end := by
      rcases Nat.lt_trichotomy other.end range.end with shorter | same | longer
      · exact absurd (maximal.inside other.end ⟨by omega, shorter⟩)
          (apart.not_covers_beside listed (.inr rfl))
      · exact same
      · have := maximal.nonempty
        exact absurd ⟨other, listed, by omega, longer⟩ maximal.above
    have same : other = range := by
      obtain ⟨_, _⟩ := other
      obtain ⟨_, _⟩ := range
      cases starts
      cases ends
      rfl
    rwa [← same]

theorem eq_of_covers {first second : List Range} (apart : Apart first) (apart' : Apart second)
    (nonempty : ∀ range ∈ first, range.start < range.end)
    (nonempty' : ∀ range ∈ second, range.start < range.end)
    (covers : ∀ number, Covers first number ↔ Covers second number) : first = second := by
  have same : Covers first = Covers second := by
    funext number
    exact propext (covers number)
  have members (range : Range) : range ∈ first ↔ range ∈ second := by
    rw [mem_iff_maximal apart nonempty, mem_iff_maximal apart' nonempty', same]
  have distinct {ranges : List Range} (apart : Apart ranges)
      (nonempty : ∀ range ∈ ranges, range.start < range.end) : ranges.Nodup := by
    refine apart.apart.imp_of_mem fun {range next} listed _ after same => ?_
    subst same
    have := nonempty range listed
    omega
  apply Perm.eq_of_pairwise ?_ apart.apart apart'.apart
  · exact (perm_ext_iff_of_nodup (distinct apart nonempty) (distinct apart' nonempty')).mpr
      members
  · intro range other listed listed' after before
    have := nonempty range listed
    have := nonempty' other listed'
    omega

/-! ## Insertion -/

section Sides

variable {range : Range}

theorem Apart.upper_bound (apart : Apart ranges) :
    (∀ other ∈ (ranges.upper_bound range).1, other.start ≤ range.start) ∧
      ∀ other ∈ (ranges.upper_bound range).2, range.start ≤ other.start := by
  unfold DisjointRangeSet.upper_bound
  rw [span_eq_takeWhile_dropWhile]
  induction ranges with
  | nil => exact ⟨nofun, nofun⟩
  | cons first rest ih =>
    have split := pairwise_cons.mp apart.apart
    have ordered := apart.ordered first (mem_cons_self ..)
    have later := ih ⟨fun other listed => apart.ordered other (mem_cons_of_mem _ listed), split.2⟩
    by_cases before : range.isBefore first = true
    · rw [takeWhile_cons_of_neg (by simp [before]), dropWhile_cons_of_neg (by simp [before])]
      refine ⟨nofun, ?_⟩
      have starts : range.start ≤ first.start := by
        unfold Range.isBefore at before
        simp only [Bool.or_eq_true, Bool.and_eq_true, decide_eq_true_eq] at before
        omega
      intro other listed
      rcases mem_cons.mp listed with rfl | listed
      · exact starts
      · have := split.1 other listed
        omega
    · rw [takeWhile_cons_of_pos (by simp [before]), dropWhile_cons_of_pos (by simp [before])]
      refine ⟨?_, later.2⟩
      intro other listed
      rcases mem_cons.mp listed with rfl | listed
      · unfold Range.isBefore at before
        simp only [Bool.or_eq_true, Bool.and_eq_true, decide_eq_true_eq] at before
        omega
      · exact later.1 other listed

end Sides

theorem Apart.mergeNext {after : List Range} (apart : Apart after) {new_range : Range}
    (ordered : new_range.start ≤ new_range.end)
    (starts : ∀ next ∈ after, new_range.start ≤ next.start) :
    (mergeNext new_range after).1.start = new_range.start ∧
      new_range.end ≤ (mergeNext new_range after).1.end ∧
      (∀ next ∈ (mergeNext new_range after).2, (mergeNext new_range after).1.end < next.start) ∧
      (mergeNext new_range after).2 <:+ after := by
  induction after generalizing new_range with
  | nil => exact ⟨rfl, Nat.le_refl _, nofun, suffix_rfl⟩
  | cons next rest ih =>
    have split := pairwise_cons.mp apart.apart
    have proper := apart.ordered next (mem_cons_self ..)
    have first := starts next (mem_cons_self ..)
    have tail : Apart rest :=
      ⟨fun other listed => apart.ordered other (mem_cons_of_mem _ listed), split.2⟩
    unfold DisjointRangeSet.mergeNext
    split_ifs with may
    · have begins : (new_range.Merge next).start = new_range.start := Nat.min_eq_left first
      have ends : (new_range.Merge next).end = max new_range.end next.end := rfl
      have later : ∀ other ∈ rest, (new_range.Merge next).start ≤ other.start := by
        intro other listed
        have := split.1 other listed
        omega
      obtain ⟨same, grown, beyond, left⟩ := ih tail (by omega) later
      exact ⟨same.trans begins, by omega, beyond, left.trans (suffix_cons _ _)⟩
    · refine ⟨rfl, Nat.le_refl _, ?_, suffix_rfl⟩
      have gap : new_range.end < next.start := by
        unfold Range.CanMerge at may
        simp only [Bool.and_eq_true, decide_eq_true_eq] at may
        omega
      intro other listed
      change new_range.end < other.start
      rcases mem_cons.mp listed with rfl | listed
      · exact gap
      · have := split.1 other listed
        omega

theorem Apart.merged {new_range : Range} (first : Apart before) (second : Apart after)
    (across : ∀ range ∈ before, ∀ next ∈ after, range.end < next.start)
    (ordered : new_range.start ≤ new_range.end)
    (lower : ∀ range ∈ before, range.start ≤ new_range.start)
    (beyond : ∀ next ∈ after, new_range.end < next.start) :
    Apart (match before.getLast? with
      | none => new_range :: after
      | some previous =>
        if new_range.CanMerge previous then before.dropLast ++ new_range.Merge previous :: after
        else before ++ new_range :: after) := by
  split
  · exact .cons ordered second beyond
  · rename_i previous last
    have parts := getLast?_append last
    have earlier := lower previous (mem_of_getLast? last)
    have proper := first.ordered previous (mem_of_getLast? last)
    have toRest := across previous (mem_of_getLast? last)
    have split := first
    rw [← parts] at split
    obtain ⟨front, -, toLast⟩ := split.sides
    split_ifs with may
    · have begins : (new_range.Merge previous).start = previous.start := Nat.min_eq_right earlier
      have ends : (new_range.Merge previous).end = max new_range.end previous.end := rfl
      apply front.join
      · apply Apart.cons (by omega) second
        intro next listed
        have := beyond next listed
        have := toRest next listed
        omega
      · intro range inFront next listed
        have here := toLast range inFront previous (mem_singleton_self _)
        rcases mem_cons.mp listed with rfl | listed
        · omega
        · have := toRest next listed
          omega
    · have gap : previous.end < new_range.start := by
        unfold Range.CanMerge at may
        simp only [Bool.and_eq_true, decide_eq_true_eq] at may
        omega
      apply first.join (.cons ordered second beyond)
      intro range inBefore next listed
      have here : range.end < new_range.start := by
        rw [← parts] at inBefore
        rcases mem_append.mp inBefore with inFront | isLast
        · have := toLast range inFront previous (mem_singleton_self _)
          omega
        · rw [mem_singleton.mp isLast]
          exact gap
      rcases mem_cons.mp listed with rfl | listed
      · exact here
      · have := beyond next listed
        omega

theorem Apart.InsertRange (apart : Apart ranges) {start «end» : Nat} (ordered : start ≤ «end») :
    Apart (ranges.InsertRange start «end») := by
  unfold DisjointRangeSet.InsertRange
  split_ifs with contained
  · exact apart
  · obtain ⟨lower, upper⟩ := @Apart.upper_bound _ ⟨start, «end»⟩ apart
    have split := apart
    rw [← ranges.upper_bound_append ⟨start, «end»⟩] at split
    obtain ⟨first, second, across⟩ := split.sides
    obtain ⟨same, grown, beyond, left⟩ := @Apart.mergeNext _ second ⟨start, «end»⟩ ordered upper
    have tail : Apart (DisjointRangeSet.mergeNext ⟨start, «end»⟩
        (ranges.upper_bound ⟨start, «end»⟩).2).2 := by
      obtain ⟨skipped, parts⟩ := left
      rw [← parts] at second
      exact second.sides.2.1
    dsimp only at same grown lower ⊢
    apply first.merged tail
    · exact fun range listed next behind => across range listed next (left.mem behind)
    · omega
    · exact fun range listed => Nat.le_trans (lower range listed) (Nat.le_of_eq same.symm)
    · exact beyond

theorem nonempty_mergeNext {after : List Range} {new_range : Range}
    (proper : new_range.start < new_range.end) (nonempty : ∀ range ∈ after, range.start < range.end) :
    (mergeNext new_range after).1.start < (mergeNext new_range after).1.end ∧
      ∀ range ∈ (mergeNext new_range after).2, range.start < range.end := by
  induction after generalizing new_range with
  | nil => exact ⟨proper, nofun⟩
  | cons next rest ih =>
    unfold mergeNext
    split_ifs with may
    · have ends : (new_range.Merge next).end = max new_range.end next.end := rfl
      have begins : (new_range.Merge next).start = min new_range.start next.start := rfl
      exact ih (by omega) fun range listed => nonempty range (mem_cons_of_mem _ listed)
    · exact ⟨proper, nonempty⟩

theorem nonempty_InsertRange (nonempty : ∀ range ∈ ranges, range.start < range.end)
    {start «end» : Nat} (proper : start < «end») :
    ∀ range ∈ ranges.InsertRange start «end», range.start < range.end := by
  unfold InsertRange
  split_ifs with contained
  · exact nonempty
  · have parts := ranges.upper_bound_append ⟨start, «end»⟩
    have first : ∀ range ∈ (ranges.upper_bound ⟨start, «end»⟩).1, range.start < range.end :=
      fun range listed => nonempty range (parts ▸ mem_append_left _ listed)
    have second : ∀ range ∈ (ranges.upper_bound ⟨start, «end»⟩).2, range.start < range.end :=
      fun range listed => nonempty range (parts ▸ mem_append_right _ listed)
    obtain ⟨own, rest⟩ := @nonempty_mergeNext _ ⟨start, «end»⟩ proper second
    dsimp only
    split
    · intro range listed
      rcases mem_cons.mp listed with rfl | listed
      · exact own
      · exact rest range listed
    · rename_i previous last
      have before := first previous (mem_of_getLast? last)
      split_ifs with may
      · intro range listed
        rcases mem_append.mp listed with front | listed
        · exact first range (dropLast_subset _ front)
        · rcases mem_cons.mp listed with rfl | listed
          · unfold Range.Merge
            dsimp only
            omega
          · exact rest range listed
      · intro range listed
        rcases mem_append.mp listed with front | listed
        · exact first range front
        · rcases mem_cons.mp listed with rfl | listed
          · exact own
          · exact rest range listed

/-! ## What is found -/

theorem Apart.getLast?_upper_bound (apart : Apart ranges) {range : Range} (listed : range ∈ ranges)
    {start «end» : Nat} (proper : start < «end») (low : range.start ≤ start)
    (high : «end» ≤ range.end) : (ranges.upper_bound ⟨start, «end»⟩).1.getLast? = some range := by
  obtain ⟨front, back, rfl⟩ := append_of_mem listed
  obtain ⟨-, rest, across⟩ := apart.sides
  have upTo : ∀ other ∈ front ++ [range], (!Range.isBefore ⟨start, «end»⟩ other) = true := by
    intro other here
    have starts : other.start < start ∨ other.start = start ∧ «end» ≤ other.end := by
      rcases mem_append.mp here with inFront | same
      · have := across other inFront range (mem_cons_self ..)
        have := apart.ordered other (mem_append_left _ inFront)
        omega
      · rw [mem_singleton.mp same]
        omega
    rw [Bool.not_eq_true', Bool.eq_false_iff]
    intro before
    unfold Range.isBefore at before
    simp only [Bool.or_eq_true, Bool.and_eq_true, decide_eq_true_eq] at before
    omega
  have behind : back.takeWhile (fun other => !Range.isBefore ⟨start, «end»⟩ other) = [] := by
    cases back with
    | nil => rfl
    | cons next later =>
      have gap := (pairwise_cons.mp rest.apart).1 next (mem_cons_self ..)
      apply takeWhile_cons_of_neg
      unfold Range.isBefore
      simp only [Bool.not_eq_true', Bool.not_eq_false, Bool.or_eq_true, Bool.and_eq_true,
        decide_eq_true_eq]
      omega
  unfold DisjointRangeSet.upper_bound
  rw [span_eq_takeWhile_dropWhile, ← singleton_append, ← append_assoc,
    takeWhile_append_of_pos upTo, behind, append_nil, List.getLast?_append]
  rfl

theorem Apart.containing (apart : Apart ranges) {start «end» : Nat} (proper : start < «end»)
    (covers : ∀ number, start ≤ number → number < «end» → ranges.Covers number) :
    ∃ range ∈ ranges, range.start ≤ start ∧ «end» ≤ range.end := by
  obtain ⟨range, listed, low, high⟩ := covers start (Nat.le_refl _) proper
  refine ⟨range, listed, low, ?_⟩
  by_contra short
  exact apart.not_covers_beside listed (.inr rfl) (covers range.end (by omega) (by omega))

theorem Apart.ContainsRange_iff (apart : Apart ranges) {start «end» : Nat} (proper : start < «end») :
    ranges.ContainsRange start «end» = true ↔
      ∀ number, start ≤ number → number < «end» → ranges.Covers number := by
  constructor
  · exact fun contained number low high => ContainsRange_spec contained ⟨low, high⟩
  · intro covers
    obtain ⟨range, listed, low, high⟩ := apart.containing proper covers
    unfold ContainsRange
    dsimp only
    rw [apart.getLast?_upper_bound listed proper low high, Option.some_or]
    exact Bool.and_eq_true_iff.mpr ⟨decide_eq_true low, decide_eq_true high⟩

theorem Apart.EndOfContainingRange_iff (apart : Apart ranges) (fits : number + 1 < 2 ^ 64)
    («end» : Nat) :
    ranges.EndOfContainingRange number = some «end» ↔
      ∃ range ∈ ranges, range.Has number ∧ range.end = «end» := by
  unfold EndOfContainingRange
  rw [Nat.mod_eq_of_lt fits]
  dsimp only
  constructor
  · intro found
    split at found
    · cases found
    · rename_i range last
      split_ifs at found with contains
      cases found
      obtain ⟨low, high⟩ := Bool.and_eq_true_iff.mp contains
      refine ⟨range, ?_, ⟨of_decide_eq_true low, of_decide_eq_true high⟩, rfl⟩
      rw [← ranges.upper_bound_append ⟨number, number + 1⟩]
      exact mem_append_left _ (mem_of_getLast? last)
  · rintro ⟨range, listed, ⟨low, high⟩, rfl⟩
    rw [apart.getLast?_upper_bound listed (Nat.lt_succ_self _) low high]
    exact if_pos (Bool.and_eq_true_iff.mpr ⟨decide_eq_true low, decide_eq_true high⟩)

end DisjointRangeSet

/-! ## Sequences of insertions -/

open DisjointRangeSet

def inserts (inserted : List (Nat × Nat)) : DisjointRangeSet :=
  inserted.foldl (fun set range => set.InsertRange range.1 range.2) []

def Inserted (inserted : List (Nat × Nat)) (number : Nat) : Prop :=
  ∃ range ∈ inserted, range.1 ≤ number ∧ number < range.2

theorem inserts_from (set : DisjointRangeSet) (inserted : List (Nat × Nat)) (apart : set.Apart)
    (ordered : ∀ range ∈ inserted, range.1 ≤ range.2) :
    Apart (inserted.foldl (fun set range => set.InsertRange range.1 range.2) set) ∧
      ∀ number, Covers (inserted.foldl (fun set range => set.InsertRange range.1 range.2) set)
        number ↔ set.Covers number ∨ Inserted inserted number := by
  induction inserted generalizing set with
  | nil => exact ⟨apart, fun number => (or_iff_left nofun).symm⟩
  | cons range rest ih =>
    have own := ordered range (mem_cons_self ..)
    obtain ⟨stays, covers⟩ := ih _ (apart.InsertRange own) fun other listed =>
      ordered other (mem_cons_of_mem _ listed)
    refine ⟨stays, fun number => ?_⟩
    rw [foldl_cons, covers, covers_InsertRange, or_assoc]
    refine or_congr Iff.rfl ?_
    exact (exists_mem_cons_iff (fun range : Nat × Nat => range.1 ≤ number ∧ number < range.2)
      range rest).symm

variable {inserted : List (Nat × Nat)}

theorem apart_inserts (ordered : ∀ range ∈ inserted, range.1 ≤ range.2) :
    Apart (inserts inserted) :=
  (inserts_from [] inserted .nil ordered).1

theorem covers_inserts (ordered : ∀ range ∈ inserted, range.1 ≤ range.2) :
    Covers (inserts inserted) = Inserted inserted := by
  funext number
  exact propext (((inserts_from [] inserted .nil ordered).2 number).trans
    (or_iff_right not_covers_nil))

theorem nonempty_inserts (proper : ∀ range ∈ inserted, range.1 < range.2) :
    ∀ range ∈ inserts inserted, range.start < range.end := by
  have keep (set : DisjointRangeSet) (nonempty : ∀ range ∈ set, range.start < range.end) :
      ∀ range ∈ inserted.foldl (fun set range => set.InsertRange range.1 range.2) set,
        range.start < range.end := by
    induction inserted generalizing set with
    | nil => exact nonempty
    | cons range rest ih =>
      exact ih (fun other listed => proper other (mem_cons_of_mem _ listed)) _
        (nonempty_InsertRange nonempty (proper range (mem_cons_self ..)))
  exact keep [] nofun

/-! ## Serialization -/

def Serialize (range_set : DisjointRangeSet) : List (Nat × Nat) :=
  range_set.map fun range => (range.start, range.end)

/-- The process aborts where the check at the beginning of `InsertRange` fails. -/
def checkedInsertRange (set : DisjointRangeSet) (range : Nat × Nat) : Option DisjointRangeSet :=
  if range.1 ≤ range.2 then some (set.InsertRange range.1 range.2) else none

def DeserializeDisjointRangeSet (members : List (Nat × Nat)) : Option DisjointRangeSet :=
  members.foldlM checkedInsertRange []

theorem deserialize_from (set : DisjointRangeSet) (members : List (Nat × Nat)) :
    members.foldlM checkedInsertRange set =
      if ∀ range ∈ members, range.1 ≤ range.2 then
        some (members.foldl (fun set range => set.InsertRange range.1 range.2) set)
      else none := by
  induction members generalizing set with
  | nil => exact (if_pos nofun).symm
  | cons range rest ih =>
    rw [foldlM_cons, checkedInsertRange]
    by_cases own : range.1 ≤ range.2
    · rw [if_pos own, Option.bind_eq_bind, Option.bind_some, ih]
      simp only [forall_mem_cons, own, true_and, foldl_cons]
    · rw [if_neg own, if_neg fun all => own (all range (mem_cons_self ..))]
      rfl

theorem deserialize_eq (members : List (Nat × Nat)) :
    DeserializeDisjointRangeSet members =
      if ∀ range ∈ members, range.1 ≤ range.2 then some (inserts members) else none :=
  deserialize_from [] members

theorem deserialize_serialize {ranges : DisjointRangeSet} (apart : Apart ranges)
    (nonempty : ∀ range ∈ ranges, range.start < range.end) :
    DeserializeDisjointRangeSet (Serialize ranges) = some ranges := by
  have proper : ∀ range ∈ Serialize ranges, range.1 < range.2 := by
    intro pair listed
    obtain ⟨range, here, rfl⟩ := mem_map.mp listed
    exact nonempty range here
  have ordered : ∀ range ∈ Serialize ranges, range.1 ≤ range.2 := fun range listed =>
    Nat.le_of_lt (proper range listed)
  have same : inserts (Serialize ranges) = ranges := by
    apply eq_of_covers (apart_inserts ordered) apart (nonempty_inserts proper) nonempty
    intro number
    rw [covers_inserts ordered]
    constructor
    · rintro ⟨pair, listed, inside⟩
      obtain ⟨range, here, rfl⟩ := mem_map.mp listed
      exact ⟨range, here, inside⟩
    · rintro ⟨range, listed, inside⟩
      exact ⟨_, mem_map_of_mem listed, inside⟩
  rw [deserialize_eq, if_pos ordered, same]

/-! ## The union -/

/-- The set is the union of what was inserted, also where it is asked about the number. -/
structure DenotesUnion (inserted : List (Nat × Nat)) (number : Nat) : Prop where
  sorted : (inserts inserted).Pairwise fun range next => range.end < next.start
  maximal : ∀ range, range ∈ inserts inserted ↔ Maximal (Inserted inserted) range
  order : ∀ other : List (Nat × Nat), (∀ range ∈ other, range.1 < range.2) →
    (∀ number, Inserted other number ↔ Inserted inserted number) →
    inserts other = inserts inserted
  contains : ∀ start «end», start < «end» →
    ((inserts inserted).ContainsRange start «end» = true ↔
      ∀ number, start ≤ number → number < «end» → Inserted inserted number)
  endOf : ∀ «end», (inserts inserted).EndOfContainingRange number = some «end» ↔
    ∃ range, Maximal (Inserted inserted) range ∧ range.Has number ∧ range.end = «end»
  serialized : DeserializeDisjointRangeSet (Serialize (inserts inserted)) = some (inserts inserted)

theorem union_denoted {inserted : List (Nat × Nat)} (proper : ∀ range ∈ inserted, range.1 < range.2)
    {number : Nat} (fits : number + 1 < 2 ^ 64) : DenotesUnion inserted number := by
  have ordered (other : List (Nat × Nat)) (proper : ∀ range ∈ other, range.1 < range.2) :
      ∀ range ∈ other, range.1 ≤ range.2 := fun range listed => Nat.le_of_lt (proper range listed)
  have apart := apart_inserts (ordered inserted proper)
  have nonempty := nonempty_inserts proper
  have covers := covers_inserts (ordered inserted proper)
  have maximal := mem_iff_maximal apart nonempty
  rw [covers] at maximal
  exact
    { sorted := apart.apart
      maximal := maximal
      order := by
        intro other proper' same
        apply eq_of_covers (apart_inserts (ordered other proper')) apart (nonempty_inserts proper')
          nonempty
        intro number
        rw [covers, covers_inserts (ordered other proper')]
        exact same number
      contains := by
        intro start «end» proper
        rw [apart.ContainsRange_iff proper, covers]
      endOf := by
        intro «end»
        rw [apart.EndOfContainingRange_iff fits]
        constructor
        · rintro ⟨range, listed, found⟩
          exact ⟨range, (maximal range).mp listed, found⟩
        · rintro ⟨range, listed, found⟩
          exact ⟨range, (maximal range).mpr listed, found⟩
      serialized := deserialize_serialize apart nonempty}

/-- At the largest number the range that is tested is taken for one that ends at zero. -/
theorem EndOfContainingRange_last {ranges : DisjointRangeSet} (present : ranges ≠ [])
    (values : ∀ range ∈ ranges, range.start < range.end ∧ range.end < 2 ^ 64) :
    ∃ «end», ranges.EndOfContainingRange (2 ^ 64 - 1) = some «end» := by
  have upTo : ∀ other ∈ ranges, (!Range.isBefore ⟨2 ^ 64 - 1, 0⟩ other) = true := by
    intro other listed
    have := values other listed
    rw [Bool.not_eq_true', Bool.eq_false_iff]
    intro before
    unfold Range.isBefore at before
    simp only [Bool.or_eq_true, Bool.and_eq_true, decide_eq_true_eq] at before
    omega
  have before : (ranges.upper_bound ⟨2 ^ 64 - 1, 0⟩).1 = ranges := by
    unfold DisjointRangeSet.upper_bound
    rw [span_eq_takeWhile_dropWhile]
    exact takeWhile_eq_self_iff.mpr upTo
  have isLast := getLast?_eq_some_getLast present
  generalize ranges.getLast present = last at isLast
  have bounds := values last (mem_of_getLast? isLast)
  have low : last.start ≤ 2 ^ 64 - 1 := by omega
  refine ⟨last.end, ?_⟩
  change (match (ranges.upper_bound ⟨2 ^ 64 - 1, 0⟩).1.getLast? with
    | none => none
    | some found => if found.Contains ⟨2 ^ 64 - 1, 0⟩ then some found.end else none) = _
  rw [before, isLast]
  apply if_pos
  exact Bool.and_eq_true_iff.mpr ⟨decide_eq_true low, decide_eq_true (Nat.zero_le _)⟩

theorem union_denoted_iff {inserted : List (Nat × Nat)}
    (values : ∀ range ∈ inserted, range.1 < range.2 ∧ range.2 < 2 ^ 64) {number : Nat}
    (bounded : number < 2 ^ 64) :
    DenotesUnion inserted number ↔ number + 1 < 2 ^ 64 ∨ inserted = [] := by
  have proper : ∀ range ∈ inserted, range.1 < range.2 := fun range listed => (values range listed).1
  constructor
  · intro denotes
    by_contra neither
    obtain ⟨last, present⟩ := not_or.mp neither
    have number_eq : number = 2 ^ 64 - 1 := by omega
    subst number_eq
    have outside : ¬ Inserted inserted (2 ^ 64 - 1) := by
      rintro ⟨range, listed, low, high⟩
      have := (values range listed).2
      omega
    have within : ∀ range ∈ inserts inserted, range.start < range.end ∧ range.end < 2 ^ 64 := by
      intro range listed
      have maximal := (denotes.maximal range).mp listed
      have first := maximal.nonempty
      obtain ⟨other, listed', low, high⟩ := maximal.inside (range.end - 1) ⟨by omega, by omega⟩
      have := (values other listed').2
      exact ⟨first, by omega⟩
    have some : inserts inserted ≠ [] := by
      intro none
      obtain ⟨range, listed⟩ := exists_mem_of_ne_nil _ present
      have covers := covers_inserts fun range listed => Nat.le_of_lt (proper range listed)
      have inside : Inserted inserted range.1 := ⟨range, listed, Nat.le_refl _, proper range listed⟩
      rw [← covers, none] at inside
      exact not_covers_nil inside
    obtain ⟨«end», found⟩ := EndOfContainingRange_last some within
    obtain ⟨range, maximal, inside, -⟩ := (denotes.endOf «end»).mp found
    exact outside (maximal.inside _ inside)
  · rintro (fits | rfl)
    · exact union_denoted proper fits
    · have smaller := @union_denoted [] nofun 0 (by decide)
      exact {smaller with
        endOf := by
          intro «end»
          constructor
          · exact fun found => nomatch found
          · rintro ⟨range, maximal, inside, -⟩
            obtain ⟨other, listed, -⟩ := maximal.inside _ inside
            cases listed}

/-- The middle range joins the two others. -/
theorem union_denoted_merged : DenotesUnion [(5, 10), (15, 20), (7, 17)] 12 :=
  (union_denoted_iff (by decide) (by decide)).mpr (.inl (by decide))

/-- The end of a range that does not contain the largest number is found for it. -/
theorem end_of_last_number : ¬ DenotesUnion [(0, 1)] (2 ^ 64 - 1) := by
  intro denotes
  obtain ⟨range, maximal, inside, -⟩ := (denotes.endOf 1).mp (by decide +kernel)
  obtain ⟨other, listed, low, high⟩ := maximal.inside _ inside
  cases mem_singleton.mp listed
  exact absurd high (by decide)

/-- What is read has ranges that are apart, or a check fails. -/
theorem deserialize_iff (members : List (Nat × Nat)) :
    (∃ set, DeserializeDisjointRangeSet members = some set ∧ set.Apart) ↔
      ∀ range ∈ members, range.1 ≤ range.2 := by
  rw [deserialize_eq]
  constructor
  · rintro ⟨set, read, -⟩
    by_contra unordered
    rw [if_neg unordered] at read
    cases read
  · intro ordered
    exact ⟨_, if_pos ordered, apart_inserts ordered⟩

theorem deserialize_aborts : DeserializeDisjointRangeSet [(0, 4), (2, 1)] = none := by
  decide

end Ika.LazyFile
