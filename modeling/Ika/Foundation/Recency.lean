import Mathlib.Data.List.Pairwise

/-! Items kept in the order they came in, and the stamps that stand for that order.

An item takes the next number when it comes and loses it when it goes, so that
a table of stamps answers "which of these came last" without a list to keep.
-/

set_option autoImplicit false

namespace Recency

open List Function

variable {Item : Type}

structure StampedBy (stamp : Item → Nat) (count : Nat) (order : List Item) : Prop where
  present : ∀ item, item ∈ order ↔ stamp item ≠ 0
  newestFirst : order.Pairwise fun newer older => stamp older < stamp newer
  bounded : ∀ item, stamp item ≤ count

namespace StampedBy

variable {stamp : Item → Nat} {count : Nat} {order : List Item}

theorem empty {stamp : Item → Nat} (count : Nat) (absent : ∀ item, stamp item = 0) :
    StampedBy stamp count [] where
  present item := by simp [absent item]
  newestFirst := .nil
  bounded item := by simp [absent item]

section

variable (stamped : StampedBy stamp count order)
include stamped

theorem arrive [DecidableEq Item] {item : Item} (absent : stamp item = 0) :
    StampedBy (Function.update stamp item (count + 1)) (count + 1) (item :: order) := by
  have others : ∀ other ∈ order, other ≠ item := by
    rintro other mem rfl
    exact (stamped.present other).mp mem absent
  constructor
  · intro other
    by_cases same : other = item
    · simp [same]
    · simp [same, stamped.present]
  · apply List.Pairwise.cons
    · intro older mem
      have := stamped.bounded older
      rw [update_self, update_of_ne (others older mem)]
      omega
    · apply stamped.newestFirst.imp_of_mem
      intro newer older memNewer memOlder before
      rwa [update_of_ne (others newer memNewer),
        update_of_ne (others older memOlder)]
  · intro other
    by_cases same : other = item
    · simp [same]
    · have := stamped.bounded other
      rw [update_of_ne same]
      omega

theorem retain (keep : Item → Bool) {after : Item → Nat}
    (kept : ∀ item, after item = if keep item then stamp item else 0) :
    StampedBy after count (order.filter keep) where
  present item := by
    rw [mem_filter, stamped.present, kept]
    by_cases stays : keep item = true <;> simp [stays]
  newestFirst := by
    apply (stamped.newestFirst.filter _).imp_of_mem
    intro newer older memNewer memOlder before
    have newerStays := (mem_filter.mp memNewer).2
    have olderStays := (mem_filter.mp memOlder).2
    rwa [kept, kept, if_pos newerStays, if_pos olderStays]
  bounded item := by
    rw [kept]
    have := stamped.bounded item
    split <;> omega

theorem unique {item other : Item}
    (same : stamp item = stamp other) (present : stamp item ≠ 0) : item = other := by
  have mem := (stamped.present item).mpr present
  have memOther := (stamped.present other).mpr (same ▸ present)
  have : Std.Symm fun first second : Item => stamp first ≠ stamp second := ⟨fun _ _ => Ne.symm⟩
  have distinct := (stamped.newestFirst.imp fun before => Nat.ne_of_gt before).forall
  by_contra apart
  exact distinct mem memOther apart same

theorem latest {Answer : Type} {ask : Item → Option Answer} {answer : Answer}
    (found : order.findSome? ask = some answer) :
    ∃ item, ask item = some answer ∧ stamp item ≠ 0 ∧
      ∀ other, ask other ≠ none → stamp other ≤ stamp item := by
  obtain ⟨before, item, after, split, answers, silent⟩ := findSome?_eq_some_iff.mp found
  have mem : item ∈ order := by simp [split]
  refine ⟨item, answers, (stamped.present item).mp mem, ?_⟩
  intro other speaks
  by_cases absent : stamp other = 0
  · omega
  have ordered := stamped.newestFirst
  rw [split, pairwise_append, pairwise_cons] at ordered
  have memOther := (stamped.present other).mpr absent
  rw [split, mem_append, mem_cons] at memOther
  rcases memOther with early | rfl | late
  · exact absurd (silent other early) speaks
  · exact Nat.le_refl _
  · exact Nat.le_of_lt (ordered.2.1.1 other late)

theorem none_answers {Answer : Type} {ask : Item → Option Answer}
    (missing : order.findSome? ask = none) (item : Item)
    (speaks : ask item ≠ none) : stamp item = 0 := by
  by_contra present
  have mem := (stamped.present item).mpr present
  exact speaks (findSome?_eq_none_iff.mp missing item mem)

end

end StampedBy

end Recency
