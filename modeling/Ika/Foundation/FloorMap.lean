import Mathlib.Data.List.TakeWhile

/-! Maps from offsets that answer with the entry standing at an offset or nearest below it.

A map is the ascending list of its entries, as an ordered map iterates them.
-/

set_option autoImplicit false

structure FloorMap (Value : Type) where
  entries : List (Nat × Value)
  sorted : entries.Pairwise fun earlier later => earlier.1 < later.1

namespace FloorMap

open List

variable {Value : Type}

def empty : FloorMap Value := ⟨[], .nil⟩

/-- An entry inserted in order; one that stands at the key already is replaced. -/
def insert (key : Nat) (value : Value) : List (Nat × Value) → List (Nat × Value)
  | [] => [(key, value)]
  | entry :: rest =>
    if key < entry.1 then (key, value) :: entry :: rest
    else if key = entry.1 then (key, value) :: rest
    else entry :: insert key value rest

variable {entries : List (Nat × Value)}

theorem mem_insert {key : Nat} {value : Value} {entry : Nat × Value}
    (member : entry ∈ insert key value entries) : entry = (key, value) ∨ entry ∈ entries := by
  induction entries with
  | nil => exact .inl (mem_singleton.1 member)
  | cons first rest induction_hypothesis =>
    simp only [insert] at member
    split_ifs at member with before same
    · exact (mem_cons.1 member)
    · exact (mem_cons.1 member).imp_right (mem_cons_of_mem _)
    · rcases mem_cons.1 member with here | later
      · exact .inr (here ▸ mem_cons_self)
      · exact (induction_hypothesis later).imp_right (mem_cons_of_mem _)

theorem insert_ne_nil (key : Nat) (value : Value) (entries : List (Nat × Value)) :
    insert key value entries ≠ [] := by
  cases entries with
  | nil => exact cons_ne_nil _ _
  | cons first rest =>
    simp only [insert]
    split_ifs <;> exact cons_ne_nil _ _

theorem sorted_insert {key : Nat} {value : Value}
    (sorted : entries.Pairwise fun earlier later => earlier.1 < later.1) :
    (insert key value entries).Pairwise fun earlier later => earlier.1 < later.1 := by
  induction sorted with
  | nil => exact pairwise_singleton _ _
  | @cons first rest below sorted induction_hypothesis =>
    simp only [insert]
    split_ifs with before same
    · refine .cons (fun entry member => ?_) (.cons below sorted)
      rcases mem_cons.1 member with rfl | later
      · exact before
      · exact Nat.lt_trans before (below entry later)
    · exact .cons (fun entry member => same ▸ below entry member) sorted
    · refine .cons (fun entry member => ?_) induction_hypothesis
      rcases mem_insert member with rfl | later
      · show first.1 < key
        omega
      · exact below entry later

def put (map : FloorMap Value) (key : Nat) (value : Value) : FloorMap Value :=
  ⟨insert key value map.entries, sorted_insert map.sorted⟩

def floor (map : FloorMap Value) (offset : Nat) : Option (Nat × Value) :=
  (map.entries.takeWhile fun entry => entry.1 ≤ offset).getLast?

section Last

variable {map : FloorMap Value} {key : Nat} {value : Value} {offset : Nat}

theorem insert_of_le {entries : List (Nat × Value)}
    (sorted : entries.Pairwise fun earlier later => earlier.1 < later.1)
    (last : ∀ entry ∈ entries, entry.1 ≤ key) :
    ∃ kept, insert key value entries = kept ++ [(key, value)] ∧
      (∀ entry ∈ kept, entry.1 < key) ∧ (entries = kept ∨ ∃ old, entries = kept ++ [(key, old)]) := by
  induction sorted with
  | nil => exact ⟨[], rfl, fun _ member => absurd member not_mem_nil, .inl rfl⟩
  | @cons first rest below sorted induction_hypothesis =>
    have bound : first.1 ≤ key := last first mem_cons_self
    simp only [insert, if_neg (Nat.not_lt.2 bound)]
    split_ifs with same
    · -- nothing can follow an entry at the key itself
      have alone : rest = [] := eq_nil_iff_forall_not_mem.2 fun entry member =>
        absurd (below entry member) (Nat.not_lt.2 (same ▸ last entry (mem_cons_of_mem _ member)))
      subst alone
      exact ⟨[], rfl, fun _ member => absurd member not_mem_nil,
        .inr ⟨first.2, by rw [same]; rfl⟩⟩
    · obtain ⟨kept, inserted, before, all⟩ := induction_hypothesis fun entry member =>
        last entry (mem_cons_of_mem _ member)
      refine ⟨first :: kept, by rw [inserted]; rfl, ?_, ?_⟩
      · intro entry member
        rcases mem_cons.1 member with rfl | later
        · omega
        · exact before entry later
      · exact all.imp (fun same => by rw [same]) fun ⟨old, same⟩ => ⟨old, by rw [same]; rfl⟩

section

variable (last : ∀ entry ∈ map.entries, entry.1 ≤ key)
include last

theorem floor_put_of_lt (below : offset < key) :
    (map.put key value).floor offset = map.floor offset := by
  obtain ⟨kept, inserted, -, all⟩ := @insert_of_le _ key value _ map.sorted last
  have beyond : ∀ more : Value,
      ((kept ++ [(key, more)]).takeWhile fun entry => entry.1 ≤ offset) =
        kept.takeWhile fun entry => entry.1 ≤ offset := by
    intro more
    have stopped : ¬ key ≤ offset := Nat.not_le.2 below
    rw [takeWhile_append]
    split_ifs with whole
    · simp [stopped, takeWhile_eq_self_iff.2
        (takeWhile_eq_self_iff.1 (( takeWhile_prefix _).eq_of_length whole))]
    · rfl
  simp only [floor, put, inserted, beyond]
  rcases all with same | ⟨old, same⟩
  · rw [same]
  · rw [same, beyond]

theorem floor_put_of_le (reached : key ≤ offset) :
    (map.put key value).floor offset = some (key, value) := by
  obtain ⟨kept, inserted, before, -⟩ := @insert_of_le _ key value _ map.sorted last
  have whole : ((kept ++ [(key, value)]).takeWhile fun entry => entry.1 ≤ offset) =
      kept ++ [(key, value)] := by
    apply takeWhile_eq_self_iff.2
    intro entry member
    rcases mem_append.1 member with earlier | own
    · exact decide_eq_true (Nat.le_trans (Nat.le_of_lt (before entry earlier)) reached)
    · exact decide_eq_true (mem_singleton.1 own ▸ reached)
  simp only [floor, put, inserted, whole, getLast?_concat]

theorem entries_put_le {length : Nat}
    (grown : key ≤ length) : ∀ entry ∈ (map.put key value).entries, entry.1 ≤ length := by
  intro entry member
  rcases mem_insert member with rfl | earlier
  · exact grown
  · exact Nat.le_trans (last entry earlier) grown

end

end Last

end FloorMap
