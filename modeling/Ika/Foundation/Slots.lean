import Mathlib.Data.List.Perm.Basic

/-! Busy bits of numbered slots, and counting the entries of a list by position. -/

set_option autoImplicit false

namespace SlotMask

variable {width : Nat}

def mark (mask : BitVec width) (index : Nat) : BitVec width := mask ||| (BitVec.ofNat width 1 <<< index)

def clear (mask : BitVec width) (index : Nat) : BitVec width :=
  mask &&& ~~~(BitVec.ofNat width 1 <<< index)

variable {other : Nat} {mask : BitVec width}

variable {index : Nat}

theorem getLsbD_one_shiftLeft (bound : other < width) :
    (BitVec.ofNat width 1 <<< index).getLsbD other = decide (other = index) := by
  rw [BitVec.getLsbD_shiftLeft]
  by_cases same : other = index
  · subst same
    simp [bound]
    omega
  · simp only [bound, decide_true, Bool.true_and, same, decide_false]
    by_cases below : other < index
    · simp [below]
    · have apart : other - index ≠ 0 := by omega
      simp [apart]

theorem getLsbD_mark (bound : other < width) :
    (mark mask index).getLsbD other = (mask.getLsbD other || decide (other = index)) := by
  rw [mark, BitVec.getLsbD_or, getLsbD_one_shiftLeft bound]

theorem getLsbD_clear (bound : other < width) :
    (clear mask index).getLsbD other = (mask.getLsbD other && !decide (other = index)) := by
  rw [clear, BitVec.getLsbD_and, BitVec.getLsbD_not, getLsbD_one_shiftLeft bound]
  simp [bound]

def busy (mask : BitVec width) (index : Nat) : Nat := if mask.getLsbD index then 1 else 0

theorem busy_le_one (mask : BitVec width) (index : Nat) : busy mask index ≤ 1 := by
  unfold busy
  split <;> omega

theorem busy_mark (bound : other < width) :
    busy (mark mask index) other = if other = index then 1 else busy mask other := by
  unfold busy
  rw [getLsbD_mark bound]
  by_cases same : other = index <;> simp [same]

theorem busy_clear (bound : other < width) :
    busy (clear mask index) other = if other = index then 0 else busy mask other := by
  unfold busy
  rw [getLsbD_clear bound]
  by_cases same : other = index <;> simp [same]

end SlotMask

namespace ListCount

open List

variable {α : Type} {values : List α} {index : Nat} {value : α}

variable (test : α → Bool)

theorem countP_eraseIdx (found : values[index]? = some value) :
    (values.eraseIdx index).countP test + (if test value then 1 else 0) = values.countP test := by
  obtain ⟨bound, rfl⟩ := List.getElem?_eq_some_iff.mp found
  rw [← (getElem_cons_eraseIdx_perm bound).countP_eq test, countP_cons]

theorem countP_set (found : values[index]? = some value) (other : α) :
    (values.set index other).countP test + (if test value then 1 else 0) =
      values.countP test + (if test other then 1 else 0) := by
  have erased := countP_eraseIdx test found
  obtain ⟨bound, -⟩ := List.getElem?_eq_some_iff.mp found
  rw [(set_perm_cons_eraseIdx bound other).countP_eq test, countP_cons]
  omega

theorem countP_set_same (found : values[index]? = some value) {other : α}
    (same : test other = test value) :
    (values.set index other).countP test = values.countP test := by
  have counted := countP_set test found other
  rw [same] at counted
  omega

theorem unique_of_countP_le_one (single : values.countP test ≤ 1) {other : Nat} {first second : α}
    (left : values[index]? = some first) (right : values[other]? = some second)
    (passes : test first) (passes' : test second) : index = other := by
  by_contra apart
  induction values generalizing index other with
  | nil => simp at left
  | cons head rest ih =>
    have here : ∀ {position : Nat} {entry : α}, rest[position]? = some entry → test entry →
        0 < rest.countP test := fun found holds =>
      countP_pos_iff.mpr ⟨_, mem_of_getElem? found, holds⟩
    cases index with
    | zero =>
      cases other with
      | zero => exact apart rfl
      | succ other =>
        simp only [getElem?_cons_zero, Option.some.injEq] at left
        simp only [getElem?_cons_succ] at right
        subst left
        have := here right passes'
        simp only [countP_cons, passes, if_true] at single
        omega
    | succ index =>
      simp only [getElem?_cons_succ] at left
      cases other with
      | zero =>
        simp only [getElem?_cons_zero, Option.some.injEq] at right
        subst right
        have := here left passes
        simp only [countP_cons, passes', if_true] at single
        omega
      | succ other =>
        simp only [getElem?_cons_succ] at right
        refine ih ?_ left right (fun same => apart (by rw [same]))
        simp only [countP_cons] at single
        omega

end ListCount
