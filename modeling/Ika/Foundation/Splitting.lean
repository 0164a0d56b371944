import Mathlib.Algebra.Order.Ring.Int
import Mathlib.Data.List.Basic

/-! Texts that are split at a separator, and put together with it. -/

set_option autoImplicit false

namespace Splitting

open List

variable {α : Type} [DecidableEq α] {separator : α} {fields : List (List α)}

theorem notMem_of_mem_splitOn {text field : List α} (among : field ∈ text.splitOn separator) :
    separator ∉ field := by
  induction text generalizing field with
  | nil => simp_all
  | cons char rest ih =>
    rw [splitOn_cons_eq_if_modifyHead] at among
    split at among
    · rcases mem_cons.mp among with rfl | among
      · simp
      · exact ih among
    · rename_i differs
      -- the character comes in front of the first of the other fields
      cases others : rest.splitOn separator with
      | nil => simp at others
      | cons first later =>
        rw [others] at among
        rcases mem_cons.mp among with rfl | among
        · have plain := ih (others ▸ mem_cons_self)
          have other : separator ≠ char := by
            rintro rfl
            simp at differs
          simp [other, plain]
        · exact ih (others ▸ mem_cons_of_mem _ among)

def closed (separator : α) (fields : List (List α)) : List α :=
  fields.flatMap (· ++ [separator])

omit [DecidableEq α] in
theorem closed_append (others : List (List α)) :
    closed separator (fields ++ others) = closed separator fields ++ closed separator others :=
  flatMap_append

omit [DecidableEq α] in
theorem length_closed :
    (closed separator fields).length = (fields.map fun field => field.length + 1).sum := by
  simp [closed, length_flatMap]

theorem splitOn_closed (plain : ∀ field ∈ fields, separator ∉ field) (rest : List α) :
    (closed separator fields ++ rest).splitOn separator = fields ++ rest.splitOn separator := by
  induction fields with
  | nil => rfl
  | cons field others ih =>
    have later := ih fun other among => plain other (mem_cons_of_mem _ among)
    have front : closed separator (field :: others) ++ rest =
        field ++ separator :: (closed separator others ++ rest) := by simp [closed]
    rw [front, splitOn_append_cons_self_of_not_mem (plain field mem_cons_self), later]
    rfl

omit [DecidableEq α] in
theorem intercalate_append {rest : List (List α)} (more : rest ≠ []) :
    [separator].intercalate (fields ++ rest) =
      closed separator fields ++ [separator].intercalate rest := by
  induction fields with
  | nil => rfl
  | cons field others ih =>
    obtain ⟨first, later, same⟩ := exists_cons_of_ne_nil (append_ne_nil_of_right_ne_nil
      others more)
    have joined : [separator].intercalate (field :: (others ++ rest)) =
        field ++ separator :: [separator].intercalate (others ++ rest) := by
      rw [same]
      simp [List.intercalate]
    rw [cons_append, joined, ih]
    simp [closed]

omit [DecidableEq α] in
theorem length_intercalate (some_fields : fields ≠ []) :
    ([separator].intercalate fields).length + 1 = (closed separator fields).length := by
  obtain ⟨front, last, rfl⟩ := (eq_nil_or_concat' fields).resolve_left some_fields
  rw [intercalate_append (cons_ne_nil _ _), closed_append]
  simp [closed, Nat.add_assoc]

/-- A loop over what lies between the separators, which ends with the text. -/
def walk {State : Type} (separator : α) (visit : State → List α → State) (state : State)
    (text : List α) : State :=
  if text = [] then state
  else
    let field := text.takeWhile (· ≠ separator)
    walk separator visit (visit state field) (text.drop (field.length + 1))
termination_by text.length
decreasing_by
  rw [length_drop]
  have := length_pos_iff.2 ‹text ≠ []›
  omega

theorem walk_eq {State : Type} {visit : State → List α → State}
    (skips : ∀ state, visit state [] = state) (state : State) (text : List α) :
    walk separator visit state text = (text.splitOn separator).foldl visit state := by
  induction state, text using walk.induct separator visit with
  | case1 state =>
    rw [walk, if_pos rfl]
    exact (skips state).symm
  | case2 state text some_ field ih =>
    have plain : separator ∉ field := by
      intro mem
      simpa using all_eq_true.1 all_takeWhile separator mem
    have whole : field ++ text.dropWhile (· ≠ separator) = text := takeWhile_append_dropWhile
    rw [walk, if_neg some_]
    change walk separator visit (visit state field) (text.drop (field.length + 1)) = _
    cases rest : text.dropWhile (· ≠ separator) with
    | nil =>
      rw [rest, append_nil] at whole
      rw [whole, drop_of_length_le (by omega), walk, if_pos rfl,
        splitOn_eq_singleton (whole ▸ plain)]
      rfl
    | cons first rest' =>
      have stops := head?_dropWhile_not (· ≠ separator) text
      rw [rest] at stops whole
      obtain rfl : first = separator := by simpa using stops
      have next : text.drop (field.length + 1) = rest' := by
        rw [← whole]
        simp [drop_append]
      rw [ih, next, ← whole, splitOn_append_cons_self_of_not_mem plain]
      rfl

end Splitting
