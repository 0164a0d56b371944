import Ika.Foundation.Links
import Mathlib.Data.List.Dedup

/-! A tree of finitely many places, newest first, with directories that can be listed and moved. -/

set_option autoImplicit false

namespace Links

open List Function

abbrev Disk := List (Place × Node)

namespace Disk

def tree (disk : Disk) : Tree := fun place => disk.lookup place

def nameIn (directory : Place) : Place → Option String
  | [] => none
  | name :: parent => if parent = directory then some name else none

def names (disk : Disk) (directory : Place) : List String :=
  (disk.filterMap fun entry => nameIn directory entry.1).dedup

def moved (source target place : Place) : Place :=
  if source <:+ place then place.take (place.length - source.length) ++ target else place

def move (disk : Disk) (source target : Place) : Disk :=
  (disk.filter fun entry => ¬target <:+ entry.1).map fun entry =>
    (moved source target entry.1, entry.2)

variable {disk : Disk} {source target place directory : Place} {node : Node} {name : String}

theorem tree_cons (entry : Place × Node) :
    tree (entry :: disk) place = if place = entry.1 then some entry.2 else tree disk place := by
  unfold tree
  rw [lookup_cons]
  by_cases same : place = entry.1
  · rw [if_pos same, beq_iff_eq.mpr same]
  · rw [if_neg same, beq_eq_false_iff_ne.mpr same]

theorem tree_put : tree ((place, node) :: disk) = Function.update (tree disk) place (some node) := by
  funext other
  rw [tree_cons]
  by_cases same : other = place
  · rw [if_pos same, same, update_self]
  · rw [if_neg same, update_of_ne same]

theorem tree_ne_none : tree disk place ≠ none ↔ ∃ entry ∈ disk, entry.1 = place := by
  induction disk with
  | nil => exact ⟨fun some => absurd rfl some, fun ⟨_, among, _⟩ => nomatch among⟩
  | cons entry rest ih =>
    rw [tree_cons]
    by_cases same : place = entry.1
    · rw [if_pos same]
      exact ⟨fun _ => ⟨entry, mem_cons_self, same.symm⟩, fun _ => nofun⟩
    · rw [if_neg same, ih]
      constructor
      · rintro ⟨found, among, at_⟩
        exact ⟨found, mem_cons_of_mem _ among, at_⟩
      · rintro ⟨found, among, at_⟩
        rcases mem_cons.mp among with rfl | among
        · exact absurd at_.symm same
        · exact ⟨found, among, at_⟩

theorem nameIn_eq_some : nameIn directory place = some name ↔ place = name :: directory := by
  cases place with
  | nil => exact ⟨nofun, nofun⟩
  | cons first parent =>
    rw [nameIn]
    by_cases same : parent = directory
    · rw [if_pos same, same, Option.some.injEq, List.cons.injEq, and_iff_left rfl]
    · rw [if_neg same]
      exact ⟨nofun, fun both => absurd (List.cons.inj both).2 same⟩

theorem mem_names : name ∈ names disk directory ↔ tree disk (name :: directory) ≠ none := by
  unfold names
  rw [mem_dedup, mem_filterMap, tree_ne_none]
  apply exists_congr
  intro entry
  rw [nameIn_eq_some]

theorem nodup_names : (names disk directory).Nodup := nodup_dedup _

/-- Where what is at a place after the move was before. -/
def origin (source target place : Place) : Option Place :=
  if target <:+ place then some (place.take (place.length - target.length) ++ source)
  else if source <:+ place then none
  else some place

variable {entry : Place} (rest : Place)

theorem take_append_suffix (base : Place) :
    (rest ++ base).take ((rest ++ base).length - base.length) = rest := by
  rw [length_append, Nat.add_sub_cancel, take_left]

theorem moved_below : moved source target (rest ++ source) = rest ++ target := by
  rw [moved, if_pos (suffix_append rest source), take_append_suffix]

theorem origin_below : origin source target (rest ++ target) = some (rest ++ source) := by
  rw [origin, if_pos (suffix_append rest target), take_append_suffix]

theorem moved_eq_iff (kept : ¬target <:+ entry) :
    moved source target entry = place ↔ origin source target place = some entry := by
  by_cases new : target <:+ place
  · obtain ⟨rest, rfl⟩ := new
    rw [origin_below, Option.some.injEq]
    by_cases old : source <:+ entry
    · obtain ⟨before, rfl⟩ := old
      rw [moved_below, append_left_inj, append_left_inj]
      exact eq_comm
    · rw [moved, if_neg old]
      constructor
      · rintro rfl
        exact absurd (suffix_append rest target) kept
      · rintro rfl
        exact absurd (suffix_append rest source) old
  · rw [origin, if_neg new]
    by_cases old : source <:+ entry
    · obtain ⟨before, rfl⟩ := old
      rw [moved_below]
      constructor
      · rintro rfl
        exact absurd (suffix_append before target) new
      · intro origin
        split_ifs at origin with gone
        cases origin
        exact absurd (suffix_append before source) gone
    · rw [moved, if_neg old]
      constructor
      · rintro rfl
        rw [if_neg old]
      · intro origin
        split_ifs at origin
        exact (Option.some.inj origin).symm

theorem origin_ne (into : ¬source <:+ target) (out : ¬target <:+ source) (gone : target <:+ entry) :
    origin source target place ≠ some entry := by
  intro origin
  unfold Disk.origin at origin
  split_ifs at origin with new
  · cases origin
    rcases suffix_or_suffix_of_suffix gone (suffix_append _ source) with up | down
    · exact out up
    · exact into down
  · cases origin
    exact new gone

theorem tree_move (into : ¬source <:+ target) (out : ¬target <:+ source) :
    tree (move disk source target) place = (origin source target place).bind (tree disk) := by
  induction disk with
  | nil =>
    cases origin source target place <;> rfl
  | cons entry rest ih =>
    have tail (found : Place) (apart : found ≠ entry.1) :
        tree (entry :: rest) found = tree rest found := by
      rw [tree_cons, if_neg apart]
    unfold move at ih ⊢
    by_cases gone : target <:+ entry.1
    · rw [filter_cons_of_neg (by simpa using gone), ih]
      cases from_ : origin source target place with
      | none => rfl
      | some found =>
        apply (tail found _).symm
        rintro rfl
        exact origin_ne into out gone from_
    · rw [filter_cons_of_pos (by simpa using gone), map_cons, tree_cons]
      by_cases here : place = moved source target entry.1
      · rw [if_pos here, (moved_eq_iff gone).mp here.symm, Option.bind_some, tree_cons, if_pos rfl]
      · rw [if_neg here, ih]
        cases from_ : origin source target place with
        | none => rfl
        | some found =>
          apply (tail found _).symm
          rintro rfl
          exact here ((moved_eq_iff gone).mpr from_).symm

end Disk

end Links
