import Mathlib.Data.Finset.Card

/-! Hash tables with open addressing, whose entries are marked when they are removed. -/

set_option autoImplicit false

namespace OpenAddressing

open Option Function Nat Finset

structure Slot (Value : Type) where
  key : Nat
  value : Value

abbrev Table (Value : Type) := Nat → Slot Value

variable {Value : Type} (home : Nat → Nat) (size : Nat)

def position (key i : Nat) : Nat := (home key + i) % size

/-- The slot of a key, or where one is to be added, the first free slot. -/
def search (table : Table Value) (key : Nat) (add : Bool) : Nat → Nat → Option Nat → Option Nat
  | 0, _, removed => if add then removed else none
  | left + 1, i, removed =>
    let slot := position home size key i
    if (table slot).key = key then some slot
    else
      let removed := if (table slot).key = 1 ∧ removed = none then some slot else removed
      if (table slot).key = 0 then
        if add then some (removed.getD slot) else none
      else search table key add left (i + 1) removed

def find (table : Table Value) (key : Nat) : Option Nat :=
  search home size table key false size 0 none

def place (table : Table Value) (key : Nat) : Option Nat :=
  search home size table key true size 0 none

def lookup (table : Table Value) (key : Nat) : Option Value :=
  (find home size table key).map fun slot => (table slot).value

def write (table : Table Value) (slot key : Nat) (value : Value) : Table Value :=
  Function.update table slot {key, value}

def Passed (table : Table Value) (key count : Nat) : Prop :=
  ∀ i < count, (table (position home size key i)).key ≠ key ∧
    (table (position home size key i)).key ≠ 0

def Spare (table : Table Value) (key count : Nat) : Option Nat → Prop
  | none => ∀ i < count, (table (position home size key i)).key ≠ 1
  | some slot => ∃ i < count, slot = position home size key i ∧ (table slot).key = 1

inductive Outcome (table : Table Value) (key : Nat) (add : Bool) : Option Nat → Prop where
  | here {i : Nat} (within : i < size) (passed : Passed home size table key i)
      (held : (table (position home size key i)).key = key) :
      Outcome table key add (some (position home size key i))
  | missing {i : Nat} (within : i < size) (passed : Passed home size table key i)
      (empty : (table (position home size key i)).key = 0) (looks : add = false) :
      Outcome table key add none
  | free {i first : Nat} (within : i < size) (passed : Passed home size table key i)
      (empty : (table (position home size key i)).key = 0) (before : first ≤ i)
      (unused : (table (position home size key first)).key ≤ 1) (adds : add = true) :
      Outcome table key add (some (position home size key first))
  | reused {first : Nat} (passed : Passed home size table key size) (within : first < size)
      (unused : (table (position home size key first)).key = 1) (adds : add = true) :
      Outcome table key add (some (position home size key first))
  | full (passed : Passed home size table key size)
      (taken : add = true → ∀ i < size, (table (position home size key i)).key ≠ 1) :
      Outcome table key add none

variable {home size} {table : Table Value} {key : Nat} {add : Bool}

theorem Passed.succ {count : Nat} (passed : Passed home size table key count)
    (other : (table (position home size key count)).key ≠ key)
    (filled : (table (position home size key count)).key ≠ 0) :
    Passed home size table key (count + 1) := by
  intro i below
  rcases Nat.lt_succ_iff_lt_or_eq.mp below with earlier | rfl
  · exact passed i earlier
  · exact ⟨other, filled⟩

variable {removed : Option Nat} {i slot other : Nat}

theorem Spare.succ {count : Nat} (spare : Spare home size table key count removed) :
    Spare home size table key (count + 1)
      (if (table (position home size key count)).key = 1 ∧ removed = none
        then some (position home size key count) else removed) := by
  split_ifs with first
  · exact ⟨count, lt_succ_self count, rfl, first.1⟩
  · cases removed with
    | none =>
      intro i below
      rcases Nat.lt_succ_iff_lt_or_eq.mp below with earlier | rfl
      · exact spare i earlier
      · exact fun removed => first ⟨removed, rfl⟩
    | some slot =>
      obtain ⟨i, below, at_, removed⟩ := spare
      exact ⟨i, lt_succ_of_lt below, at_, removed⟩

theorem search_outcome {left : Nat} (total : i + left = size)
    (passed : Passed home size table key i) (spare : Spare home size table key i removed) :
    Outcome home size table key add (search home size table key add left i removed) := by
  induction left generalizing i removed with
  | zero =>
    obtain rfl : i = size := total
    unfold search
    cases add with
    | false => exact .full passed nofun
    | true =>
      cases removed with
      | none => exact .full passed fun _ => spare
      | some slot =>
        obtain ⟨first, below, rfl, unused⟩ := spare
        exact .reused passed below unused rfl
  | succ left ih =>
    have within : i < size := by omega
    unfold search
    dsimp only
    by_cases held : (table (position home size key i)).key = key
    · rw [if_pos held]
      exact .here within passed held
    · have next := spare.succ
      rw [if_neg held]
      generalize (if (table (position home size key i)).key = 1 ∧ removed = none
        then some (position home size key i) else removed) = noted at next ⊢
      by_cases empty : (table (position home size key i)).key = 0
      · rw [if_pos empty]
        cases add with
        | false => exact .missing within passed empty rfl
        | true =>
          cases noted with
          | none => exact .free within passed empty le_rfl (by omega) rfl
          | some slot =>
            obtain ⟨first, below, rfl, unused⟩ := next
            exact .free within passed empty (by omega) unused.le rfl
      · rw [if_neg empty]
        exact ih (by omega) (passed.succ held empty) next

theorem find_outcome (table : Table Value) (key : Nat) :
    Outcome home size table key false (find home size table key) :=
  search_outcome (Nat.zero_add size) (fun _ below => absurd below (Nat.not_lt_zero _))
    fun _ below => absurd below (Nat.not_lt_zero _)

theorem place_outcome (table : Table Value) (key : Nat) :
    Outcome home size table key true (place home size table key) :=
  search_outcome (Nat.zero_add size) (fun _ below => absurd below (Nat.not_lt_zero _))
    fun _ below => absurd below (Nat.not_lt_zero _)

theorem position_lt (within : i < size) : position home size key i < size :=
  mod_lt _ (by omega)

theorem position_surjective {slot : Nat} (within : slot < size) :
    ∃ i < size, position home size key i = slot := by
  have start : home key % size < size := mod_lt _ (by omega)
  refine ⟨(slot + (size - home key % size)) % size, mod_lt _ (by omega), ?_⟩
  unfold position
  rw [add_mod_mod, ← mod_add_mod,
    show home key % size + (slot + (size - home key % size)) = slot + size by omega,
    add_mod_right, mod_eq_of_lt within]

variable (home size) in
/-- Every entry is met before an empty slot, and no key has two of them. -/
structure Placed (table : Table Value) : Prop where
  met : ∀ slot < size, 1 < (table slot).key →
    ∃ i < size, slot = position home size (table slot).key i ∧
      ∀ j < i, (table (position home size (table slot).key j)).key ≠ 0
  once : ∀ slot < size, ∀ other < size, 1 < (table slot).key →
    (table slot).key = (table other).key → slot = other

variable (home size) in
structure Fits (table : Table Value) (key slot : Nat) : Prop where
  within : slot < size
  met : ∃ i < size, slot = position home size key i ∧
    ∀ j < i, (table (position home size key j)).key ≠ 0
  own : (table slot).key = key ∨
    (table slot).key ≤ 1 ∧ ∀ other < size, (table other).key ≠ key

section

variable (placed : Placed home size table)
include placed

theorem Passed.absent (entry : 1 < key) {count : Nat} (passed : Passed home size table key count)
    (ends : count = size ∨ (table (position home size key count)).key = 0) :
    ∀ slot < size, (table slot).key ≠ key := by
  rintro slot within rfl
  obtain ⟨i, below, same, before⟩ := placed.met slot within entry
  rcases Nat.lt_trichotomy i count with earlier | rfl | later
  · exact (passed i earlier).1 (congrArg (fun at_ => (table at_).key) same.symm)
  · rcases ends with rfl | empty
    · omega
    · rw [← same] at empty
      omega
  · rcases ends with rfl | empty
    · omega
    · exact before count later empty

theorem find_eq_some_iff (entry : 1 < key) :
    find home size table key = some slot ↔ slot < size ∧ (table slot).key = key := by
  have outcome : Outcome home size table key false _ := find_outcome table key
  constructor
  · intro found
    rw [found] at outcome
    cases outcome with
    | here within passed held => exact ⟨position_lt within, held⟩
    | free _ _ _ _ _ adds => cases adds
    | reused _ _ _ adds => cases adds
  · rintro ⟨within, held⟩
    cases same : find home size table key with
    | none =>
      rw [same] at outcome
      cases outcome with
      | missing below passed empty =>
          exact absurd held (passed.absent placed entry (.inr empty) slot within)
      | full passed => exact absurd held (passed.absent placed entry (.inl rfl) slot within)
    | some other =>
      rw [same] at outcome
      cases outcome with
      | @here i below passed found =>
        exact congrArg some (placed.once _ (position_lt below) slot within (by omega)
          (found.trans held.symm))
      | free _ _ _ _ _ adds => cases adds
      | reused _ _ _ adds => cases adds

theorem lookup_eq_none_iff (entry : 1 < key) :
    lookup home size table key = none ↔ ∀ slot < size, (table slot).key ≠ key := by
  unfold lookup
  rw [map_eq_none_iff, eq_none_iff_forall_ne_some]
  constructor
  · exact fun absent slot within held =>
      absent slot ((find_eq_some_iff placed entry).mpr ⟨within, held⟩)
  · intro absent slot found
    obtain ⟨within, held⟩ := (find_eq_some_iff placed entry).mp found
    exact absent slot within held

theorem Fits.of_find (entry : 1 < key)
    (found : find home size table key = some slot) : Fits home size table key slot := by
  obtain ⟨within, rfl⟩ := (find_eq_some_iff placed entry).mp found
  exact {within, met := placed.met slot within entry, own := .inl rfl}

theorem Fits.of_place (entry : 1 < key)
    (found : place home size table key = some slot) : Fits home size table key slot := by
  have outcome : Outcome home size table key true _ := place_outcome table key
  rw [found] at outcome
  cases outcome with
  | here within passed held =>
    exact { within := position_lt within, met := ⟨_, within, rfl, fun j below => (passed j below).2⟩,
            own := .inl held}
  | free within passed empty before unused =>
    exact { within := position_lt (before.trans_lt within)
            met := ⟨_, before.trans_lt within, rfl, fun j below => (passed j (by omega)).2⟩
            own := .inr ⟨unused, passed.absent placed entry (.inr empty)⟩}
  | reused passed within unused =>
    exact { within := position_lt within
            met := ⟨_, within, rfl, fun j below => (passed j (by omega)).2⟩
            own := .inr ⟨unused.le, passed.absent placed entry (.inl rfl)⟩}

end

theorem write_self {value : Value} : write table slot key value slot = {key, value} :=
  update_self ..

theorem write_other {value : Value} (apart : other ≠ slot) :
    write table slot key value other = table other :=
  update_of_ne apart ..

theorem write_key {value : Value} :
    (write table slot key value other).key = if other = slot then key else (table other).key := by
  split_ifs with same
  · rw [same, write_self]
  · rw [write_other same]

theorem Fits.placed (placed : Placed home size table) (entry : 1 < key)
    (fits : Fits home size table key slot) (value : Value) :
    Placed home size (write table slot key value) where
  met other within used := by
    have filled : ∀ at_, (table at_).key ≠ 0 → (write table slot key value at_).key ≠ 0 := by
      intro at_ before
      rw [write_key]
      split_ifs <;> omega
    rw [write_key] at used ⊢
    split_ifs with same
    · obtain ⟨i, below, at_, before⟩ := fits.met
      exact ⟨i, below, same.trans at_, fun j earlier => filled _ (before j earlier)⟩
    · rw [if_neg same] at used
      obtain ⟨i, below, at_, before⟩ := placed.met other within used
      exact ⟨i, below, at_, fun j earlier => filled _ (before j earlier)⟩
  once first within second below used same := by
    have alone : ∀ other < size, (table other).key = key → other = slot := by
      intro other within held
      rcases fits.own with own | ⟨-, absent⟩
      · exact placed.once other within slot fits.within (by omega) (held.trans own.symm)
      · exact absurd held (absent other within)
    rw [write_key] at used same
    rw [write_key] at same
    split_ifs at used same with here there there
    · exact here.trans there.symm
    · exact here.trans (alone second below same.symm).symm
    · exact (alone first within same).trans there.symm
    · exact placed.once first within second below used same

theorem lookup_write (placed : Placed home size table) (entry : 1 < key)
    (fits : Fits home size table key slot) (value : Value) :
    lookup home size (write table slot key value) key = some value := by
  have found : find home size (write table slot key value) key = some slot :=
    (find_eq_some_iff (fits.placed placed entry value) entry).mpr
      ⟨fits.within, by rw [write_key, if_pos rfl]⟩
  unfold lookup
  rw [found, map_some, write_self]

theorem lookup_write_other (placed : Placed home size table) (entry : 1 < key)
    (fits : Fits home size table key slot) (value : Value) (used : 1 < other)
    (apart : other ≠ key) :
    lookup home size (write table slot key value) other = lookup home size table other := by
  have elsewhere : ∀ at_ < size, (table at_).key = other → at_ ≠ slot := by
    rintro at_ - held rfl
    rcases fits.own with own | ⟨unused, -⟩ <;> omega
  have after := fits.placed placed entry value
  unfold lookup
  cases found : find home size table other with
  | none =>
    cases next : find home size (write table slot key value) other with
    | none => rfl
    | some at_ =>
      obtain ⟨within, held⟩ := (find_eq_some_iff after used).mp next
      rw [write_key] at held
      split_ifs at held with same
      · exact absurd held.symm apart
      · rw [(find_eq_some_iff placed used).mpr ⟨within, held⟩] at found
        cases found
  | some at_ =>
    obtain ⟨within, held⟩ := (find_eq_some_iff placed used).mp found
    have next : find home size (write table slot key value) other = some at_ :=
      (find_eq_some_iff after used).mpr
        ⟨within, by rw [write_key, if_neg (elsewhere at_ within held), held]⟩
    rw [next, map_some, map_some, write_other (elsewhere at_ within held)]

def remove (table : Table Value) (slot : Nat) : Table Value :=
  write table slot 1 (table slot).value

theorem Placed.remove (placed : Placed home size table) (slot : Nat) :
    Placed home size (remove table slot) where
  met other within used := by
    have filled : ∀ at_, (table at_).key ≠ 0 → (OpenAddressing.remove table slot at_).key ≠ 0 := by
      intro at_ before
      unfold OpenAddressing.remove
      rw [write_key]
      split_ifs <;> omega
    have same : (OpenAddressing.remove table slot other).key = (table other).key := by
      unfold OpenAddressing.remove at used ⊢
      rw [write_key] at used ⊢
      split_ifs at used ⊢
      · omega
      · rfl
    rw [same] at used ⊢
    obtain ⟨i, below, at_, before⟩ := placed.met other within used
    exact ⟨i, below, at_, fun j earlier => filled _ (before j earlier)⟩
  once first within second below used same := by
    unfold OpenAddressing.remove at used same
    rw [write_key] at used same
    rw [write_key] at same
    split_ifs at used same
    all_goals first
      | omega
      | exact placed.once first within second below used same

theorem lookup_remove (placed : Placed home size table) (used : 1 < other) (within : slot < size) :
    lookup home size (remove table slot) other =
      if other = (table slot).key then none else lookup home size table other := by
  have after := placed.remove slot
  have keys : ∀ at_, (remove table slot at_).key = other ↔ at_ ≠ slot ∧ (table at_).key = other := by
    intro at_
    unfold remove
    rw [write_key]
    split_ifs with same
    · exact iff_of_false (by omega) fun both => both.1 same
    · exact ⟨fun held => ⟨same, held⟩, fun both => both.2⟩
  unfold lookup
  cases next : find home size (remove table slot) other with
  | none =>
    split_ifs with same
    · rfl
    · cases found : find home size table other with
      | none => rfl
      | some at_ =>
        obtain ⟨below, here⟩ := (find_eq_some_iff placed used).mp found
        have still := (find_eq_some_iff after used).mpr
          ⟨below, (keys at_).mpr ⟨fun gone => same (here ▸ gone ▸ rfl), here⟩⟩
        rw [still] at next
        cases next
  | some at_ =>
    obtain ⟨below, here⟩ := (find_eq_some_iff after used).mp next
    obtain ⟨apart, there⟩ := (keys at_).mp here
    have found := (find_eq_some_iff placed used).mpr ⟨below, there⟩
    rw [if_neg (fun same => apart (placed.once at_ below slot within (by omega)
      (there.trans same))), found, map_some, map_some, remove, write_other apart]

variable (size) in
def count (table : Table Value) : Nat :=
  ((Finset.range size).filter fun slot => 1 < (table slot).key).card

theorem place_isSome (placed : Placed home size table) (entry : 1 < key)
    (room : count size table < size ∨ (lookup home size table key).isSome) :
    (place home size table key).isSome := by
  have outcome : Outcome home size table key true _ := place_outcome table key
  cases found : place home size table key with
  | some slot => rfl
  | none =>
    rw [found] at outcome
    cases outcome with
    | full passed taken =>
      rcases room with room | held
      · have all : (Finset.range size).filter (fun slot => 1 < (table slot).key) =
            Finset.range size := by
          refine filter_true_of_mem fun slot listed => ?_
          obtain ⟨i, below, rfl⟩ :=
            @position_surjective home size key slot (mem_range.mp listed)
          have filled := (passed i below).2
          have kept := taken rfl i below
          omega
        unfold count at room
        rw [all, card_range] at room
        omega
      · obtain ⟨value, held⟩ := isSome_iff_exists.mp held
        obtain ⟨slot, here, -⟩ := map_eq_some_iff.mp held
        obtain ⟨within, same⟩ := (find_eq_some_iff placed entry).mp here
        exact absurd same (passed.absent placed entry (.inl rfl) slot within)
    | missing _ _ _ looks => cases looks

theorem place_eq_none (placed : Placed home size table) (entry : 1 < key)
    (full : count size table = size) (absent : lookup home size table key = none) :
    place home size table key = none := by
  have nowhere := (lookup_eq_none_iff placed entry).mp absent
  cases found : place home size table key with
  | none => rfl
  | some slot =>
    have fits := Fits.of_place placed entry found
    have all : (Finset.range size).filter (fun slot => 1 < (table slot).key) =
        Finset.range size :=
      eq_of_subset_of_card_le (filter_subset _ _)
        (by rw [card_range]; exact full.ge)
    have used : 1 < (table slot).key := by
      have listed := mem_range.mpr fits.within
      rw [← all] at listed
      exact (mem_filter.mp listed).2
    rcases fits.own with own | ⟨unused, -⟩
    · exact absurd own (nowhere slot fits.within)
    · omega

theorem count_empty (unused : ∀ slot, (table slot).key = 0) : count size table = 0 := by
  unfold count
  rw [Finset.card_eq_zero, filter_eq_empty_iff]
  intro slot _
  rw [unused]
  exact Nat.not_lt_zero 1

theorem count_write (entry : 1 < key) (within : slot < size) (unused : (table slot).key ≤ 1)
    (value : Value) : count size (write table slot key value) = count size table + 1 := by
  have grown : (Finset.range size).filter (fun other => 1 < (write table slot key value other).key) =
      insert slot ((Finset.range size).filter fun other => 1 < (table other).key) := by
    ext other
    simp only [mem_filter, Finset.mem_insert, mem_range, write_key]
    split_ifs with same
    · subst same
      exact iff_of_true ⟨within, entry⟩ (.inl rfl)
    · exact ⟨.inr, fun listed => listed.resolve_left same⟩
  unfold count
  rw [grown, card_insert_of_notMem]
  intro listed
  have used := (mem_filter.mp listed).2
  omega

end OpenAddressing
