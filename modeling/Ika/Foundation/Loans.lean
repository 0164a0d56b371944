import Mathlib.Data.List.Basic

/-! Ledgers of loans: who lent an item out, and how often it was given back.

The newest loan stands first. An item given back goes to the newest loan of it,
so a ledger is sound when every older loan of the item was settled before.
-/

set_option autoImplicit false

namespace Loans

open List

structure Loan (Item Terms : Type) where
  item : Item
  terms : Terms
  returns : Nat := 0

section Ledger

variable {Item Terms : Type}

structure Sound (ledger : List (Loan Item Terms)) : Prop where
  once : ∀ loan ∈ ledger, loan.returns ≤ 1
  before : ledger.Pairwise fun newer older => newer.item = older.item → older.returns = 1

def Settled (item : Item) (ledger : List (Loan Item Terms)) : Prop :=
  ∀ loan ∈ ledger, loan.item = item → loan.returns = 1

instance [DecidableEq Item] (item : Item) (ledger : List (Loan Item Terms)) :
    Decidable (Settled item ledger) :=
  inferInstanceAs (Decidable (∀ loan ∈ ledger, _ → _))

theorem Sound.nil : Sound ([] : List (Loan Item Terms)) := ⟨nofun, .nil⟩

variable {ledger : List (Loan Item Terms)} {item : Item} {loan : Loan Item Terms}

theorem Sound.lend (sound : Sound ledger) (settled : Settled item ledger) (terms : Terms) :
    Sound ({item, terms} :: ledger) := by
  constructor
  · intro loan member
    rcases mem_cons.mp member with rfl | old
    · exact Nat.zero_le _
    · exact sound.once loan old
  · exact pairwise_cons.mpr ⟨fun loan member same => settled loan member same.symm,
      sound.before⟩

theorem Sound.map (sound : Sound ledger) {change : Loan Item Terms → Loan Item Terms}
    (item : ∀ loan, (change loan).item = loan.item)
    (returns : ∀ loan, (change loan).returns = loan.returns) : Sound (ledger.map change) := by
  constructor
  · intro loan member
    obtain ⟨old, found, rfl⟩ := mem_map.mp member
    rw [returns]
    exact sound.once old found
  · refine pairwise_map.mpr (sound.before.imp fun {newer older} before same => ?_)
    rw [item, item] at same
    rw [returns]
    exact before same

variable [DecidableEq Item]

/-- The newest loan of the item is the one given back. -/
def giveBack (item : Item) : List (Loan Item Terms) → List (Loan Item Terms)
  | [] => []
  | loan :: older =>
    if loan.item = item then {loan with returns := loan.returns + 1} :: older
    else loan :: giveBack item older

theorem giveBack_lend (item : Item) (terms : Terms) (ledger : List (Loan Item Terms)) :
    giveBack item ({item, terms} :: ledger) = {item, terms, returns := 1} :: ledger := by
  simp [giveBack]

theorem mem_giveBack_other (other : loan.item ≠ item) :
    loan ∈ giveBack item ledger ↔ loan ∈ ledger := by
  induction ledger with
  | nil => rfl
  | cons head older ih =>
    unfold giveBack
    split
    · rename_i same
      have changed : loan ≠ {head with returns := head.returns + 1} := by
        rintro rfl
        exact other same
      have kept : loan ≠ head := by
        rintro rfl
        exact other same
      simp [changed, kept]
    · simp [ih]

theorem Sound.settled_giveBack (sound : Sound ledger) (member : loan ∈ ledger)
    (lent : loan.item = item) (unreturned : loan.returns = 0) :
    Settled item (giveBack item ledger) := by
  induction ledger with
  | nil => cases member
  | cons head older ih =>
    obtain ⟨first, rest⟩ := pairwise_cons.mp sound.before
    unfold giveBack
    split
    · rename_i same
      -- nothing older is open, so the head is the loan given back
      have newest : loan = head := by
        rcases mem_cons.mp member with found | old
        · exact found
        · have := first loan old (same.trans lent.symm)
          omega
      subst newest
      intro other held matching
      rcases mem_cons.mp held with rfl | old
      · exact congrArg (· + 1) unreturned
      · exact first other old (same.trans matching.symm)
    · rename_i different
      intro other held matching
      rcases mem_cons.mp held with rfl | old
      · exact absurd matching different
      · have found : loan ∈ older := by
          rcases mem_cons.mp member with rfl | found
          · exact absurd lent different
          · exact found
        have tail : Sound older :=
          ⟨fun other held => sound.once other (mem_cons_of_mem _ held), rest⟩
        exact ih tail found other old matching

theorem Sound.giveBack (sound : Sound ledger) (member : loan ∈ ledger) (lent : loan.item = item)
    (unreturned : loan.returns = 0) : Sound (giveBack item ledger) := by
  have settled := sound.settled_giveBack member lent unreturned
  constructor
  · intro other held
    by_cases same : other.item = item
    · exact Nat.le_of_eq (settled other held same)
    · exact sound.once other ((mem_giveBack_other same).mp held)
  · clear settled member lent unreturned
    induction ledger with
    | nil => exact .nil
    | cons head older ih =>
      obtain ⟨first, rest⟩ := pairwise_cons.mp sound.before
      have tail : Sound older :=
        ⟨fun other held => sound.once other (mem_cons_of_mem _ held), rest⟩
      unfold Loans.giveBack
      split
      · exact pairwise_cons.mpr ⟨first, rest⟩
      · rename_i different
        refine pairwise_cons.mpr ⟨fun other held same => ?_, ih tail⟩
        have found := (mem_giveBack_other (same ▸ different)).mp held
        exact first other found same

end Ledger

end Loans
