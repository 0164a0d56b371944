import Mathlib.Data.Set.Finite.Lattice

/-! Resources that are taken in a common order.

Whoever waits for a resource while it holds only resources of a smaller rank cannot be part
of a set whose members all wait for one another.
-/

set_option autoImplicit false

namespace Waiting

variable {Process Resource : Type}

def Deadlocked (waits holds : Process → Resource → Prop) (processes : Set Process) : Prop :=
  processes.Nonempty ∧ ∀ process ∈ processes, ∃ resource, waits process resource ∧
    ∃ other ∈ processes, other ≠ process ∧ holds other resource

def Ordered (rank : Resource → Nat) (waits holds : Process → Resource → Prop) : Prop :=
  ∀ process wanted held, waits process wanted → holds process held → rank held < rank wanted

variable {waits holds : Process → Resource → Prop}

theorem Ordered.climbs {rank : Resource → Nat}
    {processes : Set Process} (ordered : Ordered rank waits holds)
    (deadlocked : Deadlocked waits holds processes) (bound : Nat) :
    ∃ other ∈ processes, ∃ resource, holds other resource ∧ bound ≤ rank resource := by
  obtain ⟨⟨first, mem⟩, each⟩ := deadlocked
  induction bound with
  | zero =>
    obtain ⟨resource, _, other, among, _, held⟩ := each first mem
    exact ⟨other, among, resource, held, Nat.zero_le _⟩
  | succ bound ih =>
    obtain ⟨holder, among, resource, held, reached⟩ := ih
    -- whoever holds the resource waits for one of a larger rank
    obtain ⟨wanted, waiting, next, mem', _, held'⟩ := each holder among
    have larger := ordered holder wanted resource waiting held
    exact ⟨next, mem', wanted, held', by omega⟩

theorem Ordered.not_deadlocked [Finite Resource] {rank : Resource → Nat}
    (ordered : Ordered rank waits holds)
    (processes : Set Process) : ¬Deadlocked waits holds processes := by
  intro deadlocked
  obtain ⟨bound, above⟩ := (Set.finite_range rank).bddAbove
  obtain ⟨_, _, resource, _, beyond⟩ := ordered.climbs deadlocked (bound + 1)
  have below : rank resource ≤ bound := above (Set.mem_range_self resource)
  omega

end Waiting
