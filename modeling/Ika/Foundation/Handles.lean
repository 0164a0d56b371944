import Mathlib.Data.List.Basic

/-! Handles that a library hands out and takes back, and the places that hold them.

Handles are numbered as they are created and no number comes twice, so a handle
kept after it was destroyed is never mistaken for a later one.
-/

set_option autoImplicit false

structure Handles where
  created : Nat := 0
  destroyed : List Nat := []

namespace Handles

open List Function Nat

variable (handles : Handles)

def fresh : Nat := handles.created

def create : Handles := {handles with created := handles.created + 1}

def destroy (handle : Nat) : Handles :=
  {handles with destroyed := handle :: handles.destroyed}

def Live (handle : Nat) : Prop := handle < handles.created ∧ handle ∉ handles.destroyed
  deriving Decidable

variable {handles} {handle other : Nat}

theorem live_create : handles.create.Live handle ↔
    handle = handles.fresh ∧ handle ∉ handles.destroyed ∨ handles.Live handle := by
  simp only [Live, create, fresh, Nat.lt_succ_iff_lt_or_eq]
  tauto

theorem live_destroy : (handles.destroy other).Live handle ↔ handle ≠ other ∧ handles.Live handle := by
  simp only [Live, destroy, mem_cons, not_or]
  tauto

/-- Every handle was destroyed at most once, and is otherwise held in exactly one place. -/
structure Owned {Place : Type} (handles : Handles) (holds : Place → Option Nat) : Prop where
  once : handles.destroyed.Nodup
  known : ∀ handle ∈ handles.destroyed, handle < handles.created
  live : ∀ place handle, holds place = some handle → handles.Live handle
  placed : ∀ handle, handles.Live handle → ∃ place, holds place = some handle
  alone : ∀ place other handle, holds place = some handle → holds other = some handle →
    place = other

namespace Owned

variable {Place : Type} [DecidableEq Place] {holds : Place → Option Nat}

omit [DecidableEq Place] in
theorem none_yet : Owned ({} : Handles) fun _ : Place => none where
  once := .nil
  known := by simp
  live := by simp
  placed := by simp [Live]
  alone := by simp

section

variable (owned : Owned handles holds)
include owned

omit [DecidableEq Place] in
theorem congr {same : Place → Option Nat}
    (agree : ∀ place, same place = holds place) : Owned handles same := by
  rwa [funext agree]

omit [DecidableEq Place] in
theorem fresh_known : handles.fresh ∉ handles.destroyed := by
  intro gone
  have := owned.known _ gone
  simp [fresh] at this

omit [DecidableEq Place] in
theorem fresh_absent (place : Place) : holds place ≠ some handles.fresh := by
  intro held
  have := (owned.live place _ held).1
  simp [fresh] at this

theorem create {place : Place} (empty : holds place = none) :
    Owned handles.create (update holds place (some handles.fresh)) where
  once := owned.once
  known handle gone := lt_succ_of_lt (owned.known handle gone)
  live other handle held := by
    rw [live_create]
    by_cases here : other = place
    · subst here
      cases (update_self ..).symm.trans held
      exact .inl ⟨rfl, owned.fresh_known⟩
    · rw [update_of_ne here] at held
      exact .inr (owned.live other handle held)
  placed handle alive := by
    rcases live_create.mp alive with ⟨rfl, _⟩ | alive
    · exact ⟨place, update_self ..⟩
    · obtain ⟨other, held⟩ := owned.placed handle alive
      have elsewhere : other ≠ place := by
        rintro rfl
        simp [empty] at held
      exact ⟨other, by rwa [update_of_ne elsewhere]⟩
  alone first second handle left right := by
    have old : ∀ {other : Place}, other ≠ place →
        update holds place (some handles.fresh) other = some handle →
        holds other = some handle := by
      intro other elsewhere held
      rwa [update_of_ne elsewhere] at held
    by_cases here : first = place <;> by_cases there : second = place
    · rw [here, there]
    · subst here
      cases (update_self ..).symm.trans left
      exact absurd (old there right) (owned.fresh_absent second)
    · subst there
      cases (update_self ..).symm.trans right
      exact absurd (old here left) (owned.fresh_absent first)
    · exact owned.alone first second handle (old here left) (old there right)

theorem destroy {place : Place} {handle : Nat} (held : holds place = some handle) :
    Owned (handles.destroy handle) (update holds place none) where
  once := nodup_cons.mpr ⟨(owned.live place handle held).2, owned.once⟩
  known other gone := by
    rcases mem_cons.mp gone with rfl | gone
    · exact (owned.live place other held).1
    · exact owned.known other gone
  live other kept still := by
    have elsewhere : other ≠ place := by
      rintro rfl
      simp at still
    rw [update_of_ne elsewhere] at still
    refine live_destroy.mpr ⟨?_, owned.live other kept still⟩
    rintro rfl
    exact elsewhere (owned.alone other place kept still held)
  placed kept alive := by
    obtain ⟨different, alive⟩ := live_destroy.mp alive
    obtain ⟨other, still⟩ := owned.placed kept alive
    have elsewhere : other ≠ place := by
      rintro rfl
      exact different (Option.some.inj (still.symm.trans held))
    exact ⟨other, by rwa [update_of_ne elsewhere]⟩
  alone first second kept left right := by
    have old : ∀ {other : Place}, update holds place none other = some kept →
        holds other = some kept := by
      intro other still
      by_cases here : other = place
      · simp [here] at still
      · rwa [update_of_ne here] at still
    exact owned.alone first second kept (old left) (old right)

omit [DecidableEq Place] in
theorem discard : Owned (handles.create.destroy handles.fresh) holds where
  once := nodup_cons.mpr ⟨owned.fresh_known, owned.once⟩
  known other gone := by
    rcases mem_cons.mp gone with rfl | gone
    · exact lt_succ_self _
    · exact lt_succ_of_lt (owned.known other gone)
  live place kept held := by
    refine live_destroy.mpr ⟨?_, live_create.mpr (.inr (owned.live place kept held))⟩
    rintro rfl
    exact owned.fresh_absent place held
  placed kept alive := by
    obtain ⟨different, alive⟩ := live_destroy.mp alive
    rcases live_create.mp alive with ⟨new, _⟩ | alive
    · exact absurd new different
    · exact owned.placed kept alive
  alone := owned.alone

omit [DecidableEq Place] in
theorem none_live (empty : ∀ place, holds place = none) (handle : Nat) : ¬handles.Live handle := by
  intro alive
  obtain ⟨place, held⟩ := owned.placed handle alive
  simp [empty place] at held

end

end Owned

end Handles
