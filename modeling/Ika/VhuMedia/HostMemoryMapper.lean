import Ika.Foundation.Machine
import Mathlib.Data.List.Nodup

/-!
The mapper of host memory into the guest, the address allocator and what the frontend mapped.

The allocator answers with the start of a range of the length that was asked for, away from the
ranges that are allocated.
-/

set_option autoImplicit false

namespace Ika.VhuMedia

open Transition List

inductive MapErrno where
  | EINVAL
  | ENOMEM

structure RangeInclusive where
  start : Nat
  last : Nat
  deriving DecidableEq, Repr

namespace RangeInclusive

def new (start last : Nat) : Except MapErrno RangeInclusive :=
  if last < start then .error .EINVAL else .ok ⟨start, last⟩

def Apart (range other : RangeInclusive) : Prop :=
  range.last < other.start ∨ other.last < range.start
  deriving Decidable

end RangeInclusive

structure VhostUserMMap where
  shm_offset : Nat
  len : Nat
  writable : Bool
  deriving DecidableEq, Repr

def VhostUserMMap.range (msg : VhostUserMMap) : RangeInclusive :=
  ⟨msg.shm_offset, msg.shm_offset + msg.len - 1⟩

structure HostMemoryMapper where
  allocator : List RangeInclusive := []
  allocated_ranges_map : List (Nat × Nat) := []
  frontend : List VhostUserMMap := []
  deriving DecidableEq, Repr

namespace HostMemoryMapper

variable (mapper : HostMemoryMapper)

def recorded : List RangeInclusive :=
  mapper.allocated_ranges_map.map fun entry => ⟨entry.1, entry.2⟩

def insert (start last : Nat) : List (Nat × Nat) :=
  (start, last) :: mapper.allocated_ranges_map.filter (·.1 ≠ start)

def add_mapping (length : Nat) (rw : Bool) (allocated : Option Nat) (accepted : Bool) :
    HostMemoryMapper × Except MapErrno Nat :=
  match allocated with
  | none => (mapper, .error .ENOMEM)
  | some start =>
    let range : RangeInclusive := ⟨start, start + length - 1⟩
    let inserted := {mapper with
      allocator := range :: mapper.allocator
      allocated_ranges_map := mapper.insert range.start range.last}
    if accepted then
      ({inserted with frontend := ⟨range.start, length, rw⟩ :: mapper.frontend}, .ok range.start)
    -- The range stays allocated and in the map.
    else (inserted, .error .EINVAL)

/-- The frontend finds what to remove by its offset alone. -/
def remove_mapping (shm_offset : Nat) (accepted : Bool) :
    HostMemoryMapper × Except MapErrno Unit :=
  match mapper.allocated_ranges_map.lookup shm_offset with
  | none => (mapper, .error .EINVAL)
  | some last =>
    let removed := {mapper with
      allocated_ranges_map := mapper.allocated_ranges_map.filter (·.1 ≠ shm_offset)}
    match RangeInclusive.new shm_offset last with
    | .error e => (removed, .error e)
    | .ok range =>
      if range ∉ mapper.allocator then (removed, .error .EINVAL)
      else
        let freed := {removed with allocator := mapper.allocator.filter (· ≠ range)}
        if accepted then
          ({freed with frontend := mapper.frontend.filter (·.shm_offset ≠ shm_offset)}, .ok ())
        -- The frontend still has the mapping.
        else (freed, .error .EINVAL)

def Allocates (length : Nat) (allocated : Option Nat) : Prop :=
  ∀ start ∈ allocated, 0 < length ∧ start + length ≤ 2 ^ 64 ∧
    ∀ range ∈ mapper.allocator, range.Apart ⟨start, start + length - 1⟩
  deriving Decidable

end HostMemoryMapper

inductive MapperCall where
  | add_mapping (length : Nat) (rw : Bool) (allocated : Option Nat) (accepted : Bool)
  | remove_mapping (shm_offset : Nat) (accepted : Bool)

namespace HostMemoryMapper

def called (mapper : HostMemoryMapper) : MapperCall → HostMemoryMapper × Bool
  | .add_mapping length rw allocated accepted =>
    (mapper.add_mapping length rw allocated accepted).map id Except.isOk
  | .remove_mapping shm_offset accepted =>
    (mapper.remove_mapping shm_offset accepted).map id Except.isOk

def step (mapper : HostMemoryMapper) (call : MapperCall) : Option HostMemoryMapper :=
  match call with
  | .add_mapping length _ allocated _ =>
    if mapper.Allocates length allocated then some (mapper.called call).1 else none
  | .remove_mapping _ _ => some (mapper.called call).1

def machine : Machine HostMemoryMapper MapperCall where
  init mapper := mapper = {}
  step := step

def Accepted (mapper : HostMemoryMapper) : MapperCall → Prop
  | .add_mapping _ _ allocated accepted => allocated.isSome → accepted
  | .remove_mapping shm_offset accepted =>
    (mapper.allocated_ranges_map.lookup shm_offset).isSome → accepted

instance (mapper : HostMemoryMapper) (call : MapperCall) : Decidable (mapper.Accepted call) :=
  match call with
  | .add_mapping _ _ _ _ => inferInstanceAs (Decidable (_ → _))
  | .remove_mapping _ _ => inferInstanceAs (Decidable (_ → _))

structure Accounted (mapper : HostMemoryMapper) : Prop where
  allocated : mapper.allocator.Perm mapper.recorded
  mapped : (mapper.frontend.map VhostUserMMap.range).Perm mapper.recorded
  apart : mapper.recorded.Pairwise RangeInclusive.Apart

/-- The call leaves the three in step, and nothing behind if it fails. -/
def Accounts (mapper : HostMemoryMapper) (call : MapperCall) : Prop :=
  (mapper.called call).1.Accounted ∧
    ((mapper.called call).2 = false → (mapper.called call).1 = mapper)

/-- As `Accounted`, with all in the order of their mapping. -/
structure Kept (mapper : HostMemoryMapper) : Prop where
  allocated : mapper.allocator = mapper.recorded
  mapped : mapper.frontend.map VhostUserMMap.range = mapper.recorded
  apart : mapper.recorded.Pairwise RangeInclusive.Apart
  proper : ∀ range ∈ mapper.recorded, range.start ≤ range.last

variable {mapper : HostMemoryMapper}

theorem Kept.accounted (kept : mapper.Kept) : mapper.Accounted where
  allocated := .of_eq kept.allocated
  mapped := .of_eq kept.mapped
  apart := kept.apart

theorem Kept.nodup (kept : mapper.Kept) : (mapper.recorded.map RangeInclusive.start).Nodup := by
  refine pairwise_map.mpr (kept.apart.imp_of_mem ?_)
  intro range other member otherMember apart same
  have := kept.proper range member
  have := kept.proper other otherMember
  rcases apart with before | before <;> omega

variable {start last length shm_offset : Nat}

theorem recorded_of_lookup {start : Nat}
    (found : mapper.allocated_ranges_map.lookup start = some last) :
    (⟨start, last⟩ : RangeInclusive) ∈ mapper.recorded := by
  obtain ⟨before, after, split, -⟩ := lookup_eq_some_iff.mp found
  unfold recorded
  rw [split]
  simp

section

variable (kept : mapper.Kept)
include kept

theorem Kept.insert_fresh {start : Nat} (proper : start ≤ last)
    (fresh : ∀ range ∈ mapper.recorded, range.Apart ⟨start, last⟩) :
    mapper.insert start last = (start, last) :: mapper.allocated_ranges_map := by
  unfold insert
  rw [filter_eq_self.mpr]
  intro entry member
  have recorded : (⟨entry.1, entry.2⟩ : RangeInclusive) ∈ mapper.recorded :=
    mem_map_of_mem member
  have := kept.proper _ recorded
  rcases fresh _ recorded with before | before <;>
    · simp only [decide_eq_true_eq] at this before ⊢
      omega

theorem Kept.filter_start {range : RangeInclusive} (member : range ∈ mapper.recorded) :
    mapper.recorded.filter (· ≠ range) = mapper.recorded.filter (·.start ≠ range.start) := by
  refine filter_congr fun other otherMember => ?_
  have unique := inj_on_of_nodup_map kept.nodup otherMember member
  simp only [decide_eq_decide]
  exact not_congr ⟨fun same => same ▸ rfl, unique⟩

theorem Kept.add_mapping (rw : Bool) (allocates : mapper.Allocates length (some start)) :
    (mapper.add_mapping length rw (some start) true).1.Kept := by
  obtain ⟨positive, -, apart⟩ := allocates start rfl
  rw [kept.allocated] at apart
  have inserted := kept.insert_fresh (by omega) apart
  simp only [HostMemoryMapper.add_mapping, if_true, inserted]
  constructor
  · exact congrArg _ kept.allocated
  · exact congrArg _ kept.mapped
  · refine pairwise_cons.mpr ⟨fun other member => ?_, kept.apart⟩
    exact (apart other member).symm
  · refine forall_mem_cons.mpr ⟨?_, kept.proper⟩
    simp only
    omega

section

variable (found : mapper.allocated_ranges_map.lookup shm_offset = some last)
include found

theorem Kept.remove_mapping (accepted : Bool) :
    mapper.remove_mapping shm_offset accepted =
      ({ allocator := mapper.recorded.filter (·.start ≠ shm_offset)
         allocated_ranges_map := mapper.allocated_ranges_map.filter (·.1 ≠ shm_offset)
         frontend := if accepted then mapper.frontend.filter (·.shm_offset ≠ shm_offset)
           else mapper.frontend},
        if accepted then .ok () else .error .EINVAL) := by
  have member := recorded_of_lookup found
  have proper := kept.proper _ member
  simp only [HostMemoryMapper.remove_mapping, found, RangeInclusive.new, if_neg (Nat.not_lt.mpr proper),
    kept.allocated, member, not_true, if_false, kept.filter_start member]
  cases accepted <;> rfl

theorem Kept.recorded_removed (accepted : Bool) :
    (mapper.remove_mapping shm_offset accepted).1.recorded =
      mapper.recorded.filter (·.start ≠ shm_offset) := by
  rw [kept.remove_mapping found]
  unfold recorded
  rw [filter_map]
  rfl

theorem Kept.removed
    :
    (mapper.remove_mapping shm_offset true).1.Kept := by
  have recorded := kept.recorded_removed found true
  constructor
  · rw [recorded, kept.remove_mapping found]
  · rw [recorded, kept.remove_mapping found, ← kept.mapped, filter_map]
    rfl
  · rw [recorded]
    exact kept.apart.filter _
  · rw [recorded]
    exact fun range member => kept.proper range (mem_of_mem_filter member)

end

theorem Kept.map_refused (rw : Bool) (allocates : mapper.Allocates length (some start)) :
    ¬(mapper.add_mapping length rw (some start) false).1.Accounted := by
  intro accounted
  -- The map has one more range than the frontend.
  have mapped := accounted.mapped.length_eq
  obtain ⟨positive, -, apart⟩ := allocates start rfl
  rw [kept.allocated] at apart
  have inserted := kept.insert_fresh (by omega) apart
  simp only [HostMemoryMapper.add_mapping, Bool.false_eq_true, if_false, inserted, recorded,
    map_cons, length_cons] at mapped
  rw [kept.mapped, recorded] at mapped
  omega

theorem Kept.unmap_refused (found : mapper.allocated_ranges_map.lookup shm_offset = some last) :
    ¬(mapper.remove_mapping shm_offset false).1.Accounted := by
  intro accounted
  -- The map has lost a range that the frontend keeps.
  have mapped := accounted.mapped.length_eq
  have shorter : (mapper.recorded.filter (·.start ≠ shm_offset)).length < mapper.recorded.length :=
    length_filter_lt_length_iff_exists.mpr ⟨_, recorded_of_lookup found, by simp⟩
  rw [kept.recorded_removed found, kept.remove_mapping found] at mapped
  simp only [Bool.false_eq_true, if_false, kept.mapped] at mapped
  omega

theorem Kept.called {call : MapperCall} {after : HostMemoryMapper}
    (moved : mapper.step call = some after) :
    (mapper.Accepted call → after.Kept) ∧ (mapper.Accounts call ↔ mapper.Accepted call) := by
  unfold Accounts
  cases call with
  | add_mapping length rw allocated accepted =>
    rw [step, Option.ite_none_right_eq_some, Option.some.injEq] at moved
    obtain ⟨allocates, rfl⟩ := moved
    cases allocated with
    | none => exact ⟨fun _ => kept, fun _ => nofun, fun _ => ⟨kept.accounted, fun _ => rfl⟩⟩
    | some start =>
      cases accepted with
      | true =>
        have next := kept.add_mapping rw allocates
        exact ⟨fun _ => next, fun _ _ => rfl, fun _ => ⟨next.accounted, nofun⟩⟩
      | false =>
        refine ⟨fun granted => absurd (granted rfl) nofun, fun accounts => ?_, fun granted => ?_⟩
        · exact absurd accounts.1 (kept.map_refused rw allocates)
        · exact absurd (granted rfl) nofun
  | remove_mapping shm_offset accepted =>
    cases moved
    simp only [HostMemoryMapper.called, Accepted]
    cases found : mapper.allocated_ranges_map.lookup shm_offset with
    | none =>
      have same : mapper.remove_mapping shm_offset accepted = (mapper, .error .EINVAL) := by
        simp only [HostMemoryMapper.remove_mapping, found]
      rw [same]
      exact ⟨fun _ => kept, fun _ => nofun, fun _ => ⟨kept.accounted, fun _ => rfl⟩⟩
    | some last =>
      cases accepted with
      | true =>
        have next := kept.removed found
        refine ⟨fun _ => next, fun _ _ => rfl, fun _ => ⟨next.accounted, fun failed => ?_⟩⟩
        rw [kept.remove_mapping found] at failed
        cases failed
      | false =>
        refine ⟨fun granted => absurd (granted rfl) nofun, fun accounts => ?_, fun granted => ?_⟩
        · exact absurd accounts.1 (kept.unmap_refused found)
        · exact absurd (granted rfl) nofun

end

theorem Kept.of_reaches (reached : machine.Reaches Accepted mapper) : mapper.Kept := by
  refine reached.invariant ?_ fun state call after kept granted moved =>
    (kept.called moved).1 granted
  rintro _ rfl
  exact ⟨rfl, rfl, .nil, nofun⟩

end HostMemoryMapper

/-- While the frontend accepts what it is asked, every range is mapped, recorded and allocated, or
none of these; the first refusal breaks that. -/
theorem mappings_accounted {mapper : HostMemoryMapper}
    (reached : HostMemoryMapper.machine.Reaches HostMemoryMapper.Accepted mapper) :
    mapper.Accounted ∧ ∀ call after, mapper.step call = some after →
      (mapper.Accounts call ↔ mapper.Accepted call) := by
  have kept := HostMemoryMapper.Kept.of_reaches reached
  exact ⟨kept.accounted, fun call after moved => (kept.called moved).2⟩

def onePage : HostMemoryMapper where
  allocator := [⟨0, 4095⟩]
  allocated_ranges_map := [(0, 4095)]
  frontend := [⟨0, 4096, true⟩]

theorem mappings_accounted_onePage :
    onePage.Accounted ∧ ∀ call after, onePage.step call = some after →
      (onePage.Accounts call ↔ onePage.Accepted call) := by
  refine mappings_accounted (.take (.add_mapping 4096 true (some 0) true) (.start rfl) ?_ ?_)
  · decide
  · decide

/-- A page whose unmapping was refused can be allocated again, and is then mapped twice. -/
theorem mappings_overlap :
    ¬HostMemoryMapper.Accounts {} (.add_mapping 4096 true (some 0) false) ∧
    ∃ mapper, HostMemoryMapper.machine.Reachable mapper ∧
      mapper.frontend.map VhostUserMMap.range = [⟨0, 4095⟩, ⟨0, 4095⟩] := by
  constructor
  · intro accounts
    exact absurd (accounts.2 rfl) (by decide)
  · have reached : HostMemoryMapper.machine.Reachable
        ((HostMemoryMapper.machine.run {} [.add_mapping 4096 true (some 0) true,
          .remove_mapping 0 false, .add_mapping 4096 true (some 0) true]).getD {}) :=
      .getD_run _ (.start rfl) (by decide)
    exact ⟨_, reached, by decide⟩

end Ika.VhuMedia
