import Ika.InputConnector.TouchDevice
import Mathlib.Data.List.Nodup

/-! The slots of the device: what is kept for an id, and for no other. -/

set_option autoImplicit false

namespace Ika.InputConnector

open List

namespace TouchDevice

/-- Each id and each slot is taken once, and the active slots are those that are taken. -/
structure WellFormed (device : TouchDevice) : Prop where
  keys : (device.slots_by_source_and_id_.map Prod.fst).Nodup
  slots : (device.slots_by_source_and_id_.map Prod.snd).Nodup
  active : ∀ slot, device.active_slots_[slot]? = some true ↔
    slot ∈ device.slots_by_source_and_id_.map Prod.snd

variable {device : TouchDevice} {source : Source} {id : Int32} {slot : Nat}

theorem find_mem (found : device.find source id = some slot) :
    ((source, id), slot) ∈ device.slots_by_source_and_id_ := by
  obtain ⟨entry, first, rfl⟩ := Option.map_eq_some_iff.mp found
  have key := find?_some first
  simp only [decide_eq_true_eq] at key
  rw [← key]
  exact mem_of_find?_eq_some first

theorem find_none : device.find source id = none ↔
    ∀ entry ∈ device.slots_by_source_and_id_, entry.1 ≠ (source, id) := by
  simp [find, List.find?_eq_none]

namespace WellFormed

theorem start : ({} : TouchDevice).WellFormed where
  keys := .nil
  slots := .nil
  active := by simp

section

variable (wf : device.WellFormed)
include wf

theorem find_inj {other : Source} {id' : Int32}
    (one : device.find source id = some slot) (two : device.find other id' = some slot) :
    source = other ∧ id = id' := by
  have same := inj_on_of_nodup_map wf.slots (find_mem one) (find_mem two) rfl
  cases same
  exact ⟨rfl, rfl⟩

theorem lt_length (found : device.find source id = some slot) :
    slot < device.active_slots_.length := by
  have taken : slot ∈ device.slots_by_source_and_id_.map Prod.snd :=
    mem_map_of_mem (find_mem found)
  have active := (wf.active slot).mpr taken
  exact (List.getElem?_eq_some_iff.mp active).1

theorem useNewSlot :
    device.UseNewSlot.2 ∉ device.slots_by_source_and_id_.map Prod.snd ∧
      device.UseNewSlot.1.slots_by_source_and_id_ = device.slots_by_source_and_id_ ∧
      device.UseNewSlot.1.tracking_id_ = device.tracking_id_ ∧
      device.UseNewSlot.1.active_slots_.length ≤ device.active_slots_.length + 1 ∧
      ∀ slot, device.UseNewSlot.1.active_slots_[slot]? = some true ↔
        slot = device.UseNewSlot.2 ∨ device.active_slots_[slot]? = some true := by
  unfold UseNewSlot
  split
  · rename_i free found
    obtain ⟨bound, inactive, _⟩ := findIdx?_eq_some_iff_getElem.mp found
    simp only [decide_eq_true_eq] at inactive
    refine ⟨?_, rfl, rfl, by simp, fun slot => ?_⟩
    · rw [← wf.active, getElem?_eq_getElem bound, inactive]
      simp
    · rw [getElem?_set]
      by_cases same : free = slot
      · subst same
        simp [bound]
      · simp [same, Ne.symm same]
  · refine ⟨?_, rfl, rfl, by simp, fun slot => ?_⟩
    · rw [← wf.active]
      simp
    · rw [getElem?_append]
      by_cases below : slot < device.active_slots_.length
      · simp [below, Nat.ne_of_lt below]
      · rw [if_neg below, getElem?_eq_none (Nat.le_of_not_lt below)]
        simp only [reduceCtorEq, or_false]
        constructor
        · intro found
          have := (List.getElem?_eq_some_iff.mp found).1
          simp only [length_cons, length_nil] at this
          omega
        · rintro rfl
          simp

theorem getOrAcquire (source : Source) (id : Int32) :
    (device.GetOrAcquireSlot source id).1.WellFormed ∧
      (device.GetOrAcquireSlot source id).1.find source id =
        some (device.GetOrAcquireSlot source id).2 ∧
      (∀ other id', (other, id') ≠ (source, id) →
        (device.GetOrAcquireSlot source id).1.find other id' = device.find other id') ∧
      (∀ slot, device.find source id = some slot →
        device.GetOrAcquireSlot source id = (device, slot)) ∧
      (device.GetOrAcquireSlot source id).1.active_slots_.length ≤
        device.active_slots_.length + 1 := by
  unfold GetOrAcquireSlot
  cases found : device.find source id with
  | some slot => exact ⟨wf, found, fun _ _ _ => rfl, fun other same => by cases same; rfl, by simp⟩
  | none =>
    obtain ⟨free, entries, _, longer, active⟩ := wf.useNewSlot
    refine ⟨⟨?_, ?_, fun slot => ?_⟩, ?_, fun other id' apart => ?_, (fun _ same => nomatch same),
      longer⟩
    · simp only [entries, map_cons, nodup_cons, mem_map, not_exists, not_and]
      exact ⟨fun entry mem => find_none.mp found entry mem, wf.keys⟩
    · simp only [entries, map_cons, nodup_cons]
      exact ⟨free, wf.slots⟩
    · simp only [entries, map_cons, mem_cons, active, wf.active]
    · simp [find]
    · simp only [find, entries]
      rw [find?_cons_of_neg]
      exact fun same => apart (of_decide_eq_true same).symm

theorem release (source : Source) (id : Int32) :
    (device.ReleaseSlot source id).WellFormed ∧
      (device.ReleaseSlot source id).find source id = none ∧
      (∀ other id', (other, id') ≠ (source, id) →
        (device.ReleaseSlot source id).find other id' = device.find other id') ∧
      (device.ReleaseSlot source id).active_slots_.length = device.active_slots_.length := by
  unfold ReleaseSlot
  cases found : device.find source id with
  | none => exact ⟨wf, found, fun _ _ _ => rfl, rfl⟩
  | some slot =>
    refine ⟨⟨?_, ?_, fun other => ?_⟩, ?_, fun other id' apart => ?_, by simp⟩
    · exact wf.keys.sublist (filter_sublist.map _)
    · exact wf.slots.sublist (filter_sublist.map _)
    · rw [getElem?_set]
      by_cases same : slot = other
      · -- the slot was kept for this id alone
        subst same
        have gone : slot ∉ (device.slots_by_source_and_id_.filter (·.1 ≠ (source, id))).map
          Prod.snd := by
          intro mem
          obtain ⟨entry, kept, rfl⟩ := mem_map.mp mem
          obtain ⟨mem, apart⟩ := mem_filter.mp kept
          have twin := inj_on_of_nodup_map wf.slots mem (find_mem found) rfl
          exact of_decide_eq_true apart (congrArg Prod.fst twin)
        refine iff_of_false ?_ gone
        rw [if_pos rfl]
        split <;> simp
      · rw [if_neg same, wf.active]
        simp only [mem_map, mem_filter]
        constructor
        · rintro ⟨entry, mem, rfl⟩
          refine ⟨entry, ⟨mem, decide_eq_true fun key => same ?_⟩, rfl⟩
          have twin := inj_on_of_nodup_map wf.keys mem (find_mem found) key
          rw [twin]
        · rintro ⟨entry, ⟨mem, _⟩, rfl⟩
          exact ⟨entry, mem, rfl⟩
    · refine find_none.mpr fun entry mem key => ?_
      simp [key] at mem
    · simp only [find, find?_filter]
      congr 2
      funext entry
      by_cases key : entry.1 = (other, id')
      · have kept : entry.1 ≠ (source, id) := fun same => apart (key.symm.trans same)
        rw [key] at kept
        simp [key, kept]
      · simp [key]

end

end WellFormed

end TouchDevice

end Ika.InputConnector
