import Mathlib.Data.List.GetD

/-! The contents of a file: writing bytes at an offset, and what a write leaves alone. -/

set_option autoImplicit false

namespace Contents

open List

/-- A write behind the end leaves a hole of zeros. -/
def overwrite (contents : List UInt8) (offset : Nat) (bytes : List UInt8) : List UInt8 :=
  if bytes = [] then contents
  else contents.take offset ++ List.replicate (offset - contents.length) 0 ++ bytes ++
    contents.drop (offset + bytes.length)

variable {contents bytes : List UInt8} {offset position : Nat}

theorem overwrite_inside (low : offset ≤ position) (high : position < offset + bytes.length) :
    (overwrite contents offset bytes)[position]? = bytes[position - offset]? := by
  have some : bytes ≠ [] := by
    rintro rfl
    rw [length_nil] at high
    omega
  have length : (contents.take offset ++ List.replicate (offset - contents.length) 0).length =
      offset := by
    rw [length_append, length_take, length_replicate]
    omega
  unfold overwrite
  rw [if_neg some, append_assoc, getElem?_append_right (by omega), length,
    getElem?_append_left (by omega)]

theorem overwrite_outside (within : position < contents.length)
    (apart : position < offset ∨ offset + bytes.length ≤ position) :
    (overwrite contents offset bytes)[position]? = contents[position]? := by
  unfold overwrite
  split
  · rfl
  · have length : (contents.take offset ++ List.replicate (offset - contents.length) 0).length =
        offset := by
      rw [length_append, length_take, length_replicate]
      omega
    rcases apart with before | behind
    · rw [append_assoc, getElem?_append_left (by omega),
        getElem?_append_left (by rw [length_take]; omega), getElem?_take_of_lt before]
    · rw [append_assoc, getElem?_append_right (by omega), length,
        getElem?_append_right (by omega), getElem?_drop]
      congr 1
      omega

theorem length_overwrite_le :
    (overwrite contents offset bytes).length ≤ max contents.length (offset + bytes.length) := by
  unfold overwrite
  split
  · exact Nat.le_max_left _ _
  · rw [length_append, length_append, length_append, length_take,
      length_replicate, length_drop]
    omega

theorem overwrite_part {whole : List UInt8} {size : Nat} (short : contents.length ≤ whole.length)
    (within : offset + size ≤ whole.length)
    (agrees : contents[position]? = whole[position]? ∨ offset ≤ position ∧ position < offset + size) :
    (overwrite contents offset ((whole.drop offset).take size))[position]? = whole[position]? := by
  have length : ((whole.drop offset).take size).length = size := by
    rw [length_take, length_drop]
    omega
  by_cases inside : offset ≤ position ∧ position < offset + size
  · rw [overwrite_inside inside.1 (by rw [length]; exact inside.2), getElem?_take_of_lt
      (by omega), getElem?_drop, Nat.add_sub_cancel' inside.1]
  · have agree := agrees.resolve_right inside
    by_cases filled : position < contents.length
    · rw [overwrite_outside filled (by rw [length]; omega), agree]
    · have beyond : whole[position]? = none := by
        rw [← agree]
        exact getElem?_eq_none (Nat.not_lt.mp filled)
      rw [beyond, List.getElem?_eq_none_iff]
      have end_ := List.getElem?_eq_none_iff.mp beyond
      have total := @length_overwrite_le contents ((whole.drop offset).take size) offset
      rw [length] at total
      exact Nat.le_trans total (Nat.le_trans (Nat.max_le.mpr ⟨short, within⟩) end_)

end Contents

/-! Bytes of numbered segments: reading a run of them, writing one, and what a write leaves alone. -/

abbrev Memory := Nat → Nat → UInt8

namespace Memory

open List

def read (memory : Memory) (segment address count : Nat) : List UInt8 :=
  (List.range count).map fun k => memory segment (address + k)

def write (memory : Memory) (segment address : Nat) (bytes : List UInt8) : Memory :=
  fun other target =>
    if other = segment ∧ address ≤ target ∧ target < address + bytes.length then
      bytes.getD (target - address) 0
    else memory other target

def Holds (memory : Memory) (segment address : Nat) (bytes : List UInt8) : Prop :=
  ∀ (k : Nat) (bound : k < bytes.length), memory segment (address + k) = bytes[k]

variable {memory : Memory} {segment address other target : Nat} {bytes : List UInt8}

theorem length_read (memory : Memory) (segment address count : Nat) :
    (memory.read segment address count).length = count := by
  simp [read]

theorem write_outside (changed : memory.write segment address bytes other target ≠
      memory other target) :
    other = segment ∧ address ≤ target ∧ target < address + bytes.length := by
  unfold write at changed
  split at changed
  · assumption
  · exact absurd rfl changed

theorem Holds.nil : memory.Holds segment address [] := fun _ bound => absurd bound (Nat.not_lt_zero _)

theorem Holds.read (held : memory.Holds segment address bytes) :
    memory.read segment address bytes.length = bytes := by
  refine ext_getElem (length_read _ _ _ _) fun k _ bound => ?_
  simp only [Memory.read, getElem_map, getElem_range]
  exact held k bound

theorem Holds.write_next {copied : Nat} (within : copied ≤ bytes.length) (count : Nat)
    (held : memory.Holds segment address (bytes.take copied)) :
    (memory.write segment (address + copied) ((bytes.drop copied).take count)).Holds segment address
      (bytes.take (copied + ((bytes.drop copied).take count).length)) := by
  intro k bound
  simp only [length_take, length_drop] at bound
  rw [getElem_take]
  by_cases before : k < copied
  · have old := held k (by simp; omega)
    rw [getElem_take] at old
    rw [← old]
    exact if_neg fun ⟨_, low, _⟩ => by omega
  · unfold Memory.write
    rw [if_pos ⟨rfl, by omega, by simp; omega⟩]
    rw [getD_eq_getElem _ _ (by simp; omega), getElem_take, getElem_drop]
    congr 1
    omega

end Memory
