import Mathlib.Algebra.Order.Ring.Int
import Mathlib.Data.List.Basic

/-! The growable ring buffer of `vecdeque.h`, and the queue it stands for.

Whether an allocation succeeds is a parameter. Cells that were never written hold
`none`.
-/

set_option autoImplicit false

namespace Ika.Util

open List Nat

structure VecDeque (Item : Type) where
  cap : Nat := 0
  origin : Nat := 0
  size : Nat := 0
  data : List (Option Item) := []

namespace VecDeque

variable {Item : Type}

def vecdequeMinCap : Nat := 10

/-- `sc_vecdeque_max_cap_`, for items of a size. -/
def vecdequeMaxCap (itemSize : Nat) : Nat := (2 ^ 64 - 1) / 2 / itemSize

def growSize (value : Nat) : Nat := value + value >>> 1

def clamp (value low high : Nat) : Nat := min (max value low) high

variable (deque : VecDeque Item)

def isEmpty : Bool := deque.size = 0

def isFull : Bool := deque.size = deque.cap

def reallocData (newCap : Nat) : VecDeque Item :=
  if deque.origin + deque.size ≤ deque.cap then
    -- the content stays in place
    {deque with
      cap := newCap
      data := deque.data ++ List.replicate (newCap - deque.cap) none}
  else
    let right := min deque.size (deque.cap - deque.origin)
    {deque with
      cap := newCap
      origin := 0
      data := (deque.data.drop deque.origin).take right ++
        (deque.data.take (deque.size - right) ++ List.replicate (newCap - deque.size) none)}

def realloc (newCap : Nat) (allocates : Bool) : Bool × VecDeque Item :=
  if allocates then (true, deque.reallocData newCap) else (false, deque)

def reserve (maxCap minCap : Nat) (allocates : Bool) : Bool × VecDeque Item :=
  let minCap := max minCap vecdequeMinCap
  if minCap ≤ deque.cap then (true, deque)
  else if minCap ≤ maxCap then
    deque.realloc (clamp (growSize deque.cap) minCap maxCap) allocates
  else (false, deque)

def grow (maxCap : Nat) (allocates : Bool) : Bool × VecDeque Item :=
  if deque.cap < maxCap then
    deque.realloc (clamp (growSize deque.cap) vecdequeMinCap maxCap) allocates
  else (false, deque)

def growIfNeeded (maxCap : Nat) (allocates : Bool) : Bool × VecDeque Item :=
  if !deque.isFull then (true, deque) else deque.grow maxCap allocates

def pushNoResize (item : Item) : VecDeque Item := {deque with
  size := deque.size + 1
  data := deque.data.set ((deque.origin + (deque.size + 1) - 1) % deque.cap) (some item)}

def push (maxCap : Nat) (item : Item) (allocates : Bool) : Bool × VecDeque Item :=
  match deque.growIfNeeded maxCap allocates with
  | (true, deque) => (true, deque.pushNoResize item)
  | (false, deque) => (false, deque)

def front : Option Item := (deque.data[deque.origin]?).join

/-- What `sc_vecdeque_popref` leaves; only for a deque that is not empty. -/
def pop : VecDeque Item := {deque with
  origin := (deque.origin + 1) % deque.cap
  size := deque.size - 1}

variable {deque} {items : List Item} {item : Item}

/-- The cells from the origin on, going around at the capacity, hold the items in order. -/
structure Represents (deque : VecDeque Item) (items : List Item) : Prop where
  size : deque.size = items.length
  fits : deque.size ≤ deque.cap
  origin : deque.origin < deque.cap
  length : deque.data.length = deque.cap
  cells : ∀ index item, items[index]? = some item →
    deque.data[(deque.origin + index) % deque.cap]? = some (some item)

theorem Represents.isEmpty (represents : deque.Represents items) :
    deque.isEmpty = true ↔ items = [] := by
  simp [VecDeque.isEmpty, represents.size]

theorem Represents.apart (represents : deque.Represents items) {index other : Nat}
    (within : index < deque.cap) (within' : other < deque.cap) (different : index ≠ other) :
    (deque.origin + index) % deque.cap ≠ (deque.origin + other) % deque.cap := by
  have origin := represents.origin
  intro same
  have cell : ∀ index < deque.cap, (deque.origin + index) % deque.cap =
      if deque.origin + index < deque.cap then deque.origin + index
      else deque.origin + index - deque.cap := by
    intro index within
    split_ifs with before
    · exact mod_eq_of_lt before
    · rw [mod_eq_sub_mod (by omega), mod_eq_of_lt (by omega)]
  rw [cell index within, cell other within'] at same
  split_ifs at same <;> omega

theorem Represents.pushNoResize (represents : deque.Represents items)
    (room : deque.size < deque.cap) : (deque.pushNoResize item).Represents (items ++ [item]) where
  size := by simp [VecDeque.pushNoResize, represents.size]
  fits := room
  origin := represents.origin
  length := by simp [VecDeque.pushNoResize, represents.length]
  cells index found here := by
    have size := represents.size
    have last : deque.origin + (deque.size + 1) - 1 = deque.origin + deque.size := by omega
    simp only [VecDeque.pushNoResize, last]
    by_cases new : index = items.length
    · subst new
      rw [getElem?_append_right (Nat.le_refl _), Nat.sub_self] at here
      cases here
      rw [size, getElem?_set_self]
      rw [represents.length]
      exact mod_lt _ (by omega)
    · have before : index < items.length := by
        have := (List.getElem?_eq_some_iff.mp here).1
        rw [length_append, length_singleton] at this
        omega
      rw [getElem?_append_left before] at here
      rw [getElem?_set_ne (represents.apart (by omega) (by omega) (by omega))]
      exact represents.cells index found here

theorem Represents.pop (represents : deque.Represents (item :: items)) :
    deque.front = some item ∧ deque.pop.Represents items := by
  have size := represents.size
  have fits := represents.fits
  rw [length_cons] at size
  constructor
  · have here := represents.cells 0 item rfl
    rw [Nat.add_zero, mod_eq_of_lt represents.origin] at here
    rw [front, here]
    rfl
  · constructor
    · simp only [VecDeque.pop]
      omega
    · simp only [VecDeque.pop]
      omega
    · exact mod_lt _ (by omega)
    · exact represents.length
    · intro index found here
      have next := represents.cells (index + 1) found (by simpa using here)
      have cell : ((deque.origin + 1) % deque.cap + index) % deque.cap =
          (deque.origin + (index + 1)) % deque.cap := by
        rw [mod_add_mod]
        congr 1
        omega
      simpa only [VecDeque.pop, cell] using next

theorem Represents.reallocData (represents : deque.Represents items) {newCap : Nat}
    (grows : deque.cap < newCap) : (deque.reallocData newCap).Represents items := by
  have size := represents.size
  have fits := represents.fits
  have origin := represents.origin
  have length := represents.length
  unfold VecDeque.reallocData
  split_ifs with inPlace
  · constructor
    · exact size
    · exact Nat.le_of_lt (Nat.lt_of_le_of_lt fits grows)
    · exact Nat.lt_trans origin grows
    · simp only [length_append, length_replicate, length]
      omega
    · intro index found here
      have before := (List.getElem?_eq_some_iff.mp here).1
      have cell := represents.cells index found here
      have left : (deque.origin + index) % deque.cap = deque.origin + index :=
        mod_eq_of_lt (by omega)
      have right : (deque.origin + index) % newCap = deque.origin + index :=
        mod_eq_of_lt (by omega)
      rw [left] at cell
      simp only [right]
      rw [getElem?_append_left (by omega)]
      exact cell
  · have right : min deque.size (deque.cap - deque.origin) = deque.cap - deque.origin := by omega
    simp only [right]
    constructor
    · exact size
    · exact Nat.le_of_lt (Nat.lt_of_le_of_lt fits grows)
    · exact zero_lt_of_lt grows
    · simp only [length_append, length_take, length_drop, length_replicate,
        length]
      omega
    · intro index found here
      have before := (List.getElem?_eq_some_iff.mp here).1
      have cell := represents.cells index found here
      have first : ((deque.data.drop deque.origin).take (deque.cap - deque.origin)).length =
          deque.cap - deque.origin := by
        simp only [length_take, length_drop, length]
        omega
      have here : (0 + index) % newCap = index := by
        rw [Nat.zero_add]
        exact mod_eq_of_lt (by omega)
      simp only [here]
      by_cases straight : index < deque.cap - deque.origin
      · -- from the origin to the end of the old array
        rw [mod_eq_of_lt (by omega)] at cell
        rw [getElem?_append_left (by omega), getElem?_take_of_lt straight,
          getElem?_drop]
        exact cell
      · -- from the start of the old array on
        rw [mod_eq_sub_mod (by omega), mod_eq_of_lt (by omega)] at cell
        rw [getElem?_append_right (by omega), first, getElem?_append_left,
          getElem?_take_of_lt (by omega)]
        · rw [← cell]
          congr 1
          omega
        · simp only [length_take, length]
          omega

theorem lt_growSize {cap : Nat} (enough : 2 ≤ cap) : cap < growSize cap := by
  unfold growSize
  rw [shiftRight_eq_div_pow]
  omega

theorem Represents.push (represents : deque.Represents items) (enough : 2 ≤ deque.cap)
    (maxCap : Nat) (item : Item) (allocates : Bool) :
    ((deque.push maxCap item allocates).1 = true ∧
        (deque.push maxCap item allocates).2.Represents (items ++ [item]) ∧
        deque.cap ≤ (deque.push maxCap item allocates).2.cap) ∨
      (deque.push maxCap item allocates = (false, deque) ∧
        (allocates = false ∨ maxCap ≤ deque.cap)) := by
  have fits := represents.fits
  unfold VecDeque.push growIfNeeded grow realloc
  by_cases full : deque.isFull = true
  · simp only [full, Bool.not_true, Bool.false_eq_true, if_false]
    split_ifs with below allocated
    · left
      have grows : deque.cap < clamp (growSize deque.cap) vecdequeMinCap maxCap := by
        have := lt_growSize enough
        unfold clamp
        omega
      have grown := represents.reallocData grows
      refine ⟨rfl, grown.pushNoResize ?_, ?_⟩
      · have capacity : (deque.reallocData
            (clamp (growSize deque.cap) vecdequeMinCap maxCap)).cap =
              clamp (growSize deque.cap) vecdequeMinCap maxCap := by
          unfold VecDeque.reallocData
          split_ifs <;> rfl
        rw [grown.size, capacity, ← represents.size]
        omega
      · unfold VecDeque.reallocData VecDeque.pushNoResize
        split_ifs <;> exact Nat.le_of_lt grows
    · exact .inr ⟨rfl, .inl (by simpa using allocated)⟩
    · exact .inr ⟨rfl, .inr (Nat.le_of_not_lt below)⟩
  · simp only [full, Bool.not_false, if_true]
    left
    refine ⟨trivial, represents.pushNoResize ?_, Nat.le_refl _⟩
    simp only [isFull, decide_eq_true_eq] at full
    omega

theorem reserve_new (maxCap minCap : Nat) (few : minCap ≤ maxCap) (positive : 10 ≤ minCap) :
    let deque := (({} : VecDeque Item).reserve maxCap minCap true).2
    deque.Represents [] ∧ deque.cap = minCap := by
  have min : max minCap vecdequeMinCap = minCap := by
    unfold vecdequeMinCap
    omega
  have size : clamp (growSize 0) minCap maxCap = minCap := by
    unfold clamp growSize
    omega
  simp only [reserve, min, size, realloc, if_true]
  rw [if_neg (by omega), if_pos few]
  refine ⟨⟨rfl, Nat.zero_le _, ?_, ?_, by simp⟩, rfl⟩
  · change 0 < minCap
    omega
  · simp [reallocData]

end VecDeque

end Ika.Util
