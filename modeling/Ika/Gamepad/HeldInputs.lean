import Ika.Foundation.Recency
import Ika.Gamepad.KeyboardGamepad

/-! What the calls of the keyboard gamepad hold down, told without its state.

The inputs held are a list, the newest first. What a pad points to is read off
that list; `keyboard_gamepad.c` reads it off the stamps of its keys.
-/

set_option autoImplicit false

namespace Ika.Gamepad

open Recency List

structure HeldInputs where
  inputs : List Source := []
  due : Source → Nat := fun _ => 0
  presses : Nat := 0

namespace HeldInputs

def controlOf (bindings : List Binding) (source : Source) : Option Control :=
  (bindings.find? fun binding => binding.source = source).map (·.control)

variable (bindings : List Binding) (held : HeldInputs)

def release (keep : Source → Bool) : HeldInputs := {held with inputs := held.inputs.filter keep}

def lift (source : Source) : HeldInputs := held.release fun other => other ≠ source

def press (source : Source) : HeldInputs :=
  if controlOf bindings source = none ∨ source ∈ held.inputs then held
  else {held with inputs := source :: held.inputs, presses := held.presses + 1}

def setDue (source : Source) (releaseMs : Nat) : HeldInputs :=
  {held with due := Function.update held.due source releaseMs}

def notch (nowMs : Nat) (wheel : Wheel) : HeldInputs :=
  let source : Source := ⟨.wheel, wheel.code⟩
  (held.setDue source ((nowMs + kgWheelPulseMs) % 2 ^ 64)).press bindings source

/-- The key presses that count: repeats and key combinations do not. -/
def handleKey (event : KeyboardEvent) : HeldInputs :=
  let source : Source := ⟨.key, event.scancode⟩
  if !event.down then held.lift source
  else if event.isRepeat ∨ event.mod &&& combinationMods ≠ 0 then held
  else held.press bindings source

def call : Call → HeldInputs
  | .handleKey event => held.handleKey bindings event
  | .handleMouseMotion _ _ _ => held
  | .handleMouseButton button down _ =>
    if down then held.press bindings ⟨.mouseButton, button⟩ else held.lift ⟨.mouseButton, button⟩
  | .handleMouseWheel hscroll vscroll nowMs =>
    (notches hscroll vscroll).foldl (fun held wheel => held.notch bindings nowMs wheel) held
  | .tick nowMs => held.release fun source =>
      !(decide (source.input = .wheel) && decide (held.due source ≤ nowMs))
  | .releaseAll => held.release fun _ => false
  | .releaseMouse _ => held.release fun source => source.input = .key

def calls (calls : List Call) : HeldInputs := calls.foldl (call bindings) held

def Holds (control : Control) : Prop :=
  ∃ source ∈ held.inputs, controlOf bindings source = some control

def signs (pad : Pad) (vertical : Bool) : List Sign :=
  held.inputs.filterMap fun source => (controlOf bindings source).bind (·.signOn pad vertical)

/-- Where a pad points on an axis: in the direction pressed last, or nowhere. -/
def pointing (socd : Pad → Socd) (pad : Pad) (vertical : Bool) : SignType :=
  let signs := held.signs bindings pad vertical
  if socd pad = .neutral ∧ .negative ∈ signs ∧ .positive ∈ signs then 0
  else (signs.head?.map Sign.direction).getD 0

end HeldInputs

/-- The order of an input's press, 0 if it is not held. -/
def stamp (keys : List Key) (source : Source) : Nat :=
  ((keys.find? fun key => key.source = source).map (·.pressed)).getD 0

def Distinct (keys : List Key) : Prop := (keys.map (·.source)).Nodup

section Stamps

variable {keys : List Key} {key other : Key}

theorem Distinct.eq (distinct : Distinct keys) (mem : key ∈ keys) (memOther : other ∈ keys)
    (same : key.source = other.source) : key = other :=
  inj_on_of_nodup_map distinct mem memOther same

theorem Distinct.find_key (distinct : Distinct keys) (mem : key ∈ keys) :
    keys.find? (fun other => other.source = key.source) = some key := by
  cases found : keys.find? fun other => other.source = key.source with
  | none => simpa using List.find?_eq_none.mp found key mem
  | some other =>
    have same : other.source = key.source := by simpa using find?_some found
    rw [distinct.eq (mem_of_find?_eq_some found) mem same]

theorem Distinct.stamp_eq (distinct : Distinct keys) (mem : key ∈ keys) :
    stamp keys key.source = key.pressed := by
  simp [stamp, distinct.find_key mem]

theorem mem_of_stamp {source : Source} (stamped : stamp keys source ≠ 0) :
    ∃ key ∈ keys, key.source = source ∧ key.pressed = stamp keys source := by
  unfold stamp at stamped ⊢
  cases found : keys.find? fun key => key.source = source with
  | none => simp [found] at stamped
  | some key =>
    exact ⟨key, mem_of_find?_eq_some found, by simpa using find?_some found, rfl⟩

theorem stamp_map {change : Key → Key} (keeps : ∀ key ∈ keys, (change key).source = key.source)
    (source : Source) :
    stamp (keys.map change) source =
      ((keys.find? fun key => key.source = source).map fun key => (change key).pressed).getD 0 := by
  induction keys with
  | nil => rfl
  | cons key rest ih =>
    have ih := ih fun other mem => keeps other (mem_cons_of_mem _ mem)
    have same := keeps key mem_cons_self
    simp only [stamp, map_cons, find?_cons] at ih ⊢
    rw [same]
    split
    · rfl
    · exact ih

end Stamps

structure Directions.Found (pad : Pad) (vertical : Bool) (keys : List Key) (found : Directions) :
    Prop where
  negative : found.negative = true ↔
    ∃ key ∈ keys, key.pressed ≠ 0 ∧ key.control.signOn pad vertical = some .negative
  positive : found.positive = true ↔
    ∃ key ∈ keys, key.pressed ≠ 0 ∧ key.control.signOn pad vertical = some .positive
  last : found.last = 0 ∧ found.direction = 0 ∨ ∃ key ∈ keys, key.pressed = found.last ∧
    found.last ≠ 0 ∧ ∃ sign, key.control.signOn pad vertical = some sign ∧
      found.direction = sign.direction
  newest : ∀ key ∈ keys, key.control.signOn pad vertical ≠ none → key.pressed ≤ found.last

namespace Directions.Found

variable {pad : Pad} {vertical : Bool} {keys : List Key} {found : Directions}

theorem skip (sofar : Found pad vertical keys found) (key : Key)
    (silent : key.pressed = 0 ∨ key.control.signOn pad vertical = none) :
    Found pad vertical (keys ++ [key]) found := by
  have unseen : ∀ sign, ¬(key.pressed ≠ 0 ∧ key.control.signOn pad vertical = some sign) := by
    rintro sign ⟨held, points⟩
    rcases silent with released | nowhere
    · exact held released
    · simp [nowhere] at points
  constructor
  · rw [sofar.negative]
    simp [or_and_right, exists_or, unseen]
  · rw [sofar.positive]
    simp [or_and_right, exists_or, unseen]
  · apply sofar.last.imp_right
    rintro ⟨last, mem, rest⟩
    exact ⟨last, mem_append_left _ mem, rest⟩
  · intro other mem speaks
    rcases mem_append.mp mem with before | here
    · exact sofar.newest other before speaks
    · cases mem_singleton.mp here
      have released := silent.resolve_right speaks
      omega

theorem see (sofar : Found pad vertical keys found) (key : Key) {sign : Sign}
    (held : key.pressed ≠ 0) (points : key.control.signOn pad vertical = some sign) :
    Found pad vertical (keys ++ [key]) (found.see key.pressed sign) := by
  constructor
  · cases sign <;> simp [Directions.see, or_and_right, exists_or, held, points, sofar.negative]
  · cases sign <;> simp [Directions.see, or_and_right, exists_or, held, points, sofar.positive]
  · simp only [Directions.see]
    split
    · exact .inr ⟨key, by simp, rfl, held, sign, points, rfl⟩
    · rename_i older
      rcases sofar.last with ⟨none, _⟩ | ⟨last, mem, rest⟩
      · omega
      · exact .inr ⟨last, mem_append_left _ mem, rest⟩
  · intro other mem speaks
    simp only [Directions.see]
    rcases mem_append.mp mem with before | here
    · have := sofar.newest other before speaks
      split <;> omega
    · cases mem_singleton.mp here
      split <;> omega

theorem foldl (pad : Pad) (vertical : Bool) (keys : List Key) :
    Found pad vertical keys (keys.foldl (scan pad vertical) {}) := by
  induction keys using List.reverseRecOn with
  | nil => constructor <;> simp
  | append_singleton keys key ih =>
    rw [foldl_append, foldl_cons, foldl_nil]
    unfold scan
    split
    · rename_i released
      exact ih.skip key (.inl released)
    · rename_i held
      split
      · rename_i nowhere
        exact ih.skip key (.inr nowhere)
      · rename_i sign points
        exact ih.see key held points

end Directions.Found

/-- The keys and their stamps stand for the inputs held. -/
structure Stamped (bindings : List Binding) (keys : List Key) (count : Nat)
    (inputs : List Source) : Prop where
  bound : keys.map Key.toBinding = bindings
  distinct : Distinct keys
  stamped : StampedBy (stamp keys) count inputs

namespace Stamped

variable {bindings : List Binding} {keys : List Key} {count : Nat} {inputs : List Source}
variable (stands : Stamped bindings keys count inputs)

include stands

theorem controlOf_key {key : Key} (mem : key ∈ keys) :
    HeldInputs.controlOf bindings key.source = some key.control := by
  have found := stands.distinct.find_key mem
  simp only [HeldInputs.controlOf, ← stands.bound, find?_map, Option.map_map]
  exact congrArg (Option.map fun key : Key => key.control) found

theorem key_of_held {source : Source} (held : source ∈ inputs) :
    ∃ key ∈ keys, key.source = source ∧ key.pressed = stamp keys source ∧ key.pressed ≠ 0 := by
  have present := (stands.stamped.present source).mp held
  obtain ⟨key, mem, is, pressed⟩ := mem_of_stamp present
  exact ⟨key, mem, is, pressed, pressed ▸ present⟩

theorem mem_of_pressed {key : Key} (mem : key ∈ keys) (pressed : key.pressed ≠ 0) :
    key.source ∈ inputs := by
  apply (stands.stamped.present _).mpr
  rwa [stands.distinct.stamp_eq mem]

theorem controlHeld_iff (control : Control) : controlHeld keys control = true ↔
    ∃ source ∈ inputs, HeldInputs.controlOf bindings source = some control := by
  rw [controlHeld, any_eq_true]
  constructor
  · rintro ⟨key, mem, test⟩
    simp only [Bool.and_eq_true, decide_eq_true_eq] at test
    obtain ⟨rfl, pressed⟩ := test
    exact ⟨key.source, stands.mem_of_pressed mem pressed, stands.controlOf_key mem⟩
  · rintro ⟨source, held, control_⟩
    obtain ⟨key, mem, rfl, _, pressed⟩ := stands.key_of_held held
    have is := Option.some.inj ((stands.controlOf_key mem).symm.trans control_)
    exact ⟨key, mem, by simp [is, pressed]⟩

theorem mem_signs_iff (pad : Pad) (vertical : Bool) (sign : Sign) :
    sign ∈ inputs.filterMap (fun source =>
        (HeldInputs.controlOf bindings source).bind (·.signOn pad vertical)) ↔
      ∃ key ∈ keys, key.pressed ≠ 0 ∧ key.control.signOn pad vertical = some sign := by
  rw [mem_filterMap]
  constructor
  · rintro ⟨source, held, points⟩
    obtain ⟨key, mem, rfl, _, pressed⟩ := stands.key_of_held held
    rw [stands.controlOf_key mem] at points
    exact ⟨key, mem, pressed, points⟩
  · rintro ⟨key, mem, pressed, points⟩
    refine ⟨key.source, stands.mem_of_pressed mem pressed, ?_⟩
    rw [stands.controlOf_key mem]
    exact points

theorem direction_eq (pad : Pad) (vertical : Bool) :
    (keys.foldl (Directions.scan pad vertical) {}).direction =
      ((inputs.findSome? fun source => (HeldInputs.controlOf bindings source).bind
        (·.signOn pad vertical)).map Sign.direction).getD 0 := by
  have found := Directions.Found.foldl pad vertical keys
  let ask source := (HeldInputs.controlOf bindings source).bind (·.signOn pad vertical)
  have asked : ∀ key ∈ keys, ask key.source = key.control.signOn pad vertical := by
    intro key mem
    simp only [ask, stands.controlOf_key mem]
    rfl
  change _ = ((inputs.findSome? ask).map Sign.direction).getD 0
  cases newest : inputs.findSome? ask with
  | none =>
    rcases found.last with ⟨_, centred⟩ | ⟨key, mem, pressed, held, sign, points, _⟩
    · exact centred
    · have released := stands.stamped.none_answers newest key.source (by simp [asked key mem, points])
      rw [stands.distinct.stamp_eq mem, pressed] at released
      exact absurd released held
  | some sign =>
    obtain ⟨source, answers, held, largest⟩ := stands.stamped.latest newest
    obtain ⟨key, mem, rfl, pressed⟩ := mem_of_stamp held
    have speaks : key.control.signOn pad vertical ≠ none := by
      rw [← asked key mem, answers]
      simp
    have bound := found.newest key mem speaks
    rcases found.last with ⟨none, _⟩ | ⟨last, memLast, pressedLast, heldLast, signLast, points, is⟩
    · omega
    · have stampLast := stands.distinct.stamp_eq memLast
      have upper := largest last.source (by simp [asked last memLast, points])
      have level : stamp keys last.source = stamp keys key.source := by omega
      have same := stands.stamped.unique level (by omega)
      have answersLast := asked last memLast
      rw [same, answers, points] at answersLast
      rw [is, Option.some.inj answersLast]
      rfl

theorem padDirection_eq (held : HeldInputs) (is : held.inputs = inputs) (socd : Pad → Socd)
    (pad : Pad) (vertical : Bool) :
    padDirection socd keys pad vertical = held.pointing bindings socd pad vertical := by
  subst is
  have found := Directions.Found.foldl pad vertical keys
  have negative := stands.mem_signs_iff pad vertical .negative
  have positive := stands.mem_signs_iff pad vertical .positive
  rw [← found.negative] at negative
  rw [← found.positive] at positive
  simp only [padDirection, HeldInputs.pointing, HeldInputs.signs, negative, positive,
    head?_filterMap, stands.direction_eq, Bool.and_eq_true, decide_eq_true_eq, and_assoc]

end Stamped

end Ika.Gamepad
