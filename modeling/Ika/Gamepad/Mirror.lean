import Ika.Gamepad.HeldInputs
import Ika.Gamepad.Synced

/-! The device mirrors the inputs held, whatever calls came.

The keys of the gamepad stand for the inputs held as long as the count of
presses has not wrapped, and the device agrees with the keys.
-/

set_option autoImplicit false

namespace Ika.Gamepad

open Recency List Function

/-! ## Keys changed one after another -/

theorem foldl_modify_range {Item : Type} (change : Item → Item) (items : List Item) :
    (List.range items.length).foldl (fun items index => items.modify index change) items =
      items.map change := by
  have sofar : ∀ (count : Nat) (index : Nat),
      ((List.range count).foldl (fun items index => items.modify index change) items)[index]? =
        if index < count then items[index]?.map change else items[index]? := by
    intro count
    induction count with
    | zero => simp
    | succ count ih =>
      intro index
      rw [range_succ, foldl_append, foldl_cons, foldl_nil,
        getElem?_modify, ih]
      by_cases here : count = index
      · subst here
        simp
      · have : index < count + 1 ↔ index < count := by omega
        simp [here, this]
  apply ext_getElem?
  intro index
  rw [sofar, getElem?_map]
  by_cases within : index < items.length
  · rw [if_pos within]
  · rw [if_neg within, getElem?_eq_none (Nat.le_of_not_lt within)]
    rfl

variable {keys : List Key} (source : Source) (count : Nat) (gone : Key → Bool) (releaseMs : Nat)
  (key : Key)

theorem Distinct.modify_eq_map (distinct : Distinct keys) {index : Nat} {key : Key}
    (found : keys[index]? = some key) (change : Key → Key) :
    keys.modify index change =
      keys.map fun other => if other.source = key.source then change other else other := by
  apply ext_getElem?
  intro other
  rw [getElem?_modify, getElem?_map]
  cases at_ : keys[other]? with
  | none => simp
  | some here =>
    by_cases same : index = other
    · subst same
      have is : here = key := Option.some.inj (at_.symm.trans found)
      simp [is]
    · have apart : here.source ≠ key.source := by
        intro eq
        have within : index < (keys.map (·.source)).length := by
          rw [length_map]
          exact (List.getElem?_eq_some_iff.mp found).1
        apply same ((getElem?_inj within distinct).mp _)
        rw [getElem?_map, getElem?_map, found, at_, Option.map_some, Option.map_some, eq]
      simp [same, apart]

theorem Stamped.map {bindings : List Binding} {count after : Nat} {inputs held : List Source}
    (stands : Stamped bindings keys count inputs) {change : Key → Key}
    (bound : ∀ key ∈ keys, (change key).toBinding = key.toBinding)
    (stamped : StampedBy (stamp (keys.map change)) after held) :
    Stamped bindings (keys.map change) after held where
  bound := by
    rw [map_map, ← stands.bound]
    exact map_congr_left bound
  distinct := by
    have same : (keys.map change).map (·.source) = keys.map (·.source) := by
      rw [map_map]
      exact map_congr_left fun key mem => congrArg Binding.source (bound key mem)
    unfold Distinct
    rw [same]
    exact stands.distinct
  stamped := stamped

/-- A key of the input `source` stamped anew. -/
def Key.stampAs (source : Source) (count : Nat) (key : Key) : Key :=
  if key.source = source then {key with pressed := count} else key

@[simp] theorem Key.stampAs_toBinding : (key.stampAs source count).toBinding = key.toBinding := by
  unfold stampAs
  split <;> rfl

@[simp] theorem Key.stampAs_releaseMs : (key.stampAs source count).releaseMs = key.releaseMs := by
  unfold stampAs
  split <;> rfl

theorem Distinct.stamp_stampAs (distinct : Distinct keys) {key : Key} (mem : key ∈ keys)
    (count : Nat) :
    stamp (keys.map (Key.stampAs key.source count)) =
      Function.update (stamp keys) key.source count := by
  funext input
  rw [stamp_map fun key _ => by rw [Key.stampAs_toBinding]]
  by_cases is : input = key.source
  · subst is
    rw [distinct.find_key mem]
    simp [Key.stampAs]
  · rw [update_of_ne is, stamp]
    cases found : keys.find? fun key => key.source = input with
    | none => rfl
    | some other =>
      have other_ : other.source = input := by simpa using find?_some found
      simp [Key.stampAs, other_, is]

/-- A key of the input `source` with the moment its notch is over. -/
def Key.dueAt (source : Source) (releaseMs : Nat) (key : Key) : Key :=
  if key.source = source then {key with releaseMs := releaseMs} else key

@[simp] theorem Key.dueAt_toBinding : (key.dueAt source releaseMs).toBinding = key.toBinding := by
  unfold dueAt
  split <;> rfl

@[simp] theorem Key.dueAt_pressed : (key.dueAt source releaseMs).pressed = key.pressed := by
  unfold dueAt
  split <;> rfl

def Key.letGo (gone : Key → Bool) (key : Key) : Key :=
  if gone key then {key with pressed := 0} else key

@[simp] theorem Key.letGo_toBinding : (key.letGo gone).toBinding = key.toBinding := by
  unfold letGo
  split <;> rfl

@[simp] theorem Key.letGo_releaseMs : (key.letGo gone).releaseMs = key.releaseMs := by
  unfold letGo
  split <;> rfl

theorem Key.letGo_self {gone : Key → Bool} {key : Key}
    (idle : gone key = false ∨ key.pressed = 0) : key.letGo gone = key := by
  unfold letGo
  split
  · rename_i lets
    rcases idle with kept | released
    · simp [kept] at lets
    · rw [← released]
  · rfl

theorem Key.letGo_pressed : (key.letGo gone).pressed = if gone key then 0 else key.pressed := by
  unfold letGo
  split <;> rfl

namespace State

structure Tracks (state : State) (bindings : List Binding) (held : HeldInputs) : Prop where
  stands : Stamped bindings state.keys state.pressCount held.inputs
  due : ∀ key ∈ state.keys, key.releaseMs = held.due key.source
  presses : state.pressCount = held.presses

variable {state : State} {bindings : List Binding} {held : HeldInputs}

variable {after : State} {index : Nat} {key : Key} {source : Source} (elapsedMs nowMs : Nat)
  (pass : Pass) (gone : Key → Bool)

theorem Tracks.congr (tracks : state.Tracks bindings held) (keys : after.keys = state.keys)
    (pressCount : after.pressCount = state.pressCount) : after.Tracks bindings held := by
  constructor
  · rw [keys, pressCount]
    exact tracks.stands
  · rw [keys]
    exact tracks.due
  · rw [pressCount]
    exact tracks.presses

theorem Keeps.tracks (keeps : Keeps state after) (tracks : state.Tracks bindings held) :
    after.Tracks bindings held :=
  tracks.congr keeps.keys keeps.pressCount

theorem Tracks.retain (tracks : state.Tracks bindings held) (keep : Source → Bool)
    {change : Key → Key} (keys : after.keys = state.keys.map change)
    (pressCount : after.pressCount = state.pressCount)
    (bound : ∀ key ∈ state.keys, (change key).toBinding = key.toBinding)
    (due : ∀ key ∈ state.keys, (change key).releaseMs = key.releaseMs)
    (pressed : ∀ key ∈ state.keys, (change key).pressed = if keep key.source then key.pressed else 0) :
    after.Tracks bindings (held.release keep) := by
  have source : ∀ key ∈ state.keys, (change key).source = key.source :=
    fun key mem => congrArg Binding.source (bound key mem)
  constructor
  · rw [keys, pressCount]
    apply tracks.stands.map bound
    apply tracks.stands.stamped.retain keep
    intro input
    rw [stamp_map source, stamp]
    cases found : state.keys.find? fun key => key.source = input with
    | none => simp
    | some key =>
      have is : key.source = input := by simpa using find?_some found
      simpa [is] using pressed key (mem_of_find?_eq_some found)
  · rw [keys]
    intro other mem
    obtain ⟨key, memKey, rfl⟩ := mem_map.mp mem
    rw [due key memKey, source key memKey]
    exact tracks.due key memKey
  · rw [pressCount]
    exact tracks.presses

theorem Tracks.press (tracks : state.Tracks bindings held) (found : state.keys[index]? = some key)
    (released : key.pressed = 0) (room : held.presses + 1 < 2 ^ 32) :
    (state.mark index true).Tracks bindings
      {held with inputs := key.source :: held.inputs, presses := held.presses + 1} := by
  have distinct := tracks.stands.distinct
  have mem : key ∈ state.keys := mem_of_getElem? found
  have pressCount : (state.mark index true).pressCount = state.pressCount + 1 := by
    change (state.pressCount + 1) % 2 ^ 32 = state.pressCount + 1
    rw [tracks.presses]
    exact Nat.mod_eq_of_lt room
  have keys : (state.mark index true).keys =
      state.keys.map (Key.stampAs key.source (state.pressCount + 1)) := by
    rw [← pressCount]
    exact distinct.modify_eq_map found _
  have absent : stamp state.keys key.source = 0 := by rw [distinct.stamp_eq mem, released]
  constructor
  · rw [keys, pressCount]
    apply tracks.stands.map fun _ _ => Key.stampAs_toBinding ..
    rw [distinct.stamp_stampAs mem]
    exact tracks.stands.stamped.arrive absent
  · rw [keys]
    intro other memOther
    obtain ⟨before, memBefore, rfl⟩ := mem_map.mp memOther
    rw [Key.stampAs_releaseMs, Key.stampAs_toBinding]
    exact tracks.due before memBefore
  · rw [pressCount, tracks.presses]

/-! ## Keys found -/

theorem findKey_some (found : state.findKey source = some index) :
    ∃ key, state.keys[index]? = some key ∧ key.source = source := by
  obtain ⟨within, is, _⟩ := findIdx?_eq_some_iff_getElem.mp found
  exact ⟨state.keys[index], getElem?_eq_getElem within, by simpa using is⟩

theorem findKey_none (missing : state.findKey source = none) (mem : key ∈ state.keys) :
    key.source ≠ source := by
  simpa using List.findIdx?_eq_none_iff.mp missing key mem

theorem Tracks.unmapped (tracks : state.Tracks bindings held)
    (missing : state.findKey source = none) :
    HeldInputs.controlOf bindings source = none ∧ source ∉ held.inputs := by
  constructor
  · have none_ : bindings.find? (fun binding => binding.source = source) = none := by
      rw [List.find?_eq_none, ← tracks.stands.bound]
      intro binding mem
      obtain ⟨key, memKey, rfl⟩ := mem_map.mp mem
      simpa using findKey_none missing memKey
    simp [HeldInputs.controlOf, none_]
  · intro mem
    obtain ⟨key, memKey, is, _⟩ := tracks.stands.key_of_held mem
    exact findKey_none missing memKey is

theorem Tracks.mapped (tracks : state.Tracks bindings held)
    (found : state.findKey source = some index) :
    HeldInputs.controlOf bindings source ≠ none ∧
      (state.keyPressed index = true ↔ source ∈ held.inputs) := by
  obtain ⟨key, at_, rfl⟩ := findKey_some found
  have mem : key ∈ state.keys := mem_of_getElem? at_
  constructor
  · rw [tracks.stands.controlOf_key mem]
    simp
  · rw [tracks.stands.stamped.present, tracks.stands.distinct.stamp_eq mem]
    simp [keyPressed, at_]

theorem keeps_applyKey (found : state.keys[index]? = some key) (down : Bool) (nowMs : Nat) :
    Keeps (state.mark index down) (state.applyKey index down nowMs) := by
  simp only [applyKey, found]
  exact keeps_follow ..

theorem Tracks.lift_absent (absent : source ∉ held.inputs) : held.lift source = held := by
  have same : held.inputs.filter (fun other => other ≠ source) = held.inputs := by
    apply filter_eq_self.mpr
    rintro other mem
    simp only [decide_eq_true_eq]
    rintro rfl
    exact absent mem
  simp only [HeldInputs.lift, HeldInputs.release, same]

theorem Tracks.applyPress (tracks : state.Tracks bindings held)
    (found : state.findKey source = some index) (released : ¬state.keyPressed index = true)
    (nowMs : Nat) (room : (held.press bindings source).presses < 2 ^ 32) :
    (state.applyKey index true nowMs).Tracks bindings (held.press bindings source) := by
  have ⟨bound, pressed⟩ := tracks.mapped found
  have new : ¬(HeldInputs.controlOf bindings source = none ∨ source ∈ held.inputs) := by
    rintro (unbound | mem)
    · exact bound unbound
    · exact released (pressed.mpr mem)
  obtain ⟨key, at_, rfl⟩ := findKey_some found
  simp only [HeldInputs.press, if_neg new] at room ⊢
  have zero : key.pressed = 0 := by simpa [keyPressed, at_] using released
  exact (keeps_applyKey at_ true nowMs).tracks (tracks.press at_ zero room)

theorem Tracks.release (tracks : state.Tracks bindings held)
    (found : state.findKey source = some index) (nowMs : Nat) :
    (state.applyKey index false nowMs).Tracks bindings (held.lift source) := by
  obtain ⟨key, at_, rfl⟩ := findKey_some found
  apply (keeps_applyKey at_ false nowMs).tracks
  have keys : (state.mark index false).keys = state.keys.map (Key.stampAs key.source 0) :=
    tracks.stands.distinct.modify_eq_map at_ _
  apply tracks.retain _ keys rfl
  · intro other _
    exact Key.stampAs_toBinding ..
  · intro other _
    exact Key.stampAs_releaseMs ..
  · intro other _
    by_cases same : other.source = key.source <;> simp [Key.stampAs, same]

theorem press_held (mem : source ∈ held.inputs) :
    held.press bindings source = held := if_pos (.inr mem)

theorem press_unbound (unbound : HeldInputs.controlOf bindings source = none) :
    held.press bindings source = held := if_pos (.inl unbound)

/-! ## Every call -/

theorem Tracks.handleKey (tracks : state.Tracks bindings held) (event : KeyboardEvent)
    (room : (held.handleKey bindings event).presses < 2 ^ 32) :
    (state.handleKey event).1.Tracks bindings (held.handleKey bindings event) := by
  unfold State.handleKey HeldInputs.handleKey at *
  cases found : state.findKey ⟨.key, event.scancode⟩ with
  | none =>
    have ⟨unbound, absent⟩ := tracks.unmapped found
    simp only [press_unbound unbound, lift_absent absent, ite_self]
    exact tracks
  | some index =>
    have pressed := (tracks.mapped found).2
    cases down : event.down with
    | false =>
      by_cases held_ : state.keyPressed index = true
      · simpa [held_] using tracks.release found _
      · have absent := fun mem => held_ (pressed.mpr mem)
        simpa [held_, lift_absent absent] using tracks
    | true =>
      by_cases ignored : event.isRepeat = true ∨ event.mod &&& combinationMods ≠ 0
      · have idle : ∀ after : State × Bool,
            (if event.isRepeat then (state, state.keyPressed index)
              else if event.mod &&& combinationMods ≠ 0 then (state, false) else after).1 = state := by
          intro after
          rcases ignored with again | combined
          · rw [if_pos again]
          · rw [if_pos combined]
            split <;> rfl
        simp only [Bool.not_true, Bool.false_eq_true, if_false, if_pos ignored]
        rw [idle]
        exact tracks
      · have ⟨once, alone⟩ := not_or.mp ignored
        simp only [down, Bool.not_true, Bool.false_eq_true, if_false, if_neg ignored] at room
        simp only [Bool.not_true, Bool.false_eq_true, if_false, if_neg ignored, if_neg once,
          if_neg alone]
        by_cases held_ : state.keyPressed index = true
        · rw [if_pos held_, press_held (pressed.mp held_)]
          exact tracks
        · rw [if_neg held_]
          exact tracks.applyPress found held_ _ room

theorem Tracks.handleMouseButton (tracks : state.Tracks bindings held) (button : Nat) (down : Bool)
    (nowMs : Nat)
    (room : (held.call bindings (.handleMouseButton button down nowMs)).presses < 2 ^ 32) :
    (state.handleMouseButton button down nowMs).1.Tracks bindings
      (held.call bindings (.handleMouseButton button down nowMs)) := by
  simp only [State.handleMouseButton, HeldInputs.call] at *
  cases found : state.findKey ⟨.mouseButton, button⟩ with
  | none =>
    have ⟨unbound, absent⟩ := tracks.unmapped found
    simp only [press_unbound unbound, lift_absent absent, ite_self]
    exact tracks
  | some index =>
    have pressed := (tracks.mapped found).2
    by_cases held_ : state.keyPressed index = true
    · cases down with
      | false => simpa [held_] using tracks.release found nowMs
      | true => simpa [held_, press_held (pressed.mp held_)] using tracks
    · cases down with
      | false =>
        have absent := fun mem => held_ (pressed.mpr mem)
        simpa [held_, lift_absent absent] using tracks
      | true => simpa [held_] using tracks.applyPress found held_ nowMs (by simpa using room)

theorem keeps_startTicking (nowMs : Nat) : Keeps state (state.startTicking nowMs) := by
  unfold startTicking
  split
  · exact .refl _
  · constructor <;> rfl

theorem Tracks.handleMouseMotion (tracks : state.Tracks bindings held) (xrel yrel : Int)
    (nowMs : Nat) : (state.handleMouseMotion xrel yrel nowMs).Tracks bindings held := by
  unfold State.handleMouseMotion
  split
  · exact tracks
  · apply (keeps_startTicking nowMs).tracks
    exact tracks.congr rfl rfl

theorem Tracks.setRelease (tracks : state.Tracks bindings held)
    (found : state.findKey source = some index) (releaseMs : Nat) :
    (state.setRelease index releaseMs).findKey source = some index ∧
      (state.setRelease index releaseMs).Tracks bindings (held.setDue source releaseMs) := by
  obtain ⟨key, at_, rfl⟩ := findKey_some found
  have keys : (state.setRelease index releaseMs).keys =
      state.keys.map (Key.dueAt key.source releaseMs) :=
    tracks.stands.distinct.modify_eq_map at_ _
  constructor
  · rw [findKey, keys, findIdx?_map]
    simpa [findKey, comp_def] using found
  · constructor
    · rw [keys]
      apply tracks.stands.map fun _ _ => Key.dueAt_toBinding ..
      have same : stamp (state.keys.map (Key.dueAt key.source releaseMs)) = stamp state.keys := by
        funext input
        rw [stamp_map fun key _ => by rw [Key.dueAt_toBinding]]
        simp [stamp]
      rw [same]
      exact tracks.stands.stamped
    · rw [keys]
      intro other mem
      obtain ⟨before, memBefore, rfl⟩ := mem_map.mp mem
      rw [Key.dueAt_toBinding]
      by_cases same : before.source = key.source
      · simp [Key.dueAt, HeldInputs.setDue, same]
      · simp [Key.dueAt, HeldInputs.setDue, same, tracks.due before memBefore]
    · exact tracks.presses

theorem Tracks.handleNotch (tracks : state.Tracks bindings held) (nowMs : Nat) (wheel : Wheel)
    (room : (held.notch bindings nowMs wheel).presses < 2 ^ 32) :
    (state.handleNotch nowMs wheel).Tracks bindings (held.notch bindings nowMs wheel) := by
  simp only [State.handleNotch, HeldInputs.notch] at *
  cases found : state.findKey ⟨.wheel, wheel.code⟩ with
  | none =>
    have ⟨unbound, absent⟩ := tracks.unmapped found
    rw [press_unbound unbound]
    refine ⟨tracks.stands, ?_, tracks.presses⟩
    intro key mem
    exact (tracks.due key mem).trans (update_of_ne (findKey_none found mem) ..).symm
  | some index =>
    have ⟨still, tracks⟩ := tracks.setRelease found ((nowMs + kgWheelPulseMs) % 2 ^ 64)
    apply (keeps_startTicking nowMs).tracks
    split
    · rename_i held_
      rw [press_held ((tracks.mapped still).2.mp held_)]
      exact tracks
    · rename_i released
      exact tracks.applyPress still released nowMs room

theorem presses_le_press (held : HeldInputs) (bindings : List Binding) (source : Source) :
    held.presses ≤ (held.press bindings source).presses := by
  unfold HeldInputs.press
  split
  · exact Nat.le_refl _
  · exact Nat.le_succ _

theorem presses_le_notches (held : HeldInputs) (bindings : List Binding) (nowMs : Nat)
    (wheels : List Wheel) : held.presses ≤
      (wheels.foldl (fun held wheel => held.notch bindings nowMs wheel) held).presses := by
  induction wheels generalizing held with
  | nil => exact Nat.le_refl _
  | cons wheel rest ih =>
    have first := presses_le_press (held.setDue ⟨.wheel, wheel.code⟩
      ((nowMs + kgWheelPulseMs) % 2 ^ 64)) bindings ⟨.wheel, wheel.code⟩
    exact Nat.le_trans first (ih (held.notch bindings nowMs wheel))

theorem Tracks.notches (tracks : state.Tracks bindings held) (nowMs : Nat) (wheels : List Wheel)
    (room : (wheels.foldl (fun held wheel => held.notch bindings nowMs wheel) held).presses <
      2 ^ 32) :
    (wheels.foldl (fun state wheel => state.handleNotch nowMs wheel) state).Tracks bindings
      (wheels.foldl (fun held wheel => held.notch bindings nowMs wheel) held) := by
  induction wheels generalizing state held with
  | nil => exact tracks
  | cons wheel rest ih =>
    have sofar := presses_le_notches (held.notch bindings nowMs wheel) bindings nowMs rest
    exact ih (tracks.handleNotch nowMs wheel (Nat.lt_of_le_of_lt sofar room)) room

/-! ## Releases -/

theorem applyKey_release (index nowMs : Nat) :
    (state.applyKey index false nowMs).keys =
        state.keys.modify index (fun key => {key with pressed := 0}) ∧
      (state.applyKey index false nowMs).pressCount = state.pressCount := by
  cases found : state.keys[index]? with
  | none =>
    have beyond := List.getElem?_eq_none_iff.mp found
    simp [applyKey, found, modify_eq_self beyond]
  | some key =>
    have keeps := keeps_applyKey found false nowMs
    exact ⟨keeps.keys, keeps.pressCount⟩

theorem keys_foldl {Loop : Type} (stateOf : Loop → State) (step : Loop → Nat → Loop)
    (change : Key → Key)
    (each : ∀ loop index, (stateOf (step loop index)).keys = (stateOf loop).keys.modify index change ∧
      (stateOf (step loop index)).pressCount = (stateOf loop).pressCount) (loop : Loop) :
    (stateOf ((List.range (stateOf loop).keys.length).foldl step loop)).keys =
        (stateOf loop).keys.map change ∧
      (stateOf ((List.range (stateOf loop).keys.length).foldl step loop)).pressCount =
        (stateOf loop).pressCount := by
  constructor
  · rw [← foldl_modify_range]
    exact (foldl_hom (fun loop => (stateOf loop).keys) fun loop index => (each loop index).1.symm).symm
  · have same : ∀ (indices : List Nat) (loop : Loop),
        (stateOf (indices.foldl step loop)).pressCount = (stateOf loop).pressCount := by
      intro indices
      induction indices with
      | nil => exact fun _ => rfl
      | cons index rest ih => exact fun loop => (ih _).trans (each loop index).2
    exact same _ loop

theorem modify_letGo (index : Nat)
    (idle : ∀ key, state.keys[index]? = some key → gone key = false ∨ key.pressed = 0) :
    state.keys.modify index (Key.letGo gone) = state.keys := by
  apply ext_getElem?
  intro other
  rw [getElem?_modify]
  by_cases same : index = other
  · subst same
    cases found : state.keys[index]? with
    | none => rfl
    | some key => simp [Key.letGo_self (idle key found)]
  · simp [same]

theorem modify_released (index : Nat)
    (due : ∀ key, state.keys[index]? = some key → gone key = true) :
    state.keys.modify index (Key.letGo gone) =
      state.keys.modify index fun key => {key with pressed := 0} := by
  apply ext_getElem?
  intro other
  rw [getElem?_modify, getElem?_modify]
  by_cases same : index = other
  · subst same
    cases found : state.keys[index]? with
    | none => rfl
    | some key => simp [Key.letGo, due key found]
  · simp [same]

theorem Tracks.releaseKeys (tracks : state.Tracks bindings held) (chosen : Input → Bool)
    (nowMs : Nat) : (state.releaseKeys chosen nowMs).Tracks bindings
      (held.release fun source => !chosen source.input) := by
  let gone (key : Key) : Bool := chosen key.source.input
  have looped := keys_foldl (fun state : State => state) (fun state index =>
    if state.keys[index]?.any fun key => key.pressed ≠ 0 && chosen key.source.input then
      state.applyKey index false nowMs
    else state) (Key.letGo gone) (by
      intro state index
      split
      · rename_i due
        have all : ∀ key, state.keys[index]? = some key → gone key = true := by
          intro key found
          simp only [found, Option.any_some, Bool.and_eq_true] at due
          exact due.2
        rw [modify_released gone index all]
        exact applyKey_release ..
      · rename_i idle
        refine ⟨(modify_letGo gone index ?_).symm, rfl⟩
        intro key found
        by_cases released : key.pressed = 0
        · exact .inr released
        · simpa [found, released, gone] using idle) state
  apply tracks.retain _ looped.1 looped.2
  · exact fun key _ => Key.letGo_toBinding ..
  · exact fun key _ => Key.letGo_releaseMs ..
  · intro key _
    rw [Key.letGo_pressed]
    cases is : chosen key.source.input <;> simp [gone, is]

theorem keeps_rampOn (stick : GamepadStick) :
    Keeps pass.state (rampOn elapsedMs pass stick).state := by
  simp only [rampOn]
  split_ifs
  · exact .refl _
  · exact Keeps.trans (by constructor <;> rfl) (keeps_sendStick ..)
  · exact Keeps.trans (by constructor <;> rfl) (keeps_sendStick ..)

theorem moveMouse_keys :
    (moveMouse elapsedMs nowMs pass).state.keys = pass.state.keys ∧
      (moveMouse elapsedMs nowMs pass).state.pressCount = pass.state.pressCount ∧
      (moveMouse elapsedMs nowMs pass).state.config = pass.state.config := by
  unfold moveMouse
  split
  · exact ⟨rfl, rfl, rfl⟩
  · have keeps := (pass.state.followMouse elapsedMs nowMs).keeps_sendStick ‹_›
    have followed : (pass.state.followMouse elapsedMs nowMs).keys = pass.state.keys ∧
        (pass.state.followMouse elapsedMs nowMs).pressCount = pass.state.pressCount ∧
        (pass.state.followMouse elapsedMs nowMs).config = pass.state.config := by
      unfold followMouse mouseToStick
      split_ifs <;> exact ⟨rfl, rfl, rfl⟩
    exact ⟨keeps.keys.trans followed.1, keeps.pressCount.trans followed.2.1,
      keeps.config.trans followed.2.2⟩

def isOver (nowMs : Nat) (key : Key) : Bool :=
  decide (key.source.input = .wheel) && decide (key.releaseMs ≤ nowMs)

theorem releaseNotch_keys (index : Nat) :
    (releaseNotch nowMs pass index).state.keys =
        pass.state.keys.modify index (Key.letGo (isOver nowMs)) ∧
      (releaseNotch nowMs pass index).state.pressCount = pass.state.pressCount := by
  unfold releaseNotch
  split
  · rename_i beyond
    rw [modify_letGo _ _ (by simp [beyond])]
    exact ⟨rfl, rfl⟩
  · rename_i key found
    have only : ∀ other, pass.state.keys[index]? = some other → other = key :=
      fun other at_ => Option.some.inj (at_.symm.trans found)
    split_ifs with idle due
    · rw [modify_letGo]
      · exact ⟨rfl, rfl⟩
      · intro other at_
        cases only other at_
        exact idle.symm.imp_left fun apart => by simp [isOver, apart]
    · rw [modify_released]
      · exact applyKey_release ..
      · intro other at_
        cases only other at_
        simp [isOver, due, not_not.mp (not_or.mp idle).2]
    · rw [modify_letGo]
      · exact ⟨rfl, rfl⟩
      · intro other at_
        cases only other at_
        exact .inl (by simp [isOver, due])

theorem Tracks.tick (tracks : state.Tracks bindings held) (nowMs : Nat) :
    (state.tick nowMs).1.Tracks bindings (held.call bindings (.tick nowMs)) := by
  let started : Pass := {state := {state with tickMs := nowMs}}
  let ramped := [GamepadStick.left, .right].foldl (rampOn (nowMs - state.tickMs)) started
  have keeps : Keeps started.state ramped.state := (keeps_rampOn ..).trans (keeps_rampOn ..)
  have looped := keys_foldl Pass.state (releaseNotch nowMs) _ (releaseNotch_keys nowMs) ramped
  let released := (List.range ramped.state.keys.length).foldl (releaseNotch nowMs) ramped
  have moved := moveMouse_keys (nowMs - state.tickMs) nowMs released
  have keys : (state.tick nowMs).1.keys = state.keys.map (Key.letGo (isOver nowMs)) := by
    rw [← show ramped.state.keys = state.keys from keeps.keys]
    exact moved.1.trans looped.1
  have pressCount : (state.tick nowMs).1.pressCount = state.pressCount :=
    moved.2.1.trans (looped.2.trans keeps.pressCount)
  apply tracks.retain _ keys pressCount
  · exact fun key _ => Key.letGo_toBinding ..
  · exact fun key _ => Key.letGo_releaseMs ..
  · intro key mem
    rw [Key.letGo_pressed, isOver, tracks.due key mem]
    cases decide (key.source.input = .wheel) && decide (held.due key.source ≤ nowMs) <;> rfl

theorem Tracks.releaseMouse (tracks : state.Tracks bindings held) (nowMs : Nat) :
    (state.releaseMouse nowMs).Tracks bindings
      (held.release fun source => source.input = .key) := by
  have released := tracks.releaseKeys (fun input => input ≠ .key) nowMs
  simp only [decide_not, Bool.not_not] at released
  have dropped : (state.releaseKeys (fun input => !decide (input = .key)) nowMs).dropMouse.Tracks
      bindings (held.release fun source => source.input = .key) := released.congr rfl rfl
  simp only [State.releaseMouse, ne_eq, decide_not]
  split
  · exact dropped
  · exact (keeps_sendStick ..).tracks dropped

theorem Tracks.call (tracks : state.Tracks bindings held) (call : Call)
    (room : (held.call bindings call).presses < 2 ^ 32) :
    (state.call call).Tracks bindings (held.call bindings call) := by
  cases call with
  | handleKey event => exact tracks.handleKey event room
  | handleMouseMotion xrel yrel nowMs => exact tracks.handleMouseMotion xrel yrel nowMs
  | handleMouseButton button down nowMs => exact tracks.handleMouseButton button down nowMs room
  | handleMouseWheel hscroll vscroll nowMs => exact tracks.notches nowMs _ room
  | tick nowMs => exact tracks.tick nowMs
  | releaseAll => exact tracks.releaseKeys (fun _ => true) state.tickMs
  | releaseMouse nowMs => exact tracks.releaseMouse nowMs

/-! ## The settings -/

theorem applyKey_config (index : Nat) (down : Bool) (nowMs : Nat) :
    (state.applyKey index down nowMs).config = state.config := by
  cases found : state.keys[index]? with
  | none => simp [applyKey, found]
  | some key => exact (keeps_applyKey found down nowMs).config

theorem handleNotch_config (wheel : Wheel) :
    (state.handleNotch nowMs wheel).config = state.config := by
  unfold handleNotch
  split
  · rfl
  · apply (keeps_startTicking nowMs).config.trans
    split
    · rfl
    · exact applyKey_config ..

theorem releaseKeys_config (chosen : Input → Bool) (nowMs : Nat) :
    (state.releaseKeys chosen nowMs).config = state.config := by
  apply List.foldlRecOn (motive := fun after : State => after.config = state.config) _ _ rfl
  intro after same index _
  split
  · exact (applyKey_config ..).trans same
  · exact same

theorem tick_config : (state.tick nowMs).1.config = state.config := by
  let started : Pass := {state := {state with tickMs := nowMs}}
  let ramped := [GamepadStick.left, .right].foldl (rampOn (nowMs - state.tickMs)) started
  have keeps : Keeps started.state ramped.state := (keeps_rampOn ..).trans (keeps_rampOn ..)
  have released : ((List.range ramped.state.keys.length).foldl (releaseNotch nowMs) ramped).state.config
      = ramped.state.config := by
    apply List.foldlRecOn (motive := fun after : Pass =>
      after.state.config = ramped.state.config) _ _ rfl
    intro after same index _
    unfold releaseNotch
    split
    · exact same
    · split_ifs
      · exact same
      · exact (applyKey_config ..).trans same
      · exact same
  exact (moveMouse_keys ..).2.2.trans (released.trans keeps.config)

theorem call_config (call : Call) : (state.call call).config = state.config := by
  cases call with
  | handleKey event =>
    simp only [call, handleKey]
    split
    · rfl
    · split_ifs <;> first | rfl | exact applyKey_config ..
  | handleMouseMotion xrel yrel nowMs =>
    simp only [call, handleMouseMotion]
    split
    · rfl
    · exact (keeps_startTicking nowMs).config
  | handleMouseButton button down nowMs =>
    simp only [call, handleMouseButton]
    split
    · rfl
    · split_ifs <;> first | rfl | exact applyKey_config ..
  | handleMouseWheel hscroll vscroll nowMs =>
    apply List.foldlRecOn (motive := fun after : State => after.config = state.config) _ _ rfl
    intro after same wheel _
    exact (handleNotch_config nowMs wheel).trans same
  | tick nowMs => exact tick_config nowMs
  | releaseAll => exact releaseKeys_config ..
  | releaseMouse nowMs =>
    simp only [call, releaseMouse]
    split
    · exact releaseKeys_config ..
    · exact (keeps_sendStick ..).config.trans (releaseKeys_config ..)

theorem calls_config (calls : List Call) : (state.calls calls).config = state.config := by
  apply List.foldlRecOn (motive := fun after : State => after.config = state.config) _ _ rfl
  intro after same call _
  exact (call_config call).trans same

end State

/-! ## Whole histories -/

theorem presses_le_call (held : HeldInputs) (bindings : List Binding) (call : Call) :
    held.presses ≤ (held.call bindings call).presses := by
  cases call with
  | handleKey event =>
    simp only [HeldInputs.call, HeldInputs.handleKey]
    split_ifs
    · exact Nat.le_refl _
    · exact Nat.le_refl _
    · exact State.presses_le_press ..
  | handleMouseButton button down nowMs =>
    simp only [HeldInputs.call]
    split
    · exact State.presses_le_press ..
    · exact Nat.le_refl _
  | handleMouseWheel hscroll vscroll nowMs => exact State.presses_le_notches ..
  | _ => exact Nat.le_refl _

theorem presses_le_calls (held : HeldInputs) (bindings : List Binding) (calls : List Call) :
    held.presses ≤ (held.calls bindings calls).presses := by
  induction calls generalizing held with
  | nil => exact Nat.le_refl _
  | cons call rest ih => exact Nat.le_trans (presses_le_call held bindings call) (ih _)

theorem State.Tracks.calls {state : State} {bindings : List Binding} {held : HeldInputs}
    (tracks : state.Tracks bindings held) (calls : List Call)
    (room : (held.calls bindings calls).presses < 2 ^ 32) :
    (state.calls calls).Tracks bindings (held.calls bindings calls) := by
  induction calls generalizing state held with
  | nil => exact tracks
  | cons call rest ih =>
    have sofar := presses_le_calls (held.call bindings call) bindings rest
    exact ih (tracks.call call (Nat.lt_of_le_of_lt sofar room)) room

theorem State.Tracks.init (sdl : Sdl) (takesStick timer : Bool) (spec : Option CString) :
    (init sdl takesStick timer spec).Tracks (Config.ofSpec sdl spec).bindings.list {} := by
  have released := init_released sdl takesStick timer spec
  have bound : (Gamepad.init sdl takesStick timer spec).keys.map Key.toBinding =
      (Config.ofSpec sdl spec).bindings.list := by
    simp [Gamepad.init, comp_def]
  constructor
  · refine ⟨bound, ?_, ?_⟩
    · have sources := (Config.ofSpec sdl spec).bindings.distinct
      rw [← bound, map_map] at sources
      exact sources
    · apply StampedBy.empty
      intro source
      by_contra stamped
      obtain ⟨key, mem, _, pressed⟩ := mem_of_stamp stamped
      rw [released key mem] at pressed
      exact stamped pressed.symm
  · intro key mem
    obtain ⟨binding, _, rfl⟩ := mem_map.mp mem
    rfl
  · rfl

/-- The keys drive a stick while they point it somewhere, and always if the mouse does not. -/
def KeyDriven (config : Config) (held : HeldInputs) (stick : GamepadStick) : Prop :=
  config.mouseStick ≠ some stick ∨ held.pointing config.bindings.list config.socd
    (.stick stick) false ≠ 0 ∨
    held.pointing config.bindings.list config.socd (.stick stick) true ≠ 0

/-- Buttons, triggers, D-pad and sticks of the device are as the inputs held have them. -/
structure Mirrors (device : Device) (config : Config) (held : HeldInputs) (mouse : Int × Int) :
    Prop where
  buttons : ∀ button apart, device.button button = true ↔
    held.Holds config.bindings.list (.button button apart)
  triggers : ∀ axis trigger,
    (device.axis axis = int16Max ∨ device.axis axis = 0) ∧ (device.axis axis = int16Max ↔
      held.Holds config.bindings.list (.trigger axis trigger))
  dpad : ∀ vertical direction, direction ≠ 0 →
    (device.button (dpadButton vertical direction) = true ↔
      held.pointing config.bindings.list config.socd .dpad vertical = direction)
  sticks : ∀ stick, KeyDriven config held stick →
    SignType.sign (device.axis stick.axisX) =
        held.pointing config.bindings.list config.socd (.stick stick) false ∧
      SignType.sign (device.axis stick.axisY) =
        held.pointing config.bindings.list config.socd (.stick stick) true
  mouse : ∀ stick, ¬KeyDriven config held stick →
    (device.axis stick.axisX, device.axis stick.axisY) = mouse

namespace State

variable {state : State}

theorem Settled.sign_axes (settled : state.Settled) (stick : GamepadStick)
    (driven : state.config.mouseStick ≠ some stick ∨ state.Pointed stick) :
    SignType.sign (state.device.axis stick.axisX) = state.x (.stick stick) ∧
      SignType.sign (state.device.axis stick.axisY) = state.y (.stick stick) := by
  have placed := settled.placed stick
  have deflected := settled.deflected stick
  have keyed : ¬(state.x (.stick stick) = 0 ∧ state.y (.stick stick) = 0 ∧
      state.config.mouseStick = some stick) := by
    rintro ⟨x, y, mouse⟩
    rcases driven with other | pointed
    · exact other mouse
    · exact pointed.elim (fun off => off x) fun off => off y
  have axes : ∃ magnitude, state.position stick =
      (axisValue (state.x (.stick stick)) magnitude, axisValue (state.y (.stick stick)) magnitude) ∧
      magnitude ≤ int16Max ∧ (state.Pointed stick → 0 < magnitude) := by
    have bounded := deflected.bounded
    refine ⟨_, if_neg keyed, ?_, ?_⟩
    · unfold int16Max at *
      split
      · unfold kgStickDiagonal
        omega
      · exact bounded
    · intro pointed
      have off := deflected.off (.inl pointed)
      split
      · unfold kgStickDiagonal int16Max
        omega
      · omega
  obtain ⟨magnitude, position, bounded, off⟩ := axes
  rw [settled.shows_.axisX, settled.shows_.axisY, placed.1, placed.2, position]
  by_cases pointed : state.Pointed stick
  · exact ⟨sign_axisValue _ (off pointed) bounded, sign_axisValue _ (off pointed) bounded⟩
  · have ⟨x, y⟩ := not_or.mp pointed
    rw [not_not.mp x, not_not.mp y]
    exact ⟨rfl, rfl⟩

theorem Synced.mirrors {bindings : List Binding} {held : HeldInputs} (synced : state.Synced)
    (tracks : state.Tracks bindings held) (bound : state.config.bindings.list = bindings) :
    Mirrors state.device state.config held (state.mouseX, state.mouseY) := by
  subst bound
  have holds := tracks.stands.controlHeld_iff
  have points := tracks.stands.padDirection_eq held rfl state.config.socd
  have x : ∀ pad, state.x pad = held.pointing state.config.bindings.list state.config.socd pad false :=
    fun pad => (synced.agrees.aimX pad).trans (points pad false)
  have y : ∀ pad, state.y pad = held.pointing state.config.bindings.list state.config.socd pad true :=
    fun pad => (synced.agrees.aimY pad).trans (points pad true)
  constructor
  · intro button apart
    rw [synced.agrees.buttons button apart]
    exact holds _
  · intro axis trigger
    have shown := synced.agrees.triggers axis trigger
    have down := holds (.trigger axis trigger)
    simp only [HeldInputs.Holds, ← down, shown, State.held]
    by_cases pulled : controlHeld state.keys (.trigger axis trigger) = true
    · simp [pulled]
    · simp [pulled, int16Max]
  · intro vertical direction pointed
    rw [synced.settled.shows_.dpad.dpad vertical direction pointed, decide_eq_true_eq]
    cases vertical with
    | false => simp only [dpadAim, x, Bool.false_eq_true, if_false]
    | true => simp only [dpadAim, y, if_true]
  · intro stick driven
    rw [← x, ← y]
    apply synced.settled.sign_axes
    simpa only [KeyDriven, Pointed, x, y] using driven
  · intro stick undriven
    simp only [KeyDriven, ← x, ← y, not_or, not_not] at undriven
    have position : state.position stick = (state.mouseX, state.mouseY) :=
      if_pos ⟨undriven.2.1, undriven.2.2, undriven.1⟩
    rw [synced.settled.shows_.axisX, synced.settled.shows_.axisY, (synced.settled.placed stick).1,
      (synced.settled.placed stick).2, position]

end State

/-- After any calls, with fewer than `2 ^ 32` presses, the device mirrors the inputs held, no event
repeated a state, and the D-pad never pointed both ways. -/
theorem keyboard_mirrors (sdl : Sdl) (takesStick timer : Bool) (spec : Option CString)
    (calls : List Call)
    (few : (HeldInputs.calls (Config.ofSpec sdl spec).bindings.list {} calls).presses < 2 ^ 32) :
    Mirrors ((init sdl takesStick timer spec).calls calls).device (Config.ofSpec sdl spec)
        (HeldInputs.calls (Config.ofSpec sdl spec).bindings.list {} calls)
        (((init sdl takesStick timer spec).calls calls).mouseX,
          ((init sdl takesStick timer spec).calls calls).mouseY) ∧
      ((init sdl takesStick timer spec).calls calls).gp.Tidy := by
  have synced := State.Synced.calls sdl takesStick timer spec calls
  have tracks := (State.Tracks.init sdl takesStick timer spec).calls calls few
  have config : ((init sdl takesStick timer spec).calls calls).config = Config.ofSpec sdl spec :=
    State.calls_config calls
  refine ⟨?_, synced.settled.shows_.dpad.tidy⟩
  have mirrors := synced.mirrors tracks (by rw [config])
  rwa [config] at mirrors

def testSdl : Sdl where
  strcasecmp first second := if first.map Char.toLower = second.map Char.toLower then 0 else 1
  getScancodeFromName name :=
    if name = "Right".toList then 79
    else if name = "Left".toList then 80
    else if name = "Space".toList then 44
    else if name = "W".toList then 26
    else 0

/-- Left and then right held on the D-pad, and a notch of the wheel that presses `a`. -/
theorem keyboard_mirrors_opposite :
    let spec := some "dpad_left=Left,dpad_right=Right,a=Space/Wheel_Up".toList
    let down (scancode : Nat) : Call := .handleKey ⟨scancode, true, false, 0, 0⟩
    let calls := [down 80, down 79, .handleMouseWheel .zero .positive 5]
    let held := HeldInputs.calls (Config.ofSpec testSdl spec).bindings.list {} calls
    held.inputs = [⟨.wheel, 0⟩, ⟨.key, 79⟩, ⟨.key, 80⟩] ∧
      Mirrors ((init testSdl true true spec).calls calls).device (Config.ofSpec testSdl spec) held
        (((init testSdl true true spec).calls calls).mouseX,
          ((init testSdl true true spec).calls calls).mouseY) ∧
      ((init testSdl true true spec).calls calls).gp.Tidy :=
  ⟨by decide, keyboard_mirrors testSdl true true _ _ (by decide)⟩

theorem Mirrors.neutral {device : Device} {config : Config} {held : HeldInputs} {mouse : Int × Int}
    (mirrors : Mirrors device config held mouse) (none : held.inputs = []) (back : mouse = (0, 0)) :
    (∀ button, device.button button = false) ∧ ∀ axis, device.axis axis = 0 := by
  have up (control) : ¬held.Holds config.bindings.list control := by simp [HeldInputs.Holds, none]
  have still (pad vertical) : held.pointing config.bindings.list config.socd pad vertical = 0 := by
    simp [HeldInputs.pointing, HeldInputs.signs, none]
  have stick (stick : GamepadStick) :
      device.axis stick.axisX = 0 ∧ device.axis stick.axisY = 0 := by
    by_cases driven : KeyDriven config held stick
    · have signs := mirrors.sticks stick driven
      rwa [still, still, sign_eq_zero_iff, sign_eq_zero_iff] at signs
    · exact Prod.mk.inj ((mirrors.mouse stick driven).trans back)
  have dpad (vertical direction) (off : direction ≠ 0) :
      device.button (dpadButton vertical direction) = false := by
    rw [← Bool.not_eq_true, mirrors.dpad vertical direction off, still]
    exact off.symm
  have released (axis) (trigger : axis.isTrigger = true) : device.axis axis = 0 :=
    (mirrors.triggers axis trigger).1.resolve_left fun down =>
      up _ ((mirrors.triggers axis trigger).2.mp down)
  constructor
  · intro button
    cases button with
    | dpadUp => exact dpad true (-1) (by decide)
    | dpadDown => exact dpad true 1 (by decide)
    | dpadLeft => exact dpad false (-1) (by decide)
    | dpadRight => exact dpad false 1 (by decide)
    | _ => exact Bool.eq_false_iff.mpr fun down => up _ ((mirrors.buttons _ rfl).mp down)
  · intro axis
    cases axis with
    | leftx => exact (stick .left).1
    | lefty => exact (stick .left).2
    | rightx => exact (stick .right).1
    | righty => exact (stick .right).2
    | leftTrigger | rightTrigger => exact released _ rfl

theorem State.releaseMouse_mouse (state : State) (nowMs : Nat) :
    ((state.releaseMouse nowMs).mouseX, (state.releaseMouse nowMs).mouseY) = (0, 0) := by
  simp only [releaseMouse]
  split
  · rfl
  · exact Prod.ext (keeps_sendStick _ _).mouseX (keeps_sendStick _ _).mouseY

/-- Once all is released the device is at rest. -/
theorem released_at_rest (sdl : Sdl) (takesStick timer : Bool) (spec : Option CString)
    (calls : List Call) (nowMs : Nat)
    (few : (HeldInputs.calls (Config.ofSpec sdl spec).bindings.list {} calls).presses < 2 ^ 32) :
    let device := ((init sdl takesStick timer spec).calls
      (calls ++ [.releaseAll, .releaseMouse nowMs])).device
    (∀ button, device.button button = false) ∧ ∀ axis, device.axis axis = 0 := by
  have tracks := (State.Tracks.init sdl takesStick timer spec).calls
    (calls ++ [.releaseAll, .releaseMouse nowMs])
    (by simpa [HeldInputs.calls, HeldInputs.call, HeldInputs.release] using few)
  have mirrors := (State.Synced.calls sdl takesStick timer spec _).mirrors tracks
    (by rw [State.calls_config]; rfl)
  refine mirrors.neutral (by simp [HeldInputs.calls, HeldInputs.call, HeldInputs.release]) ?_
  rw [State.calls, foldl_append]
  exact State.releaseMouse_mouse ..

/-- A key goes up for its device while the mouse holds the right stick. -/
theorem released_at_rest_held :
    let calls := [.handleKey ⟨44, true, false, 0, 0⟩, .handleMouseMotion 9 0 1, .tick 20]
    let device := ((init testSdl true true (some "a=Space,mouse_stick=right".toList)).calls
      (calls ++ [.releaseAll, .releaseMouse 30])).device
    (∀ button, device.button button = false) ∧ ∀ axis, device.axis axis = 0 :=
  released_at_rest testSdl true true _ _ 30 (by decide)

end Ika.Gamepad
