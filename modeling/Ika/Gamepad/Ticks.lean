import Ika.Gamepad.Ramps

/-! What a tick of the keyboard gamepad does, and what it leaves undone.

A tick answers before it knows of the ramps that its own releases of the wheel
start, so the condition here is about those.
-/

set_option autoImplicit false

namespace Ika.Gamepad

open List Nat

/-! ## What a tick may leave undone -/

def pushedBy (config : Config) (keys : List Key) (stick : GamepadStick) : Prop :=
  padDirection config.socd keys (.stick stick) false ≠ 0 ∨
    padDirection config.socd keys (.stick stick) true ≠ 0

instance (config : Config) (keys : List Key) (stick : GamepadStick) :
    Decidable (pushedBy config keys stick) := inferInstanceAs (Decidable (_ ∨ _))

/-- How far a stick that does not ramp is pushed. -/
def restMagnitude (config : Config) (keys : List Key) (stick : GamepadStick) : Nat :=
  if pushedBy config keys stick then stickCap config keys else 0

/-- A stick at rest is pushed, and one step does not take it to its cap. -/
def StartsRamp (config : Config) (before after : List Key) (stick : GamepadStick) : Prop :=
  config.rampMs.1 ≠ 0 ∧ pushedBy config after stick ∧
    restMagnitude config before stick + rampStep config kgFirstStepMs < stickCap config after

instance (config : Config) (before after : List Key) (stick : GamepadStick) :
    Decidable (StartsRamp config before after stick) := inferInstanceAs (Decidable (_ ∧ _ ∧ _))

/-- The keys once the notches that are over are released among the first `count` keys. -/
def releasedBefore (keys : List Key) (nowMs count : Nat) : List Key :=
  (keys.take count).map (Key.letGo (State.isOver nowMs)) ++ keys.drop count

/-- The release of a notch starts a ramp of the stick that no later release of the tick ends. -/
def Strands (config : Config) (keys : List Key) (nowMs : Nat) (stick : GamepadStick) : Prop :=
  ∃ index < keys.length,
    StartsRamp config (releasedBefore keys nowMs index) (releasedBefore keys nowMs (index + 1))
        stick ∧
      ∀ later < keys.length + 1, index < later →
        pushedBy config (releasedBefore keys nowMs later) stick

instance (config : Config) (keys : List Key) (nowMs : Nat) (stick : GamepadStick) :
    Decidable (Strands config keys nowMs stick) :=
  inferInstanceAs (Decidable (∃ index < _, _ ∧ ∀ later < _, _ → _))

/-- Another reason to tick on: a ramp that goes on, a notch not over yet, or the mouse. -/
def KeepsOn (state : State) (nowMs : Nat) : Prop :=
  (∃ stick, (state.sticks stick).ramping = true ∧ (state.sticks stick).magnitude +
      rampStep state.config (nowMs - state.tickMs) < stickCap state.config state.keys) ∨
    (∃ key ∈ state.keys, key.pressed ≠ 0 ∧ key.source.input = .wheel ∧ nowMs < key.releaseMs) ∨
    (state.config.mouseStick ≠ none ∧
      ((state.followMouse (nowMs - state.tickMs) nowMs).mouseX ≠ 0 ∨
        (state.followMouse (nowMs - state.tickMs) nowMs).mouseY ≠ 0))
  deriving Decidable

/-- No tick leaves a ramp behind. -/
def TickFinishes (state : State) : Call → Prop
  | .tick nowMs => KeepsOn state nowMs ∨ ∀ stick, ¬Strands state.config state.keys nowMs stick
  | _ => True

instance (state : State) : (call : Call) → Decidable (TickFinishes state call)
  | .tick _ => inferInstanceAs (Decidable (_ ∨ ∀ _, ¬_))
  | .handleKey _ | .handleMouseMotion .. | .handleMouseButton .. | .handleMouseWheel ..
  | .releaseAll | .releaseMouse _ => isTrue trivial

namespace State

variable {state : State}

/-! ## What a tick does -/

/-- What every call keeps, and every part of a tick. -/
structure Rests (state : State) : Prop where
  synced : state.Synced
  stands : ∀ stick, state.Stands stick
  mouseless : state.config.mouseStick = none → state.mouseDx = 0 ∧ state.mouseDy = 0
  timer : state.TimerAgrees

theorem Rests.applyKey (rests : state.Rests) (index : Nat) (down : Bool) (nowMs : Nat) :
    (state.applyKey index down nowMs).Rests where
  synced := rests.synced.applyKey ..
  stands := applyKey_stands rests.stands index down nowMs
  mouseless := by
    cases found : state.keys[index]? with
    | none =>
      simp only [State.applyKey, found]
      exact rests.mouseless
    | some key =>
      have keeps := keeps_applyKey found down nowMs
      rw [keeps.config, keeps.mouseDx, keeps.mouseDy]
      exact rests.mouseless
  timer := (advances_applyKey index down nowMs).timer rests.timer

theorem setStick_stands (stick : GamepadStick) (value : Stick)
    (pointed : state.Pointed stick) (capped : value.ramping = false →
      value.magnitude = stickCap state.config state.keys)
    (ramps : value.ramping = true → value.magnitude < stickCap state.config state.keys ∧
      state.config.rampMs.1 ≠ 0)
    (others : ∀ other, other ≠ stick → state.Stands other) (other : GamepadStick) :
    ((state.setStick stick value).sendStick stick).Stands other := by
  apply Stands.sendStick
  by_cases same : other = stick
  · subst same
    have self : (state.setStick other value).sticks other = value := Function.update_self ..
    constructor
    · exact fun unpointed => absurd pointed unpointed
    · rw [self]
      exact fun _ => capped
    · rw [self]
      exact fun ramping => ⟨pointed, ramps ramping⟩
  · have untouched : (state.setStick stick value).sticks other = state.sticks other :=
      Function.update_of_ne same ..
    exact (others other same).congr rfl (by rw [untouched]) (by rw [untouched]) rfl rfl

theorem rampOn_stands {pass : Pass} (stands : ∀ stick, pass.state.Stands stick) (elapsedMs : Nat)
    (stick other : GamepadStick) : (rampOn elapsedMs pass stick).state.Stands other := by
  simp only [rampOn]
  split_ifs with still reached
  · exact stands other
  · have ramps := (stands stick).ramps (by simpa using still)
    exact setStick_stands stick _ ramps.1 (fun _ => rfl) (by simp) (fun other _ => stands other) other
  · have ramping : (pass.state.sticks stick).ramping = true := by simpa using still
    have ramps := (stands stick).ramps ramping
    apply setStick_stands stick _ ramps.1 _ _ (fun other _ => stands other) other
    · exact fun idle => by simp [ramping] at idle
    · exact fun _ => ⟨Nat.lt_of_not_le reached, ramps.2.2⟩

variable {after : State} (elapsedMs : Nat) (keys : List Key)

theorem rampOn_more (pass : Pass) (stick : GamepadStick) :
    (rampOn elapsedMs pass stick).more =
      (pass.more || ((rampOn elapsedMs pass stick).state.sticks stick).ramping) := by
  simp only [rampOn]
  split_ifs with still reached
  · have idle : (pass.state.sticks stick).ramping = false := by simpa using still
    simp [idle]
  · simp [sendStick_ramping, setStick]
  · have ramping : (pass.state.sticks stick).ramping = true := by simpa using still
    simp [sendStick_ramping, setStick, ramping]

theorem rampOn_other {stick other : GamepadStick} (apart : other ≠ stick) (elapsedMs : Nat)
    (pass : Pass) :
    (rampOn elapsedMs pass stick).state.sticks other = pass.state.sticks other := by
  simp only [rampOn]
  split_ifs
  · rfl
  · rw [sendStick_other apart]
    exact Function.update_of_ne apart ..
  · rw [sendStick_other apart]
    exact Function.update_of_ne apart ..

theorem rampOn_ramps (pass : Pass) (stick : GamepadStick)
    (ramping : (pass.state.sticks stick).ramping = true)
    (short : (pass.state.sticks stick).magnitude + rampStep pass.state.config elapsedMs <
      stickCap pass.state.config pass.state.keys) :
    ((rampOn elapsedMs pass stick).state.sticks stick).ramping = true := by
  have below := Nat.not_le_of_lt short
  simp [rampOn, ramping, below, sendStick_ramping, setStick]

theorem rampOn_climbs {elapsedMs : Nat} {pass : Pass} {stick : GamepadStick}
    (ramps : ((rampOn elapsedMs pass stick).state.sticks stick).ramping = true) :
    (pass.state.sticks stick).ramping = true ∧
      ((rampOn elapsedMs pass stick).state.sticks stick).magnitude =
        (pass.state.sticks stick).magnitude + rampStep pass.state.config elapsedMs := by
  simp only [rampOn] at ramps ⊢
  split_ifs at ramps ⊢ with still reached
  · simp [ramps] at still
  · simp [sendStick_ramping, setStick] at ramps
  · exact ⟨by simpa using still, by simp [sendStick_magnitude, setStick]⟩

def rampSticks (elapsedMs : Nat) (pass : Pass) : Pass :=
  [GamepadStick.left, .right].foldl (rampOn elapsedMs) pass

theorem rampSticks_left (pass : Pass) :
    (rampSticks elapsedMs pass).state.sticks .left =
      (rampOn elapsedMs pass .left).state.sticks .left := rampOn_other (by decide) ..

theorem rampOn_left (pass : Pass) :
    (rampOn elapsedMs pass .left).state.sticks .right = pass.state.sticks .right :=
  rampOn_other (by decide) ..

theorem rampSticks_more (pass : Pass) (start : pass.more = false) :
    (rampSticks elapsedMs pass).more = true ↔
      ∃ stick, ((rampSticks elapsedMs pass).state.sticks stick).ramping = true := by
  have more : (rampSticks elapsedMs pass).more =
      (((rampOn elapsedMs pass .left).state.sticks .left).ramping ||
        ((rampSticks elapsedMs pass).state.sticks .right).ramping) := by
    have first := rampOn_more elapsedMs pass .left
    rw [start, Bool.false_or] at first
    rw [← first]
    exact rampOn_more ..
  rw [more, Bool.or_eq_true, ← rampSticks_left]
  constructor
  · rintro (ramps | ramps)
    · exact ⟨_, ramps⟩
    · exact ⟨_, ramps⟩
  · rintro ⟨stick, ramps⟩
    cases stick with
    | left => exact .inl ramps
    | right => exact .inr ramps

theorem rampSticks_ramps (pass : Pass) (stick : GamepadStick)
    (ramping : (pass.state.sticks stick).ramping = true)
    (short : (pass.state.sticks stick).magnitude + rampStep pass.state.config elapsedMs <
      stickCap pass.state.config pass.state.keys) :
    ((rampSticks elapsedMs pass).state.sticks stick).ramping = true := by
  cases stick with
  | left =>
    rw [rampSticks_left]
    exact rampOn_ramps elapsedMs pass .left ramping short
  | right =>
    have keeps := keeps_rampOn elapsedMs pass .left
    apply rampOn_ramps
    · rw [rampOn_left]
      exact ramping
    · rw [rampOn_left, keeps.config, keeps.keys]
      exact short

theorem rampSticks_climbs {elapsedMs : Nat} {pass : Pass} {stick : GamepadStick}
    (ramps : ((rampSticks elapsedMs pass).state.sticks stick).ramping = true) :
    (pass.state.sticks stick).ramping = true ∧
      ((rampSticks elapsedMs pass).state.sticks stick).magnitude =
        (pass.state.sticks stick).magnitude + rampStep pass.state.config elapsedMs := by
  cases stick with
  | left =>
    rw [rampSticks_left] at ramps ⊢
    exact rampOn_climbs ramps
  | right =>
    have climbs := @rampOn_climbs elapsedMs (rampOn elapsedMs pass .left) .right ramps
    rwa [rampOn_left, (keeps_rampOn elapsedMs pass .left).config] at climbs

theorem keeps_rampSticks (pass : Pass) : Keeps pass.state (rampSticks elapsedMs pass).state :=
  (keeps_rampOn ..).trans (keeps_rampOn ..)

theorem rampOn_timer (pass : Pass) (stick : GamepadStick) :
    (rampOn elapsedMs pass stick).state.timer = pass.state.timer ∧
      (rampOn elapsedMs pass stick).state.ticking = pass.state.ticking ∧
      (rampOn elapsedMs pass stick).state.tickMs = pass.state.tickMs := by
  simp only [rampOn]
  split_ifs
  · exact ⟨rfl, rfl, rfl⟩
  · rw [sendStick_eq]
    exact ⟨rfl, rfl, rfl⟩
  · rw [sendStick_eq]
    exact ⟨rfl, rfl, rfl⟩

theorem Rests.rampOn {pass : Pass} (rests : pass.state.Rests) (elapsedMs : Nat)
    (stick : GamepadStick) : (rampOn elapsedMs pass stick).state.Rests where
  synced := rests.synced.rampOn ..
  stands := rampOn_stands rests.stands elapsedMs stick
  mouseless := by
    have keeps := keeps_rampOn elapsedMs pass stick
    rw [keeps.config, keeps.mouseDx, keeps.mouseDy]
    exact rests.mouseless
  timer := by
    have same := rampOn_timer elapsedMs pass stick
    rw [TimerAgrees, same.1, same.2.1]
    exact rests.timer

/-! ## The notches of a tick -/

theorem releasedBefore_zero (nowMs : Nat) : releasedBefore keys nowMs 0 = keys := by
  simp [releasedBefore]

theorem releasedBefore_length (nowMs : Nat) :
    releasedBefore keys nowMs keys.length = keys.map (Key.letGo (isOver nowMs)) := by
  simp [releasedBefore]

theorem modify_append_cons {Item : Type} (change : Item → Item) (before : List Item) (item : Item)
    (after : List Item) : (before ++ item :: after).modify before.length change =
      before ++ change item :: after := by
  induction before with
  | nil => rfl
  | cons first rest ih =>
    rw [cons_append, length_cons, modify_succ_cons, ih]
    rfl

theorem releasedBefore_succ (nowMs : Nat) {count : Nat} (within : count < keys.length) :
    releasedBefore keys nowMs (count + 1) =
      (releasedBefore keys nowMs count).modify count (Key.letGo (isOver nowMs)) := by
  have length : ((keys.take count).map (Key.letGo (isOver nowMs))).length = count := by
    rw [length_map, length_take_of_le (Nat.le_of_lt within)]
  have changed := modify_append_cons (Key.letGo (isOver nowMs))
    ((keys.take count).map (Key.letGo (isOver nowMs))) keys[count] (keys.drop (count + 1))
  rw [length] at changed
  unfold releasedBefore
  rw [drop_eq_getElem_cons within, changed, take_succ_eq_append_getElem within,
    map_append, append_assoc]
  rfl

theorem releasedBefore_getElem (nowMs count : Nat) :
    (releasedBefore keys nowMs count)[count]? = keys[count]? := by
  by_cases within : count < keys.length
  · have length : ((keys.take count).map (Key.letGo (isOver nowMs))).length = count := by
      rw [length_map, length_take_of_le (Nat.le_of_lt within)]
    unfold releasedBefore
    rw [getElem?_append_right (by rw [length]), length, getElem?_drop]
    simp
  · have beyond := Nat.le_of_not_lt within
    rw [getElem?_eq_none beyond, getElem?_eq_none]
    simp only [releasedBefore, length_append, length_map, length_take,
      length_drop]
    omega

def notchLoop (nowMs : Nat) (pass : Pass) (count : Nat) : Pass :=
  (List.range count).foldl (releaseNotch nowMs) pass

theorem notchLoop_succ (nowMs : Nat) (pass : Pass) (count : Nat) :
    notchLoop nowMs pass (count + 1) = releaseNotch nowMs (notchLoop nowMs pass count) count := by
  rw [notchLoop, range_succ, foldl_append]
  rfl

section Loop

variable {pass : Pass} {nowMs : Nat}

theorem notchLoop_keys {count : Nat} (within : count ≤ pass.state.keys.length) :
    (notchLoop nowMs pass count).state.keys = releasedBefore pass.state.keys nowMs count := by
  induction count with
  | zero => exact (releasedBefore_zero ..).symm
  | succ count ih =>
    rw [notchLoop_succ, (releaseNotch_keys ..).1, ih (le_of_succ_le within),
      releasedBefore_succ _ _ (lt_of_succ_le within)]

theorem releaseNotch_cases (nowMs : Nat) (pass : Pass) (index : Nat) :
    (releaseNotch nowMs pass index).state = pass.state.applyKey index false nowMs ∧
        (releaseNotch nowMs pass index).more = pass.more ∨
      (releaseNotch nowMs pass index).state = pass.state := by
  unfold releaseNotch
  split
  · exact .inr rfl
  · split_ifs
    · exact .inr rfl
    · exact .inl ⟨rfl, rfl⟩
    · exact .inr rfl

theorem Rests.notchLoop (rests : pass.state.Rests) (count : Nat) :
    (notchLoop nowMs pass count).state.Rests := by
  induction count with
  | zero => exact rests
  | succ count ih =>
    rw [notchLoop_succ]
    rcases releaseNotch_cases nowMs (State.notchLoop nowMs pass count) count with released | same
    · rw [released.1]
      exact ih.applyKey ..
    · rw [same]
      exact ih

theorem notchLoop_config (count : Nat) :
    (notchLoop nowMs pass count).state.config = pass.state.config := by
  induction count with
  | zero => rfl
  | succ count ih =>
    rw [notchLoop_succ]
    rcases releaseNotch_cases nowMs (notchLoop nowMs pass count) count with released | same
    · rw [released.1, applyKey_config, ih]
    · rw [same, ih]

theorem notchLoop_more (count : Nat) (within : count ≤ pass.state.keys.length) :
    (notchLoop nowMs pass count).more = true ↔ pass.more = true ∨
      ∃ index < count, ∃ key, pass.state.keys[index]? = some key ∧ key.pressed ≠ 0 ∧
        key.source.input = .wheel ∧ nowMs < key.releaseMs := by
  induction count with
  | zero => simp [notchLoop]
  | succ count ih =>
    have sofar := ih (le_of_succ_le within)
    have keys := @notchLoop_keys pass nowMs count (le_of_succ_le within)
    have here : (notchLoop nowMs pass count).state.keys[count]? = pass.state.keys[count]? := by
      rw [keys, releasedBefore_getElem]
    have step : (notchLoop nowMs pass (count + 1)).more = true ↔
        (notchLoop nowMs pass count).more = true ∨
          ∃ key, pass.state.keys[count]? = some key ∧ key.pressed ≠ 0 ∧
            key.source.input = .wheel ∧ nowMs < key.releaseMs := by
      rw [notchLoop_succ, releaseNotch, here]
      cases found : pass.state.keys[count]? with
      | none => simp
      | some key =>
        dsimp only
        split_ifs with idle due
        · rcases idle with released | apart
          · simp [released]
          · simp [apart]
        · have : ¬nowMs < key.releaseMs := Nat.not_lt_of_le due
          simp [this]
        · have ⟨pressed, wheel⟩ := not_or.mp idle
          simp [pressed, not_not.mp wheel, Nat.lt_of_not_le due]
    rw [step, sofar, or_assoc]
    apply or_congr_right
    constructor
    · rintro (⟨index, before, rest⟩ | last)
      · exact ⟨index, lt_succ_of_lt before, rest⟩
      · exact ⟨count, lt_succ_self _, last⟩
    · rintro ⟨index, before, rest⟩
      rcases Nat.lt_succ_iff_lt_or_eq.mp before with earlier | rfl
      · exact .inl ⟨index, earlier, rest⟩
      · exact .inr rest

theorem Synced.pointed_iff {state : State} (synced : state.Synced) (stick : GamepadStick) :
    state.Pointed stick ↔ pushedBy state.config state.keys stick := by
  unfold Pointed
  rw [synced.agrees.aimX, synced.agrees.aimY]
  rfl

theorem Rests.magnitude_eq {state : State} (rests : state.Rests) {stick : GamepadStick}
    (still : (state.sticks stick).ramping = false) :
    (state.sticks stick).magnitude = restMagnitude state.config state.keys stick := by
  unfold restMagnitude
  by_cases pointed : state.Pointed stick
  · rw [if_pos ((rests.synced.pointed_iff stick).mp pointed)]
    exact (rests.stands stick).capped pointed still
  · rw [if_neg fun pushed => pointed ((rests.synced.pointed_iff stick).mpr pushed)]
    exact ((rests.stands stick).centred pointed).1

/-- A stick that comes to ramp after some notches was pushed at one of them, and ever after. -/
theorem notchLoop_ramps (rests : pass.state.Rests) (stick : GamepadStick)
    (still : (pass.state.sticks stick).ramping = false) (count : Nat)
    (within : count ≤ pass.state.keys.length)
    (ramps : ((notchLoop nowMs pass count).state.sticks stick).ramping = true) :
    ∃ index < count, StartsRamp pass.state.config (releasedBefore pass.state.keys nowMs index)
        (releasedBefore pass.state.keys nowMs (index + 1)) stick ∧
      ∀ later ≤ count, index < later →
        pushedBy pass.state.config (releasedBefore pass.state.keys nowMs later) stick := by
  induction count with
  | zero =>
    change (pass.state.sticks stick).ramping = true at ramps
    rw [still] at ramps
    cases ramps
  | succ count ih =>
    have earlier := le_of_succ_le within
    have sofar : (notchLoop nowMs pass count).state.Rests := rests.notchLoop count
    have next : (notchLoop nowMs pass (count + 1)).state.Rests := rests.notchLoop (count + 1)
    have config := @notchLoop_config pass nowMs
    have pushed : pushedBy pass.state.config
        (releasedBefore pass.state.keys nowMs (count + 1)) stick := by
      rw [← config (count + 1), ← notchLoop_keys within]
      exact (next.synced.pointed_iff stick).mp ((next.stands stick).ramps ramps).1
    cases before : ((notchLoop nowMs pass count).state.sticks stick).ramping with
    | true =>
      obtain ⟨index, first, starts, stays⟩ := ih earlier before
      refine ⟨index, lt_succ_of_lt first, starts, ?_⟩
      intro later upTo after
      rcases le_succ_iff.mp upTo with lower | rfl
      · exact stays later lower after
      · exact pushed
    | false =>
      refine ⟨count, lt_succ_self _, ?_, ?_⟩
      · have keys := @notchLoop_keys pass nowMs count earlier
        have keysNext := @notchLoop_keys pass nowMs (count + 1) within
        rw [notchLoop_succ] at ramps keysNext
        rcases releaseNotch_cases nowMs (notchLoop nowMs pass count) count with released | same
        · rw [released.1] at ramps keysNext
          obtain ⟨long, _, short⟩ := applyKey_starts count false nowMs stick before ramps
          rw [sofar.magnitude_eq before, applyKey_config, keysNext, keys, config] at short
          rw [config] at long
          exact ⟨long, pushed, short⟩
        · rw [same, before] at ramps
          cases ramps
      · intro later upTo after
        have : later = count + 1 := by omega
        exact this ▸ pushed

theorem notchLoop_idle
    (idle : ∀ key ∈ pass.state.keys, key.source.input = .wheel → key.pressed = 0) (count : Nat) :
    (notchLoop nowMs pass count).state = pass.state := by
  induction count with
  | zero => rfl
  | succ count ih =>
    rw [notchLoop_succ, releaseNotch, ih]
    split
    · exact ih
    · rename_i key found
      have released : key.pressed = 0 ∨ key.source.input ≠ .wheel := by
        by_cases wheel : key.source.input = .wheel
        · exact .inl (idle key (mem_of_getElem? found) wheel)
        · exact .inr wheel
      rw [if_pos released]
      exact ih

end Loop

/-! ## The mouse of a tick -/

/-- The mouse, which no key moves. -/
structure SameMouse (before after : State) : Prop where
  config : after.config = before.config
  mouseDx : after.mouseDx = before.mouseDx
  mouseDy : after.mouseDy = before.mouseDy
  mouseX : after.mouseX = before.mouseX
  mouseY : after.mouseY = before.mouseY
  mouseMotionMs : after.mouseMotionMs = before.mouseMotionMs

theorem Keeps.mouse (keeps : Keeps state after) : SameMouse state after :=
  ⟨keeps.config, keeps.mouseDx, keeps.mouseDy, keeps.mouseX, keeps.mouseY, keeps.mouseMotionMs⟩

theorem SameMouse.trans {first second third : State} (before : SameMouse first second)
    (after : SameMouse second third) : SameMouse first third where
  config := after.config.trans before.config
  mouseDx := after.mouseDx.trans before.mouseDx
  mouseDy := after.mouseDy.trans before.mouseDy
  mouseX := after.mouseX.trans before.mouseX
  mouseY := after.mouseY.trans before.mouseY
  mouseMotionMs := after.mouseMotionMs.trans before.mouseMotionMs

theorem mouse_applyKey (index : Nat) (down : Bool) (nowMs : Nat) :
    SameMouse state (state.applyKey index down nowMs) := by
  cases found : state.keys[index]? with
  | none =>
    simp only [applyKey, found]
    exact (Keeps.refl state).mouse
  | some key =>
    have marked : SameMouse state (state.mark index down) := by constructor <;> rfl
    exact marked.trans (keeps_applyKey found down nowMs).mouse

theorem mouse_notchLoop (nowMs : Nat) (pass : Pass) (count : Nat) :
    SameMouse pass.state (notchLoop nowMs pass count).state := by
  induction count with
  | zero => exact (Keeps.refl _).mouse
  | succ count ih =>
    rw [notchLoop_succ]
    rcases releaseNotch_cases nowMs (notchLoop nowMs pass count) count with released | same
    · rw [released.1]
      exact ih.trans (mouse_applyKey ..)
    · rw [same]
      exact ih

def MouseOff (state : State) (elapsedMs nowMs : Nat) : Prop :=
  state.config.mouseStick ≠ none ∧ ((state.followMouse elapsedMs nowMs).mouseX ≠ 0 ∨
    (state.followMouse elapsedMs nowMs).mouseY ≠ 0)

theorem SameMouse.mouseOff (same : SameMouse state after) (elapsedMs nowMs : Nat) :
    after.MouseOff elapsedMs nowMs ↔ state.MouseOff elapsedMs nowMs := by
  have follows : (after.followMouse elapsedMs nowMs).mouseX =
        (state.followMouse elapsedMs nowMs).mouseX ∧
      (after.followMouse elapsedMs nowMs).mouseY = (state.followMouse elapsedMs nowMs).mouseY := by
    simp only [followMouse, mouseToStick, same.config, same.mouseDx, same.mouseDy, same.mouseX,
      same.mouseY, same.mouseMotionMs]
    split_ifs
    · exact ⟨rfl, rfl⟩
    · exact ⟨rfl, rfl⟩
    · exact ⟨same.mouseX, same.mouseY⟩
  rw [MouseOff, MouseOff, follows.1, follows.2, same.config]

theorem moveMouse_more (nowMs : Nat) (pass : Pass) :
    (moveMouse elapsedMs nowMs pass).more = true ↔
      pass.more = true ∨ pass.state.MouseOff elapsedMs nowMs := by
  unfold moveMouse MouseOff
  split
  · rename_i off
    simp [off]
  · rename_i stick on
    simp [on, or_assoc]

theorem moveMouse_mouse (nowMs : Nat) (pass : Pass) (mouse : pass.state.config.mouseStick ≠ none) :
    (moveMouse elapsedMs nowMs pass).state.mouseDx = 0 ∧
      (moveMouse elapsedMs nowMs pass).state.mouseDy = 0 ∧
      (moveMouse elapsedMs nowMs pass).state.mouseX =
        (pass.state.followMouse elapsedMs nowMs).mouseX ∧
      (moveMouse elapsedMs nowMs pass).state.mouseY =
        (pass.state.followMouse elapsedMs nowMs).mouseY := by
  unfold moveMouse
  split
  · rename_i off
    exact absurd off mouse
  · rename_i stick on
    have keeps := (pass.state.followMouse elapsedMs nowMs).keeps_sendStick stick
    have sent : (pass.state.followMouse elapsedMs nowMs).mouseDx = 0 ∧
        (pass.state.followMouse elapsedMs nowMs).mouseDy = 0 := by
      unfold followMouse mouseToStick
      split_ifs with moved
      · exact ⟨rfl, rfl⟩
      · simpa using moved
      · simpa using moved
    exact ⟨keeps.mouseDx.trans sent.1, keeps.mouseDy.trans sent.2, keeps.mouseX, keeps.mouseY⟩

/-- The sticks and the timer, which the mouse leaves alone. -/
structure SameSticks (before after : State) : Prop where
  ramping : ∀ stick, (after.sticks stick).ramping = (before.sticks stick).ramping
  magnitude : ∀ stick, (after.sticks stick).magnitude = (before.sticks stick).magnitude
  pointed : ∀ stick, after.Pointed stick = before.Pointed stick
  timer : after.timer = before.timer
  ticking : after.ticking = before.ticking
  tickMs : after.tickMs = before.tickMs

theorem SameSticks.sendStick (same : SameSticks state after) (stick : GamepadStick) :
    SameSticks state (after.sendStick stick) := by
  constructor
  · exact fun other => (sendStick_ramping stick other).trans (same.ramping other)
  · exact fun other => (sendStick_magnitude stick other).trans (same.magnitude other)
  · intro other
    simpa only [Pointed, sendStick_x, sendStick_y] using same.pointed other
  · rw [sendStick_eq]
    exact same.timer
  · rw [sendStick_eq]
    exact same.ticking
  · rw [sendStick_eq]
    exact same.tickMs

theorem sticks_moveMouse (nowMs : Nat) (pass : Pass) :
    SameSticks pass.state (moveMouse elapsedMs nowMs pass).state := by
  have followed : SameSticks pass.state (pass.state.followMouse elapsedMs nowMs) := by
    unfold followMouse mouseToStick
    split_ifs <;> constructor <;> intros <;> rfl
  unfold moveMouse
  split
  · constructor <;> intros <;> rfl
  · exact followed.sendStick _

/-! ## A whole tick -/

def Busy (state : State) : Prop :=
  (∃ stick, (state.sticks stick).ramping = true) ∨
    (∃ key ∈ state.keys, key.source.input = .wheel ∧ key.pressed ≠ 0) ∨
    (state.mouseDx ≠ 0 ∨ state.mouseDy ≠ 0) ∨
    (state.config.mouseStick ≠ none ∧ (state.mouseX ≠ 0 ∨ state.mouseY ≠ 0))

structure Ready (state : State) : Prop where
  rests : state.Rests
  ticks : state.Busy → state.ticking = true

def tickStart (state : State) (nowMs : Nat) : Pass := {state := {state with tickMs := nowMs}}

def tickRamps (state : State) (nowMs : Nat) : Pass :=
  rampSticks (nowMs - state.tickMs) (state.tickStart nowMs)

def tickNotches (state : State) (nowMs : Nat) : Pass :=
  notchLoop nowMs (state.tickRamps nowMs) (state.tickRamps nowMs).state.keys.length

def tickMouse (state : State) (nowMs : Nat) : Pass :=
  moveMouse (nowMs - state.tickMs) nowMs (state.tickNotches nowMs)

theorem tick_eq (nowMs : Nat) : state.tick nowMs =
    ({(state.tickMouse nowMs).state with ticking := (state.tickMouse nowMs).more},
      (state.tickMouse nowMs).more) := rfl

section Tick

variable {nowMs : Nat}

theorem keeps_tickRamps : Keeps state (state.tickRamps nowMs).state :=
  Keeps.trans (by constructor <;> rfl) (keeps_rampSticks (nowMs - state.tickMs) (state.tickStart nowMs))

theorem mouse_tickNotches : SameMouse state (state.tickNotches nowMs).state :=
  keeps_tickRamps.mouse.trans (mouse_notchLoop ..)

theorem Rests.tickRamps (rests : state.Rests) : (state.tickRamps nowMs).state.Rests := by
  have started : (state.tickStart nowMs).state.Rests := by
    refine ⟨?_, ?_, rests.mouseless, rests.timer⟩
    · exact rests.synced.congr rfl rfl rfl rfl rfl rfl fun _ => rfl
    · exact fun stick => (rests.stands stick).congr rfl rfl rfl rfl rfl
  exact (started.rampOn (nowMs - state.tickMs) .left).rampOn (nowMs - state.tickMs) .right

theorem tickMouse_keys :
    (state.tickMouse nowMs).state.keys = state.keys.map (Key.letGo (isOver nowMs)) := by
  rw [tickMouse, (moveMouse_keys ..).1, tickNotches, notchLoop_keys (Nat.le_refl _),
    releasedBefore_length, keeps_tickRamps.keys]

theorem tickMouse_config : (state.tickMouse nowMs).state.config = state.config := by
  rw [tickMouse, (moveMouse_keys ..).2.2, tickNotches, notchLoop_config, keeps_tickRamps.config]

theorem Rests.tickMouse (rests : state.Rests) : (state.tickMouse nowMs).state.Rests := by
  have before : (state.tickNotches nowMs).state.Rests := rests.tickRamps.notchLoop _
  have keys : (state.tickMouse nowMs).state.keys = (state.tickNotches nowMs).state.keys :=
    (moveMouse_keys ..).1
  have config : (state.tickMouse nowMs).state.config = (state.tickNotches nowMs).state.config :=
    (moveMouse_keys ..).2.2
  have same : SameSticks (state.tickNotches nowMs).state (state.tickMouse nowMs).state :=
    sticks_moveMouse ..
  constructor
  · exact before.synced.moveMouse ..
  · intro stick
    have cap : stickCap (state.tickMouse nowMs).state.config (state.tickMouse nowMs).state.keys =
        stickCap (state.tickNotches nowMs).state.config (state.tickNotches nowMs).state.keys := by
      rw [keys, config]
    exact (before.stands stick).congr (same.pointed stick) (same.magnitude stick)
      (same.ramping stick) cap config
  · intro mouseless
    have none_ : (state.tickNotches nowMs).state.config.mouseStick = none :=
      (congrArg Config.mouseStick config).symm.trans mouseless
    have unmoved : (state.tickMouse nowMs).state = (state.tickNotches nowMs).state := by
      unfold State.tickMouse moveMouse
      rw [none_]
    rw [unmoved]
    exact before.mouseless none_
  · unfold TimerAgrees
    rw [same.timer, same.ticking]
    exact before.timer

theorem tickMouse_more (nowMs : Nat) : (state.tickMouse nowMs).more = true ↔
    (∃ stick, ((state.tickRamps nowMs).state.sticks stick).ramping = true) ∨
      (∃ key ∈ state.keys, key.pressed ≠ 0 ∧ key.source.input = .wheel ∧ nowMs < key.releaseMs) ∨
      state.MouseOff (nowMs - state.tickMs) nowMs := by
  have mouse : (state.tickNotches nowMs).state.MouseOff (nowMs - state.tickMs) nowMs ↔
      state.MouseOff (nowMs - state.tickMs) nowMs := mouse_tickNotches.mouseOff ..
  have ramps : (state.tickRamps nowMs).more = true ↔
      ∃ stick, ((state.tickRamps nowMs).state.sticks stick).ramping = true :=
    rampSticks_more _ _ rfl
  have keys : (state.tickRamps nowMs).state.keys = state.keys := keeps_tickRamps.keys
  have notches : (state.tickNotches nowMs).more = true ↔ (state.tickRamps nowMs).more = true ∨
      ∃ key ∈ state.keys, key.pressed ≠ 0 ∧ key.source.input = .wheel ∧ nowMs < key.releaseMs := by
    apply (notchLoop_more _ (Nat.le_refl _)).trans
    rw [keys]
    apply or_congr_right
    constructor
    · rintro ⟨index, _, key, found, rest⟩
      exact ⟨key, mem_of_getElem? found, rest⟩
    · rintro ⟨key, mem, rest⟩
      obtain ⟨index, within, is⟩ := getElem_of_mem mem
      exact ⟨index, within, key, by rw [getElem?_eq_getElem within, is], rest⟩
  unfold tickMouse
  rw [moveMouse_more, mouse, notches, ramps, or_assoc]

theorem more_of_keepsOn (keeps : KeepsOn state nowMs) : (state.tickMouse nowMs).more = true := by
  apply (tickMouse_more nowMs).mpr
  rcases keeps with ⟨stick, ramping, short⟩ | notch | mouse
  · exact .inl ⟨stick, rampSticks_ramps _ (state.tickStart nowMs) stick ramping short⟩
  · exact .inr (.inl notch)
  · exact .inr (.inr mouse)

theorem Rests.tick_busy (rests : state.Rests) (finishes : TickFinishes state (.tick nowMs))
    (busy : (state.tick nowMs).1.Busy) : (state.tickMouse nowMs).more = true := by
  rcases finishes with keeps | finishes
  · exact more_of_keepsOn keeps
  by_contra less
  have stops := mt (tickMouse_more nowMs).mpr less
  simp only [not_or, not_exists, not_and] at stops
  obtain ⟨noRamp, noNotch, noMouse⟩ := stops
  have ramped := @keeps_tickRamps state nowMs
  rcases busy with ⟨stick, ramps⟩ | ⟨key, mem, wheel, pressed⟩ | motion | ⟨on, off⟩
  · -- only a release of the tick can have started this ramp
    have still : ((state.tickRamps nowMs).state.sticks stick).ramping = false := by
      simpa using noRamp stick
    have after : ((state.tickNotches nowMs).state.sticks stick).ramping = true := by
      rw [← (sticks_moveMouse (nowMs - state.tickMs) nowMs (state.tickNotches nowMs)).ramping]
      exact ramps
    obtain ⟨index, within, starts, stays⟩ :=
      notchLoop_ramps rests.tickRamps stick still _ (Nat.le_refl _) after
    rw [ramped.keys, ramped.config] at starts stays
    rw [ramped.keys] at within
    exact finishes stick ⟨index, within, starts, fun later upTo => stays later (le_of_lt_succ upTo)⟩
  · change key ∈ (state.tickMouse nowMs).state.keys at mem
    rw [tickMouse_keys] at mem
    obtain ⟨before, memBefore, rfl⟩ := mem_map.mp mem
    rw [Key.letGo_toBinding] at wheel
    rw [Key.letGo_pressed] at pressed
    have held : before.pressed ≠ 0 := fun zero => pressed (by simp [zero])
    have notOver := noNotch before memBefore held wheel
    simp [isOver, wheel, Nat.le_of_not_lt notOver] at pressed
  · have none_ : (state.tickMouse nowMs).state.mouseDx = 0 ∧
        (state.tickMouse nowMs).state.mouseDy = 0 := by
      by_cases mouse : (state.tickNotches nowMs).state.config.mouseStick = none
      · apply rests.tickMouse.mouseless
        rwa [show (state.tickMouse nowMs).state.config = (state.tickNotches nowMs).state.config from
          (moveMouse_keys ..).2.2]
      · have moved := moveMouse_mouse (nowMs - state.tickMs) nowMs (state.tickNotches nowMs) mouse
        exact ⟨moved.1, moved.2.1⟩
    exact motion.elim (fun x => x none_.1) fun y => y none_.2
  · have config : (state.tickMouse nowMs).state.config = (state.tickNotches nowMs).state.config :=
      (moveMouse_keys ..).2.2
    have mouse : (state.tickNotches nowMs).state.config.mouseStick ≠ none := by
      rw [← config]
      exact on
    have moved := moveMouse_mouse (nowMs - state.tickMs) nowMs (state.tickNotches nowMs) mouse
    apply noMouse
    rw [← mouse_tickNotches.mouseOff]
    refine ⟨mouse, ?_⟩
    rw [← moved.2.2.1, ← moved.2.2.2]
    exact off

theorem advances_notchLoop (nowMs : Nat) (pass : Pass) (count : Nat) :
    Advances pass.state (notchLoop nowMs pass count).state := by
  induction count with
  | zero => exact .refl _
  | succ count ih =>
    rw [notchLoop_succ]
    rcases releaseNotch_cases nowMs (notchLoop nowMs pass count) count with released | same
    · rw [released.1]
      exact ih.trans (advances_applyKey ..)
    · rw [same]
      exact ih

theorem tickRamps_timer : (state.tickRamps nowMs).state.timer = state.timer ∧
    (state.tickRamps nowMs).state.ticking = state.ticking ∧
      (state.tickRamps nowMs).state.tickMs = nowMs := by
  have left := rampOn_timer (nowMs - state.tickMs) (state.tickStart nowMs) .left
  have right := rampOn_timer (nowMs - state.tickMs)
    (rampOn (nowMs - state.tickMs) (state.tickStart nowMs) .left) .right
  exact ⟨right.1.trans left.1, right.2.1.trans left.2.1, right.2.2.trans left.2.2⟩

theorem advances_tickNotches :
    Advances (state.tickRamps nowMs).state (state.tickNotches nowMs).state :=
  advances_notchLoop ..

theorem tickMouse_ticking (ticks : state.ticking = true) :
    (state.tickMouse nowMs).state.ticking = true ∧ (state.tickMouse nowMs).state.tickMs = nowMs := by
  obtain ⟨-, kept, at_⟩ := @tickRamps_timer state nowMs
  have ramped := kept.trans ticks
  have advances := @advances_tickNotches state nowMs
  have moved := sticks_moveMouse (nowMs - state.tickMs) nowMs (state.tickNotches nowMs)
  constructor
  · exact moved.ticking.trans (advances.ticking ramped)
  · exact moved.tickMs.trans ((advances.tickMs ramped).trans at_)

theorem tickMouse_owned : (state.tickMouse nowMs).state.timer.isSome = state.timer.isSome := by
  have moved := sticks_moveMouse (nowMs - state.tickMs) nowMs (state.tickNotches nowMs)
  rw [tickMouse, moved.timer, advances_tickNotches.owned, tickRamps_timer.1]

theorem tickMouse_climbs {stick : GamepadStick}
    (idle : ∀ key ∈ state.keys, key.source.input = .wheel → key.pressed = 0)
    (ramps : ((state.tickMouse nowMs).state.sticks stick).ramping = true) :
    (state.sticks stick).ramping = true ∧ ((state.tickMouse nowMs).state.sticks stick).magnitude =
      (state.sticks stick).magnitude + rampStep state.config (nowMs - state.tickMs) := by
  have moved := sticks_moveMouse (nowMs - state.tickMs) nowMs (state.tickNotches nowMs)
  have same : (state.tickNotches nowMs).state = (state.tickRamps nowMs).state := by
    apply notchLoop_idle
    rw [keeps_tickRamps.keys]
    exact idle
  have ramped : ((state.tickRamps nowMs).state.sticks stick).ramping = true := by
    rw [← same]
    exact (moved.ramping stick).symm.trans ramps
  have climbs := @rampSticks_climbs _ (state.tickStart nowMs) stick ramped
  refine ⟨climbs.1, ?_⟩
  rw [tickMouse, moved.magnitude, same]
  exact climbs.2

theorem Rests.setTimer (rests : state.Rests) (ticking : Bool) (timer : Option Bool)
    (agrees : timer = none ∨ timer = some ticking) :
    Rests {state with ticking := ticking, timer := timer} where
  synced := rests.synced.congr rfl rfl rfl rfl rfl rfl fun _ => rfl
  stands stick := (rests.stands stick).congr rfl rfl rfl rfl rfl
  mouseless := rests.mouseless
  timer := agrees

end Tick

end State

end Ika.Gamepad
