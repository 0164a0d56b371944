import Mathlib.Data.Int.ConditionallyCompleteOrder
import Mathlib.Order.ConditionallyCompleteLattice.Indexed
import Ika.Gamepad.Reports

/-! The device agrees with the keys of the keyboard gamepad after every call.

Whatever the stamps of the keys are, the buttons, the triggers and the way each
pad points are those the keys give, and each stick is where its keys, or the
mouse, put it.
-/

set_option autoImplicit false

namespace Ika.Gamepad

open List Function

/-! ## Magnitudes -/

variable (config : Config) (sdl : Sdl) (takesStick timer : Bool) (spec : Option CString)
  (keys : List Key) (magnitude : Nat)

theorem stickCap_le : stickCap config keys ≤ int16Max := by
  have := config.walkPercent.2
  simp only [stickCap, int16Max]
  split <;> omega

theorem le_stickCap : 327 ≤ stickCap config keys := by
  have := config.walkPercent.2
  simp only [stickCap, int16Max]
  split <;> omega

theorem le_firstStep (ramps : config.rampMs.1 ≠ 0) : 52 ≤ rampStep config kgFirstStepMs := by
  have bound := config.rampMs.2.2
  simp only [rampStep, kgFirstStepMs, int16Max, kgMaxRampMs] at *
  apply Nat.le_min.mpr
  constructor
  · apply (Nat.le_div_iff_mul_le (by omega)).mpr
    omega
  · omega

structure Stick.Deflected (stick : Stick) (pointed : Prop) : Prop where
  bounded : stick.magnitude ≤ int16Max
  off : pointed ∨ stick.ramping = true → 2 ≤ stick.magnitude

theorem int16_eq {value : Int} (lower : -32768 ≤ value) (upper : value ≤ 32767) :
    int16 value = value := by
  unfold int16
  omega

theorem axisValue_neg :
    axisValue .neg magnitude = if magnitude = int16Max then int16Min else int16 (-magnitude) :=
  (if_neg (by decide)).trans (if_pos (by decide))

theorem axisValue_pos : axisValue .pos magnitude = int16 magnitude :=
  (if_neg (by decide)).trans (if_neg (by decide))

theorem sign_axisValue (direction : SignType) {magnitude : Nat} (off : 0 < magnitude)
    (bounded : magnitude ≤ int16Max) : SignType.sign (axisValue direction magnitude) = direction := by
  unfold int16Max at bounded
  cases direction with
  | zero => rfl
  | neg =>
    apply sign_eq_neg_one_iff.mpr
    rw [axisValue_neg]
    split
    · decide
    · rw [int16_eq (by omega) (by omega)]
      omega
  | pos =>
    apply sign_eq_one_iff.mpr
    rw [axisValue_pos, int16_eq (by omega) (by omega)]
    omega

namespace State

def Pointed (state : State) (stick : GamepadStick) : Prop :=
  state.x (.stick stick) ≠ 0 ∨ state.y (.stick stick) ≠ 0

def Placed (state : State) (stick : GamepadStick) : Prop :=
  (state.sticks stick).sentX = (state.position stick).1 ∧
    (state.sticks stick).sentY = (state.position stick).2

structure Shows (state : State) : Prop where
  dpad : state.DpadShows state.dpadAim
  axisX : ∀ stick, state.device.axis stick.axisX = (state.sticks stick).sentX
  axisY : ∀ stick, state.device.axis stick.axisY = (state.sticks stick).sentY

structure Settled (state : State) : Prop where
  shows_ : state.Shows
  placed : ∀ stick, state.Placed stick
  deflected : ∀ stick, (state.sticks stick).Deflected (state.Pointed stick)

variable {state : State}

/-! ## Sticks -/

theorem position_congr {other : State} {stick : GamepadStick}
    (x : other.x (.stick stick) = state.x (.stick stick))
    (y : other.y (.stick stick) = state.y (.stick stick))
    (magnitude : (other.sticks stick).magnitude = (state.sticks stick).magnitude)
    (config : other.config = state.config) (mouseX : other.mouseX = state.mouseX)
    (mouseY : other.mouseY = state.mouseY) : other.position stick = state.position stick := by
  simp only [position, x, y, magnitude, config, mouseX, mouseY]

variable {axis : GamepadAxis} {after : State} {pass : Pass} (stick : GamepadStick) (x y : SignType)
  (nowMs : Nat) (other : GamepadStick)

theorem sendStick_x : (state.sendStick stick).x = state.x := by
  rw [sendStick_eq]

theorem sendStick_y : (state.sendStick stick).y = state.y := by
  rw [sendStick_eq]

theorem sendStick_self :
    (state.sendStick stick).sticks stick = { state.sticks stick with
      sentX := (state.position stick).1, sentY := (state.position stick).2} := by
  rw [sendStick_eq]
  exact update_self ..

theorem sendStick_other {stick other : GamepadStick} (apart : other ≠ stick) :
    (state.sendStick stick).sticks other = state.sticks other := by
  rw [sendStick_eq]
  exact update_of_ne apart ..

theorem sendStick_magnitude :
    ((state.sendStick stick).sticks other).magnitude = (state.sticks other).magnitude := by
  by_cases same : other = stick
  · rw [same, sendStick_self]
  · rw [sendStick_other same]

theorem sendStick_ramping :
    ((state.sendStick stick).sticks other).ramping = (state.sticks other).ramping := by
  by_cases same : other = stick
  · rw [same, sendStick_self]
  · rw [sendStick_other same]

theorem position_sendStick : (state.sendStick stick).position other = state.position other := by
  have keeps := state.keeps_sendStick stick
  exact position_congr (by rw [sendStick_x]) (by rw [sendStick_y]) (sendStick_magnitude ..)
    keeps.config keeps.mouseX keeps.mouseY

theorem Shows.sendStick (shows_ : state.Shows) (stick : GamepadStick) :
    (state.sendStick stick).Shows := by
  have device := device_sendStick stick (shows_.axisX stick) (shows_.axisY stick)
  constructor
  · have same : (state.sendStick stick).dpadAim = state.dpadAim := by
      funext vertical
      simp only [dpadAim, sendStick_x, sendStick_y]
    rw [same]
    constructor
    · apply shows_.dpad.dpad.congr_button
      intro button _
      rw [device]
      rfl
    · exact tidy_sendStick stick shows_.dpad.tidy shows_.dpad.dpad.unopposed
  · intro other
    rw [device]
    by_cases same : other = stick
    · rw [same, sendStick_self]
      simp [Device.apply]
    · rw [sendStick_other same]
      simp [Device.apply, same, shows_.axisX]
  · intro other
    rw [device]
    by_cases same : other = stick
    · rw [same, sendStick_self]
      simp [Device.apply]
    · rw [sendStick_other same]
      simp [Device.apply, same, shows_.axisY]

theorem Shows.settle (shows_ : state.Shows) (stick : GamepadStick)
    (others : ∀ other, other ≠ stick → state.Placed other)
    (deflected : ∀ stick, (state.sticks stick).Deflected (state.Pointed stick)) :
    (state.sendStick stick).Settled := by
  refine ⟨shows_.sendStick stick, ?_, ?_⟩
  · intro other
    unfold Placed
    rw [position_sendStick]
    by_cases same : other = stick
    · subst same
      rw [sendStick_self]
      exact ⟨rfl, rfl⟩
    · rw [sendStick_other same]
      exact others other same
  · intro other
    simp only [Pointed, sendStick_x, sendStick_y]
    constructor
    · rw [sendStick_magnitude]
      exact (deflected other).bounded
    · rw [sendStick_magnitude, sendStick_ramping]
      exact (deflected other).off

theorem push_sticks (deflected : (state.sticks stick).Deflected False) :
    ∃ magnitude ramping, (state.push stick nowMs).sticks = update state.sticks stick
        {state.sticks stick with magnitude := magnitude, ramping := ramping} ∧
      magnitude ≤ int16Max ∧ (state.Pointed stick ∨ ramping = true → 2 ≤ magnitude) := by
  have upper := stickCap_le state.config state.keys
  have lower := le_stickCap state.config state.keys
  simp only [push]
  split
  · rename_i centred
    exact ⟨0, false, rfl, by decide, by simp [Pointed, centred]⟩
  split
  · exact ⟨_, false, rfl, upper, fun _ => by omega⟩
  rename_i short
  split
  · rename_i ramps
    have same : update state.sticks stick (state.sticks stick) = state.sticks :=
      update_eq_self ..
    exact ⟨_, _, same.symm, deflected.bounded, fun _ => deflected.off (.inr ramps)⟩
  split
  · exact ⟨_, _, rfl, upper, fun _ => by omega⟩
  · have step := le_firstStep state.config fun idle => short (.inl idle)
    refine ⟨(state.sticks stick).magnitude + rampStep state.config kgFirstStepMs, true, ?_, ?_, ?_⟩
    · unfold startTicking
      split <;> rfl
    · omega
    · intro _
      omega

theorem push_x : (state.push stick nowMs).x = state.x := by
  rw [push_eq]

theorem push_y : (state.push stick nowMs).y = state.y := by
  rw [push_eq]

theorem push_gp : (state.push stick nowMs).gp = state.gp := by
  rw [push_eq]

theorem moveStick_x : (state.moveStick stick x y nowMs).x = update state.x (.stick stick) x := by
  rw [moveStick, sendStick_x, push_x]
  rfl

theorem moveStick_y : (state.moveStick stick x y nowMs).y = update state.y (.stick stick) y := by
  rw [moveStick, sendStick_y, push_y]
  rfl

section

variable (settled : state.Settled)
include settled

theorem Settled.pushed (stick : GamepadStick) (x y : SignType)
    (nowMs : Nat) : ((state.point (.stick stick) x y).push stick nowMs).Shows ∧
      (∀ other, other ≠ stick → ((state.point (.stick stick) x y).push stick nowMs).Placed other) ∧
      ∀ other, (((state.point (.stick stick) x y).push stick nowMs).sticks other).Deflected
        (((state.point (.stick stick) x y).push stick nowMs).Pointed other) := by
  let pointed := state.point (.stick stick) x y
  have free : (pointed.sticks stick).Deflected False :=
    ⟨(settled.deflected stick).bounded, fun ramps =>
      (settled.deflected stick).off (.inr (ramps.resolve_left id))⟩
  obtain ⟨magnitude, ramping, sticks, bounded, off⟩ := push_sticks stick nowMs free
  have keeps : Keeps state (pointed.push stick nowMs) := by
    rw [push_eq]
    constructor <;> rfl
  have device : (pointed.push stick nowMs).device = state.device := by
    simp only [device, push_gp]
    rfl
  refine ⟨⟨?_, ?_, ?_⟩, ?_, ?_⟩
  · have same : (pointed.push stick nowMs).dpadAim = state.dpadAim := by
      funext vertical
      simp only [dpadAim, push_x, push_y]
      rfl
    rw [same]
    constructor
    · rw [device]
      exact settled.shows_.dpad.dpad
    · rw [push_gp]
      exact settled.shows_.dpad.tidy
  · intro other
    rw [device, sticks, settled.shows_.axisX]
    by_cases same : other = stick
    · subst same
      simp [pointed, point]
    · simp [same, pointed, point]
  · intro other
    rw [device, sticks, settled.shows_.axisY]
    by_cases same : other = stick
    · subst same
      simp [pointed, point]
    · simp [same, pointed, point]
  · intro other apart
    have untouched : (pointed.push stick nowMs).sticks other = state.sticks other := by
      rw [sticks, update_of_ne apart]
      rfl
    have position : (pointed.push stick nowMs).position other = state.position other := by
      apply position_congr _ _ (by rw [untouched]) keeps.config keeps.mouseX keeps.mouseY
      · rw [push_x]
        simp [pointed, point, apart]
      · rw [push_y]
        simp [pointed, point, apart]
    unfold Placed
    rw [untouched, position]
    exact settled.placed other
  · intro other
    simp only [Pointed, push_x, push_y]
    by_cases same : other = stick
    · subst same
      rw [sticks, update_self]
      exact ⟨bounded, off⟩
    · rw [sticks, update_of_ne same]
      simpa [pointed, point, same, Pointed] using settled.deflected other

theorem Settled.moveStick (stick : GamepadStick) (x y : SignType)
    (nowMs : Nat) : (state.moveStick stick x y nowMs).Settled :=
  have ⟨shows_, others, deflected⟩ := settled.pushed stick x y nowMs
  shows_.settle stick others deflected

theorem moveStick_button (stick : GamepadStick) (x y : SignType)
    (nowMs : Nat) : (state.moveStick stick x y nowMs).device.button = state.device.button := by
  have ⟨shows_, _, _⟩ := settled.pushed stick x y nowMs
  rw [moveStick, device_sendStick stick (shows_.axisX stick) (shows_.axisY stick)]
  simp only [Device.apply, device, push_gp]
  rfl

theorem moveStick_trigger (stick : GamepadStick) (x y : SignType)
    (nowMs : Nat) (trigger : axis.isTrigger = true) :
    (state.moveStick stick x y nowMs).device.axis axis = state.device.axis axis := by
  have ⟨shows_, _, _⟩ := settled.pushed stick x y nowMs
  have notX : axis ≠ stick.axisX := by
    rintro rfl
    simp at trigger
  have notY : axis ≠ stick.axisY := by
    rintro rfl
    simp at trigger
  rw [moveStick, device_sendStick stick (shows_.axisX stick) (shows_.axisY stick)]
  simp only [Device.apply, device, push_gp, update_of_ne notX,
    update_of_ne notY]
  rfl

/-! ## The other controls -/

theorem Settled.congr (shows_ : after.Shows)
    (pointed : ∀ stick, after.Pointed stick = state.Pointed stick)
    (sticks : after.sticks = state.sticks)
    (position : ∀ stick, after.position stick = state.position stick) : after.Settled := by
  refine ⟨shows_, ?_, ?_⟩
  · intro stick
    unfold Placed
    rw [position, sticks]
    exact settled.placed stick
  · intro stick
    rw [pointed, sticks]
    exact settled.deflected stick

theorem Settled.moveDpad (x y : SignType) : (state.moveDpad x y).Settled := by
  have stickX : ∀ stick, (state.moveDpad x y).x (.stick stick) = state.x (.stick stick) := by
    simp [moveDpad_x]
  have stickY : ∀ stick, (state.moveDpad x y).y (.stick stick) = state.y (.stick stick) := by
    simp [moveDpad_y]
  apply settled.congr
  · constructor
    · have aim : (state.moveDpad x y).dpadAim = fun vertical => if vertical then y else x := by
        funext vertical
        simp [dpadAim, moveDpad_x, moveDpad_y]
      rw [aim]
      exact settled.shows_.dpad.moveDpad x y
    · intro stick
      rw [(apart_moveDpad x y state).2, moveDpad_sticks]
      exact settled.shows_.axisX stick
    · intro stick
      rw [(apart_moveDpad x y state).2, moveDpad_sticks]
      exact settled.shows_.axisY stick
  · intro stick
    simp only [Pointed, stickX, stickY]
  · exact moveDpad_sticks ..
  · intro stick
    have keeps := state.keeps_moveDpad x y
    exact position_congr (stickX stick) (stickY stick) (by rw [moveDpad_sticks]) keeps.config
      keeps.mouseX keeps.mouseY

theorem Settled.sendButton {button : GamepadButton}
    (apart : button.onDpad = false) {down : Bool} (changes : state.device.button button ≠ down) :
    (state.sendButton button down).Settled := by
  have kept : (state.sendButton button down).device.DpadAt state.dpadAim := by
    apply settled.shows_.dpad.dpad.congr_button
    intro other onDpad
    rw [device_sendButton]
    apply update_of_ne
    rintro rfl
    simp [apart] at onDpad
  have unopposed := kept.unopposed
  rw [device_sendButton] at unopposed
  have shows_ : (state.sendButton button down).Shows := by
    constructor
    · exact ⟨kept, state.gp.tidy_send settled.shows_.dpad.tidy changes unopposed⟩
    · intro stick
      rw [device_sendButton]
      exact settled.shows_.axisX stick
    · intro stick
      rw [device_sendButton]
      exact settled.shows_.axisY stick
  exact settled.congr shows_ (fun _ => rfl) rfl fun _ => rfl

theorem Settled.sendTrigger (trigger : axis.isTrigger = true)
    (value : Int) : (state.sendAxis axis value).Settled := by
  have notX : ∀ stick : GamepadStick, stick.axisX ≠ axis := by
    rintro stick rfl
    simp at trigger
  have notY : ∀ stick : GamepadStick, stick.axisY ≠ axis := by
    rintro stick rfl
    simp at trigger
  have device : (state.sendAxis axis value).device = state.device.apply (.axis axis value) :=
    device_send _
  have shows_ : (state.sendAxis axis value).Shows := by
    constructor
    · constructor
      · rw [device]
        exact settled.shows_.dpad.dpad
      · exact (tidy_send (by simp) settled.shows_.dpad.tidy
          settled.shows_.dpad.dpad.unopposed).1
    · intro stick
      rw [device]
      exact (update_of_ne (notX stick) ..).trans (settled.shows_.axisX stick)
    · intro stick
      rw [device]
      exact (update_of_ne (notY stick) ..).trans (settled.shows_.axisY stick)
  exact settled.congr shows_ (fun _ => rfl) rfl fun _ => rfl

end

/-! ## Keys -/

/-- The device's buttons and triggers are down as `held` says, and the pads point as `aim` says. -/
structure Agrees (held : Control → Bool) (aim : Pad → Bool → SignType) (state : State) : Prop where
  buttons : ∀ button apart, state.device.button button = held (.button button apart)
  triggers : ∀ axis trigger, state.device.axis axis =
    if held (.trigger axis trigger) then (int16Max : Int) else 0
  aimX : ∀ pad, state.x pad = aim pad false
  aimY : ∀ pad, state.y pad = aim pad true

def held (state : State) : Control → Bool := controlHeld state.keys

def aim (state : State) : Pad → Bool → SignType := padDirection state.config.socd state.keys

/-- What a control held or not, and one pad pointed elsewhere, leave. -/
structure Only (control : Control) (held after : Control → Bool) (aim aimed : Pad → Bool → SignType) :
    Prop where
  held : ∀ other, other ≠ control → after other = held other
  aim : ∀ pad vertical, (∀ axis sign, control ≠ .direction pad axis sign) →
    aimed pad vertical = aim pad vertical

structure Synced (state : State) : Prop where
  settled : state.Settled
  agrees : state.Agrees state.held state.aim

section Follow

variable {before : Control → Bool} {aimed : Pad → Bool → SignType}

theorem Settled.recap (settled : state.Settled) (agrees : state.Agrees before aimed)
    (stick : GamepadStick) (nowMs : Nat) :
    (state.recap stick nowMs).Settled ∧ (state.recap stick nowMs).Agrees before aimed := by
  simp only [State.recap]
  split
  · refine ⟨settled.moveStick .., ?_, ?_, ?_, ?_⟩
    · intro button apart
      rw [moveStick_button settled]
      exact agrees.buttons button apart
    · intro axis trigger
      rw [moveStick_trigger settled _ _ _ _ trigger]
      exact agrees.triggers axis trigger
    · intro pad
      rw [moveStick_x, update_eq_self]
      exact agrees.aimX pad
    · intro pad
      rw [moveStick_y, update_eq_self]
      exact agrees.aimY pad
  · exact ⟨settled, agrees⟩

theorem follow_direction (settled : state.Settled) (agrees : state.Agrees before aimed) (pad : Pad)
    (vertical : Bool) (sign : Sign)
    (only : Only (.direction pad vertical sign) before state.held aimed state.aim) (wasHeld : Bool)
    (nowMs : Nat) : (state.follow (.direction pad vertical sign) wasHeld nowMs).Settled ∧
      (state.follow (.direction pad vertical sign) wasHeld nowMs).Agrees state.held state.aim := by
  have buttons : ∀ button apart, before (.button button apart) = state.held (.button button apart) :=
    fun button apart => (only.held _ (by simp)).symm
  have triggers : ∀ axis trigger, before (.trigger axis trigger) =
      state.held (.trigger axis trigger) := fun axis trigger => (only.held _ (by simp)).symm
  have others : ∀ other, other ≠ pad → ∀ axis, aimed other axis = state.aim other axis :=
    fun other apart axis => (only.aim other axis (by simp [Ne.symm apart])).symm
  have updated : ∀ axis (now : Pad → SignType), (∀ pad, now pad = aimed pad axis) → ∀ other,
      update now pad (state.aim pad axis) other = state.aim other axis := by
    intro axis now points other
    by_cases same : other = pad
    · rw [same, update_self]
    · rw [update_of_ne same, points, others other same]
  cases pad with
  | dpad =>
    refine ⟨settled.moveDpad .., ?_, ?_, ?_, ?_⟩
    · intro button apart
      exact ((apart_moveDpad ..).1 button apart).trans
        ((agrees.buttons button apart).trans (buttons ..))
    · intro axis trigger
      rw [← triggers]
      exact (congrFun (apart_moveDpad ..).2 axis).trans (agrees.triggers axis trigger)
    · intro other
      exact (congrFun (moveDpad_x ..) other).trans (updated false state.x agrees.aimX other)
    · intro other
      exact (congrFun (moveDpad_y ..) other).trans (updated true state.y agrees.aimY other)
  | stick stick =>
    refine ⟨settled.moveStick .., ?_, ?_, ?_, ?_⟩
    · intro button apart
      exact (congrFun (moveStick_button settled ..) button).trans
        ((agrees.buttons button apart).trans (buttons ..))
    · intro axis trigger
      rw [← triggers]
      exact (moveStick_trigger settled _ _ _ _ trigger).trans (agrees.triggers axis trigger)
    · intro other
      exact (congrFun (moveStick_x ..) other).trans (updated false state.x agrees.aimX other)
    · intro other
      exact (congrFun (moveStick_y ..) other).trans (updated true state.y agrees.aimY other)

variable {after : Control → Bool} {now : Pad → Bool → SignType}

theorem Only.aim_eq {control : Control} (only : Only control before after aimed now)
    (undirected : ∀ pad vertical sign, control ≠ .direction pad vertical sign) : now = aimed := by
  funext pad vertical
  exact only.aim pad vertical (undirected pad)

theorem Only.held_eq {control : Control} (only : Only control before after aimed now)
    (same : after control = before control) : after = before := by
  funext other
  by_cases is : other = control
  · rw [is, same]
  · exact only.held other is

theorem follow_button (settled : state.Settled) (agrees : state.Agrees before aimed)
    (button : GamepadButton) (apart : button.onDpad = false)
    (only : Only (.button button apart) before state.held aimed state.aim) (nowMs : Nat) :
    (state.follow (.button button apart) (before (.button button apart)) nowMs).Settled ∧
      (state.follow (.button button apart) (before (.button button apart)) nowMs).Agrees
        state.held state.aim := by
  simp only [follow, only.aim_eq (by simp)]
  split
  · rename_i same
    rw [only.held_eq same]
    exact ⟨settled, agrees⟩
  · rename_i changed
    have shown := agrees.buttons button apart
    have changes : state.device.button button ≠ controlHeld state.keys (.button button apart) :=
      fun eq => changed (eq.symm.trans shown)
    refine ⟨settled.sendButton apart changes, ?_, ?_, agrees.aimX, agrees.aimY⟩
    · intro other otherApart
      rw [device_sendButton]
      by_cases same : other = button
      · subst same
        exact update_self ..
      · exact (update_of_ne same ..).trans ((agrees.buttons other otherApart).trans
          (only.held _ (by simp [same])).symm)
    · intro axis trigger
      rw [device_sendButton, only.held _ (by simp)]
      exact agrees.triggers axis trigger

theorem follow_trigger (settled : state.Settled) (agrees : state.Agrees before aimed)
    (axis : GamepadAxis) (trigger : axis.isTrigger = true)
    (only : Only (.trigger axis trigger) before state.held aimed state.aim) (nowMs : Nat) :
    (state.follow (.trigger axis trigger) (before (.trigger axis trigger)) nowMs).Settled ∧
      (state.follow (.trigger axis trigger) (before (.trigger axis trigger)) nowMs).Agrees
        state.held state.aim := by
  simp only [follow, only.aim_eq (by simp)]
  split
  · rename_i same
    rw [only.held_eq same]
    exact ⟨settled, agrees⟩
  · refine ⟨settled.sendTrigger trigger _, ?_, ?_, agrees.aimX, agrees.aimY⟩
    · intro button apart
      rw [sendAxis, device_send, only.held _ (by simp)]
      exact agrees.buttons button apart
    · intro other otherTrigger
      rw [sendAxis, device_send]
      by_cases same : other = axis
      · subst same
        exact update_self other _ state.device.axis
      · rw [only.held _ (by simp [same])]
        exact (update_of_ne same ..).trans (agrees.triggers other otherTrigger)

theorem follow_walk (settled : state.Settled) (agrees : state.Agrees before aimed)
    (only : Only .walk before state.held aimed state.aim) (nowMs : Nat) :
    (state.follow .walk (before .walk) nowMs).Settled ∧
      (state.follow .walk (before .walk) nowMs).Agrees state.held state.aim := by
  have kept : state.Agrees state.held state.aim := by
    rw [only.aim_eq (by simp)]
    refine ⟨?_, ?_, agrees.aimX, agrees.aimY⟩
    · intro button apart
      rw [only.held _ (by simp)]
      exact agrees.buttons button apart
    · intro axis trigger
      rw [only.held _ (by simp)]
      exact agrees.triggers axis trigger
  simp only [follow]
  split
  · exact ⟨settled, kept⟩
  · have left := settled.recap kept .left nowMs
    exact left.1.recap left.2 .right nowMs

theorem follow_synced (settled : state.Settled) (agrees : state.Agrees before aimed)
    (control : Control) (only : Only control before state.held aimed state.aim) (nowMs : Nat) :
    (state.follow control (before control) nowMs).Synced := by
  have keeps := state.keeps_follow control (before control) nowMs
  have held : (state.follow control (before control) nowMs).held = state.held := by
    unfold held
    rw [keeps.keys]
  have aim : (state.follow control (before control) nowMs).aim = state.aim := by
    unfold aim
    rw [keeps.keys, keeps.config]
  have followed : (state.follow control (before control) nowMs).Settled ∧
      (state.follow control (before control) nowMs).Agrees state.held state.aim := by
    cases control with
    | direction pad vertical sign => exact follow_direction settled agrees _ _ _ only _ nowMs
    | button button apart => exact follow_button settled agrees _ _ only nowMs
    | trigger axis trigger => exact follow_trigger settled agrees _ _ only nowMs
    | walk => exact follow_walk settled agrees only nowMs
  exact ⟨followed.1, held ▸ aim ▸ followed.2⟩

end Follow

/-! ## Marking a key -/

theorem foldl_modify {Found : Type} {scan : Found → Key → Found} {change : Key → Key} :
    ∀ (keys : List Key) (index : Nat) (found : Found),
      (∀ key, keys[index]? = some key → ∀ found, scan found (change key) = scan found key) →
      (keys.modify index change).foldl scan found = keys.foldl scan found
  | [], _, _, _ => by simp
  | key :: rest, 0, found, unseen => by simp [unseen key rfl]
  | key :: rest, index + 1, found, unseen => by
    simp only [modify_succ_cons, foldl_cons]
    exact foldl_modify rest index _ fun other at_ => unseen other at_

theorem any_modify {test : Key → Bool} {change : Key → Key} :
    ∀ (keys : List Key) (index : Nat),
      (∀ key, keys[index]? = some key → test (change key) = test key) →
      (keys.modify index change).any test = keys.any test
  | [], _, _ => by simp
  | key :: rest, 0, unseen => by simp [unseen key rfl]
  | key :: rest, index + 1, unseen => by
    simp only [modify_succ_cons, any_cons]
    rw [any_modify rest index fun other at_ => unseen other at_]

theorem only_mark {index : Nat} {key : Key} (found : state.keys[index]? = some key) (down : Bool) :
    Only key.control state.held (state.mark index down).held state.aim
      (state.mark index down).aim := by
  constructor
  · intro other apart
    apply any_modify
    intro marked at_
    have is : key = marked := Option.some.inj (found.symm.trans at_)
    subst is
    simp [Ne.symm apart]
  · intro pad vertical undirected
    have silent : key.control.signOn pad vertical = none := by
      cases control : key.control with
      | direction ofPad ofAxis sign =>
        have apart : ofPad ≠ pad := by
          rintro rfl
          exact undirected ofAxis sign control
        simp [Control.signOn, apart]
      | _ => rfl
    have same : (state.mark index down).keys.foldl (Directions.scan pad vertical) {} =
        state.keys.foldl (Directions.scan pad vertical) {} := by
      apply foldl_modify
      intro marked at_ found'
      have is : key = marked := Option.some.inj (found.symm.trans at_)
      subst is
      simp [Directions.scan, silent]
    simp only [aim, padDirection, same]
    rfl

theorem Settled.mark (settled : state.Settled) (index : Nat) (down : Bool) :
    (state.mark index down).Settled := by
  have shows_ : (state.mark index down).Shows :=
    ⟨⟨settled.shows_.dpad.dpad, settled.shows_.dpad.tidy⟩, settled.shows_.axisX,
      settled.shows_.axisY⟩
  exact settled.congr shows_ (fun _ => rfl) rfl fun _ => rfl

theorem Synced.applyKey (synced : state.Synced) (index : Nat) (down : Bool) (nowMs : Nat) :
    (state.applyKey index down nowMs).Synced := by
  unfold State.applyKey
  split
  · exact synced
  · rename_i key found
    have agrees : (state.mark index down).Agrees state.held state.aim :=
      ⟨synced.agrees.buttons, synced.agrees.triggers, synced.agrees.aimX, synced.agrees.aimY⟩
    exact follow_synced (synced.settled.mark index down) agrees key.control
      (only_mark found down) nowMs

/-! ## What is not a key -/

theorem Shows.congr (shows_ : state.Shows) (gp : after.gp = state.gp) (x : after.x = state.x)
    (y : after.y = state.y)
    (sentX : ∀ stick, (after.sticks stick).sentX = (state.sticks stick).sentX)
    (sentY : ∀ stick, (after.sticks stick).sentY = (state.sticks stick).sentY) : after.Shows := by
  have device : after.device = state.device := by simp only [device, gp]
  have dpadAim : after.dpadAim = state.dpadAim := by
    funext vertical
    simp only [dpadAim, x, y]
  constructor
  · rw [dpadAim]
    exact ⟨device ▸ shows_.dpad.dpad, gp ▸ shows_.dpad.tidy⟩
  · intro stick
    rw [device, sentX]
    exact shows_.axisX stick
  · intro stick
    rw [device, sentY]
    exact shows_.axisY stick

section

variable (synced : state.Synced)
include synced

theorem Synced.congr (gp : after.gp = state.gp)
    (held : after.held = state.held) (aim : after.aim = state.aim) (x : after.x = state.x)
    (y : after.y = state.y) (sticks : after.sticks = state.sticks)
    (position : ∀ stick, after.position stick = state.position stick) : after.Synced := by
  have device : after.device = state.device := by simp only [device, gp]
  have shows_ : after.Shows :=
    synced.settled.shows_.congr gp x y (fun _ => by rw [sticks]) fun _ => by rw [sticks]
  constructor
  · exact synced.settled.congr shows_ (fun _ => by simp only [Pointed, x, y]) sticks position
  · rw [held, aim]
    constructor
    · rw [device]
      exact synced.agrees.buttons
    · rw [device]
      exact synced.agrees.triggers
    · rw [x]
      exact synced.agrees.aimX
    · rw [y]
      exact synced.agrees.aimY

theorem Synced.resend {changed : State} (stick : GamepadStick)
    (gp : changed.gp = state.gp) (keys : changed.keys = state.keys)
    (config : changed.config = state.config) (x : changed.x = state.x) (y : changed.y = state.y)
    (sentX : ∀ other, (changed.sticks other).sentX = (state.sticks other).sentX)
    (sentY : ∀ other, (changed.sticks other).sentY = (state.sticks other).sentY)
    (others : ∀ other, other ≠ stick → changed.Placed other)
    (deflected : ∀ stick, (changed.sticks stick).Deflected (changed.Pointed stick)) :
    (changed.sendStick stick).Synced := by
  have device : changed.device = state.device := by simp only [device, gp]
  have shows_ := synced.settled.shows_.congr gp x y sentX sentY
  have sent := device_sendStick stick (shows_.axisX stick) (shows_.axisY stick)
  have keeps := changed.keeps_sendStick stick
  have held : (changed.sendStick stick).held = state.held := by
    unfold held
    rw [keeps.keys, keys]
  have aim : (changed.sendStick stick).aim = state.aim := by
    unfold aim
    rw [keeps.keys, keeps.config, keys, config]
  refine ⟨shows_.settle stick others deflected, ?_⟩
  rw [held, aim]
  constructor
  · intro button apart
    rw [sent, device]
    exact synced.agrees.buttons button apart
  · intro axis trigger
    have notX : axis ≠ stick.axisX := by
      rintro rfl
      simp at trigger
    have notY : axis ≠ stick.axisY := by
      rintro rfl
      simp at trigger
    rw [sent, device, ← synced.agrees.triggers axis trigger]
    exact (update_of_ne notY ..).trans (update_of_ne notX ..)
  · rw [sendStick_x, x]
    exact synced.agrees.aimX
  · rw [sendStick_y, y]
    exact synced.agrees.aimY

theorem Synced.setStick (stick : GamepadStick) (value : Stick)
    (sentX : value.sentX = (state.sticks stick).sentX)
    (sentY : value.sentY = (state.sticks stick).sentY) (bounded : value.magnitude ≤ int16Max)
    (off : 2 ≤ value.magnitude) : ((state.setStick stick value).sendStick stick).Synced := by
  have self : (state.setStick stick value).sticks stick = value := update_self ..
  have same : ∀ other, other ≠ stick →
      (state.setStick stick value).sticks other = state.sticks other :=
    fun other apart => update_of_ne apart ..
  have resent := @Synced.resend state synced (state.setStick stick value) stick rfl rfl rfl rfl rfl
  apply resent
  · intro other
    by_cases is : other = stick
    · rw [is, self, sentX]
    · rw [same other is]
  · intro other
    by_cases is : other = stick
    · rw [is, self, sentY]
    · rw [same other is]
  · intro other apart
    have position : (state.setStick stick value).position other = state.position other :=
      position_congr rfl rfl (by rw [same other apart]) rfl rfl rfl
    unfold Placed
    rw [same other apart, position]
    exact synced.settled.placed other
  · intro other
    by_cases is : other = stick
    · rw [is, self]
      exact ⟨bounded, fun _ => off⟩
    · rw [same other is]
      exact synced.settled.deflected other

theorem Synced.mouse {changed : State} {stick : GamepadStick}
    (mouseStick : state.config.mouseStick = some stick) (gp : changed.gp = state.gp)
    (keys : changed.keys = state.keys) (config : changed.config = state.config)
    (x : changed.x = state.x) (y : changed.y = state.y) (sticks : changed.sticks = state.sticks) :
    (changed.sendStick stick).Synced := by
  apply synced.resend stick gp keys config x y (fun other => by rw [sticks])
    (fun other => by rw [sticks])
  · intro other apart
    have position : changed.position other = state.position other := by
      have elsewhere : state.config.mouseStick ≠ some other := by
        rw [mouseStick]
        exact fun eq => apart (Option.some.inj eq).symm
      simp [position, x, y, sticks, config, elsewhere]
    unfold Placed
    rw [sticks, position]
    exact synced.settled.placed other
  · intro other
    simp only [Pointed, x, y, sticks]
    exact synced.settled.deflected other

theorem Synced.startTicking (nowMs : Nat) : (state.startTicking nowMs).Synced := by
  unfold State.startTicking
  split
  · exact synced
  · exact synced.congr rfl rfl rfl rfl rfl rfl fun _ => rfl

theorem Synced.handleMouseMotion (xrel yrel : Int) (nowMs : Nat) :
    (state.handleMouseMotion xrel yrel nowMs).Synced := by
  unfold State.handleMouseMotion
  split
  · exact synced
  · apply Synced.startTicking
    exact synced.congr rfl rfl rfl rfl rfl rfl fun _ => rfl

theorem Synced.setRelease (index releaseMs : Nat) : (state.setRelease index releaseMs).Synced := by
  have held : (state.setRelease index releaseMs).held = state.held := by
    funext control
    exact any_modify _ _ fun _ _ => rfl
  have aim : (state.setRelease index releaseMs).aim = state.aim := by
    funext pad vertical
    have same : (state.setRelease index releaseMs).keys.foldl (Directions.scan pad vertical) {} =
        state.keys.foldl (Directions.scan pad vertical) {} := foldl_modify _ _ _ fun _ _ _ => rfl
    simp only [aim, padDirection, same]
    rfl
  exact synced.congr rfl held aim rfl rfl rfl fun _ => rfl

end

theorem Synced.rampOn (synced : pass.state.Synced) (elapsedMs : Nat) (stick : GamepadStick) :
    (rampOn elapsedMs pass stick).state.Synced := by
  have deflected := synced.settled.deflected stick
  have upper := stickCap_le pass.state.config pass.state.keys
  have lower := le_stickCap pass.state.config pass.state.keys
  simp only [State.rampOn]
  split_ifs with idle reached
  · exact synced
  · have off : 2 ≤ stickCap pass.state.config pass.state.keys := by omega
    exact synced.setStick stick _ rfl rfl upper off
  · have ramps : (pass.state.sticks stick).ramping = true := by simpa using idle
    have off : 2 ≤ (pass.state.sticks stick).magnitude := deflected.off (.inr ramps)
    have bounded : (pass.state.sticks stick).magnitude + rampStep pass.state.config elapsedMs ≤
        int16Max := by omega
    exact synced.setStick stick _ rfl rfl bounded (Nat.le_add_right_of_le off)

theorem Synced.moveMouse (synced : pass.state.Synced) (elapsedMs nowMs : Nat) :
    (moveMouse elapsedMs nowMs pass).state.Synced := by
  unfold State.moveMouse
  split
  · exact synced
  · rename_i stick mouseStick
    simp only [followMouse, mouseToStick]
    split_ifs <;> exact synced.mouse mouseStick rfl rfl rfl rfl rfl rfl

theorem position_dropMouse (mouseless : state.config.mouseStick = none) :
    state.dropMouse.position stick = state.position stick := by
  have undriven : ¬(state.x (.stick stick) = 0 ∧ state.y (.stick stick) = 0 ∧
      state.config.mouseStick = some stick) := by simp [mouseless]
  exact (if_neg undriven).trans (if_neg undriven).symm

/-! ## Every call -/

/-- What the parts of a call keep. Motion of the mouse may be asked to satisfy a condition. -/
structure KeptBy (allowed : State → Call → Prop) (Inv : State → Prop) : Prop where
  applyKey : ∀ {state : State} index down nowMs, Inv state → Inv (state.applyKey index down nowMs)
  setRelease : ∀ {state : State} index releaseMs, Inv state → Inv (state.setRelease index releaseMs)
  startTicking : ∀ {state : State} nowMs, Inv state → Inv (state.startTicking nowMs)
  motion : ∀ {state : State} xrel yrel nowMs, Inv state →
    allowed state (.handleMouseMotion xrel yrel nowMs) →
    Inv (state.handleMouseMotion xrel yrel nowMs)
  times : ∀ {state : State} tickMs ticking, Inv state → Inv {state with tickMs, ticking}
  rampOn : ∀ {pass : Pass} elapsedMs stick, Inv pass.state →
    Inv (rampOn elapsedMs pass stick).state
  moveMouse : ∀ {pass : Pass} elapsedMs nowMs, Inv pass.state →
    Inv (moveMouse elapsedMs nowMs pass).state
  dropMouse : ∀ {state : State}, Inv state → Inv (match state.dropMouse.config.mouseStick with
    | none => state.dropMouse
    | some stick => state.dropMouse.sendStick stick)

theorem foldPasses {Inv : State → Prop} {Item : Type} {part : Pass → Item → Pass}
    (items : List Item) (inv : Inv pass.state)
    (each : ∀ {pass : Pass} item, Inv pass.state → Inv (part pass item).state) :
    Inv (items.foldl part pass).state := by
  induction items generalizing pass with
  | nil => exact inv
  | cons item rest ih => exact ih (each item inv)

namespace KeptBy

variable {allowed : State → Call → Prop} {Inv : State → Prop} (kept : KeptBy allowed Inv)

include kept

theorem handleKey (inv : Inv state) (event : KeyboardEvent) : Inv (state.handleKey event).1 := by
  unfold State.handleKey
  split
  · exact inv
  · dsimp only
    split_ifs
    · exact inv
    · exact kept.applyKey _ _ _ inv
    · exact inv
    · exact inv
    · exact inv
    · exact kept.applyKey _ _ _ inv

theorem handleMouseButton (inv : Inv state) (button : Nat) (down : Bool) (nowMs : Nat) :
    Inv (state.handleMouseButton button down nowMs).1 := by
  unfold State.handleMouseButton
  split
  · exact inv
  · split_ifs
    · exact inv
    · exact kept.applyKey _ _ _ inv
    · exact inv
    · exact kept.applyKey _ _ _ inv

theorem handleNotch (inv : Inv state) (nowMs : Nat) (wheel : Wheel) :
    Inv (state.handleNotch nowMs wheel) := by
  unfold State.handleNotch
  split
  · exact inv
  · apply kept.startTicking
    split
    · exact kept.setRelease _ _ inv
    · exact kept.applyKey _ _ _ (kept.setRelease _ _ inv)

theorem handleMouseWheel (inv : Inv state) (hscroll vscroll : Scroll) (nowMs : Nat) :
    Inv (state.handleMouseWheel hscroll vscroll nowMs) := by
  apply List.foldlRecOn _ _ inv
  intro state inv wheel _
  exact kept.handleNotch inv nowMs wheel

theorem releaseNotch {pass : Pass} (inv : Inv pass.state) (nowMs index : Nat) :
    Inv (State.releaseNotch nowMs pass index).state := by
  unfold State.releaseNotch
  split
  · exact inv
  · split_ifs
    · exact inv
    · exact kept.applyKey _ _ _ inv
    · exact inv

theorem tick (inv : Inv state) (nowMs : Nat) : Inv (state.tick nowMs).1 := by
  have started : Inv {state with tickMs := nowMs} := kept.times nowMs state.ticking inv
  have ramped : ∀ pass : Pass, Inv pass.state →
      Inv ([GamepadStick.left, .right].foldl (State.rampOn (nowMs - state.tickMs)) pass).state :=
    fun _ inv => foldPasses _ inv (kept.rampOn _)
  have released : ∀ pass : Pass, Inv pass.state →
      Inv ((List.range pass.state.keys.length).foldl (State.releaseNotch nowMs) pass).state :=
    fun _ inv => foldPasses _ inv fun index inv => kept.releaseNotch inv nowMs index
  exact kept.times _ _ (kept.moveMouse _ _ (released _ (ramped _ started)))

theorem releaseKeys (inv : Inv state) (chosen : Input → Bool) (nowMs : Nat) :
    Inv (state.releaseKeys chosen nowMs) := by
  apply List.foldlRecOn _ _ inv
  intro state inv index _
  split
  · exact kept.applyKey _ _ _ inv
  · exact inv

theorem releaseMouse (inv : Inv state) (nowMs : Nat) : Inv (state.releaseMouse nowMs) :=
  kept.dropMouse (kept.releaseKeys inv (fun input => input ≠ .key) nowMs)

theorem call (inv : Inv state) (call : Call) (granted : allowed state call) :
    Inv (state.call call) := by
  cases call with
  | handleKey event => exact kept.handleKey inv event
  | handleMouseMotion xrel yrel nowMs => exact kept.motion xrel yrel nowMs inv granted
  | handleMouseButton button down nowMs => exact kept.handleMouseButton inv button down nowMs
  | handleMouseWheel hscroll vscroll nowMs => exact kept.handleMouseWheel inv hscroll vscroll nowMs
  | tick nowMs => exact kept.tick inv nowMs
  | releaseAll => exact kept.releaseKeys inv (fun _ => true) state.tickMs
  | releaseMouse nowMs => exact kept.releaseMouse inv nowMs

end KeptBy

theorem synced_kept : KeptBy (fun _ _ => True) Synced where
  applyKey index down nowMs synced := synced.applyKey index down nowMs
  setRelease index releaseMs synced := synced.setRelease index releaseMs
  startTicking nowMs synced := synced.startTicking nowMs
  motion xrel yrel nowMs synced _ := synced.handleMouseMotion xrel yrel nowMs
  times _ _ synced := synced.congr rfl rfl rfl rfl rfl rfl fun _ => rfl
  rampOn elapsedMs stick synced := synced.rampOn elapsedMs stick
  moveMouse elapsedMs nowMs synced := synced.moveMouse elapsedMs nowMs
  dropMouse synced := by
    split
    · rename_i mouseStick
      exact synced.congr rfl rfl rfl rfl rfl rfl fun stick => position_dropMouse stick mouseStick
    · rename_i stick mouseStick
      exact synced.mouse mouseStick rfl rfl rfl rfl rfl rfl

theorem Synced.call (synced : state.Synced) (call : Call) : (state.call call).Synced :=
  synced_kept.call synced call trivial

end State

/-! ## The start -/

theorem controlHeld_released {keys : List Key} (released : ∀ key ∈ keys, key.pressed = 0)
    (control : Control) : controlHeld keys control = false := by
  rw [controlHeld, any_eq_false]
  intro key mem
  simp [released key mem]

theorem padDirection_released {keys : List Key} (released : ∀ key ∈ keys, key.pressed = 0)
    (socd : Pad → Socd) (pad : Pad) (vertical : Bool) : padDirection socd keys pad vertical = 0 := by
  have unseen : keys.foldl (Directions.scan pad vertical) {} = {} := by
    induction keys with
    | nil => rfl
    | cons key rest ih =>
      have first : Directions.scan pad vertical {} key = {} := if_pos (released key (by simp))
      rw [foldl_cons, first]
      exact ih fun other mem => released other (mem_cons_of_mem _ mem)
  simp [padDirection, unseen]

theorem init_released : ∀ key ∈ (init sdl takesStick timer spec).keys, key.pressed = 0 := by
  intro key mem
  obtain ⟨binding, _, rfl⟩ := mem_map.mp mem
  rfl

theorem State.Synced.init : (init sdl takesStick timer spec).Synced := by
  have released := init_released sdl takesStick timer spec
  constructor
  · refine ⟨⟨⟨?_, trivial⟩, fun _ => rfl, fun _ => rfl⟩, ?_, ?_⟩
    · intro vertical direction pointed
      have centred : (Gamepad.init sdl takesStick timer spec).dpadAim vertical = 0 := by
        cases vertical <;> rfl
      rw [centred]
      exact (decide_eq_false pointed.symm).symm
    · intro stick
      have centred : (Gamepad.init sdl takesStick timer spec).position stick = (0, 0) := by
        simp only [State.position]
        split <;> rfl
      unfold State.Placed
      rw [centred]
      exact ⟨rfl, rfl⟩
    · intro stick
      exact ⟨Nat.zero_le _, by simp [State.Pointed, Gamepad.init]⟩
  · constructor
    · intro button apart
      exact (controlHeld_released released _).symm
    · intro axis trigger
      unfold State.held
      rw [controlHeld_released released]
      rfl
    · intro pad
      exact (padDirection_released released _ pad false).symm
    · intro pad
      exact (padDirection_released released _ pad true).symm

theorem State.Synced.calls (calls : List Call) :
    ((Gamepad.init sdl takesStick timer spec).calls calls).Synced := by
  apply List.foldlRecOn _ _ (State.Synced.init sdl takesStick timer spec)
  intro state synced call _
  exact synced.call call

end Ika.Gamepad
