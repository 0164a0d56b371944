import Ika.Gamepad.KeyboardGamepad

/-! What the keyboard gamepad sends, and what the device shows of it.

Only differences are sent, so that what the device shows is what the state says
was sent, and each event is sent by a state that the device already agrees with
on everything but what the event changes.
-/

set_option autoImplicit false

namespace Ika.Gamepad

open Function

namespace State

variable (state : State)

/-- The keys, the settings and the mouse, which nothing that follows a key changes. -/
structure Keeps (before after : State) : Prop where
  keys : after.keys = before.keys
  pressCount : after.pressCount = before.pressCount
  config : after.config = before.config
  mouseDx : after.mouseDx = before.mouseDx
  mouseDy : after.mouseDy = before.mouseDy
  mouseX : after.mouseX = before.mouseX
  mouseY : after.mouseY = before.mouseY
  mouseMotionMs : after.mouseMotionMs = before.mouseMotionMs

theorem Keeps.refl : Keeps state state := by constructor <;> rfl

variable {first second third : State} (stick : GamepadStick) (x y : SignType) (nowMs : Nat)
  (needed : Prop)

theorem Keeps.trans (before : Keeps first second) (after : Keeps second third) :
    Keeps first third := by
  constructor
  · exact after.keys.trans before.keys
  · exact after.pressCount.trans before.pressCount
  · exact after.config.trans before.config
  · exact after.mouseDx.trans before.mouseDx
  · exact after.mouseDy.trans before.mouseDy
  · exact after.mouseX.trans before.mouseX
  · exact after.mouseY.trans before.mouseY
  · exact after.mouseMotionMs.trans before.mouseMotionMs

def Sends (before after : State) : Prop := ∃ gp, after = {before with gp := gp}

theorem Sends.refl : Sends state state := ⟨state.gp, rfl⟩

theorem Sends.trans (before : Sends first second) (after : Sends second third) :
    Sends first third := by
  obtain ⟨_, rfl⟩ := before
  obtain ⟨gp, rfl⟩ := after
  exact ⟨gp, rfl⟩

theorem sends_sendButtonIf [Decidable needed] (button : GamepadButton) (down : Bool) :
    Sends state (state.sendButtonIf needed button down) := by
  unfold sendButtonIf
  split
  · exact ⟨_, rfl⟩
  · exact .refl _

theorem sends_sendAxisIf [Decidable needed] (axis : GamepadAxis) (value : Int) :
    Sends state (state.sendAxisIf needed axis value) := by
  unfold sendAxisIf
  split
  · exact ⟨_, rfl⟩
  · exact .refl _

theorem sends_moveDpad : Sends (state.point .dpad x y) (state.moveDpad x y) := by
  apply Sends.trans _ (sends_sendButtonIf ..)
  apply Sends.trans _ (sends_sendButtonIf ..)
  apply Sends.trans _ (sends_sendButtonIf ..)
  exact sends_sendButtonIf ..

theorem sends_report (vx vy oldVx oldVy : Int) :
    Sends state (state.report stick vx vy oldVx oldVy) := by
  simp only [report]
  split
  · exact ⟨_, rfl⟩
  · apply Sends.trans _ (sends_sendAxisIf ..)
    apply Sends.trans _ (sends_sendAxisIf ..)
    exact sends_sendAxisIf ..

theorem Sends.keeps {before after : State} (sends : Sends before after) : Keeps before after := by
  obtain ⟨_, rfl⟩ := sends
  constructor <;> rfl

theorem moveDpad_x : (state.moveDpad x y).x = update state.x .dpad x := by
  obtain ⟨gp, moved⟩ := state.sends_moveDpad x y
  rw [moved]
  rfl

theorem moveDpad_y : (state.moveDpad x y).y = update state.y .dpad y := by
  obtain ⟨gp, moved⟩ := state.sends_moveDpad x y
  rw [moved]
  rfl

theorem moveDpad_sticks : (state.moveDpad x y).sticks = state.sticks := by
  obtain ⟨gp, moved⟩ := state.sends_moveDpad x y
  rw [moved]
  rfl

theorem sendStick_eq :
    state.sendStick stick = {state with
      gp := (state.sendStick stick).gp
      sticks := update state.sticks stick { state.sticks stick with
        sentX := (state.position stick).1, sentY := (state.position stick).2}} := by
  simp only [sendStick]
  split
  · rename_i same
    rw [same.1, same.2, update_eq_self]
  · obtain ⟨gp, sent⟩ := (state.setStick stick _).sends_report stick (state.position stick).1
      (state.position stick).2 (state.sticks stick).sentX (state.sticks stick).sentY
    rw [sent]
    rfl

theorem push_eq :
    state.push stick nowMs = {state with
      sticks := (state.push stick nowMs).sticks
      ticking := (state.push stick nowMs).ticking
      tickMs := (state.push stick nowMs).tickMs
      timer := (state.push stick nowMs).timer} := by
  simp only [push, startTicking]
  split_ifs <;> rfl

theorem keeps_sendStick : Keeps state (state.sendStick stick) := by
  rw [sendStick_eq]
  constructor <;> rfl

theorem keeps_moveDpad : Keeps state (state.moveDpad x y) := by
  exact Keeps.trans (by constructor <;> rfl) (sends_moveDpad state x y).keeps

theorem keeps_moveStick : Keeps state (state.moveStick stick x y nowMs) := by
  apply Keeps.trans _ (keeps_sendStick _ stick)
  rw [push_eq]
  constructor <;> rfl

theorem keeps_recap : Keeps state (state.recap stick nowMs) := by
  simp only [recap]
  split
  · exact keeps_moveStick ..
  · exact .refl _

theorem keeps_follow (control : Control) (wasHeld : Bool) (nowMs : Nat) :
    Keeps state (state.follow control wasHeld nowMs) := by
  cases control with
  | direction pad vertical sign =>
    cases pad with
    | dpad => exact keeps_moveDpad ..
    | stick stick => exact keeps_moveStick ..
  | button button apart =>
    simp only [follow]
    split
    · exact .refl _
    · constructor <;> rfl
  | trigger axis trigger =>
    simp only [follow]
    split
    · exact .refl _
    · constructor <;> rfl
  | walk =>
    simp only [follow]
    split
    · exact .refl _
    · exact (keeps_recap ..).trans (keeps_recap ..)

end State

def Device.DpadAt (device : Device) (aim : Bool → SignType) : Prop :=
  ∀ vertical direction, direction ≠ 0 →
    device.button (dpadButton vertical direction) = decide (aim vertical = direction)

theorem dpadButton_inj {vertical other : Bool} {direction target : SignType}
    (pointed : direction ≠ 0) (reached : target ≠ 0) :
    dpadButton vertical direction = dpadButton other target ↔
      vertical = other ∧ direction = target := by
  cases vertical <;> cases other <;> cases direction <;> cases target <;>
    first
    | exact absurd rfl pointed
    | exact absurd rfl reached
    | decide

theorem dpadButton_onDpad (vertical : Bool) (direction : SignType) :
    (dpadButton vertical direction).onDpad = true := by
  unfold dpadButton
  split_ifs <;> rfl

namespace Device.DpadAt

variable {device : Device} {aim : Bool → SignType}

theorem unopposed (at_ : device.DpadAt aim) : device.Unopposed := by
  have up := at_ true (-1) (by decide)
  have down := at_ true 1 (by decide)
  have left := at_ false (-1) (by decide)
  have right := at_ false 1 (by decide)
  change device.button .dpadUp = _ at up
  change device.button .dpadDown = _ at down
  change device.button .dpadLeft = _ at left
  change device.button .dpadRight = _ at right
  constructor
  · rw [up, down]
    cases aim true <;> rfl
  · rw [left, right]
    cases aim false <;> rfl

variable {vertical : Bool}

theorem lift (at_ : device.DpadAt aim) (pointed : aim vertical ≠ 0) :
    (device.apply (.button (dpadButton vertical (aim vertical)) false)).DpadAt
      (update aim vertical 0) := by
  intro other direction reached
  simp only [apply]
  by_cases same : dpadButton other direction = dpadButton vertical (aim vertical)
  · obtain ⟨rfl, rfl⟩ := (dpadButton_inj reached pointed).mp same
    simp [pointed.symm]
  · rw [update_of_ne same, at_ other direction reached]
    by_cases axis : other = vertical
    · subst axis
      have : direction ≠ aim other := fun eq => same (by rw [eq])
      simp [this.symm, reached.symm]
    · rw [update_of_ne axis]

theorem press (at_ : device.DpadAt aim) (centred : aim vertical = 0) {target : SignType}
    (pointed : target ≠ 0) :
    (device.apply (.button (dpadButton vertical target) true)).DpadAt
      (update aim vertical target) := by
  intro other direction reached
  simp only [apply]
  by_cases same : dpadButton other direction = dpadButton vertical target
  · obtain ⟨rfl, rfl⟩ := (dpadButton_inj reached pointed).mp same
    simp
  · rw [update_of_ne same, at_ other direction reached]
    by_cases axis : other = vertical
    · subst axis
      have : direction ≠ target := fun eq => same (by rw [eq])
      simp [centred, this.symm, reached.symm]
    · rw [update_of_ne axis]

theorem congr_button (at_ : device.DpadAt aim) {after : Device}
    (same : ∀ button, button.onDpad = true → after.button button = device.button button) :
    after.DpadAt aim := by
  intro vertical direction reached
  rw [same _ (dpadButton_onDpad ..), at_ vertical direction reached]

end Device.DpadAt

namespace State

structure DpadShows (state : State) (aim : Bool → SignType) : Prop where
  dpad : state.device.DpadAt aim
  tidy : state.gp.Tidy

variable {state : State} {aim : Bool → SignType}

theorem device_send (event : Event) : (state.send event).device = state.device.apply event :=
  state.gp.device_send event

theorem device_sendButton (button : GamepadButton) (down : Bool) :
    (state.sendButton button down).device = state.device.apply (.button button down) :=
  device_send _

theorem DpadShows.leave (shows_ : state.DpadShows aim) (vertical : Bool) (target : SignType) :
    DpadShows (state.sendButtonIf (aim vertical ≠ 0 ∧ aim vertical ≠ target)
      (dpadButton vertical (aim vertical)) false)
      (update aim vertical (if aim vertical = target then target else 0)) := by
  unfold sendButtonIf
  split
  · rename_i leaves
    obtain ⟨pointed, moves⟩ := leaves
    rw [if_neg moves]
    have lifted := shows_.dpad.lift pointed
    have changes : state.device.Changes (.button (dpadButton vertical (aim vertical)) false) := by
      simp [Device.Changes, shows_.dpad vertical _ pointed]
    exact ⟨device_sendButton _ _ ▸ lifted, state.gp.tidy_send shows_.tidy changes lifted.unopposed⟩
  · rename_i stays
    have same : (if aim vertical = target then target else 0) = aim vertical := by
      by_cases reached : aim vertical = target
      · simp [reached]
      · by_cases centred : aim vertical = 0
        · rw [if_neg reached, centred]
        · exact absurd ⟨centred, reached⟩ stays
    rwa [same, update_eq_self]

theorem DpadShows.reach (shows_ : state.DpadShows aim) (vertical : Bool) (old target : SignType)
    (left : aim vertical = if old = target then target else 0) :
    DpadShows (state.sendButtonIf (target ≠ 0 ∧ target ≠ old) (dpadButton vertical target) true)
      (update aim vertical target) := by
  unfold sendButtonIf
  split
  · rename_i reaches
    obtain ⟨pointed, moves⟩ := reaches
    rw [if_neg (Ne.symm moves)] at left
    have pressed := shows_.dpad.press left pointed
    have changes : state.device.Changes (.button (dpadButton vertical target) true) := by
      simp [Device.Changes, shows_.dpad vertical _ pointed, left, pointed.symm]
    exact ⟨device_sendButton _ _ ▸ pressed, state.gp.tidy_send shows_.tidy changes pressed.unopposed⟩
  · rename_i stays
    have same : target = aim vertical := by
      rw [left]
      split
      · rfl
      · rename_i moves
        by_contra pointed
        exact stays ⟨pointed, fun eq => moves eq.symm⟩
    rwa [same, update_eq_self]

def dpadAim (state : State) (vertical : Bool) : SignType :=
  if vertical then state.y .dpad else state.x .dpad

theorem DpadShows.moveDpad (shows_ : state.DpadShows state.dpadAim) (x y : SignType) :
    (state.moveDpad x y).DpadShows (fun vertical => if vertical then y else x) := by
  have pointed : (state.point .dpad x y).DpadShows state.dpadAim := ⟨shows_.dpad, shows_.tidy⟩
  -- each axis goes through the center, the horizontal one first
  have moved := (((pointed.leave false x).leave true y).reach false (state.x .dpad) x rfl).reach
    true (state.y .dpad) y rfl
  have settled : update (update (update (update state.dpadAim
      false (if state.x .dpad = x then x else 0)) true (if state.y .dpad = y then y else 0))
      false x) true y = fun vertical => if vertical then y else x := by
    funext vertical
    cases vertical <;> rfl
  exact settled ▸ moved

variable (needed : Prop) (stick : GamepadStick) (axis : GamepadAxis) (value : Int)

theorem apart_sendButtonIf [Decidable needed] (vertical : Bool) (direction : SignType)
    (down : Bool) (state : State) :
    (∀ button, button.onDpad = false →
      (state.sendButtonIf needed (dpadButton vertical direction) down).device.button button =
        state.device.button button) ∧
    (state.sendButtonIf needed (dpadButton vertical direction) down).device.axis =
      state.device.axis := by
  unfold sendButtonIf
  split
  · rw [device_sendButton]
    constructor
    · intro button apart
      apply update_of_ne
      rintro rfl
      simp [dpadButton_onDpad] at apart
    · rfl
  · exact ⟨fun _ _ => rfl, rfl⟩

theorem apart_moveDpad (x y : SignType) (state : State) :
    (∀ button, button.onDpad = false →
      (state.moveDpad x y).device.button button = state.device.button button) ∧
    (state.moveDpad x y).device.axis = state.device.axis := by
  simp only [moveDpad]
  constructor
  · intro button apart
    rw [(apart_sendButtonIf _ _ _ _ _).1 button apart, (apart_sendButtonIf _ _ _ _ _).1 button apart,
      (apart_sendButtonIf _ _ _ _ _).1 button apart, (apart_sendButtonIf _ _ _ _ _).1 button apart]
    rfl
  · rw [(apart_sendButtonIf _ _ _ _ _).2, (apart_sendButtonIf _ _ _ _ _).2,
      (apart_sendButtonIf _ _ _ _ _).2, (apart_sendButtonIf _ _ _ _ _).2]
    rfl

theorem device_sendAxisIf [Decidable needed] (shown : ¬needed → state.device.axis axis = value) :
    (state.sendAxisIf needed axis value).device = state.device.apply (.axis axis value) := by
  unfold sendAxisIf
  split
  · exact device_send _
  · rename_i idle
    simp only [Device.apply]
    rw [← shown idle, update_eq_self]

theorem device_report (vx vy oldVx oldVy : Int) (shownX : state.device.axis stick.axisX = oldVx)
    (shownY : state.device.axis stick.axisY = oldVy) :
    (state.report stick vx vy oldVx oldVy).device = state.device.apply (.stick stick vx vy) := by
  have swap := update_comm (stick.axisX_ne_axisY stick) vx vy state.device.axis
  unfold report
  split
  · exact device_send _
  by_cases yFirst : vy.natAbs < oldVy.natAbs
  · have idle : ∀ (state : State), state.sendAxisIf (¬vy.natAbs < oldVy.natAbs ∧ vy ≠ oldVy)
        stick.axisY vy = state := fun _ => if_neg (by simp [yFirst])
    simp only [idle]
    have first : (state.sendAxisIf (vy.natAbs < oldVy.natAbs ∧ vy ≠ oldVy) stick.axisY vy).device =
        state.device.apply (.axis stick.axisY vy) :=
      device_sendAxisIf _ _ _ fun still => by simp_all
    rw [device_sendAxisIf, first]
    · simp only [Device.apply, swap]
    · intro still
      rw [first]
      simp_all [Device.apply]
  · have idle : state.sendAxisIf (vy.natAbs < oldVy.natAbs ∧ vy ≠ oldVy) stick.axisY vy = state :=
      if_neg (by simp [yFirst])
    simp only [idle]
    have first : (state.sendAxisIf (vx ≠ oldVx) stick.axisX vx).device =
        state.device.apply (.axis stick.axisX vx) :=
      device_sendAxisIf _ _ _ fun still => by simp_all
    rw [device_sendAxisIf, first]
    · rfl
    · intro still
      rw [first]
      simp_all [Device.apply]

theorem device_sendStick (shownX : state.device.axis stick.axisX = (state.sticks stick).sentX)
    (shownY : state.device.axis stick.axisY = (state.sticks stick).sentY) :
    (state.sendStick stick).device =
      state.device.apply (.stick stick (state.position stick).1 (state.position stick).2) := by
  simp only [sendStick]
  split
  · rename_i same
    simp only [Device.apply]
    rw [same.1, same.2, ← shownX, update_eq_self, ← shownY, update_eq_self]
  · exact device_report stick _ _ _ _ shownX shownY

theorem tidy_send {event : Event} (silent : ∀ button down, event ≠ .button button down)
    (tidy : state.gp.Tidy) (unopposed : state.device.Unopposed) :
    (state.send event).gp.Tidy ∧ (state.send event).device.Unopposed := by
  have after : (state.device.apply event).Unopposed := by
    cases event with
    | button button down => exact absurd rfl (silent button down)
    | axis axis value => exact unopposed
    | stick stick x y => exact unopposed
  have changes : state.device.Changes event := by
    cases event with
    | button button down => exact absurd rfl (silent button down)
    | axis axis value => trivial
    | stick stick x y => trivial
  exact ⟨state.gp.tidy_send tidy changes after, device_send event ▸ after⟩

theorem tidy_sendAxisIf [Decidable needed] (tidy : state.gp.Tidy ∧ state.device.Unopposed) :
    (state.sendAxisIf needed axis value).gp.Tidy ∧
      (state.sendAxisIf needed axis value).device.Unopposed := by
  unfold sendAxisIf
  split
  · exact tidy_send (by simp) tidy.1 tidy.2
  · exact tidy

theorem tidy_sendStick (tidy : state.gp.Tidy) (unopposed : state.device.Unopposed) :
    (state.sendStick stick).gp.Tidy := by
  simp only [sendStick]
  split
  · exact tidy
  · unfold report
    split
    · exact (tidy_send (by simp) tidy unopposed).1
    · apply And.left
      apply tidy_sendAxisIf
      apply tidy_sendAxisIf
      apply tidy_sendAxisIf
      exact ⟨tidy, unopposed⟩

end State

end Ika.Gamepad
