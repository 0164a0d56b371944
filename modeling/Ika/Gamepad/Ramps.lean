import Ika.Gamepad.Mirror

/-! How the sticks of the keyboard gamepad are pushed.

A stick is at its center, at its cap, or on its way there, and the gamepad
ticks from the moment a ramp starts.
-/

set_option autoImplicit false

namespace Ika.Gamepad

namespace State

variable {state : State}

/-- A stick is at its center, at its cap, or on its way there. -/
structure Stands (state : State) (stick : GamepadStick) : Prop where
  centred : ¬state.Pointed stick →
    (state.sticks stick).magnitude = 0 ∧ (state.sticks stick).ramping = false
  capped : state.Pointed stick → (state.sticks stick).ramping = false →
    (state.sticks stick).magnitude = stickCap state.config state.keys
  ramps : (state.sticks stick).ramping = true → state.Pointed stick ∧
    (state.sticks stick).magnitude < stickCap state.config state.keys ∧ state.config.rampMs.1 ≠ 0

/-- What a stick that does not ramp needs to start. -/
def Starts (state after : State) (stick : GamepadStick) : Prop :=
  state.config.rampMs.1 ≠ 0 ∧ after.Pointed stick ∧
    (state.sticks stick).magnitude + rampStep state.config kgFirstStepMs <
      stickCap after.config after.keys

variable {other : GamepadStick} {after : State} (control : Control) (stick : GamepadStick)
  (x y : SignType) (wasHeld : Bool) (nowMs : Nat)

theorem push_other {stick : GamepadStick} (apart : other ≠ stick) (nowMs : Nat) :
    (state.push stick nowMs).sticks other = state.sticks other := by
  simp only [push, startTicking]
  split_ifs <;> first | rfl | exact Function.update_of_ne apart ..

theorem push_keys : (state.push stick nowMs).keys = state.keys := by rw [push_eq]

theorem push_config : (state.push stick nowMs).config = state.config := by rw [push_eq]

theorem push_stands : (state.push stick nowMs).Stands stick := by
  have pointed : (state.push stick nowMs).Pointed stick = state.Pointed stick := by
    simp only [Pointed, push_x, push_y]
  suffices at_ : (¬state.Pointed stick → ((state.push stick nowMs).sticks stick).magnitude = 0 ∧
        ((state.push stick nowMs).sticks stick).ramping = false) ∧
      (state.Pointed stick → ((state.push stick nowMs).sticks stick).ramping = false →
        ((state.push stick nowMs).sticks stick).magnitude = stickCap state.config state.keys) ∧
      (((state.push stick nowMs).sticks stick).ramping = true → state.Pointed stick ∧
        ((state.push stick nowMs).sticks stick).magnitude < stickCap state.config state.keys ∧
        state.config.rampMs.1 ≠ 0) by
    constructor
    · rw [pointed]
      exact at_.1
    · rw [pointed, push_keys, push_config]
      exact at_.2.1
    · rw [pointed, push_keys, push_config]
      exact at_.2.2
  simp only [push]
  split
  · rename_i centred
    simp [setStick, Pointed, centred]
  · rename_i off
    have pointed : state.Pointed stick := by
      simpa only [Pointed, ne_eq, ← not_and_or] using off
    split
    · simp [setStick, pointed]
    · rename_i short
      obtain ⟨ramps, below⟩ := not_or.mp short
      split
      · rename_i ramping
        simp only [pointed, ramping, not_true_eq_false, false_implies, true_and, true_implies,
          Bool.true_eq_false]
        exact ⟨by omega, ramps⟩
      · rename_i still
        split
        · simp [setStick, pointed, still]
        · rename_i step
          unfold startTicking arm
          split
          · simp [setStick, pointed, ramps]
            omega
          · simp [setStick, pointed, ramps]
            omega

def TimerAgrees (state : State) : Prop := state.timer = none ∨ state.timer = some state.ticking

/-- What follows a key may start the timer, and starts it with every ramp. -/
structure Advances (before after : State) : Prop where
  owned : after.timer.isSome = before.timer.isSome
  timer : before.TimerAgrees → after.TimerAgrees
  ticking : before.ticking = true → after.ticking = true
  tickMs : before.ticking = true → after.tickMs = before.tickMs
  ramping : ∀ stick, (after.sticks stick).ramping = true →
    (before.sticks stick).ramping = true ∨ after.ticking = true

theorem Advances.refl (state : State) : Advances state state :=
  ⟨rfl, id, id, fun _ => rfl, fun _ => .inl⟩

theorem Advances.trans {first second third : State} (before : Advances first second)
    (after : Advances second third) : Advances first third where
  owned := after.owned.trans before.owned
  timer agrees := after.timer (before.timer agrees)
  ticking ticks := after.ticking (before.ticking ticks)
  tickMs ticks := (after.tickMs (before.ticking ticks)).trans (before.tickMs ticks)
  ramping stick ramps := by
    rcases after.ramping stick ramps with earlier | ticks
    · exact (before.ramping stick earlier).imp_right after.ticking
    · exact .inr ticks

theorem Advances.of_same (timer : after.timer = state.timer)
    (ticking : after.ticking = state.ticking) (tickMs : after.tickMs = state.tickMs)
    (ramping : ∀ stick, (after.sticks stick).ramping = (state.sticks stick).ramping) :
    Advances state after where
  owned := congrArg Option.isSome timer
  timer agrees := by rwa [TimerAgrees, timer, ticking]
  ticking ticks := ticking.trans ticks
  tickMs _ := tickMs
  ramping stick ramps := .inl ((ramping stick).symm.trans ramps)

theorem advances_startTicking (nowMs : Nat) : Advances state (state.startTicking nowMs) := by
  unfold startTicking
  split
  · exact .refl _
  · rename_i still
    refine ⟨by simp [arm], ?_, fun _ => rfl, fun ticks => absurd ticks still, fun _ _ => .inr rfl⟩
    intro agrees
    rcases agrees with absent | runs
    · exact .inl (by simp [arm, absent])
    · exact .inr (by simp [arm, runs])

theorem ticking_startTicking : (state.startTicking nowMs).ticking = true := by
  unfold startTicking
  split
  · assumption
  · rfl

theorem advances_sendStick : Advances state (state.sendStick stick) := by
  apply Advances.of_same
  · rw [sendStick_eq]
  · rw [sendStick_eq]
  · rw [sendStick_eq]
  · exact sendStick_ramping stick

theorem advances_push : Advances state (state.push stick nowMs) := by
  have lowered : ∀ value : Stick, value.ramping = false →
    Advances state (state.setStick stick value) := by
    intro value still
    refine ⟨rfl, id, id, fun _ => rfl, ?_⟩
    intro other ramps
    by_cases same : other = stick
    · subst same
      simp [setStick, still] at ramps
    · exact .inl (by simpa [setStick, same] using ramps)
  simp only [push]
  split_ifs with _ _ ramping capped
  · exact lowered _ rfl
  · exact lowered _ rfl
  · exact .refl _
  · exact lowered _ (by simpa using ramping)
  · -- the ramp that starts is what the timer is started for
    have started := @advances_startTicking (state.setStick stick { state.sticks stick with
      magnitude := (state.sticks stick).magnitude + rampStep state.config kgFirstStepMs
      ramping := true}) nowMs
    exact ⟨started.owned, started.timer, started.ticking, started.tickMs,
      fun _ _ => .inr (ticking_startTicking nowMs)⟩

theorem advances_moveStick : Advances state (state.moveStick stick x y nowMs) := by
  have pointed : Advances state (state.point (.stick stick) x y) :=
    Advances.of_same rfl rfl rfl fun _ => rfl
  exact (pointed.trans (advances_push ..)).trans (advances_sendStick ..)

theorem Sends.advances (sends : Sends state after) : Advances state after := by
  obtain ⟨gp, rfl⟩ := sends
  exact Advances.of_same rfl rfl rfl fun _ => rfl

theorem advances_moveDpad : Advances state (state.moveDpad x y) := by
  have pointed : Advances state (state.point .dpad x y) := Advances.of_same rfl rfl rfl fun _ => rfl
  exact pointed.trans (state.sends_moveDpad x y).advances

theorem advances_recap : Advances state (state.recap stick nowMs) := by
  simp only [recap]
  split
  · exact advances_moveStick ..
  · exact .refl _

theorem advances_follow : Advances state (state.follow control wasHeld nowMs) := by
  cases control with
  | direction pad vertical sign =>
    cases pad with
    | dpad => exact advances_moveDpad ..
    | stick stick => exact advances_moveStick ..
  | button button apart =>
    simp only [follow]
    split
    · exact .refl _
    · exact Advances.of_same rfl rfl rfl fun _ => rfl
  | trigger axis trigger =>
    simp only [follow]
    split
    · exact .refl _
    · exact Advances.of_same rfl rfl rfl fun _ => rfl
  | walk =>
    simp only [follow]
    split
    · exact .refl _
    · exact (advances_recap ..).trans (advances_recap ..)

theorem advances_applyKey (index : Nat) (down : Bool) (nowMs : Nat) :
    Advances state (state.applyKey index down nowMs) := by
  unfold applyKey
  split
  · exact .refl _
  · have marked : Advances state (state.mark index down) := Advances.of_same rfl rfl rfl fun _ => rfl
    exact marked.trans (advances_follow ..)

theorem Stands.congr {stick : GamepadStick} (stands : state.Stands stick)
    (pointed : after.Pointed stick = state.Pointed stick)
    (magnitude : (after.sticks stick).magnitude = (state.sticks stick).magnitude)
    (ramping : (after.sticks stick).ramping = (state.sticks stick).ramping)
    (cap : stickCap after.config after.keys = stickCap state.config state.keys)
    (config : after.config = state.config) : after.Stands stick := by
  constructor
  · rw [pointed, magnitude, ramping]
    exact stands.centred
  · rw [pointed, magnitude, ramping, cap]
    exact stands.capped
  · rw [pointed, magnitude, ramping, cap, config]
    exact stands.ramps

theorem Stands.sendStick {stick : GamepadStick} (stands : state.Stands other) :
    (state.sendStick stick).Stands other := by
  have keeps := state.keeps_sendStick stick
  apply stands.congr _ (sendStick_magnitude ..) (sendStick_ramping ..) _ keeps.config
  · simp only [Pointed, sendStick_x, sendStick_y]
  · rw [keeps.keys, keeps.config]

theorem moveStick_stands : (state.moveStick stick x y nowMs).Stands stick :=
  (push_stands stick nowMs).sendStick

theorem moveStick_other {stick other : GamepadStick} (apart : other ≠ stick) (x y : SignType)
    (nowMs : Nat) : (state.moveStick stick x y nowMs).sticks other = state.sticks other := by
  rw [moveStick, sendStick_other apart, push_other apart]
  rfl

theorem Stands.moveStick {stick : GamepadStick} (stands : state.Stands other)
    (apart : other ≠ stick) (x y : SignType) (nowMs : Nat) :
    (state.moveStick stick x y nowMs).Stands other := by
  have keeps := state.keeps_moveStick stick x y nowMs
  have same := @moveStick_other state stick other apart x y nowMs
  apply stands.congr _ (by rw [same]) (by rw [same]) _ keeps.config
  · simp [Pointed, moveStick_x, moveStick_y, apart]
  · rw [keeps.keys, keeps.config]

theorem push_starts (stick : GamepadStick) (nowMs : Nat)
    (still : (state.sticks stick).ramping = false)
    (ramps : ((state.push stick nowMs).sticks stick).ramping = true) :
    state.Starts (state.push stick nowMs) stick := by
  have off : state.Pointed stick := by
    have pointed := ((push_stands stick nowMs).ramps ramps).1
    simpa only [Pointed, push_x, push_y] using pointed
  have longRamp := ((push_stands stick nowMs).ramps ramps).2.2
  rw [push_config] at longRamp
  refine ⟨longRamp, ((push_stands stick nowMs).ramps ramps).1, ?_⟩
  rw [push_config, push_keys]
  by_contra reached
  have uncentred : ¬(state.x (.stick stick) = 0 ∧ state.y (.stick stick) = 0) := by
    rintro ⟨x, y⟩
    exact off.elim (fun x' => x' x) fun y' => y' y
  -- every way to push a stick but the last one leaves it still
  have stays : ((state.push stick nowMs).sticks stick).ramping = false := by
    simp only [push, if_neg uncentred]
    split
    · simp [setStick]
    · rw [if_neg (by simp [still]), if_pos (by omega)]
      simp [setStick, still]
  rw [stays] at ramps
  cases ramps

theorem moveStick_starts (still : (state.sticks stick).ramping = false)
    (ramps : ((state.moveStick stick x y nowMs).sticks stick).ramping = true) :
    state.Starts (state.moveStick stick x y nowMs) stick := by
  rw [moveStick, sendStick_ramping] at ramps
  obtain ⟨longRamp, pointed, short⟩ :=
    @push_starts (state.point (.stick stick) x y) stick nowMs still ramps
  refine ⟨longRamp, ?_, ?_⟩
  · simpa only [Pointed, moveStick, sendStick_x, sendStick_y] using pointed
  · have keeps := ((state.point (.stick stick) x y).push stick nowMs).keeps_sendStick stick
    rw [moveStick, keeps.config, keeps.keys]
    exact short

theorem walkHeld_eq (keys : List Key) : walkHeld keys = controlHeld keys .walk := by
  unfold walkHeld controlHeld
  congr 1
  funext key
  exact Bool.and_comm ..

theorem stickCap_congr {before after : List Key}
    (walk : controlHeld after .walk = controlHeld before .walk) (config : Config) :
    stickCap config after = stickCap config before := by
  simp only [stickCap, walkHeld_eq, walk]

theorem Stands.moveDpad {stick : GamepadStick} (stands : state.Stands stick) (x y : SignType) :
    (state.moveDpad x y).Stands stick := by
  have keeps := state.keeps_moveDpad x y
  apply stands.congr _ (by rw [moveDpad_sticks]) (by rw [moveDpad_sticks]) _ keeps.config
  · simp [Pointed, moveDpad_x, moveDpad_y]
  · rw [keeps.keys, keeps.config]

theorem recap_stands (centred : ¬state.Pointed stick →
    (state.sticks stick).magnitude = 0 ∧ (state.sticks stick).ramping = false) :
    (state.recap stick nowMs).Stands stick := by
  simp only [recap]
  split
  · exact moveStick_stands ..
  · rename_i unpointed
    have at_ := centred unpointed
    refine ⟨fun _ => at_, fun pointed => absurd pointed unpointed, fun ramps => ?_⟩
    rw [at_.2] at ramps
    cases ramps

theorem recap_other {stick other : GamepadStick} (apart : other ≠ stick) (nowMs : Nat) :
    (state.recap stick nowMs).sticks other = state.sticks other ∧
      (state.recap stick nowMs).Pointed other = state.Pointed other := by
  simp only [recap]
  split
  · refine ⟨moveStick_other apart .., ?_⟩
    simp [Pointed, moveStick_x, moveStick_y, apart]
  · exact ⟨rfl, rfl⟩

theorem Stands.recap {stick : GamepadStick} (stands : state.Stands other) (apart : other ≠ stick)
    (nowMs : Nat) : (state.recap stick nowMs).Stands other := by
  simp only [State.recap]
  split
  · exact stands.moveStick apart ..
  · exact stands

theorem follow_stands (centred : ∀ stick, ¬state.Pointed stick →
      (state.sticks stick).magnitude = 0 ∧ (state.sticks stick).ramping = false)
    (stands : (control = .walk → controlHeld state.keys .walk = wasHeld) →
      ∀ stick, state.Stands stick) (stick : GamepadStick) :
    (state.follow control wasHeld nowMs).Stands stick := by
  cases control with
  | direction pad vertical sign =>
    have resting := stands (by simp)
    cases pad with
    | dpad => exact (resting stick).moveDpad ..
    | stick moved =>
      by_cases same : stick = moved
      · subst same
        exact moveStick_stands ..
      · exact (resting stick).moveStick same ..
  | button button apart =>
    have resting := stands (by simp) stick
    simp only [follow]
    split
    · exact resting
    · exact resting.congr rfl rfl rfl rfl rfl
  | trigger axis trigger =>
    have resting := stands (by simp) stick
    simp only [follow]
    split
    · exact resting
    · exact resting.congr rfl rfl rfl rfl rfl
  | walk =>
    simp only [follow]
    split
    · rename_i unchanged
      exact stands (fun _ => unchanged) stick
    · cases stick with
      | left => exact (recap_stands .left nowMs (centred .left)).recap (by decide) nowMs
      | right =>
        have other := @recap_other state .left .right (by decide) nowMs
        apply recap_stands
        rw [other.1, other.2]
        exact centred .right

theorem follow_starts (control : Control) (wasHeld : Bool) (nowMs : Nat) (stick : GamepadStick)
    (still : (state.sticks stick).ramping = false)
    (ramps : ((state.follow control wasHeld nowMs).sticks stick).ramping = true) :
    state.Starts (state.follow control wasHeld nowMs) stick := by
  have never : ∀ after : State, (after.sticks stick).ramping = (state.sticks stick).ramping →
      (after.sticks stick).ramping = true → False := by
    intro after same ramps
    rw [same, still] at ramps
    cases ramps
  cases control with
  | direction pad vertical sign =>
    cases pad with
    | dpad => exact (never _ (by simp [follow, moveDpad_sticks]) ramps).elim
    | stick moved =>
      by_cases same : stick = moved
      · subst same
        exact moveStick_starts stick _ _ nowMs still ramps
      · exact (never _ (by simp only [follow, moveStick_other same]) ramps).elim
  | button button apart =>
    refine (never _ ?_ ramps).elim
    simp only [follow]
    split <;> rfl
  | trigger axis trigger =>
    refine (never _ ?_ ramps).elim
    simp only [follow]
    split <;> rfl
  | walk =>
    simp only [follow] at ramps ⊢
    split at ramps
    · exact (never state rfl ramps).elim
    · rename_i changed
      rw [if_neg changed]
      have moved : ∀ (before : State) (stick : GamepadStick), (before.sticks stick).ramping = false →
          ((before.recap stick nowMs).sticks stick).ramping = true →
          before.Starts (before.recap stick nowMs) stick := by
        intro before stick still ramps
        simp only [recap] at ramps ⊢
        split at ramps
        · rename_i pointed
          rw [if_pos pointed]
          exact moveStick_starts stick _ _ nowMs still ramps
        · rw [still] at ramps
          cases ramps
      cases stick with
      | left =>
        have other := @recap_other (state.recap .left nowMs) .right .left (by decide) nowMs
        rw [other.1] at ramps
        have started := moved state .left still ramps
        have keeps := (state.recap .left nowMs).keeps_recap .right nowMs
        refine ⟨started.1, ?_, ?_⟩
        · rw [other.2]
          exact started.2.1
        · rw [keeps.config, keeps.keys]
          exact started.2.2
      | right =>
        have other := @recap_other state .left .right (by decide) nowMs
        have keeps := state.keeps_recap .left nowMs
        have started := moved (state.recap .left nowMs) .right (by rw [other.1]; exact still) ramps
        refine ⟨?_, started.2.1, ?_⟩
        · rw [← keeps.config]
          exact started.1
        · rw [← other.1, ← keeps.config]
          exact started.2.2

theorem applyKey_stands (stands : ∀ stick, state.Stands stick) (index : Nat) (down : Bool)
    (nowMs : Nat) (stick : GamepadStick) : (state.applyKey index down nowMs).Stands stick := by
  unfold applyKey
  split
  · exact stands stick
  · rename_i key found
    have only := only_mark found down
    apply follow_stands
    · exact fun stick => (stands stick).centred
    · intro unchanged stick
      have walk : controlHeld (state.mark index down).keys .walk = controlHeld state.keys .walk := by
        by_cases is : key.control = .walk
        · rw [unchanged is, is]
        · exact only.held .walk (Ne.symm is)
      exact (stands stick).congr rfl rfl rfl (stickCap_congr walk _) rfl

theorem applyKey_starts (index : Nat) (down : Bool) (nowMs : Nat) (stick : GamepadStick)
    (still : (state.sticks stick).ramping = false)
    (ramps : ((state.applyKey index down nowMs).sticks stick).ramping = true) :
    state.Starts (state.applyKey index down nowMs) stick := by
  unfold applyKey at ramps ⊢
  split at ramps
  · rw [still] at ramps
    cases ramps
  · rename_i key found
    exact @follow_starts (state.mark index down) key.control _ nowMs stick still ramps
end State

end Ika.Gamepad
