import Ika.Foundation.Machine
import Ika.Gamepad.Ticks

/-! The timer of `keyboard_gamepad_timer.c`.

It runs from `arm()` until a tick answers that there is no more to do, so it
must run as long as anything is left.
-/

set_option autoImplicit false

namespace Ika.Gamepad

open Transition List Option

def State.onEvent (state : State) (nowMs : Nat) : State :=
  let (after, more) := state.tick nowMs
  if more then after else {after with timer := after.timer.map fun _ => false}

/-- The keyboard gamepad with its timer: a tick only comes while the timer runs. -/
def keyboardMachine (sdl : Sdl) (takesStick timer : Bool) (spec : Option CString) :
    Machine State Call where
  init state := state = init sdl takesStick timer spec
  step state
    | .tick nowMs => if state.timer = some true then some (state.onEvent nowMs) else none
    | call => some (state.call call)

namespace State

variable (state : State)

/-- A stick ramps, a notch is held, or the mouse has still to be sent. -/
def Unfinished : Prop :=
  (∃ stick, (state.sticks stick).ramping = true ∧
      (state.sticks stick).magnitude < stickCap state.config state.keys) ∨
    (∃ key ∈ state.keys, key.source.input = .wheel ∧ key.pressed ≠ 0) ∨
    (state.mouseDx ≠ 0 ∨ state.mouseDy ≠ 0) ∨
    (state.config.mouseStick ≠ none ∧ (state.mouseX ≠ 0 ∨ state.mouseY ≠ 0))

def Driven : Prop := state.ticking = true ∧ (state.timer = none ∨ state.timer = some true)

end State

namespace State

variable {state : State} {nowMs : Nat}

/-! ## A tick of the timer -/

theorem Unfinished.busy (unfinished : state.Unfinished) : state.Busy :=
  unfinished.imp_left fun ⟨stick, ramps, _⟩ => ⟨stick, ramps⟩

theorem Rests.ticking_of_runs (rests : state.Rests) (runs : state.timer = some true) :
    state.ticking = true := by
  rcases rests.timer with absent | agrees
  · simp [absent] at runs
  · exact (Option.some.inj (runs.symm.trans agrees)).symm

theorem onEvent_more (more : (state.tickMouse nowMs).more = true) :
    state.onEvent nowMs = {(state.tickMouse nowMs).state with ticking := true} := by
  simp only [onEvent, tick_eq, more, if_true]

theorem onEvent_less (less : (state.tickMouse nowMs).more = false) :
    state.onEvent nowMs = { (state.tickMouse nowMs).state with
      ticking := false
      timer := (state.tickMouse nowMs).state.timer.map fun _ => false} := by
  simp only [onEvent, tick_eq, less, Bool.false_eq_true, if_false]

theorem Ready.onEvent (ready : state.Ready) (finishes : TickFinishes state (.tick nowMs))
    (runs : state.timer = some true) : (state.onEvent nowMs).Ready := by
  have rests : (state.tickMouse nowMs).state.Rests := ready.rests.tickMouse
  have ticks := ready.rests.ticking_of_runs runs
  have timer := rests.timer
  rw [TimerAgrees, (tickMouse_ticking ticks).1] at timer
  cases more : (state.tickMouse nowMs).more with
  | true =>
    rw [onEvent_more more]
    exact ⟨rests.setTimer true _ timer, fun _ => rfl⟩
  | false =>
    have idle : ¬(state.tick nowMs).1.Busy := by
      intro busy
      have goesOn := ready.rests.tick_busy finishes busy
      rw [more] at goesOn
      cases goesOn
    rw [onEvent_less more]
    constructor
    · apply rests.setTimer
      exact timer.imp (fun absent => by simp [absent]) fun runs => by simp [runs]
    · exact fun busy => absurd busy idle

/-! ## Every call -/

theorem Rests.startTicking (rests : state.Rests) (nowMs : Nat) :
    (state.startTicking nowMs).Rests := by
  have advances := @advances_startTicking state nowMs
  have keeps := @keeps_startTicking state nowMs
  constructor
  · exact rests.synced.startTicking nowMs
  · intro stick
    have same : (state.startTicking nowMs).sticks = state.sticks ∧
        (state.startTicking nowMs).Pointed stick = state.Pointed stick := by
      unfold State.startTicking
      split <;> exact ⟨rfl, rfl⟩
    apply (rests.stands stick).congr same.2 (by rw [same.1]) (by rw [same.1]) _ keeps.config
    rw [keeps.keys, keeps.config]
  · rw [keeps.config, keeps.mouseDx, keeps.mouseDy]
    exact rests.mouseless
  · exact advances.timer rests.timer

theorem Ready.startTicking (rests : state.Rests) (nowMs : Nat) : (state.startTicking nowMs).Ready :=
  ⟨rests.startTicking nowMs, fun _ => ticking_startTicking nowMs⟩

theorem Ready.applyKey (ready : state.Ready) (index : Nat) (down : Bool) (nowMs : Nat)
    (key : ∀ key, state.keys[index]? = some key → down = true → key.source.input ≠ .wheel) :
    (state.applyKey index down nowMs).Ready := by
  refine ⟨ready.rests.applyKey .., ?_⟩
  have advances := @advances_applyKey state index down nowMs
  have mouse := @mouse_applyKey state index down nowMs
  rintro (⟨stick, ramps⟩ | ⟨after, mem, wheel, pressed⟩ | motion | off)
  · rcases advances.ramping stick ramps with before | ticks
    · exact advances.ticking (ready.ticks (.inl ⟨stick, before⟩))
    · exact ticks
  · cases found : state.keys[index]? with
    | none =>
      simp only [State.applyKey, found] at mem ⊢
      exact ready.ticks (.inr (.inl ⟨after, mem, wheel, pressed⟩))
    | some pressedKey =>
      rw [(keeps_applyKey found down nowMs).keys] at mem
      obtain ⟨position, within, is⟩ := getElem_of_mem mem
      have at_ : (state.mark index down).keys[position]? = some after := by
        rw [getElem?_eq_getElem within, is]
      rw [mark, getElem?_modify] at at_
      by_cases here : index = position
      · subst here
        simp only [found, if_true, Option.map_eq_map, map_some, Option.some.injEq] at at_
        subst at_
        cases down with
        | true => exact absurd wheel (key pressedKey found rfl)
        | false => exact absurd rfl pressed
      · simp only [here, if_false, id_map'] at at_
        have before : after ∈ state.keys := mem_of_getElem? at_
        exact advances.ticking (ready.ticks (.inr (.inl ⟨after, before, wheel, pressed⟩)))
  · rw [mouse.mouseDx, mouse.mouseDy] at motion
    exact advances.ticking (ready.ticks (.inr (.inr (.inl motion))))
  · rw [mouse.config, mouse.mouseX, mouse.mouseY] at off
    exact advances.ticking (ready.ticks (.inr (.inr (.inr off))))

variable {index : Nat} {first second : List Nat} {before : Nat} {times : List Nat} {key : Key}
  {since lastMs : Nat}

theorem Ready.applyFound (ready : state.Ready) {source : Source}
    (found : state.findKey source = some index) (noWheel : source.input ≠ .wheel) (down : Bool)
    (nowMs : Nat) : (state.applyKey index down nowMs).Ready := by
  apply ready.applyKey
  intro key at_ _
  obtain ⟨other, here, rfl⟩ := findKey_some found
  rw [at_] at here
  cases here
  exact noWheel

theorem Ready.handleKey (ready : state.Ready) (event : KeyboardEvent) :
    (state.handleKey event).1.Ready := by
  unfold State.handleKey
  split
  · exact ready
  · rename_i index found
    dsimp only
    split_ifs
    · exact ready
    · exact ready.applyFound found (by simp) ..
    · exact ready
    · exact ready
    · exact ready
    · exact ready.applyFound found (by simp) ..

theorem Rests.addMotion (rests : state.Rests) (mouse : state.config.mouseStick ≠ none)
    (dx dy : Int) : Rests {state with mouseDx := dx, mouseDy := dy} where
  synced := rests.synced.congr rfl rfl rfl rfl rfl rfl fun _ => rfl
  stands stick := (rests.stands stick).congr rfl rfl rfl rfl rfl
  mouseless none_ := absurd none_ mouse
  timer := rests.timer

theorem Ready.handleMouseMotion (ready : state.Ready) (xrel yrel : Int) (nowMs : Nat) :
    (state.handleMouseMotion xrel yrel nowMs).Ready := by
  unfold State.handleMouseMotion
  split
  · exact ready
  · rename_i moves
    have mouse := (not_or.mp moves).1
    exact Ready.startTicking (ready.rests.addMotion mouse ..) nowMs

theorem Ready.handleMouseButton (ready : state.Ready) (button : Nat) (down : Bool) (nowMs : Nat) :
    (state.handleMouseButton button down nowMs).1.Ready := by
  unfold State.handleMouseButton
  split
  · exact ready
  · rename_i index found
    split_ifs
    · exact ready
    · exact ready.applyFound found (by simp) ..
    · exact ready
    · exact ready.applyFound found (by simp) ..

theorem Rests.setRelease (rests : state.Rests) (index releaseMs : Nat) :
    (state.setRelease index releaseMs).Rests where
  synced := rests.synced.setRelease ..
  stands stick := by
    have walk : controlHeld (state.setRelease index releaseMs).keys .walk =
        controlHeld state.keys .walk := any_modify _ _ fun _ _ => rfl
    exact (rests.stands stick).congr rfl rfl rfl (stickCap_congr walk _) rfl
  mouseless := rests.mouseless
  timer := rests.timer

section

variable (ready : state.Ready)
include ready

theorem Ready.handleNotch (nowMs : Nat) (wheel : Wheel) :
    (state.handleNotch nowMs wheel).Ready := by
  unfold State.handleNotch
  split
  · exact ready
  · -- the timer is started after the notch is pressed
    apply Ready.startTicking
    split
    · exact ready.rests.setRelease ..
    · exact (ready.rests.setRelease ..).applyKey ..

theorem Ready.handleMouseWheel (hscroll vscroll : Scroll) (nowMs : Nat) :
    (state.handleMouseWheel hscroll vscroll nowMs).Ready := by
  apply List.foldlRecOn _ _ ready
  intro state ready wheel _
  exact ready.handleNotch nowMs wheel

theorem Ready.releaseKeys (chosen : Input → Bool) (nowMs : Nat) :
    (state.releaseKeys chosen nowMs).Ready := by
  apply List.foldlRecOn _ _ ready
  intro state ready index _
  split
  · exact ready.applyKey index false nowMs fun _ _ down => by cases down
  · exact ready

theorem Ready.dropMouse {after : State}
    (same : SameSticks state.dropMouse after) (keeps : Keeps state.dropMouse after)
    (synced : after.Synced) : after.Ready := by
  constructor
  · refine ⟨synced, ?_, ?_, ?_⟩
    · intro stick
      apply (ready.rests.stands stick).congr (same.pointed stick) (same.magnitude stick)
        (same.ramping stick) _ keeps.config
      rw [keeps.keys, keeps.config]
      rfl
    · exact fun _ => ⟨keeps.mouseDx, keeps.mouseDy⟩
    · unfold TimerAgrees
      rw [same.timer, same.ticking]
      exact ready.rests.timer
  · rw [same.ticking]
    rintro (⟨stick, ramps⟩ | ⟨key, mem, held⟩ | motion | ⟨_, off⟩)
    · exact ready.ticks (.inl ⟨stick, (same.ramping stick).symm.trans ramps⟩)
    · rw [keeps.keys] at mem
      exact ready.ticks (.inr (.inl ⟨key, mem, held⟩))
    · rw [keeps.mouseDx, keeps.mouseDy] at motion
      exact (motion.elim (fun moved => moved rfl) fun moved => moved rfl).elim
    · rw [keeps.mouseX, keeps.mouseY] at off
      exact (off.elim (fun moved => moved rfl) fun moved => moved rfl).elim

theorem Ready.releaseMouse (nowMs : Nat) : (state.releaseMouse nowMs).Ready := by
  have released := ready.releaseKeys (fun input => input ≠ .key) nowMs
  have synced := synced_kept.releaseMouse ready.rests.synced nowMs
  revert synced
  simp only [State.releaseMouse]
  split
  · exact released.dropMouse (by constructor <;> intros <;> rfl) (.refl _)
  · rename_i stick _
    apply released.dropMouse _ (keeps_sendStick _ stick)
    exact SameSticks.sendStick (by constructor <;> intros <;> rfl) stick

theorem Ready.step {sdl : Sdl} {takesStick timer : Bool} {spec : Option CString} {call : Call}
    {after : State} (finishes : TickFinishes state call)
    (moved : (keyboardMachine sdl takesStick timer spec).step state call = some after) :
    after.Ready := by
  cases call with
  | tick nowMs =>
    simp only [keyboardMachine, ite_none_right_eq_some, Option.some.injEq] at moved
    obtain ⟨runs, rfl⟩ := moved
    exact ready.onEvent finishes runs
  | handleKey event =>
    cases moved
    exact ready.handleKey event
  | handleMouseMotion xrel yrel nowMs =>
    cases moved
    exact ready.handleMouseMotion xrel yrel nowMs
  | handleMouseButton button down nowMs =>
    cases moved
    exact ready.handleMouseButton button down nowMs
  | handleMouseWheel hscroll vscroll nowMs =>
    cases moved
    exact ready.handleMouseWheel hscroll vscroll nowMs
  | releaseAll =>
    cases moved
    exact ready.releaseKeys (fun _ => true) state.tickMs
  | releaseMouse nowMs =>
    cases moved
    exact ready.releaseMouse nowMs

end

theorem Ready.init (sdl : Sdl) (takesStick timer : Bool) (spec : Option CString) :
    (Gamepad.init sdl takesStick timer spec).Ready := by
  have centred : ∀ stick, ¬(Gamepad.init sdl takesStick timer spec).Pointed stick := by
    intro stick
    simp [Pointed, Gamepad.init]
  refine ⟨⟨Synced.init .., ?_, fun _ => ⟨rfl, rfl⟩, ?_⟩, ?_⟩
  · intro stick
    exact ⟨fun _ => ⟨rfl, rfl⟩, fun pointed => absurd pointed (centred stick), by simp [Gamepad.init]⟩
  · cases timer with
    | false => exact .inl rfl
    | true => exact .inr rfl
  · rintro (⟨stick, ramps⟩ | ⟨key, mem, _, pressed⟩ | motion | ⟨_, off⟩)
    · simp [Gamepad.init] at ramps
    · exact absurd (init_released sdl takesStick timer spec key mem) pressed
    · simp [Gamepad.init] at motion
    · simp [Gamepad.init] at off

theorem Ready.of_reaches {sdl : Sdl} {takesStick timer : Bool} {spec : Option CString}
    (reached : (keyboardMachine sdl takesStick timer spec).Reaches TickFinishes state) :
    state.Ready := by
  apply reached.invariant
  · rintro _ rfl
    exact .init ..
  · intro state call after ready finishes moved
    exact ready.step finishes moved

/-! ## While time advances -/

def tickAt (state : State) (nowMs : Nat) : State :=
  if state.timer = some true then state.onEvent nowMs else state

def ticksAt (state : State) (times : List Nat) : State := times.foldl tickAt state

def AllFinish : State → List Nat → Prop
  | _, [] => True
  | state, nowMs :: rest =>
    (state.timer = some true → TickFinishes state (.tick nowMs)) ∧ AllFinish (state.tickAt nowMs) rest

def TimePasses : Nat → List Nat → Prop
  | _, [] => True
  | before, nowMs :: rest => before ≤ nowMs ∧ nowMs < before + 2 ^ 49 ∧ TimePasses nowMs rest

def longestRampMs : Nat := 5462

theorem Ready.idle (ready : state.Ready) (owned : state.timer.isSome = true)
    (stopped : state.timer ≠ some true) : ¬state.Busy := by
  intro busy
  have ticks := ready.ticks busy
  rcases ready.rests.timer with absent | agrees
  · simp [absent] at owned
  · exact stopped (agrees.trans (congrArg some ticks))

theorem onEvent_same (nowMs : Nat) : (state.onEvent nowMs).keys = (state.tickMouse nowMs).state.keys ∧
    (state.onEvent nowMs).sticks = (state.tickMouse nowMs).state.sticks ∧
    (state.onEvent nowMs).config = (state.tickMouse nowMs).state.config ∧
    (state.onEvent nowMs).tickMs = (state.tickMouse nowMs).state.tickMs ∧
    (state.onEvent nowMs).timer.isSome = (state.tickMouse nowMs).state.timer.isSome := by
  cases more : (state.tickMouse nowMs).more with
  | true =>
    rw [onEvent_more more]
    exact ⟨rfl, rfl, rfl, rfl, rfl⟩
  | false =>
    rw [onEvent_less more]
    exact ⟨rfl, rfl, rfl, rfl, isSome_map⟩

theorem Ready.tickAt (ready : state.Ready)
    (finishes : state.timer = some true → TickFinishes state (.tick nowMs)) :
    (state.tickAt nowMs).Ready := by
  unfold State.tickAt
  split
  · rename_i runs
    exact ready.onEvent (finishes runs) runs
  · exact ready

theorem tickAt_owned (nowMs : Nat) : (state.tickAt nowMs).timer.isSome = state.timer.isSome := by
  unfold tickAt
  split
  · rw [(onEvent_same nowMs).2.2.2.2, tickMouse_owned]
  · rfl

theorem Ready.tickAt_keys (ready : state.Ready) (owned : state.timer.isSome = true) (nowMs : Nat) :
    (state.tickAt nowMs).keys = state.keys.map (Key.letGo (isOver nowMs)) := by
  unfold State.tickAt
  split
  · rw [(onEvent_same nowMs).1, tickMouse_keys]
  · rename_i stopped
    have idle := ready.idle owned stopped
    have same : ∀ key ∈ state.keys, key.letGo (isOver nowMs) = key := by
      intro key mem
      apply Key.letGo_self
      by_contra held
      have ⟨gone, pressed⟩ := not_or.mp held
      have wheel : key.source.input = .wheel := by simp_all [isOver]
      exact idle (.inr (.inl ⟨key, mem, wheel, pressed⟩))
    exact ((map_congr_left same).trans (List.map_id' _)).symm

theorem ticksAt_append (first second : List Nat) :
    state.ticksAt (first ++ second) = (state.ticksAt first).ticksAt second := foldl_append

variable {state : State}

theorem AllFinish.append (finish : AllFinish state (first ++ second)) :
    AllFinish state first ∧ AllFinish (state.ticksAt first) second := by
  induction first generalizing state with
  | nil => exact ⟨trivial, finish⟩
  | cons nowMs rest ih => exact ⟨⟨finish.1, (ih finish.2).1⟩, (ih finish.2).2⟩

theorem TimePasses.after {rest : List Nat} {nowMs : Nat}
    (passes : TimePasses before (first ++ nowMs :: rest)) : TimePasses nowMs rest := by
  induction first generalizing before with
  | nil => exact passes.2.2
  | cons _ _ ih => exact ih passes.2.2

theorem ticksAt_owned (times : List Nat) :
    (state.ticksAt times).timer.isSome = state.timer.isSome := by
  induction times generalizing state with
  | nil => rfl
  | cons nowMs rest ih => exact ih.trans (tickAt_owned nowMs)

theorem Ready.ticksAt (ready : state.Ready) (finish : AllFinish state times) :
    (state.ticksAt times).Ready := by
  induction times generalizing state with
  | nil => exact ready
  | cons nowMs rest ih => exact ih (ready.tickAt finish.1) finish.2

theorem Ready.ticksAt_key (ready : state.Ready)
    (owned : state.timer.isSome = true) (finish : AllFinish state times)
    (found : state.keys[index]? = some key) :
    ∃ after, (state.ticksAt times).keys[index]? = some after ∧ after.toBinding = key.toBinding ∧
      after.releaseMs = key.releaseMs ∧ (key.pressed = 0 → after.pressed = 0) := by
  induction times generalizing state key with
  | nil => exact ⟨key, found, rfl, rfl, id⟩
  | cons nowMs rest ih =>
    have next : (state.tickAt nowMs).keys[index]? = some (key.letGo (isOver nowMs)) := by
      rw [ready.tickAt_keys owned, getElem?_map, found]
      rfl
    obtain ⟨after, at_, binding, release, idle⟩ :=
      ih (ready.tickAt finish.1) ((tickAt_owned nowMs).trans owned) finish.2 next
    refine ⟨after, at_, binding.trans (Key.letGo_toBinding ..),
      release.trans (Key.letGo_releaseMs ..), ?_⟩
    intro released
    apply idle
    simp [Key.letGo_pressed, released]

theorem Ready.ticksAt_length (ready : state.Ready)
    (owned : state.timer.isSome = true) (finish : AllFinish state times) :
    (state.ticksAt times).keys.length = state.keys.length := by
  induction times generalizing state with
  | nil => rfl
  | cons nowMs rest ih =>
    have next : (state.tickAt nowMs).keys.length = state.keys.length := by
      rw [ready.tickAt_keys owned, length_map]
    exact (ih (ready.tickAt finish.1) ((tickAt_owned nowMs).trans owned) finish.2).trans next

theorem Ready.notch_released (ready : state.Ready) (owned : state.timer.isSome = true)
    (finish : AllFinish state (times ++ [nowMs])) (found : state.keys[index]? = some key)
    (wheel : key.source.input = .wheel) (due : key.releaseMs ≤ nowMs) :
    (state.ticksAt (times ++ [nowMs])).keyPressed index = false := by
  obtain ⟨before, at_, binding, release, _⟩ := ready.ticksAt_key owned finish.append.1 found
  have ready' := ready.ticksAt finish.append.1
  have owned' := (ticksAt_owned times).trans owned
  have last : (state.ticksAt (times ++ [nowMs])).keys[index]? =
      some (before.letGo (isOver nowMs)) := by
    rw [ticksAt_append]
    change ((state.ticksAt times).tickAt nowMs).keys[index]? = _
    rw [ready'.tickAt_keys owned', getElem?_map, at_]
    rfl
  have gone : isOver nowMs before = true := by simp [isOver, binding, wheel, release, due]
  simp [keyPressed, last, Key.letGo_pressed, gone]

/-! ## Ramps end -/

theorem le_rampStep (config : Config) (ramps : config.rampMs.1 ≠ 0) {elapsedMs : Nat}
    (few : elapsedMs < 2 ^ 49) : min (6 * elapsedMs) int16Max ≤ rampStep config elapsedMs := by
  have bound := config.rampMs.2.2
  simp only [rampStep, int16Max, kgMaxRampMs] at *
  apply min_le_min_right
  rw [Nat.mod_eq_of_lt (by omega)]
  apply (Nat.le_div_iff_mul_le (by omega)).mpr
  calc 6 * elapsedMs * config.rampMs.1 ≤ 6 * elapsedMs * 5000 := Nat.mul_le_mul_left _ bound
    _ ≤ 32767 * elapsedMs := by omega

def Climbs (state : State) (since nowMs : Nat) : Prop :=
  ∀ stick, (state.sticks stick).ramping = true →
    state.tickMs = nowMs ∧ 6 * (nowMs - since) ≤ (state.sticks stick).magnitude

def Quiet (state : State) : Prop :=
  ∀ key ∈ state.keys, key.source.input = .wheel → key.pressed = 0

theorem Ready.tickAt_quiet (ready : state.Ready) (owned : state.timer.isSome = true)
    (quiet : state.Quiet) (nowMs : Nat) : (state.tickAt nowMs).Quiet := by
  intro key mem wheel
  rw [ready.tickAt_keys owned] at mem
  obtain ⟨before, memBefore, rfl⟩ := List.mem_map.mp mem
  rw [Key.letGo_toBinding] at wheel
  simp [Key.letGo_pressed, quiet before memBefore wheel]

theorem Ready.tickAt_tickMs (ready : state.Ready) (owned : state.timer.isSome = true)
    {stick : GamepadStick} (ramps : ((state.tickAt nowMs).sticks stick).ramping = true) :
    (state.tickAt nowMs).tickMs = nowMs := by
  by_cases runs : state.timer = some true
  · rw [State.tickAt, if_pos runs, (onEvent_same nowMs).2.2.2.1]
    exact (tickMouse_ticking (ready.rests.ticking_of_runs runs)).2
  · rw [State.tickAt, if_neg runs] at ramps
    exact absurd (.inl ⟨stick, ramps⟩) (ready.idle owned runs)

theorem Climbs.tickAt (climbs : state.Climbs since before) (ready : state.Ready)
    (finishes : state.timer = some true → TickFinishes state (.tick nowMs))
    (owned : state.timer.isSome = true) (quiet : state.Quiet)
    (later : since ≤ before ∧ before ≤ nowMs ∧ nowMs < before + 2 ^ 49) :
    (state.tickAt nowMs).Climbs since nowMs := by
  intro stick ramps
  refine ⟨ready.tickAt_tickMs owned ramps, ?_⟩
  have after := ((ready.tickAt finishes).rests.stands stick).ramps ramps
  have cap := stickCap_le (state.tickAt nowMs).config (state.tickAt nowMs).keys
  by_cases runs : state.timer = some true
  · have same := @onEvent_same state nowMs
    rw [State.tickAt, if_pos runs] at ramps after cap ⊢
    rw [same.2.1] at ramps after ⊢
    obtain ⟨ramped, magnitude⟩ := tickMouse_climbs quiet ramps
    obtain ⟨tickMs, climbed⟩ := climbs stick ramped
    rw [magnitude, tickMs] at after ⊢
    have longRamp : state.config.rampMs.1 ≠ 0 := by
      rw [← @tickMouse_config state nowMs, ← same.2.2.1]
      exact after.2.2
    have step := le_rampStep state.config longRamp (show nowMs - before < 2 ^ 49 by omega)
    rcases Nat.le_total (6 * (nowMs - before)) int16Max with low | high
    · rw [Nat.min_eq_left low] at step
      omega
    · rw [Nat.min_eq_right high] at step
      omega
  · rw [State.tickAt, if_neg runs] at ramps
    exact absurd (.inl ⟨stick, ramps⟩) (ready.idle owned runs)

theorem Ready.climbs (ready : state.Ready) (owned : state.timer.isSome = true)
    (quiet : state.Quiet) (climbs : state.Climbs since before) (after : since ≤ before)
    (passes : TimePasses before (times ++ [lastMs]))
    (finish : AllFinish state (times ++ [lastMs])) :
    (state.ticksAt (times ++ [lastMs])).Climbs since lastMs := by
  induction times generalizing before state with
  | nil => exact climbs.tickAt ready finish.1 owned quiet ⟨after, passes.1, passes.2.1⟩
  | cons nowMs rest ih =>
    have next := climbs.tickAt ready finish.1 owned quiet ⟨after, passes.1, passes.2.1⟩
    exact ih (ready.tickAt finish.1) ((tickAt_owned nowMs).trans owned)
      (ready.tickAt_quiet owned quiet nowMs) next (after.trans passes.1) passes.2.2 finish.2

theorem Ready.quiet (ready : state.Ready) (owned : state.timer.isSome = true)
    (finish : AllFinish state (times ++ [nowMs]))
    (due : ∀ key ∈ state.keys, key.source.input = .wheel → key.pressed ≠ 0 → key.releaseMs ≤ nowMs) :
    (state.ticksAt (times ++ [nowMs])).Quiet := by
  intro key mem wheel
  obtain ⟨index, within, is⟩ := getElem_of_mem mem
  have at_ : (state.ticksAt (times ++ [nowMs])).keys[index]? = some key := by
    rw [getElem?_eq_getElem within, is]
  have length : (state.ticksAt (times ++ [nowMs])).keys.length = state.keys.length :=
    ready.ticksAt_length owned finish
  have found : state.keys[index]? = some state.keys[index] :=
    getElem?_eq_getElem (length ▸ within)
  obtain ⟨after, here, binding, _, idle⟩ := ready.ticksAt_key owned finish found
  rw [at_] at here
  cases here
  by_cases pressed : state.keys[index].pressed = 0
  · exact idle pressed
  · have wheel' : state.keys[index].source.input = .wheel := by rw [← binding, wheel]
    have released := ready.notch_released owned finish found wheel'
      (due _ (getElem_mem _) wheel' pressed)
    simpa [keyPressed, at_] using released

theorem Ready.sticks_rest (ready : state.Ready) (owned : state.timer.isSome = true)
    (passes : TimePasses state.tickMs (first ++ nowMs :: second ++ [lastMs]))
    (finish : AllFinish state (first ++ nowMs :: second ++ [lastMs]))
    (due : ∀ key ∈ state.keys, key.source.input = .wheel → key.pressed ≠ 0 → key.releaseMs ≤ nowMs)
    (long : nowMs + longestRampMs ≤ lastMs) (stick : GamepadStick) :
    let last := state.ticksAt (first ++ nowMs :: second ++ [lastMs])
    (last.sticks stick).magnitude = restMagnitude last.config last.keys stick := by
  have split : first ++ nowMs :: second ++ [lastMs] =
      (first ++ [nowMs]) ++ (second ++ [lastMs]) := by simp
  rw [split] at finish ⊢
  rw [append_assoc] at passes
  have middle := ready.ticksAt finish.append.1
  have owned' := (ticksAt_owned (first ++ [nowMs])).trans owned
  have started : (state.ticksAt (first ++ [nowMs])).Climbs nowMs nowMs := by
    intro stick ramps
    refine ⟨?_, by simp⟩
    rw [ticksAt_append] at ramps ⊢
    have before := ready.ticksAt finish.append.1.append.1
    exact before.tickAt_tickMs ((ticksAt_owned first).trans owned) ramps
  have climbed := middle.climbs owned' (ready.quiet owned finish.append.1 due) started
    (Nat.le_refl _) passes.after finish.append.2
  rw [ticksAt_append]
  have last := middle.ticksAt finish.append.2
  apply last.rests.magnitude_eq
  by_contra ramps
  rw [Bool.not_eq_false] at ramps
  have climb := (climbed stick ramps).2
  have below := ((last.rests.stands stick).ramps ramps).2.1
  have cap := stickCap_le ((state.ticksAt (first ++ [nowMs])).ticksAt (second ++ [lastMs])).config
    ((state.ticksAt (first ++ [nowMs])).ticksAt (second ++ [lastMs])).keys
  simp only [longestRampMs, int16Max] at long cap
  omega

def NotchesEnd (state : State) : Prop :=
  ∀ times nowMs, AllFinish state (times ++ [nowMs]) →
    ∀ index key, state.keys[index]? = some key → key.source.input = .wheel →
      key.releaseMs ≤ nowMs → (state.ticksAt (times ++ [nowMs])).keyPressed index = false

/-- After the notches and the longest ramp every stick is where the held keys leave it. -/
def RampsEnd (state : State) : Prop :=
  ∀ first nowMs second lastMs,
    TimePasses state.tickMs (first ++ nowMs :: second ++ [lastMs]) →
    AllFinish state (first ++ nowMs :: second ++ [lastMs]) →
    (∀ key ∈ state.keys, key.source.input = .wheel → key.pressed ≠ 0 → key.releaseMs ≤ nowMs) →
    nowMs + longestRampMs ≤ lastMs → ∀ stick,
      let last := state.ticksAt (first ++ nowMs :: second ++ [lastMs])
      (last.sticks stick).magnitude = restMagnitude last.config last.keys stick

theorem Ready.driven (ready : state.Ready) (unfinished : state.Unfinished) : state.Driven := by
  have ticks := ready.ticks unfinished.busy
  refine ⟨ticks, ready.rests.timer.imp_right ?_⟩
  intro agrees
  exact agrees.trans (congrArg some ticks)

end State

/-- While no tick strands a ramp, a tick is due while anything is unfinished, and ticks finish it.
-/
theorem keyboard_ticks_on (sdl : Sdl) (takesStick timer : Bool) (spec : Option CString)
    {state : State}
    (reached : (keyboardMachine sdl takesStick timer spec).Reaches TickFinishes state) :
    (state.Unfinished → state.Driven) ∧
      (state.timer.isSome = true → state.NotchesEnd ∧ state.RampsEnd) := by
  have ready := State.Ready.of_reaches reached
  refine ⟨ready.driven, ?_⟩
  intro owned
  constructor
  · intro times nowMs finish index key found wheel due
    exact ready.notch_released owned finish found wheel due
  · intro first nowMs second lastMs passes finish due long stick
    exact ready.sticks_rest owned passes finish due long stick

/-- A notch that presses `a`, and a direction that ramps. -/
def rampingSpec : Option CString := some "left_stick_right=W,a=Wheel_Up,ramp_ms=50".toList

def notchThenKey : List Call :=
  [.handleMouseWheel .zero .positive 0, .handleKey ⟨26, true, false, 0, 0⟩]

def rampingState : State :=
  ((keyboardMachine testSdl true true rampingSpec).runAllowed TickFinishes
    (init testSdl true true rampingSpec) (notchThenKey ++ [Call.tick 8])).getD
      (init testSdl true true rampingSpec)

theorem keyboard_ticks_on_ramping :
    (keyboardMachine testSdl true true rampingSpec).Reaches TickFinishes rampingState ∧
      rampingState.Unfinished ∧ rampingState.Driven ∧ rampingState.NotchesEnd ∧
      rampingState.RampsEnd := by
  have facts : ((keyboardMachine testSdl true true rampingSpec).runAllowed TickFinishes
        (init testSdl true true rampingSpec) (notchThenKey ++ [Call.tick 8])).isSome = true ∧
      ((rampingState.sticks .left).ramping = true ∧
        (rampingState.sticks .left).magnitude <
          stickCap rampingState.config rampingState.keys) ∧
      rampingState.timer.isSome = true := by
    decide +kernel
  obtain ⟨ran, ramps, owned⟩ := facts
  have reached : (keyboardMachine testSdl true true rampingSpec).Reaches TickFinishes
      rampingState := .getD_runAllowed _ (.start rfl) ran
  have unfinished : rampingState.Unfinished := .inl ⟨.left, ramps⟩
  have ticks := keyboard_ticks_on testSdl true true rampingSpec reached
  have ends := ticks.2 owned
  exact ⟨reached, unfinished, ticks.1 unfinished, ends.1, ends.2⟩

/-- The tick that releases the walk control starts a ramp and stops the timer. -/
def walkSpec : Option CString := some "left_stick_right=W,walk=Wheel_Up,ramp_ms=50".toList

def strandedState : State :=
  ((keyboardMachine testSdl true true walkSpec).run (init testSdl true true walkSpec)
    (notchThenKey ++ [8, 16, 24, 32, 40].map Call.tick)).getD (init testSdl true true walkSpec)

theorem ramp_stranded : (keyboardMachine testSdl true true walkSpec).Reachable strandedState ∧
    (strandedState.sticks .left).magnitude = 21625 ∧
    stickCap strandedState.config strandedState.keys = int16Max ∧
    strandedState.timer = some false ∧ strandedState.Unfinished ∧ ¬strandedState.Driven := by
  -- one evaluation of the run for all that is read from its last state
  have facts : ((keyboardMachine testSdl true true walkSpec).run (init testSdl true true walkSpec)
        (notchThenKey ++ [8, 16, 24, 32, 40].map Call.tick)).isSome = true ∧
      (strandedState.sticks .left).magnitude = 21625 ∧
      stickCap strandedState.config strandedState.keys = int16Max ∧
      strandedState.timer = some false ∧ strandedState.ticking = false ∧
      (strandedState.sticks .left).ramping = true ∧
      (strandedState.sticks .left).magnitude <
        stickCap strandedState.config strandedState.keys := by
    decide +kernel
  obtain ⟨ran, magnitude, cap, timer, still, unfinished⟩ := facts
  refine ⟨.getD_run _ (.start rfl) ran, magnitude, cap, timer, .inl ⟨.left, unfinished⟩, ?_⟩
  intro driven
  rw [State.Driven, still] at driven
  exact absurd driven.1 (by decide)

end Ika.Gamepad
