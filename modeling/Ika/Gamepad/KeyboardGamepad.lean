import Mathlib.Data.Sign.Defs
import Ika.Gamepad.Spec

/-! The keyboard gamepad of `keyboard_gamepad.c`.

Times are in milliseconds and wrap as `uint64_t` where they are added to. The
logs are left out, and so is `sc_keyboard_gamepad_plug`, which announces the
gamepad before anything is pressed.
-/

set_option autoImplicit false

namespace Ika.Gamepad

def int16Max : Nat := 32767

def int16Min : Int := -32768

def int16 (value : Int) : Int := (value + 32768) % 65536 - 32768

def kgStickDiagonal : Nat := 23170
def kgFirstStepMs : Nat := 8
def kgMouseFullPx : Nat := 32
def kgMouseHoldMs : Nat := 24
def kgWheelPulseMs : Nat := 40

def Sign.direction : Sign → SignType
  | .negative => -1
  | .positive => 1

structure Key extends Binding where
  /-- The order of its press while it is held, 0 once released. -/
  pressed : Nat := 0
  releaseMs : Nat := 0

def controlHeld (keys : List Key) (control : Control) : Bool :=
  keys.any fun key => key.control = control && key.pressed ≠ 0

def walkHeld (keys : List Key) : Bool :=
  keys.any fun key => key.pressed ≠ 0 && key.control = .walk

/-- What `kg_pad_direction` has found so far. -/
structure Directions where
  last : Nat := 0
  direction : SignType := 0
  negative : Bool := false
  positive : Bool := false

def Directions.see (found : Directions) (pressed : Nat) (sign : Sign) : Directions where
  last := if found.last < pressed then pressed else found.last
  direction := if found.last < pressed then sign.direction else found.direction
  negative := found.negative || sign = .negative
  positive := found.positive || sign = .positive

def Control.signOn (pad : Pad) (vertical : Bool) : Control → Option Sign
  | .direction ofPad ofAxis sign => if ofPad = pad ∧ ofAxis = vertical then some sign else none
  | _ => none

def Directions.scan (pad : Pad) (vertical : Bool) (found : Directions) (key : Key) : Directions :=
  if key.pressed = 0 then found
  else
    match key.control.signOn pad vertical with
    | none => found
    | some sign => found.see key.pressed sign

def padDirection (socd : Pad → Socd) (keys : List Key) (pad : Pad) (vertical : Bool) : SignType :=
  let found := keys.foldl (Directions.scan pad vertical) {}
  if socd pad = .neutral && found.negative && found.positive then 0 else found.direction

def stickCap (config : Config) (keys : List Key) : Nat :=
  if walkHeld keys then int16Max * config.walkPercent / 100 else int16Max

def rampStep (config : Config) (elapsedMs : Nat) : Nat :=
  min (int16Max * elapsedMs % 2 ^ 64 / config.rampMs) int16Max

def dpadButton (vertical : Bool) (direction : SignType) : GamepadButton :=
  if vertical then if direction < 0 then .dpadUp else .dpadDown
  else if direction < 0 then .dpadLeft else .dpadRight

def axisValue (direction : SignType) (magnitude : Nat) : Int :=
  if direction = 0 then 0
  else if direction < 0 then if magnitude = int16Max then int16Min else int16 (-magnitude)
  else int16 magnitude

structure Stick where
  magnitude : Nat := 0
  sentX : Int := 0
  sentY : Int := 0
  ramping : Bool := false

structure State where
  gp : GamepadProcessor
  config : Config
  keys : List Key
  pressCount : Nat := 0
  mouseDx : Int := 0
  mouseDy : Int := 0
  mouseX : Int := 0
  mouseY : Int := 0
  mouseMotionMs : Nat := 0
  x : Pad → SignType := fun _ => 0
  y : Pad → SignType := fun _ => 0
  sticks : GamepadStick → Stick := fun _ => {}
  ticking : Bool := false
  tickMs : Nat := 0
  /-- The owner's timer, if there is one, and whether it runs. -/
  timer : Option Bool

def init (sdl : Sdl) (takesStick timer : Bool) (spec : Option CString) : State :=
  let config := Config.ofSpec sdl spec
  { gp := {takesStick}
    config
    keys := config.bindings.list.map fun binding => {binding with}
    timer := if timer then some false else none}

namespace State

variable (state : State)

def device : Device := state.gp.device

def send (event : Event) : State := {state with gp := state.gp.send event}

def sendButton (button : GamepadButton) (down : Bool) : State := state.send (.button button down)

def sendAxis (axis : GamepadAxis) (value : Int) : State := state.send (.axis axis value)

def sendButtonIf (needed : Prop) [Decidable needed] (button : GamepadButton) (down : Bool) :
    State :=
  if needed then state.sendButton button down else state

def sendAxisIf (needed : Prop) [Decidable needed] (axis : GamepadAxis) (value : Int) : State :=
  if needed then state.sendAxis axis value else state

def point (pad : Pad) (x y : SignType) : State := {state with
  x := Function.update state.x pad x
  y := Function.update state.y pad y}

def setStick (stick : GamepadStick) (value : Stick) : State := {state with
  sticks := Function.update state.sticks stick value}

/-- The buttons the D-pad leaves are released before the ones it reaches are pressed. -/
def moveDpad (x y : SignType) : State :=
  let oldX := state.x .dpad
  let oldY := state.y .dpad
  let state := state.point .dpad x y
  let state := state.sendButtonIf (oldX ≠ 0 ∧ oldX ≠ x) (dpadButton false oldX) false
  let state := state.sendButtonIf (oldY ≠ 0 ∧ oldY ≠ y) (dpadButton true oldY) false
  let state := state.sendButtonIf (x ≠ 0 ∧ x ≠ oldX) (dpadButton false x) true
  state.sendButtonIf (y ≠ 0 ∧ y ≠ oldY) (dpadButton true y) true

/-- The position of a stick: the mouse moves its stick while its keys are idle. -/
def position (stick : GamepadStick) : Int × Int :=
  let x := state.x (.stick stick)
  let y := state.y (.stick stick)
  let magnitude := (state.sticks stick).magnitude
  let magnitude := if x ≠ 0 ∧ y ≠ 0 then magnitude * kgStickDiagonal / int16Max else magnitude
  if x = 0 ∧ y = 0 ∧ state.config.mouseStick = some stick then (state.mouseX, state.mouseY)
  else (axisValue x magnitude, axisValue y magnitude)

/-- Reports a stick at `(vx, vy)`, in one event or one for each axis. -/
def report (stick : GamepadStick) (vx vy oldVx oldVy : Int) : State :=
  if state.gp.takesStick then state.send (.stick stick vx vy)
  else
    let yFirst := vy.natAbs < oldVy.natAbs
    let state := state.sendAxisIf (yFirst ∧ vy ≠ oldVy) stick.axisY vy
    let state := state.sendAxisIf (vx ≠ oldVx) stick.axisX vx
    state.sendAxisIf (¬yFirst ∧ vy ≠ oldVy) stick.axisY vy

def sendStick (stick : GamepadStick) : State :=
  let old := state.sticks stick
  let (vx, vy) := state.position stick
  if vx = old.sentX ∧ vy = old.sentY then state
  else (state.setStick stick {old with sentX := vx, sentY := vy}).report stick vx vy
    old.sentX old.sentY

def arm : State := {state with timer := state.timer.map fun _ => true}

def startTicking (nowMs : Nat) : State :=
  if state.ticking then state else {state with ticking := true, tickMs := nowMs}.arm

/-- How far `kg_move_stick` pushes a stick that points where it should. -/
def push (stick : GamepadStick) (nowMs : Nat) : State :=
  let cap := stickCap state.config state.keys
  let old := state.sticks stick
  if state.x (.stick stick) = 0 ∧ state.y (.stick stick) = 0 then
    state.setStick stick {old with magnitude := 0, ramping := false}
  else if state.config.rampMs.1 = 0 ∨ cap ≤ old.magnitude then
    state.setStick stick {old with magnitude := cap, ramping := false}
  else if old.ramping then state
  else
    let magnitude := old.magnitude + rampStep state.config kgFirstStepMs
    if cap ≤ magnitude then state.setStick stick {old with magnitude := cap}
    else (state.setStick stick {old with magnitude := magnitude, ramping := true}).startTicking
      nowMs

def moveStick (stick : GamepadStick) (x y : SignType) (nowMs : Nat) : State :=
  ((state.point (.stick stick) x y).push stick nowMs).sendStick stick

def mark (index : Nat) (down : Bool) : State :=
  let pressCount := if down then (state.pressCount + 1) % 2 ^ 32 else state.pressCount
  {state with
    pressCount
    keys := state.keys.modify index fun key =>
      {key with pressed := if down then pressCount else 0}}

/-- A pushed stick comes down to its new cap at once, or ramps on up to it. -/
def recap (stick : GamepadStick) (nowMs : Nat) : State :=
  let x := state.x (.stick stick)
  let y := state.y (.stick stick)
  if x ≠ 0 ∨ y ≠ 0 then state.moveStick stick x y nowMs else state

/-- What `kg_apply_key` does once the key is marked. -/
def follow (control : Control) (wasHeld : Bool) (nowMs : Nat) : State :=
  let held := controlHeld state.keys control
  match control with
  | .direction pad _ _ =>
    let x := padDirection state.config.socd state.keys pad false
    let y := padDirection state.config.socd state.keys pad true
    match pad with
    | .dpad => state.moveDpad x y
    | .stick stick => state.moveStick stick x y nowMs
  | .button button _ => if held = wasHeld then state else state.sendButton button held
  | .trigger axis _ =>
    if held = wasHeld then state else state.sendAxis axis (if held then int16Max else 0)
  | .walk => if held = wasHeld then state else (state.recap .left nowMs).recap .right nowMs

def applyKey (index : Nat) (down : Bool) (nowMs : Nat) : State :=
  match state.keys[index]? with
  | none => state
  | some key => (state.mark index down).follow key.control
      (controlHeld state.keys key.control) nowMs

def findKey (source : Source) : Option Nat := state.keys.findIdx? fun key => key.source = source

def keyPressed (index : Nat) : Bool := state.keys[index]?.any fun key => key.pressed ≠ 0

end State

structure KeyboardEvent where
  scancode : Nat
  down : Bool
  isRepeat : Bool
  mod : UInt16
  timestamp : Nat

def combinationMods : UInt16 := 0x0fc0

/-- A `float`, as far as the wheel looks at it. -/
inductive Scroll where
  | negative | zero | positive | nan

namespace Scroll

def neg : Scroll → Scroll
  | .negative => .positive
  | .zero => .zero
  | .positive => .negative
  | .nan => .nan

def atMostZero : Scroll → Bool
  | .negative | .zero => true
  | .positive | .nan => false

end Scroll

def notches (hscroll vscroll : Scroll) : List Wheel :=
  ([(vscroll, Wheel.up), (vscroll.neg, Wheel.down), (hscroll, Wheel.right),
    (hscroll.neg, Wheel.left)].filter fun notch => !notch.1.atMostZero).map (·.2)

namespace State

variable (state : State)

def handleKey (event : KeyboardEvent) : State × Bool :=
  match state.findKey ⟨.key, event.scancode⟩ with
  | none => (state, false)
  | some index =>
    let nowMs := event.timestamp / 1000000
    if !event.down then
      if !state.keyPressed index then (state, false) else (state.applyKey index false nowMs, true)
    else if event.isRepeat then (state, state.keyPressed index)
    else if event.mod &&& combinationMods ≠ 0 then (state, false)
    else if state.keyPressed index then (state, true)
    else (state.applyKey index true nowMs, true)

def handleMouseMotion (xrel yrel : Int) (nowMs : Nat) : State :=
  if state.config.mouseStick = none ∨ xrel = 0 ∧ yrel = 0 then state
  else {state with
    mouseDx := state.mouseDx + xrel, mouseDy := state.mouseDy + yrel}.startTicking nowMs

def handleMouseButton (button : Nat) (down : Bool) (nowMs : Nat) : State × Bool :=
  match state.findKey ⟨.mouseButton, button⟩ with
  | none => (state, down)
  | some index =>
    if !down then
      if !state.keyPressed index then (state, false) else (state.applyKey index false nowMs, true)
    else if state.keyPressed index then (state, true)
    else (state.applyKey index true nowMs, true)

def setRelease (index releaseMs : Nat) : State := {state with
  keys := state.keys.modify index fun key => {key with releaseMs := releaseMs}}

/-- A notch presses its control for a moment; another notch meanwhile holds it longer. -/
def handleNotch (nowMs : Nat) (wheel : Wheel) : State :=
  match state.findKey ⟨.wheel, wheel.code⟩ with
  | none => state
  | some index =>
    let state := state.setRelease index ((nowMs + kgWheelPulseMs) % 2 ^ 64)
    let state := if state.keyPressed index then state else state.applyKey index true nowMs
    state.startTicking nowMs

def handleMouseWheel (hscroll vscroll : Scroll) (nowMs : Nat) : State :=
  (notches hscroll vscroll).foldl (fun state wheel => state.handleNotch nowMs wheel) state

/-- The binary search of `kg_mouse_to_stick`. -/
def gateScale (vx vy lo hi : Int) : Int :=
  if lo < hi then
    let mid := (lo + hi + 1) / 2
    let sx := (vx * mid).tdiv int16Max
    let sy := (vy * mid).tdiv int16Max
    if sx * sx + sy * sy ≤ int16Max * int16Max then gateScale vx vy mid hi
    else gateScale vx vy lo (mid - 1)
  else lo
termination_by (hi - lo).toNat
decreasing_by all_goals omega

/-- The velocity of the mouse on an axis: `int16Max` at `kgMouseFullPx` each 8 ms at 100%. -/
def mouseVelocity (config : Config) (motion : Int) (elapsedMs : Nat) : Int :=
  let dt := if elapsedMs = 0 then 1 else elapsedMs
  (motion * int16Max * 8 * config.mouseSensitivity.1).tdiv (kgMouseFullPx * 100 * dt)

def clampToGate (vx vy : Int) : Int × Int :=
  if int16Max * int16Max < vx * vx + vy * vy then
    let scale := gateScale vx vy 0 int16Max
    ((vx * scale).tdiv int16Max, (vy * scale).tdiv int16Max)
  else (vx, vy)

def mouseToStick (elapsedMs : Nat) : State :=
  let (vx, vy) := clampToGate (mouseVelocity state.config state.mouseDx elapsedMs)
    (mouseVelocity state.config state.mouseDy elapsedMs)
  {state with mouseX := int16 vx, mouseY := int16 vy, mouseDx := 0, mouseDy := 0}

/-- A tick under way: the state, and whether there is `more` to do. -/
structure Pass where
  state : State
  more : Bool := false

def rampOn (elapsedMs : Nat) (pass : Pass) (stick : GamepadStick) : Pass :=
  let state := pass.state
  let old := state.sticks stick
  if !old.ramping then pass
  else
    let cap := stickCap state.config state.keys
    let magnitude := old.magnitude + rampStep state.config elapsedMs
    if cap ≤ magnitude then
      {pass with state := (state.setStick stick
          {old with magnitude := cap, ramping := false}).sendStick stick}
    else
      { state := (state.setStick stick {old with magnitude := magnitude}).sendStick stick
        more := true}

def releaseNotch (nowMs : Nat) (pass : Pass) (index : Nat) : Pass :=
  match pass.state.keys[index]? with
  | none => pass
  | some key =>
    if key.pressed = 0 ∨ key.source.input ≠ .wheel then pass
    else if key.releaseMs ≤ nowMs then
      {pass with state := pass.state.applyKey index false nowMs}
    else {pass with more := true}

/-- Where the mouse is, at a tick: it stopped if no motion came for a while. -/
def followMouse (elapsedMs nowMs : Nat) : State :=
  if state.mouseDx ≠ 0 ∨ state.mouseDy ≠ 0 then
    {state.mouseToStick elapsedMs with mouseMotionMs := nowMs}
  else if (state.mouseX ≠ 0 ∨ state.mouseY ≠ 0) ∧
      (state.mouseMotionMs + kgMouseHoldMs) % 2 ^ 64 ≤ nowMs then
    {state with mouseX := 0, mouseY := 0}
  else state

def moveMouse (elapsedMs nowMs : Nat) (pass : Pass) : Pass :=
  match pass.state.config.mouseStick with
  | none => pass
  | some stick =>
    let state := pass.state.followMouse elapsedMs nowMs
    { state := state.sendStick stick
      more := pass.more || state.mouseX ≠ 0 || state.mouseY ≠ 0}

def tick (nowMs : Nat) : State × Bool :=
  let elapsedMs := nowMs - state.tickMs
  let pass : Pass := {state := {state with tickMs := nowMs}}
  let pass := [GamepadStick.left, .right].foldl (rampOn elapsedMs) pass
  let pass := (List.range pass.state.keys.length).foldl (releaseNotch nowMs) pass
  let pass := moveMouse elapsedMs nowMs pass
  ({pass.state with ticking := pass.more}, pass.more)

def releaseKeys (chosen : Input → Bool) (nowMs : Nat) : State :=
  (List.range state.keys.length).foldl (fun state index =>
    if state.keys[index]?.any fun key => key.pressed ≠ 0 && chosen key.source.input then
      state.applyKey index false nowMs
    else state) state

def releaseAll : State := state.releaseKeys (fun _ => true) state.tickMs

/-- The motion not sent yet is dropped. -/
def dropMouse : State := {state with mouseDx := 0, mouseDy := 0, mouseX := 0, mouseY := 0}

def releaseMouse (nowMs : Nat) : State :=
  let state := (state.releaseKeys (fun input => input ≠ .key) nowMs).dropMouse
  match state.config.mouseStick with
  | none => state
  | some stick => state.sendStick stick

end State

inductive Call where
  | handleKey (event : KeyboardEvent)
  | handleMouseMotion (xrel yrel : Int) (nowMs : Nat)
  | handleMouseButton (button : Nat) (down : Bool) (nowMs : Nat)
  | handleMouseWheel (hscroll vscroll : Scroll) (nowMs : Nat)
  | tick (nowMs : Nat)
  | releaseAll
  | releaseMouse (nowMs : Nat)

def State.call (state : State) : Call → State
  | .handleKey event => (state.handleKey event).1
  | .handleMouseMotion xrel yrel nowMs => state.handleMouseMotion xrel yrel nowMs
  | .handleMouseButton button down nowMs => (state.handleMouseButton button down nowMs).1
  | .handleMouseWheel hscroll vscroll nowMs => state.handleMouseWheel hscroll vscroll nowMs
  | .tick nowMs => (state.tick nowMs).1
  | .releaseAll => state.releaseAll
  | .releaseMouse nowMs => state.releaseMouse nowMs

def State.calls (state : State) (calls : List Call) : State := calls.foldl State.call state

end Ika.Gamepad
