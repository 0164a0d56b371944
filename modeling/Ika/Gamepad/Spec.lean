import Ika.Foundation.Splitting

/-! The gamepad of the device and the events of `trait/gamepad_processor.h` that move it.

Every event here is for the gamepad of id `SC_KEYBOARD_GAMEPAD_ID`.
-/

set_option autoImplicit false

namespace Ika.Gamepad

inductive GamepadButton where
  | south | east | west | north | back | guide | start | leftStick | rightStick
  | leftShoulder | rightShoulder | dpadUp | dpadDown | dpadLeft | dpadRight
  deriving DecidableEq, Repr

def GamepadButton.onDpad : GamepadButton → Bool
  | .dpadUp | .dpadDown | .dpadLeft | .dpadRight => true
  | _ => false

inductive GamepadStick where
  | left | right
  deriving DecidableEq, Repr

inductive GamepadAxis where
  | leftx | lefty | rightx | righty | leftTrigger | rightTrigger
  deriving DecidableEq, Repr

def GamepadAxis.isTrigger : GamepadAxis → Bool
  | .leftTrigger | .rightTrigger => true
  | _ => false

namespace GamepadStick

def axisX : GamepadStick → GamepadAxis
  | .left => .leftx
  | .right => .rightx

def axisY : GamepadStick → GamepadAxis
  | .left => .lefty
  | .right => .righty

variable (stick other : GamepadStick)

@[simp] theorem axisX_ne_axisY : stick.axisX ≠ other.axisY := by
  cases stick <;> cases other <;> decide

@[simp] theorem axisY_ne_axisX : stick.axisY ≠ other.axisX := (axisX_ne_axisY _ _).symm

@[simp] theorem axisX_inj : stick.axisX = other.axisX ↔ stick = other := by
  cases stick <;> cases other <;> decide

@[simp] theorem axisY_inj : stick.axisY = other.axisY ↔ stick = other := by
  cases stick <;> cases other <;> decide

@[simp] theorem axisX_isTrigger : stick.axisX.isTrigger = false := by cases stick <;> rfl

@[simp] theorem axisY_isTrigger : stick.axisY.isTrigger = false := by cases stick <;> rfl

instance (test : GamepadStick → Prop) [DecidablePred test] : Decidable (∃ stick, test stick) :=
  decidable_of_iff (test .left ∨ test .right)
    ⟨fun either => either.elim (fun is => ⟨_, is⟩) fun is => ⟨_, is⟩,
      fun ⟨which, is⟩ => match which with | .left => .inl is | .right => .inr is⟩

instance (test : GamepadStick → Prop) [DecidablePred test] : Decidable (∀ stick, test stick) :=
  decidable_of_iff (test .left ∧ test .right)
    ⟨fun both which => match which with | .left => both.1 | .right => both.2,
      fun all => ⟨all _, all _⟩⟩

end GamepadStick

/-- An axis value is an `int16_t`. -/
inductive Event where
  | button (button : GamepadButton) (down : Bool)
  | axis (axis : GamepadAxis) (value : Int)
  | stick (stick : GamepadStick) (x y : Int)

structure Device where
  button : GamepadButton → Bool := fun _ => false
  axis : GamepadAxis → Int := fun _ => 0

namespace Device

variable (device : Device)

def apply : Event → Device
  | .button button down => {device with button := Function.update device.button button down}
  | .axis axis value => {device with axis := Function.update device.axis axis value}
  | .stick stick x y => {device with
      axis := Function.update (Function.update device.axis stick.axisX x) stick.axisY y}

def Unopposed : Prop :=
  (device.button .dpadUp && device.button .dpadDown) = false ∧
  (device.button .dpadLeft && device.button .dpadRight) = false
  deriving Decidable

def Changes : Event → Prop
  | .button button down => device.button button ≠ down
  | _ => True

/-- Events that repeat no button's state, after each of which the D-pad is unopposed. -/
def Tidy : Device → List Event → Prop
  | _, [] => True
  | device, event :: rest =>
    device.Changes event ∧ (device.apply event).Unopposed ∧ Tidy (device.apply event) rest

theorem tidy_append (events later : List Event) :
    Tidy device (events ++ later) ↔
      Tidy device events ∧ Tidy (events.foldl apply device) later := by
  induction events generalizing device with
  | nil => simp [Tidy]
  | cons event rest ih => simp [Tidy, ih, and_assoc]

end Device

/-- A gamepad processor, as the events it was given, the oldest first. -/
structure GamepadProcessor where
  takesStick : Bool
  events : List Event := []

namespace GamepadProcessor

variable (gp : GamepadProcessor)

def send (event : Event) : GamepadProcessor := {gp with events := gp.events ++ [event]}

def device : Device := gp.events.foldl Device.apply {}

def Tidy : Prop := Device.Tidy {} gp.events

@[simp] theorem device_send (event : Event) : (gp.send event).device = gp.device.apply event := by
  simp [send, device]

theorem tidy_send {event : Event} (tidy : gp.Tidy) (changes : gp.device.Changes event)
    (unopposed : (gp.device.apply event).Unopposed) : (gp.send event).Tidy := by
  apply (Device.tidy_append _ _ _).mpr
  exact ⟨tidy, changes, unopposed, trivial⟩

end GamepadProcessor

end Ika.Gamepad

/-! The spec of `--gamekb`, as `keyboard_gamepad.c` parses it.

A C string is the list of its characters, one for each byte. What is skipped is
reported in the log there, which nothing reads.
-/

namespace Ika.Gamepad

open List

abbrev CString := List Char

/-- What is called of SDL; scancode 0 is `SDL_SCANCODE_UNKNOWN`. -/
structure Sdl where
  strcasecmp : CString → CString → Int
  getScancodeFromName : CString → Nat

inductive Pad where
  | dpad
  | stick (stick : GamepadStick)
  deriving DecidableEq, Repr

/-- Left or up, right or down: the `-1` and `1` of a direction's `sign`. -/
inductive Sign where
  | negative | positive
  deriving DecidableEq, Repr

inductive Control where
  | button (button : GamepadButton) (apart : button.onDpad = false := by rfl)
  | trigger (axis : GamepadAxis) (trigger : axis.isTrigger = true := by rfl)
  | direction (pad : Pad) (vertical : Bool) (sign : Sign)
  | walk
  deriving DecidableEq, Repr

def kgControls : List (String × Control) := [
  ("left_stick_up", .direction (.stick .left) true .negative),
  ("left_stick_down", .direction (.stick .left) true .positive),
  ("left_stick_left", .direction (.stick .left) false .negative),
  ("left_stick_right", .direction (.stick .left) false .positive),
  ("dpad_up", .direction .dpad true .negative),
  ("dpad_down", .direction .dpad true .positive),
  ("dpad_left", .direction .dpad false .negative),
  ("dpad_right", .direction .dpad false .positive),
  ("right_stick_up", .direction (.stick .right) true .negative),
  ("right_stick_down", .direction (.stick .right) true .positive),
  ("right_stick_left", .direction (.stick .right) false .negative),
  ("right_stick_right", .direction (.stick .right) false .positive),
  ("a", .button .south),
  ("b", .button .east),
  ("x", .button .west),
  ("y", .button .north),
  ("start", .button .start),
  ("back", .button .back),
  ("guide", .button .guide),
  ("left_shoulder", .button .leftShoulder),
  ("right_shoulder", .button .rightShoulder),
  ("left_stick", .button .leftStick),
  ("right_stick", .button .rightStick),
  ("left_trigger", .trigger .leftTrigger),
  ("right_trigger", .trigger .rightTrigger),
  ("walk", .walk)]

def findControl (name : CString) : Option Control :=
  (kgControls.find? fun control => control.1.toList = name).map (·.2)

inductive Input where
  | key | mouseButton | wheel
  deriving DecidableEq, Repr

inductive Wheel where
  | up | down | left | right

/-- The value of `enum sc_keyboard_gamepad_wheel`. -/
def Wheel.code : Wheel → Nat
  | .up => 0
  | .down => 1
  | .left => 2
  | .right => 3

structure Source where
  input : Input
  code : Nat
  deriving DecidableEq, Repr

/-- The codes of the buttons are the masks of `enum sc_mouse_button`. -/
def kgMouseInputs : List (String × Source) := [
  ("mouse left", ⟨.mouseButton, 1⟩),
  ("mouse right", ⟨.mouseButton, 4⟩),
  ("mouse middle", ⟨.mouseButton, 2⟩),
  ("mouse x1", ⟨.mouseButton, 8⟩),
  ("mouse x2", ⟨.mouseButton, 16⟩),
  ("wheel up", ⟨.wheel, Wheel.up.code⟩),
  ("wheel down", ⟨.wheel, Wheel.down.code⟩),
  ("wheel left", ⟨.wheel, Wheel.left.code⟩),
  ("wheel right", ⟨.wheel, Wheel.right.code⟩)]

def parseInput (sdl : Sdl) (name : CString) : Option Source :=
  if name = [] ∨ 32 ≤ name.length then none
  else
    let buf := name.map fun c => if c = '_' then ' ' else c
    match kgMouseInputs.find? fun known => sdl.strcasecmp buf known.1.toList = 0 with
    | some known => some known.2
    | none =>
      let scancode := sdl.getScancodeFromName buf
      if scancode = 0 then none else some ⟨.key, scancode⟩

structure Binding where
  source : Source
  control : Control

def kgMaxKeys : Nat := 64

structure Bindings where
  list : List Binding := []
  distinct : (list.map (·.source)).Nodup := by simp
  few : list.length ≤ kgMaxKeys := by decide

/-- A key used already, or one too many, is ignored. -/
def Bindings.add (bindings : Bindings) (new : Binding) : Bindings :=
  if used : new.source ∈ bindings.list.map (·.source) then bindings
  else if full : bindings.list.length = kgMaxKeys then bindings
  else
    { list := bindings.list ++ [new]
      distinct := by
        rw [map_append, nodup_append]
        exact ⟨bindings.distinct, by simp, by
          rintro source mem _ last rfl
          have : source = new.source := by simpa using last
          exact used (this ▸ mem)⟩
      few := by
        have := bindings.few
        rw [length_append, length_singleton]
        omega}

/-- A number of the spec within its bounds. -/
abbrev Bounded (min max : Nat) := {n : Nat // min ≤ n ∧ n ≤ max}

/-- At most nine digits, so that the number fits `uint32_t`. -/
def parseNumber (value : CString) (min max : Nat) : Option (Bounded min max) :=
  if value = [] ∨ 9 < value.length then none
  else if value.all Char.isDigit then
    let n := value.foldl (fun n digit => n * 10 + (digit.toNat - '0'.toNat)) 0
    if within : min ≤ n ∧ n ≤ max then some ⟨n, within⟩ else none
  else none

inductive Socd where
  | last | neutral
  deriving DecidableEq, Repr

def parseSocd (value : CString) : Option Socd :=
  if value = "last".toList then some .last
  else if value = "neutral".toList then some .neutral
  else none

def kgMaxRampMs : Nat := 5000

/-- What the spec of a keyboard gamepad says. -/
structure Config where
  bindings : Bindings := {}
  rampMs : Bounded 0 kgMaxRampMs := ⟨0, by decide⟩
  walkPercent : Bounded 1 100 := ⟨50, by decide⟩
  socd : Pad → Socd := fun _ => .last
  mouseStick : Option GamepadStick := none
  mouseSensitivity : Bounded 1 1000 := ⟨100, by decide⟩

namespace Config

variable (sdl : Sdl) (config : Config)

def addKey (control : Control) (name : CString) : Config :=
  match parseInput sdl name with
  | none => config
  | some source => {config with bindings := config.bindings.add ⟨source, control⟩}

def padSettings : List (String × Pad) := [
  ("socd_dpad", .dpad),
  ("socd_left_stick", .stick .left),
  ("socd_right_stick", .stick .right)]

/-- `none` if no setting has that name; a bad value leaves a setting as it was. -/
def parseSetting (name value : CString) : Option Config :=
  if name = "ramp_ms".toList then
    some {config with rampMs := (parseNumber value 0 kgMaxRampMs).getD config.rampMs}
  else if name = "walk_percent".toList then
    some {config with walkPercent := (parseNumber value 1 100).getD config.walkPercent}
  else if name = "mouse_stick".toList then
    some {config with
      mouseStick :=
        if value = "off".toList then none
        else if value = "right".toList then some .right
        else if value = "left".toList then some .left
        else config.mouseStick}
  else if name = "mouse_sensitivity".toList then
    some {config with
      mouseSensitivity := (parseNumber value 1 1000).getD config.mouseSensitivity}
  else if name = "socd".toList then
    some {config with socd := ((parseSocd value).map fun socd _ => socd).getD config.socd}
  else
    (padSettings.find? fun setting => setting.1.toList = name).map fun setting =>
      {config with
        socd := ((parseSocd value).map (Function.update config.socd setting.2)).getD config.socd}

/-- `control=key/key` or `setting=value`. -/
def parseItem (item : CString) : Config :=
  let name := item.takeWhile (· ≠ '=')
  match item.dropWhile (· ≠ '=') with
  | [] => config
  | _ :: value =>
    match findControl name with
    | some control =>
      ((value.splitOn '/').filter (· ≠ [])).foldl (fun config key => config.addKey sdl control key)
        config
    | none => (config.parseSetting name value).getD config

def parseSpec (spec : CString) : Config :=
  (spec.splitOn ',').foldl (fun config item => config.parseItem sdl item) config

def defaultSpec : CString :=
  ("left_stick_up=W,left_stick_down=S,left_stick_left=A,left_stick_right=D,dpad_up=Up," ++
    "dpad_down=Down,dpad_left=Left,dpad_right=Right,right_stick_up=I,right_stick_down=K," ++
    "right_stick_left=J,right_stick_right=L,a=Space,b=Escape,x=C,y=V," ++
    "start=Return/Keypad_Enter,back=Backspace,left_shoulder=Q,right_shoulder=E," ++
    "left_stick=Left_Shift,right_stick=F,left_trigger=Z,right_trigger=X,walk=Tab").toList

def ofSpec (spec : Option CString) : Config :=
  match spec with
  | none | some [] => parseSpec sdl {} defaultSpec
  | some spec => parseSpec sdl {} spec

def scanKeys (control : Control) (keys : CString) : Config :=
  Splitting.walk '/' (fun config key => if key = [] then config else config.addKey sdl control key)
    config keys

def scanItem (item : CString) : Config :=
  let name := item.takeWhile (· ≠ '=')
  match item.drop name.length with
  | [] => config
  | _ :: value =>
    match findControl name with
    | some control => config.scanKeys sdl control value
    | none => (config.parseSetting name value).getD config

def scanSpec (spec : CString) : Config :=
  Splitting.walk ',' (fun config item => config.scanItem sdl item) config spec

/-- As `ofSpec`, by the loops of `kg_parse_spec`. -/
def ofScan (spec : Option CString) : Config :=
  match spec with
  | none | some [] => scanSpec sdl {} defaultSpec
  | some spec => scanSpec sdl {} spec

end Config

end Ika.Gamepad
