import Ika.Foundation.Machine

/-! What the guest makes of the events of a multitouch device, and what clients reported.

The guest follows the multitouch slot protocol: `ABS_MT_SLOT` chooses the slot that
the next values are for, and the tracking id -1 lifts its contact.
-/

set_option autoImplicit false

namespace Ika.InputConnector

structure InputEvent where
  type : UInt16
  code : UInt16
  value : Int32

abbrev EV_SYN : UInt16 := 0x00
abbrev EV_KEY : UInt16 := 0x01
abbrev EV_ABS : UInt16 := 0x03
abbrev SYN_REPORT : UInt16 := 0
abbrev BTN_TOUCH : UInt16 := 0x14a
abbrev ABS_MT_SLOT : UInt16 := 0x2f
abbrev ABS_MT_POSITION_X : UInt16 := 0x35
abbrev ABS_MT_POSITION_Y : UInt16 := 0x36
abbrev ABS_MT_TRACKING_ID : UInt16 := 0x39

structure Contact where
  tracking : Int32 := -1
  x : Int32 := 0
  y : Int32 := 0

def Contact.Occupied (contact : Contact) : Prop := contact.tracking ≠ -1
  deriving Decidable

structure Screen where
  slot : Int32 := 0
  slots : Int32 → Contact := fun _ => {}
  touch : Bool := false

namespace Screen

variable (screen : Screen)

def modify (change : Contact → Contact) : Screen :=
  {screen with slots := Function.update screen.slots screen.slot (change (screen.slots screen.slot))}

def apply (event : InputEvent) : Screen :=
  if event.type = EV_KEY ∧ event.code = BTN_TOUCH then {screen with touch := event.value ≠ 0}
  else if event.type = EV_ABS ∧ event.code = ABS_MT_SLOT then {screen with slot := event.value}
  else if event.type = EV_ABS ∧ event.code = ABS_MT_TRACKING_ID then
    screen.modify fun contact => {contact with tracking := event.value}
  else if event.type = EV_ABS ∧ event.code = ABS_MT_POSITION_X then
    screen.modify fun contact => {contact with x := event.value}
  else if event.type = EV_ABS ∧ event.code = ABS_MT_POSITION_Y then
    screen.modify fun contact => {contact with y := event.value}
  else screen

def replay (events : List InputEvent) : Screen := events.foldl apply screen

variable (value : Int32)

@[simp] theorem apply_touch :
    screen.apply ⟨EV_KEY, BTN_TOUCH, value⟩ = {screen with touch := value ≠ 0} := rfl

@[simp] theorem apply_slot :
    screen.apply ⟨EV_ABS, ABS_MT_SLOT, value⟩ = {screen with slot := value} := rfl

@[simp] theorem apply_tracking :
    screen.apply ⟨EV_ABS, ABS_MT_TRACKING_ID, value⟩ =
      screen.modify fun contact => {contact with tracking := value} := rfl

@[simp] theorem apply_x :
    screen.apply ⟨EV_ABS, ABS_MT_POSITION_X, value⟩ =
      screen.modify fun contact => {contact with x := value} := rfl

@[simp] theorem apply_y :
    screen.apply ⟨EV_ABS, ABS_MT_POSITION_Y, value⟩ =
      screen.modify fun contact => {contact with y := value} := rfl

@[simp] theorem apply_report : screen.apply ⟨EV_SYN, SYN_REPORT, value⟩ = screen := rfl

@[simp] theorem replay_nil : screen.replay [] = screen := rfl

@[simp] theorem replay_cons (event : InputEvent) (rest : List InputEvent) :
    screen.replay (event :: rest) = (screen.apply event).replay rest := rfl

@[simp] theorem replay_append (first second : List InputEvent) :
    screen.replay (first ++ second) = (screen.replay first).replay second :=
  List.foldl_append ..

end Screen

abbrev Sink := Nat

structure MultitouchSlot where
  id : Int32
  x : Int32
  y : Int32

/-- The contacts last reported down, each with the sink, the id and the position. -/
abbrev Live := List ((Sink × Int32) × Int32 × Int32)

namespace Live

def report (sink : Sink) (down : Bool) (live : Live) (f : MultitouchSlot) : Live :=
  let others := live.filter (·.1 ≠ (sink, f.id))
  if down then ((sink, f.id), f.x, f.y) :: others else others

def reportAll (sink : Sink) (down : Bool) (live : Live) (slots : List MultitouchSlot) : Live :=
  slots.foldl (report sink down) live

def forget (sink : Sink) (live : Live) : Live := live.filter (·.1.1 ≠ sink)

end Live

/-- The guest sees each live contact in a slot of its own, and nothing else. -/
def Shows (screen : Screen) (live : Live) : Prop :=
  (∃ slotOf : Sink × Int32 → Int32,
    (∀ contact ∈ live, (screen.slots (slotOf contact.1)).Occupied ∧
      (screen.slots (slotOf contact.1)).x = contact.2.1 ∧
      (screen.slots (slotOf contact.1)).y = contact.2.2) ∧
    (∀ one ∈ live, ∀ two ∈ live, slotOf one.1 = slotOf two.1 → one = two) ∧
    ∀ slot, (screen.slots slot).Occupied → ∃ contact ∈ live, slotOf contact.1 = slot) ∧
  (screen.touch = true ↔ live ≠ [])

end Ika.InputConnector

/-! The multitouch device of the input connector and the calls its clients make.

Each access to the shared slots and each write is a step of its own, so calls of
several sinks run among each other as the mutex lets them.
-/

namespace Ika.InputConnector

inductive Source where
  | device
  | sink (sink : Sink)
  deriving DecidableEq, Repr

structure TouchDevice where
  slots_by_source_and_id_ : List ((Source × Int32) × Nat) := []
  active_slots_ : List Bool := []
  tracking_id_ : Int32 := 0

namespace TouchDevice

variable (device : TouchDevice)

def find (source : Source) (id : Int32) : Option Nat :=
  (device.slots_by_source_and_id_.find? fun entry => entry.1 = (source, id)).map Prod.snd

def HasSlot (source : Source) (id : Int32) : Bool := (device.find source id).isSome

/-- The first slot that is not active, or one more. -/
def UseNewSlot : TouchDevice × Nat :=
  match device.active_slots_.findIdx? (· = false) with
  | some slot => ({device with active_slots_ := device.active_slots_.set slot true}, slot)
  | none => ({device with active_slots_ := device.active_slots_ ++ [true]},
      device.active_slots_.length)

def GetOrAcquireSlot (source : Source) (id : Int32) : TouchDevice × Nat :=
  match device.find source id with
  | some slot => (device, slot)
  | none =>
    let (used, slot) := device.UseNewSlot
    ({used with slots_by_source_and_id_ := ((source, id), slot) :: used.slots_by_source_and_id_},
      slot)

def ReleaseSlot (source : Source) (id : Int32) : TouchDevice :=
  match device.find source id with
  | none => device
  | some slot => {device with
      active_slots_ := device.active_slots_.set slot false
      slots_by_source_and_id_ := device.slots_by_source_and_id_.filter (·.1 ≠ (source, id))}

def OnDisconnectedSource (source : Source) : TouchDevice :=
  let gone := device.slots_by_source_and_id_.filter (·.1.1 = source)
  {device with
    active_slots_ := gone.foldl (fun active entry => active.set entry.2 false) device.active_slots_
    slots_by_source_and_id_ := device.slots_by_source_and_id_.filter (·.1.1 ≠ source)}

def NewTrackingId : TouchDevice × Int32 :=
  ({device with tracking_id_ := device.tracking_id_ + 1}, device.tracking_id_ + 1)

end TouchDevice

/-- How far a call has come with the first of the contacts that are left. -/
inductive Stage where
  | next
  | found (is_new_contact : Bool)
  | assigned (is_new_contact : Bool) (this_slot : Nat)

/-- A call of `SendMultiTouchEvent` that has not written its buffer yet. -/
structure Call where
  sink : Sink
  down : Bool
  done : List MultitouchSlot := []
  rest : List MultitouchSlot
  stage : Stage := .next
  buffer : List InputEvent := []

def Call.slots (call : Call) : List MultitouchSlot := call.done ++ call.rest

def Call.ids (call : Call) : List Int32 := call.slots.map MultitouchSlot.id

/-- The events of one contact; a tracking id comes with a new contact that is down. -/
def contactEvents (f : MultitouchSlot) (down : Bool) (this_slot : Nat) (tracking : Option Int32) :
    List InputEvent :=
  (if tracking.isSome then [⟨EV_KEY, BTN_TOUCH, 1⟩] else []) ++
    (⟨EV_ABS, ABS_MT_SLOT, Int32.ofNat this_slot⟩ ::
      if down then
        (match tracking with
          | some id => [⟨EV_ABS, ABS_MT_TRACKING_ID, id⟩]
          | none => []) ++
        [⟨EV_ABS, ABS_MT_POSITION_X, f.x⟩, ⟨EV_ABS, ABS_MT_POSITION_Y, f.y⟩]
      else [⟨EV_ABS, ABS_MT_TRACKING_ID, -1⟩, ⟨EV_KEY, BTN_TOUCH, 0⟩])

def Call.emit (call : Call) (f : MultitouchSlot) (rest : List MultitouchSlot) (this_slot : Nat)
    (tracking : Option Int32) : Call :=
  let buffer := call.buffer ++ contactEvents f call.down this_slot tracking
  {call with done := call.done ++ [f], rest, stage := .next, buffer}

/-- The next step of the loop over the contacts. -/
def SendMultiTouchEvent (device : TouchDevice) (call : Call) : Option (TouchDevice × Call) :=
  match call.rest with
  | [] => none
  | f :: rest =>
    match call.stage with
    | .next =>
      -- the source is the device itself, whichever sink the call came from
      some (device, {call with stage := .found !device.HasSlot .device f.id})
    | .found is_new_contact =>
      let (after, this_slot) := device.GetOrAcquireSlot .device f.id
      some (after, {call with stage := .assigned is_new_contact this_slot})
    | .assigned is_new_contact this_slot =>
      if call.down then
        if is_new_contact then
          let (after, tracking) := device.NewTrackingId
          some (after, call.emit f rest this_slot (some tracking))
        else some (device, call.emit f rest this_slot none)
      else some (device.ReleaseSlot .device f.id, call.emit f rest this_slot none)

structure State where
  device : TouchDevice := {}
  sinks : List Sink := []
  calls : List Call := []
  written : List InputEvent := []
  live : Live := []

inductive Event where
  | createSink (sink : Sink)
  | send (sink : Sink) (slots : List MultitouchSlot) (down : Bool)
  | advance (index : Nat)
  | write (index : Nat)
  | destroySink (sink : Sink)

namespace State

variable (state : State)

def createSink (sink : Sink) : Option State :=
  if sink ∈ state.sinks then none else some {state with sinks := sink :: state.sinks}

def send (sink : Sink) (slots : List MultitouchSlot) (down : Bool) : Option State :=
  if sink ∈ state.sinks then
    some {state with calls := {sink, down, rest := slots} :: state.calls}
  else none

def advance (index : Nat) : Option State := do
  let call ← state.calls[index]?
  let (device, moved) ← SendMultiTouchEvent state.device call
  some {state with device, calls := state.calls.set index moved}

def write (index : Nat) : Option State := do
  let call ← state.calls[index]?
  if call.rest = [] then
    some {state with
      calls := state.calls.eraseIdx index
      written := state.written ++ (call.buffer ++ [⟨EV_SYN, SYN_REPORT, 0⟩])
      live := state.live.reportAll call.sink call.down call.slots}
  else none

/-- The owner of a sink destroys it when no call through it is left. -/
def destroySink (sink : Sink) : Option State :=
  if sink ∈ state.sinks ∧ ∀ call ∈ state.calls, call.sink ≠ sink then
    some {state with
      device := state.device.OnDisconnectedSource (.sink sink)
      sinks := state.sinks.filter (· ≠ sink)
      live := state.live.forget sink}
  else none

def step : Event → Option State
  | .createSink sink => state.createSink sink
  | .send sink slots down => state.send sink slots down
  | .advance index => state.advance index
  | .write index => state.write index
  | .destroySink sink => state.destroySink sink

def screen : Screen := Screen.replay {} state.written

end State

def machine : Transition.Machine State Event where
  init state := state = {}
  step := State.step

end Ika.InputConnector
