import Ika.EmulatedCamera.Frames

/-! The controls of the emulated camera: how they are set, one by one and together, who is told
of a change, and what the capture threads of the sessions have of them.
-/

set_option autoImplicit false

namespace Ika.EmulatedCamera

open Transition Function Option

inductive CtrlErrno where
  | EACCES
  | EINVAL
  | ERANGE

inductive LensFacing where
  | Front
  | Back
  | External
  deriving DecidableEq, Repr

def LensFacing.toInt : LensFacing → Int
  | .Front => 0
  | .Back => 1
  | .External => 2

structure Gain where
  value : Int
  bounds : 100 ≤ value ∧ value ≤ 1600
  deriving DecidableEq, Repr

namespace Gain

def MIN : Int := 100
def MAX : Int := 1600
def DEFAULT : Int := 100

def new (value : Int) : Except CtrlErrno Gain :=
  if bounds : 100 ≤ value ∧ value ≤ 1600 then .ok ⟨value, bounds⟩ else .error .ERANGE

end Gain

namespace TestPattern

def toInt : TestPattern → Int
  | .Pulse => 0
  | .SmpteBars => 1
  | .JuliaSet => 2

def MIN : Int := 0
def MAX : Int := 2
def DEFAULT : TestPattern := .Pulse

def try_from (value : Int) : Except CtrlErrno TestPattern :=
  if value = 0 then .ok .Pulse
  else if value = 1 then .ok .SmpteBars
  else if value = 2 then .ok .JuliaSet
  else .error .ERANGE

end TestPattern

structure CameraControls where
  lens_facing : LensFacing
  gain : Gain := ⟨Gain.DEFAULT, by decide⟩
  test_pattern : TestPattern := .DEFAULT
  deriving DecidableEq, Repr

def V4L2_CID_USER_CLASS : Nat := 0x00980001
def V4L2_CID_GAIN : Nat := 0x00980913
def V4L2_CID_CAMERA_CLASS : Nat := 0x009a0001
def CID_LENS_FACING : Nat := 0x009a0900 + 0x100 + 1
def V4L2_CID_IMAGE_PROC_CLASS : Nat := 0x009f0001
def V4L2_CID_TEST_PATTERN : Nat := 0x009f0903

def classHeaders : List Nat :=
  [V4L2_CID_USER_CLASS, V4L2_CID_CAMERA_CLASS, V4L2_CID_IMAGE_PROC_CLASS]

def v4l2_ctrl_id2which (id : Nat) : Nat := id &&& 0x0fff0000

def controlClasses : List Nat := [0x00980000, 0x009a0000, 0x009f0000]

inductive CtrlType where
  | INTEGER
  | MENU

/-- A change of the value of a control. -/
structure CtrlEvent where
  id : Nat
  type : CtrlType
  value : Int
  minimum : Int
  maximum : Int
  step : Int
  default_value : Int

def ctrl_event (controls : CameraControls) (id : Nat) : Except CtrlErrno CtrlEvent :=
  if id = CID_LENS_FACING then
    .ok ⟨id, .INTEGER, controls.lens_facing.toInt, LensFacing.Front.toInt,
      LensFacing.External.toInt, 1, LensFacing.Front.toInt⟩
  else if id = V4L2_CID_GAIN then
    .ok ⟨id, .INTEGER, controls.gain.value, Gain.MIN, Gain.MAX, 1, Gain.DEFAULT⟩
  else if id = V4L2_CID_TEST_PATTERN then
    .ok ⟨id, .MENU, controls.test_pattern.toInt, TestPattern.MIN, TestPattern.MAX, 1,
      TestPattern.DEFAULT.toInt⟩
  else .error .EINVAL

structure ControlChannel where
  controls : CameraControls
  cmds : List CameraControls := []

def ControlChannel.caughtUp (channel : ControlChannel) : CameraControls :=
  channel.cmds.getLastD channel.controls

structure ControlDevice where
  controls : CameraControls
  sessions : Nat → Option ControlChannel := fun _ => none
  events : List (Nat × CtrlEvent) := []

inductive CtrlWhich where
  | Current
  | Default
  | Request
  | Class (class_id : Nat)

structure ExtControl where
  id : Nat
  value : Int

namespace ControlDevice

variable (device : ControlDevice)

def send_event (session_id : Nat) (event : CtrlEvent) : ControlDevice :=
  {device with events := device.events ++ [(session_id, event)]}

def set_controls (session_id : Nat) : ControlDevice :=
  let told := (device.sessions session_id).map fun channel =>
    {channel with cmds := channel.cmds ++ [device.controls]}
  -- No other session is told.
  {device with sessions := update device.sessions session_id told}

def set_test_pattern (session_id : Nat) (pattern : TestPattern) :
    ControlDevice × Except CtrlErrno Unit :=
  if device.controls.test_pattern = pattern then (device, .ok ())
  else
    let set := {device with controls := {device.controls with test_pattern := pattern}}
    match ctrl_event set.controls V4L2_CID_TEST_PATTERN with
    | .error e => (set, .error e)
    | .ok event => (set.send_event session_id event, .ok ())

def g_ctrl (id : Nat) : Except CtrlErrno Int :=
  if id = CID_LENS_FACING then .ok device.controls.lens_facing.toInt
  else if id = V4L2_CID_GAIN then .ok device.controls.gain.value
  else if id = V4L2_CID_TEST_PATTERN then .ok device.controls.test_pattern.toInt
  else if id ∈ classHeaders then .error .EACCES
  else .error .EINVAL

def s_ctrl (session_id id : Nat) (value : Int) : ControlDevice × Except CtrlErrno Int :=
  if id = CID_LENS_FACING ∨ id ∈ classHeaders then (device, .error .EACCES)
  else if id = V4L2_CID_GAIN then
    match Gain.new value with
    | .error e => (device, .error e)
    | .ok gain =>
      if device.controls.gain = gain then (device, .ok gain.value)
      else
        let set := {device with controls := {device.controls with gain}}
        match ctrl_event set.controls V4L2_CID_GAIN with
        | .error e => (set, .error e)
        | .ok event => ((set.send_event session_id event).set_controls session_id, .ok gain.value)
  else if id = V4L2_CID_TEST_PATTERN then
    match TestPattern.try_from value with
    | .error e => (device, .error e)
    | .ok pattern =>
      match device.set_test_pattern session_id pattern with
      | (set, .error e) => (set, .error e)
      | (set, .ok ()) => (set.set_controls session_id, .ok pattern.toInt)
  else (device, .error .EINVAL)

/-- The index of the error, or the number of controls, comes with the result. -/
def try_values (count : Nat) : Nat → List ExtControl → Nat × Except CtrlErrno Unit
  | _, [] => (count, .ok ())
  | idx, ctrl :: rest =>
    if ctrl.id ∈ classHeaders ∨ ctrl.id = CID_LENS_FACING then (idx, .error .EACCES)
    else if ctrl.id = V4L2_CID_GAIN then
      match Gain.new ctrl.value with
      | .error e => (idx, .error e)
      | .ok _ => try_values count (idx + 1) rest
    else if ctrl.id = V4L2_CID_TEST_PATTERN then
      match TestPattern.try_from ctrl.value with
      | .error e => (idx, .error e)
      | .ok _ => try_values count (idx + 1) rest
    else (idx, .error .EINVAL)

def try_ext_ctrls (which : CtrlWhich) (count : Nat) (ctrl_array : List ExtControl) :
    Nat × Except CtrlErrno Unit :=
  match which with
  | .Current => try_values count 0 ctrl_array
  | .Class class_id =>
    if class_id ∉ controlClasses then (count, .error .EINVAL)
    else
      match ctrl_array.findIdx? fun ctrl => v4l2_ctrl_id2which ctrl.id ≠ class_id with
      | some idx => (idx, .error .EINVAL)
      | none => try_values count 0 ctrl_array
  | _ => (count, .error .EINVAL)

def apply_ext_ctrl (session_id : Nat) (ctrl : ExtControl) : ControlDevice × Except CtrlErrno Unit :=
  if ctrl.id = V4L2_CID_GAIN then
    match Gain.new ctrl.value with
    | .error _ => (device, .ok ())
    | .ok gain =>
      if device.controls.gain = gain then (device, .ok ())
      else
        let set := {device with controls := {device.controls with gain}}
        match ctrl_event set.controls V4L2_CID_GAIN with
        | .error _ => (set, .ok ())
        | .ok event => (set.send_event session_id event, .ok ())
  else if ctrl.id = V4L2_CID_TEST_PATTERN then
    match TestPattern.try_from ctrl.value with
    | .error _ => (device, .ok ())
    | .ok pattern => device.set_test_pattern session_id pattern
  else (device, .ok ())

def apply_ext_ctrls (session_id : Nat) (device : ControlDevice) :
    List ExtControl → ControlDevice × Except CtrlErrno Unit
  | [] => (device.set_controls session_id, .ok ())
  | ctrl :: rest =>
    match device.apply_ext_ctrl session_id ctrl with
    | (set, .error e) => (set, .error e)
    | (set, .ok ()) => set.apply_ext_ctrls session_id rest

def s_ext_ctrls (session_id : Nat) (which : CtrlWhich) (count : Nat)
    (ctrl_array : List ExtControl) : ControlDevice × Nat × Except CtrlErrno Unit :=
  match try_ext_ctrls which count ctrl_array with
  | (_, .error e) => (device, count, .error e)
  | (_, .ok ()) => (device.apply_ext_ctrls session_id ctrl_array).map id (count, ·)

def new_session (session_id : Nat) : ControlDevice :=
  {device with
    sessions := update device.sessions session_id (some ⟨device.controls, []⟩)}

def close_session (session_id : Nat) : ControlDevice :=
  {device with sessions := update device.sessions session_id none}

end ControlDevice

/-! ## Calls of the sessions -/

inductive ControlCall where
  | new_session (session_id : Nat)
  | close_session (session_id : Nat)
  | s_ctrl (session_id : Nat) (ctrl : ExtControl)
  | s_ext_ctrls (session_id : Nat) (which : CtrlWhich) (count : Nat) (ctrl_array : List ExtControl)
  | try_ext_ctrls (session_id : Nat) (which : CtrlWhich) (count : Nat)
      (ctrl_array : List ExtControl)
  | command (session_id : Nat)

def ControlCall.settings : ControlCall → List (Nat × ExtControl)
  | .s_ctrl session_id ctrl => [(session_id, ctrl)]
  | .s_ext_ctrls session_id _ _ ctrl_array => ctrl_array.map (session_id, ·)
  | _ => []

/-- What a call leaves, and whether it succeeds. -/
def ControlDevice.called (device : ControlDevice) : ControlCall → Option (ControlDevice × Bool)
  | .new_session session_id =>
    if device.sessions session_id = none then some (device.new_session session_id, true) else none
  | .close_session session_id =>
    (device.sessions session_id).map fun _ => (device.close_session session_id, true)
  | .s_ctrl session_id ctrl =>
    (device.sessions session_id).map fun _ =>
      (device.s_ctrl session_id ctrl.id ctrl.value).map id Except.isOk
  | .s_ext_ctrls session_id which count ctrl_array =>
    (device.sessions session_id).map fun _ =>
      (device.s_ext_ctrls session_id which count ctrl_array).map id (·.2.isOk)
  | .try_ext_ctrls session_id which count ctrl_array =>
    (device.sessions session_id).map fun _ =>
      (device, (ControlDevice.try_ext_ctrls which count ctrl_array).2.isOk)
  | .command session_id =>
    (device.sessions session_id).bind fun channel =>
      match channel.cmds with
      | [] => none
      | controls :: cmds =>
        some ({device with
          sessions := update device.sessions session_id (some ⟨controls, cmds⟩)}, true)

structure ControlRun where
  device : ControlDevice
  settings : List (Nat × ExtControl) := []

def ControlRun.step (run : ControlRun) (call : ControlCall) : Option ControlRun :=
  (run.device.called call).map fun (device, succeeded) =>
    ⟨device, if succeeded then run.settings ++ call.settings else run.settings⟩

def ControlRun.machine (lens_facing : LensFacing) : Machine ControlRun ControlCall where
  init run := run = ⟨{controls := {lens_facing}}, []⟩
  step := ControlRun.step

/-! ## The controls as a store of values -/

/-- The values of the controls, by their ids. -/
abbrev ControlValues := Nat → Int

def CameraControls.values (controls : CameraControls) : ControlValues := fun id =>
  if id = CID_LENS_FACING then controls.lens_facing.toInt
  else if id = V4L2_CID_GAIN then controls.gain.value
  else if id = V4L2_CID_TEST_PATTERN then controls.test_pattern.toInt
  else 0

namespace ControlValues

def after (values : ControlValues) (settings : List (Nat × ExtControl)) : ControlValues :=
  settings.foldl (fun values setting => update values setting.2.id setting.2.value) values

def changes (values : ControlValues) : List (Nat × ExtControl) → List (Nat × ExtControl)
  | [] => []
  | setting :: rest =>
    if values setting.2.id = setting.2.value then changes values rest
    else setting :: changes (update values setting.2.id setting.2.value) rest

end ControlValues

def CtrlEvent.setting (event : CtrlEvent) : ExtControl := ⟨event.id, event.value⟩

namespace ControlDevice

def Synced (device : ControlDevice) : Prop :=
  ∀ session_id channel, device.sessions session_id = some channel →
    channel.caughtUp = device.controls

def setEach (device : ControlDevice) (session_id : Nat) : List ExtControl → ControlDevice :=
  List.foldl (fun device ctrl => (device.s_ctrl session_id ctrl.id ctrl.value).1) device

structure Atomic (device : ControlDevice) (call : ControlCall) (result : ControlDevice × Bool) :
    Prop where
  refused : result.2 = false → result.1 = device
  together : ∀ session_id which count ctrl_array,
    call = .s_ext_ctrls session_id which count ctrl_array → result.2 →
      result.1.controls = (device.setEach session_id ctrl_array).controls ∧
      result.1.events = (device.setEach session_id ctrl_array).events
  tried : ∀ session_id which count ctrl_array,
    call = .try_ext_ctrls session_id which count ctrl_array →
      (result.2 ↔ (device.s_ext_ctrls session_id which count ctrl_array).2.2.isOk)

end ControlDevice

/-- The values read are those last set, each change sent one event, and the threads are in step. -/
structure ControlRun.Correct (lens_facing : LensFacing) (run : ControlRun) : Prop where
  read : ∀ id ∈ [CID_LENS_FACING, V4L2_CID_GAIN, V4L2_CID_TEST_PATTERN],
    run.device.g_ctrl id = .ok (({lens_facing : CameraControls}.values.after run.settings) id)
  notified : run.device.events.map (Prod.map id CtrlEvent.setting) =
    {lens_facing : CameraControls}.values.changes run.settings
  synced : run.device.Synced

/-! ## What the code accepts -/

inductive Settable : ExtControl → Prop where
  | gain (gain : Gain) : Settable ⟨V4L2_CID_GAIN, gain.value⟩
  | pattern (pattern : TestPattern) : Settable ⟨V4L2_CID_TEST_PATTERN, pattern.toInt⟩

namespace ControlCall

def session_id : ControlCall → Nat
  | .new_session session_id => session_id
  | .close_session session_id => session_id
  | .s_ctrl session_id _ => session_id
  | .s_ext_ctrls session_id _ _ _ => session_id
  | .try_ext_ctrls session_id _ _ _ => session_id
  | .command session_id => session_id

def Accepted : ControlCall → Prop
  | .s_ctrl _ ctrl => Settable ctrl
  | .s_ext_ctrls _ which count ctrl_array
  | .try_ext_ctrls _ which count ctrl_array =>
    (ControlDevice.try_ext_ctrls which count ctrl_array).2.isOk
  | _ => True

end ControlCall

/-- A call that is accepted either leaves the values as they are, or no other session is open. -/
def ControlRun.Alone (run : ControlRun) (call : ControlCall) : Prop :=
  call.Accepted →
    run.device.controls.values.after call.settings = run.device.controls.values ∨
    ∀ other ≠ call.session_id, run.device.sessions other = none

/-! ## One setting -/

theorem Gain.new_value (gain : Gain) : Gain.new gain.value = .ok gain := dif_pos gain.bounds

variable {value : Int}

theorem Gain.value_of_new {gain : Gain} (made : Gain.new value = .ok gain) :
    gain.value = value := by
  unfold Gain.new at made
  split at made <;> cases made
  rfl

theorem TestPattern.try_from_toInt (pattern : TestPattern) :
    TestPattern.try_from pattern.toInt = .ok pattern := by
  cases pattern <;> rfl

theorem TestPattern.toInt_of_try_from {pattern : TestPattern}
    (made : TestPattern.try_from value = .ok pattern) : pattern.toInt = value := by
  unfold TestPattern.try_from at made
  split_ifs at made <;> cases made <;> simp_all [TestPattern.toInt]

theorem TestPattern.toInt_injective : Function.Injective TestPattern.toInt := by
  intro pattern other same
  have := TestPattern.try_from_toInt pattern
  rw [same, TestPattern.try_from_toInt] at this
  cases this
  rfl

theorem LensFacing.toInt_injective : Function.Injective LensFacing.toInt := by
  intro facing other same
  cases facing <;> cases other <;> first | rfl | cases same

namespace CameraControls

variable (controls : CameraControls)

def put (ctrl : ExtControl) : CameraControls :=
  if ctrl.id = V4L2_CID_GAIN then
    match Gain.new ctrl.value with
    | .ok gain => {controls with gain}
    | .error _ => controls
  else
    match TestPattern.try_from ctrl.value with
    | .ok test_pattern => {controls with test_pattern}
    | .error _ => controls

@[simp] theorem put_gain (gain : Gain) :
    controls.put ⟨V4L2_CID_GAIN, gain.value⟩ = {controls with gain} := by
  simp [put, Gain.new_value]

@[simp] theorem put_pattern (pattern : TestPattern) :
    controls.put ⟨V4L2_CID_TEST_PATTERN, pattern.toInt⟩ =
      {controls with test_pattern := pattern} := by
  have : V4L2_CID_TEST_PATTERN ≠ V4L2_CID_GAIN := by decide
  simp [put, this, TestPattern.try_from_toInt]

variable {controls}

theorem values_injective : Function.Injective values := by
  rintro ⟨lens_facing, ⟨gain, _⟩, pattern⟩ ⟨lens_facing', ⟨gain', _⟩, pattern'⟩ same
  have facing : lens_facing.toInt = lens_facing'.toInt := congrFun same CID_LENS_FACING
  have gains : gain = gain' := congrFun same V4L2_CID_GAIN
  have patterns : pattern.toInt = pattern'.toInt := congrFun same V4L2_CID_TEST_PATTERN
  cases LensFacing.toInt_injective facing
  cases TestPattern.toInt_injective patterns
  cases gains
  rfl

theorem values_put {ctrl : ExtControl} (settable : Settable ctrl) :
    (controls.put ctrl).values = update controls.values ctrl.id ctrl.value := by
  funext id
  cases settable with
  | gain gain =>
    by_cases same : id = V4L2_CID_GAIN
    · subst same
      rw [put_gain, update_self]
      rfl
    · rw [put_gain, update_of_ne same]
      simp only [values, if_neg same]
  | pattern pattern =>
    by_cases same : id = V4L2_CID_TEST_PATTERN
    · subst same
      rw [put_pattern, update_self]
      rfl
    · rw [put_pattern, update_of_ne same]
      simp only [values, if_neg same]

theorem put_eq_iff {ctrl : ExtControl} (settable : Settable ctrl) :
    controls.put ctrl = controls ↔ controls.values ctrl.id = ctrl.value := by
  rw [← values_injective.eq_iff, values_put settable, update_eq_self_iff, eq_comm]

end CameraControls

namespace ControlDevice

variable {device : ControlDevice} {session_id : Nat} {ctrl : ExtControl}

theorem g_ctrl_eq {id : Nat}
    (readable : id ∈ [CID_LENS_FACING, V4L2_CID_GAIN, V4L2_CID_TEST_PATTERN]) :
    device.g_ctrl id = .ok (device.controls.values id) := by
  simp only [List.mem_cons, List.not_mem_nil, or_false] at readable
  rcases readable with rfl | rfl | rfl <;> rfl

def changed (controls : CameraControls) (session_id : Nat) (ctrl : ExtControl) :
    List (Nat × CtrlEvent) :=
  match ctrl_event (controls.put ctrl) ctrl.id with
  | .ok event => if controls.put ctrl = controls then [] else [(session_id, event)]
  | .error _ => []

def applied (session_id : Nat) (device : ControlDevice) (ctrl : ExtControl) : ControlDevice :=
  {device with
    controls := device.controls.put ctrl
    events := device.events ++ changed device.controls session_id ctrl}

theorem changed_setting {controls : CameraControls} (settable : Settable ctrl) :
    (changed controls session_id ctrl).map (Prod.map id CtrlEvent.setting) =
      controls.values.changes [(session_id, ctrl)] := by
  have event : ∃ event, ctrl_event (controls.put ctrl) ctrl.id = .ok event ∧
      event.setting = ctrl := by
    cases settable with
    | gain gain => exact ⟨_, rfl, by rw [CameraControls.put_gain]; rfl⟩
    | pattern pattern => exact ⟨_, rfl, by rw [CameraControls.put_pattern]; rfl⟩
  obtain ⟨event, sent, same⟩ := event
  simp only [changed, sent, CameraControls.put_eq_iff settable, ControlValues.changes]
  split
  · rfl
  · simp [same]

theorem applied_unchanged (same : device.controls.put ctrl = device.controls) :
    device.applied session_id ctrl = device := by
  unfold applied changed
  rw [same]
  split <;> simp

theorem changed_of_ne {controls : CameraControls} (differs : controls.put ctrl ≠ controls) :
    changed controls session_id ctrl =
      match ctrl_event (controls.put ctrl) ctrl.id with
      | .ok event => [(session_id, event)]
      | .error _ => [] := by
  simp only [changed, if_neg differs]

theorem put_gain_ne {gain : Gain} (differs : ¬device.controls.gain = gain) :
    device.controls.put ⟨V4L2_CID_GAIN, gain.value⟩ ≠ device.controls := by
  rw [CameraControls.put_gain]
  exact fun same => differs (congrArg CameraControls.gain same).symm

theorem set_test_pattern_eq (pattern : TestPattern) :
    device.set_test_pattern session_id pattern =
      (device.applied session_id ⟨V4L2_CID_TEST_PATTERN, pattern.toInt⟩, .ok ()) := by
  unfold set_test_pattern
  split
  · rename_i same
    rw [applied_unchanged]
    rw [CameraControls.put_pattern, ← same]
  · rename_i differs
    have : device.controls.put ⟨V4L2_CID_TEST_PATTERN, pattern.toInt⟩ ≠ device.controls := by
      rw [CameraControls.put_pattern]
      exact fun same => differs (congrArg CameraControls.test_pattern same).symm
    rw [applied, changed_of_ne this]
    simp only [CameraControls.put_pattern]
    rfl

theorem apply_ext_ctrl_eq (settable : Settable ctrl) :
    device.apply_ext_ctrl session_id ctrl = (device.applied session_id ctrl, .ok ()) := by
  cases settable with
  | gain gain =>
    simp only [apply_ext_ctrl, if_true, Gain.new_value]
    split
    · rename_i same
      rw [applied_unchanged]
      rw [CameraControls.put_gain, ← same]
    · rename_i differs
      rw [applied, changed_of_ne (put_gain_ne differs)]
      simp only [CameraControls.put_gain]
      rfl
  | pattern pattern =>
    have : V4L2_CID_TEST_PATTERN ≠ V4L2_CID_GAIN := by decide
    simp only [apply_ext_ctrl, if_neg this, if_true, TestPattern.try_from_toInt,
      set_test_pattern_eq]

theorem s_ctrl_eq (device : ControlDevice) (session_id : Nat) (settable : Settable ctrl) :
    device.s_ctrl session_id ctrl.id ctrl.value =
        ((device.applied session_id ctrl).set_controls session_id, .ok ctrl.value) ∨
      device.s_ctrl session_id ctrl.id ctrl.value = (device, .ok ctrl.value) ∧
        device.controls.put ctrl = device.controls := by
  cases settable with
  | gain gain =>
    have locked : ¬(V4L2_CID_GAIN = CID_LENS_FACING ∨ V4L2_CID_GAIN ∈ classHeaders) := by decide
    simp only [s_ctrl, if_neg locked, if_true, Gain.new_value]
    split
    · rename_i same
      exact .inr ⟨rfl, by rw [CameraControls.put_gain, ← same]⟩
    · rename_i differs
      rw [applied, changed_of_ne (put_gain_ne differs)]
      simp only [CameraControls.put_gain]
      exact .inl rfl
  | pattern pattern =>
    have locked : ¬(V4L2_CID_TEST_PATTERN = CID_LENS_FACING ∨
        V4L2_CID_TEST_PATTERN ∈ classHeaders) := by decide
    have : V4L2_CID_TEST_PATTERN ≠ V4L2_CID_GAIN := by decide
    refine .inl ?_
    simp only [s_ctrl, if_neg locked, if_neg this, if_true, TestPattern.try_from_toInt,
      set_test_pattern_eq]

theorem s_ctrl_refused (device : ControlDevice) (session_id : Nat) (refused : ¬Settable ctrl) :
    ∃ e, device.s_ctrl session_id ctrl.id ctrl.value = (device, .error e) := by
  obtain ⟨id, value⟩ := ctrl
  unfold s_ctrl
  split_ifs with locked gain pattern
  · exact ⟨_, rfl⟩
  · subst gain
    split
    · exact ⟨_, rfl⟩
    · rename_i made new
      cases Gain.value_of_new new
      exact absurd (.gain made) refused
  · subst pattern
    split
    · exact ⟨_, rfl⟩
    · rename_i made new
      cases TestPattern.toInt_of_try_from new
      exact absurd (.pattern made) refused
  · exact ⟨_, rfl⟩

/-! ## Several settings -/

theorem try_values_isOk (count : Nat) (idx : Nat) (ctrl_array : List ExtControl) :
    (try_values count idx ctrl_array).2.isOk ↔ ∀ ctrl ∈ ctrl_array, Settable ctrl := by
  induction ctrl_array generalizing idx with
  | nil => simp [try_values, Except.isOk, Except.toBool]
  | cons ctrl rest ih =>
    rw [List.forall_mem_cons]
    by_cases settable : Settable ctrl
    · have next : try_values count idx (ctrl :: rest) = try_values count (idx + 1) rest := by
        cases settable with
        | gain gain =>
          have locked : ¬(V4L2_CID_GAIN ∈ classHeaders ∨ V4L2_CID_GAIN = CID_LENS_FACING) := by
            decide
          simp only [try_values, if_neg locked, if_true, Gain.new_value]
        | pattern pattern =>
          have locked : ¬(V4L2_CID_TEST_PATTERN ∈ classHeaders ∨
              V4L2_CID_TEST_PATTERN = CID_LENS_FACING) := by decide
          have : V4L2_CID_TEST_PATTERN ≠ V4L2_CID_GAIN := by decide
          simp only [try_values, if_neg locked, if_neg this, if_true, TestPattern.try_from_toInt]
      rw [next, ih]
      exact (and_iff_right settable).symm
    · -- The first control that cannot be set ends the trial.
      refine iff_of_false ?_ fun all => settable all.1
      obtain ⟨id, value⟩ := ctrl
      unfold try_values
      split_ifs with locked gain pattern
      · exact Bool.false_ne_true
      · subst gain
        split
        · exact Bool.false_ne_true
        · rename_i made new
          cases Gain.value_of_new new
          exact absurd (.gain made) settable
      · subst pattern
        split
        · exact Bool.false_ne_true
        · rename_i made new
          cases TestPattern.toInt_of_try_from new
          exact absurd (.pattern made) settable
      · exact Bool.false_ne_true

variable {ctrl_array : List ExtControl}

theorem settable_of_tried (which : CtrlWhich) (count : Nat)
    (tried : (try_ext_ctrls which count ctrl_array).2.isOk) :
    ∀ ctrl ∈ ctrl_array, Settable ctrl := by
  unfold try_ext_ctrls at tried
  split at tried
  · exact (try_values_isOk _ _ _).mp tried
  · split at tried
    · cases tried
    · split at tried
      · cases tried
      · exact (try_values_isOk _ _ _).mp tried
  · cases tried

theorem apply_ext_ctrls_eq (settable : ∀ ctrl ∈ ctrl_array, Settable ctrl) :
    device.apply_ext_ctrls session_id ctrl_array =
      ((ctrl_array.foldl (applied session_id) device).set_controls session_id, .ok ()) := by
  induction ctrl_array generalizing device with
  | nil => rfl
  | cons ctrl rest ih =>
    have first := settable ctrl List.mem_cons_self
    rw [apply_ext_ctrls, apply_ext_ctrl_eq first]
    exact ih fun ctrl member => settable ctrl (List.mem_cons_of_mem _ member)

theorem s_ext_ctrls_spec (session_id : Nat) (which : CtrlWhich) (count : Nat)
    (ctrl_array : List ExtControl) :
    let result := device.s_ext_ctrls session_id which count ctrl_array
    (result.2.2.isOk ↔ (try_ext_ctrls which count ctrl_array).2.isOk) ∧
    if result.2.2.isOk then
      result.1 = (ctrl_array.foldl (applied session_id) device).set_controls session_id
    else result.1 = device := by
  unfold s_ext_ctrls
  split
  · rename_i tried
    simp [tried, Except.isOk, Except.toBool]
  · rename_i tried
    have settable : ∀ ctrl ∈ ctrl_array, Settable ctrl :=
      settable_of_tried which count (by rw [tried]; rfl)
    rw [apply_ext_ctrls_eq settable]
    simp [tried, Except.isOk, Except.toBool]

theorem setEach_alike (session_id : Nat) {other : ControlDevice}
    (settable : ∀ ctrl ∈ ctrl_array, Settable ctrl) (controls : other.controls = device.controls)
    (events : other.events = device.events) : let each := other.setEach session_id ctrl_array
    let all := ctrl_array.foldl (applied session_id) device
    each.controls = all.controls ∧ each.events = all.events := by
  induction ctrl_array generalizing device other with
  | nil => exact ⟨controls, events⟩
  | cons ctrl rest ih =>
    have rest' := fun ctrl member => settable ctrl (List.mem_cons_of_mem _ member)
    unfold setEach
    rw [List.foldl_cons, List.foldl_cons]
    -- One by one a thread is told at each change, together at the end only.
    rcases s_ctrl_eq other session_id (settable ctrl List.mem_cons_self) with
      told | ⟨untold, same⟩
    · rw [told]
      refine ih rest' ?_ ?_
      · exact congrArg (CameraControls.put · ctrl) controls
      · simp only [applied, set_controls, controls, events]
    · rw [untold]
      rw [controls] at same
      rw [applied_unchanged same]
      exact ih rest' controls events

end ControlDevice

/-! ## What a call does -/

namespace ControlValues

theorem changes_append (values : ControlValues) (settings others : List (Nat × ExtControl)) :
    values.changes (settings ++ others) =
      values.changes settings ++ (values.after settings).changes others := by
  induction settings generalizing values with
  | nil => rfl
  | cons setting rest ih =>
    simp only [List.cons_append, changes, after, List.foldl_cons]
    split
    · rename_i same
      rw [ih, ← same, update_eq_self]
      rfl
    · rw [ih]
      rfl

end ControlValues

namespace ControlDevice

/-- The values and the events follow the session's settings, and its own thread is told. -/
structure Sets (device : ControlDevice) (session_id : Nat) (settings : List (Nat × ExtControl))
    (after : ControlDevice) : Prop where
  values : after.controls.values = device.controls.values.after settings
  notified : after.events.map (Prod.map id CtrlEvent.setting) =
    device.events.map (Prod.map id CtrlEvent.setting) ++ device.controls.values.changes settings
  aside : ∀ other ≠ session_id, after.sessions other = device.sessions other
  told : device.Synced → ∀ channel, after.sessions session_id = some channel →
    channel.caughtUp = after.controls

variable {device after : ControlDevice} {session_id : Nat} {ctrl : ExtControl}

theorem applied_all (device : ControlDevice) (session_id : Nat) {ctrl_array : List ExtControl}
    (settable : ∀ ctrl ∈ ctrl_array, Settable ctrl) :
    let all := ctrl_array.foldl (applied session_id) device
    let settings := ctrl_array.map (session_id, ·)
    all.controls.values = device.controls.values.after settings ∧
    all.events.map (Prod.map id CtrlEvent.setting) =
      device.events.map (Prod.map id CtrlEvent.setting) ++
        device.controls.values.changes settings ∧
    all.sessions = device.sessions := by
  induction ctrl_array generalizing device with
  | nil => exact ⟨rfl, (List.append_nil _).symm, rfl⟩
  | cons ctrl rest ih =>
    have first := settable ctrl List.mem_cons_self
    obtain ⟨values, events, sessions⟩ := ih (device.applied session_id ctrl)
      fun ctrl member => settable ctrl (List.mem_cons_of_mem _ member)
    have put : (device.applied session_id ctrl).controls.values =
        device.controls.values.after [(session_id, ctrl)] := CameraControls.values_put first
    refine ⟨?_, ?_, sessions⟩
    · rw [List.foldl_cons, values, put]
      rfl
    · have split := device.controls.values.changes_append [(session_id, ctrl)]
        (rest.map (session_id, ·))
      rw [List.foldl_cons, events, put]
      refine Eq.trans ?_ (congrArg _ split.symm)
      rw [← changed_setting first, ← List.append_assoc, ← List.map_append]
      rfl

theorem set_controls_told (device : ControlDevice) (session_id : Nat) (channel : ControlChannel)
    (found : (device.set_controls session_id).sessions session_id = some channel) :
    channel.caughtUp = device.controls := by
  simp only [set_controls, update_self] at found
  obtain ⟨before, -, rfl⟩ := map_eq_some_iff.mp found
  simp [ControlChannel.caughtUp]

theorem Sets.of_told (ctrl_array : List ExtControl)
    (settable : ∀ ctrl ∈ ctrl_array, Settable ctrl) :
    device.Sets session_id (ctrl_array.map (session_id, ·))
      ((ctrl_array.foldl (applied session_id) device).set_controls session_id) := by
  obtain ⟨values, events, sessions⟩ := applied_all device session_id settable
  refine ⟨values, events, fun other ne => ?_, fun _ => set_controls_told _ _⟩
  rw [← sessions]
  exact update_of_ne ne _ _

theorem Sets.of_unchanged (settable : Settable ctrl)
    (same : device.controls.put ctrl = device.controls) :
    device.Sets session_id [(session_id, ctrl)] device := by
  have value := (CameraControls.put_eq_iff settable).mp same
  refine ⟨?_, ?_, fun _ _ => rfl, fun synced => synced session_id⟩
  · simp only [ControlValues.after, List.foldl_cons, List.foldl_nil]
    rw [← value, update_eq_self]
  · simp [ControlValues.changes, value]

theorem Sets.synced_iff {settings : List (Nat × ExtControl)}
    (sets : device.Sets session_id settings after) (synced : device.Synced) :
    after.Synced ↔ device.controls.values.after settings = device.controls.values ∨
      ∀ other ≠ session_id, device.sessions other = none := by
  have controls : device.controls.values.after settings = device.controls.values ↔
      after.controls = device.controls := by
    rw [← sets.values, CameraControls.values_injective.eq_iff]
  rw [controls]
  constructor
  · intro kept
    by_cases alone : ∀ other ≠ session_id, device.sessions other = none
    · exact .inr alone
    push Not at alone
    obtain ⟨other, ne, opened⟩ := alone
    obtain ⟨channel, opened⟩ := Option.ne_none_iff_exists'.mp opened
    -- The thread of the other session uses what it used before.
    have later := kept other channel (by rw [sets.aside other ne, opened])
    exact .inl (later.symm.trans (synced other channel opened))
  · intro settled other channel found
    by_cases same : other = session_id
    · subst same
      exact sets.told synced channel found
    · rw [sets.aside other same] at found
      rcases settled with unchanged | alone
      · rw [unchanged]
        exact synced other channel found
      · rw [alone other same] at found
        cases found

theorem called_spec {call : ControlCall} {result : ControlDevice × Bool}
    (called : device.called call = some result) :
    (result.2 = false ∧ ¬call.Accepted ∧ result.1 = device) ∨
    (result.2 = true ∧ call.Accepted ∧
      (device.Sets call.session_id call.settings result.1 ∨
        call.settings = [] ∧ result.1.controls = device.controls ∧
          result.1.events = device.events ∧ (device.Synced → result.1.Synced))) := by
  cases call with
  | new_session session_id =>
    obtain ⟨free, same⟩ := ite_none_right_eq_some.mp called
    cases same
    refine .inr ⟨rfl, trivial, .inr ⟨rfl, rfl, rfl, fun synced other channel found => ?_⟩⟩
    by_cases same : other = session_id
    · subst same
      cases (update_self _ _ _).symm.trans found
      rfl
    · exact synced other channel ((update_of_ne same _ _).symm.trans found)
  | close_session session_id =>
    obtain ⟨channel, opened, rfl⟩ := map_eq_some_iff.mp called
    refine .inr ⟨rfl, trivial, .inr ⟨rfl, rfl, rfl, fun synced other channel found => ?_⟩⟩
    by_cases same : other = session_id
    · subst same
      cases (update_self _ _ _).symm.trans found
    · exact synced other channel ((update_of_ne same _ _).symm.trans found)
  | s_ctrl session_id ctrl =>
    obtain ⟨channel, opened, rfl⟩ := map_eq_some_iff.mp called
    by_cases settable : Settable ctrl
    · refine .inr ?_
      rcases s_ctrl_eq device session_id settable with told | ⟨untold, same⟩
      · rw [told]
        refine ⟨rfl, settable, .inl ?_⟩
        exact .of_told [ctrl] (List.forall_mem_singleton.mpr settable)
      · rw [untold]
        exact ⟨rfl, settable, .inl (.of_unchanged settable same)⟩
    · obtain ⟨e, refused⟩ := s_ctrl_refused device session_id settable
      rw [refused]
      exact .inl ⟨rfl, settable, rfl⟩
  | s_ext_ctrls session_id which count ctrl_array =>
    obtain ⟨channel, opened, rfl⟩ := map_eq_some_iff.mp called
    obtain ⟨tried, same⟩ := device.s_ext_ctrls_spec session_id which count ctrl_array
    simp only [Prod.map, id, ControlCall.Accepted]
    split at same
    · rename_i succeeded
      refine .inr ⟨succeeded, tried.mp succeeded, .inl ?_⟩
      rw [same]
      exact .of_told _ (settable_of_tried which count (tried.mp succeeded))
    · rename_i failed
      exact .inl ⟨Bool.not_eq_true _ ▸ failed, fun accepted => failed (tried.mpr accepted), same⟩
  | try_ext_ctrls session_id which count ctrl_array =>
    obtain ⟨channel, opened, rfl⟩ := map_eq_some_iff.mp called
    cases tried : (try_ext_ctrls which count ctrl_array).2.isOk with
    | true => exact .inr ⟨rfl, tried, .inr ⟨rfl, rfl, rfl, id⟩⟩
    | false => exact .inl ⟨rfl, Bool.eq_false_iff.mp tried, rfl⟩
  | command session_id =>
    obtain ⟨channel, opened, called⟩ := bind_eq_some_iff.mp called
    split at called
    · cases called
    · rename_i controls cmds sent
      cases called
      refine .inr ⟨rfl, trivial, .inr ⟨rfl, rfl, rfl, fun synced other later found => ?_⟩⟩
      by_cases same : other = session_id
      · subst same
        cases (update_self _ _ _).symm.trans found
        -- What the thread comes to is not changed by how far it has come.
        have := synced other channel opened
        rw [← this, ControlChannel.caughtUp, ControlChannel.caughtUp, sent]
        cases cmds <;> rfl
      · exact synced other later ((update_of_ne same _ _).symm.trans found)

end ControlDevice

namespace ControlRun

variable {lens_facing : LensFacing} {run after : ControlRun}

/-- The invariant of the runs in which nobody else misses a change. -/
structure Kept (lens_facing : LensFacing) (run : ControlRun) : Prop where
  values : run.device.controls.values =
    {lens_facing : CameraControls}.values.after run.settings
  notified : run.device.events.map (Prod.map id CtrlEvent.setting) =
    {lens_facing : CameraControls}.values.changes run.settings
  synced : run.device.Synced

theorem Kept.step (kept : run.Kept lens_facing) {call : ControlCall} (alone : run.Alone call)
    (moved : run.step call = some after) : after.Kept lens_facing := by
  obtain ⟨⟨device, succeeded⟩, called, rfl⟩ := map_eq_some_iff.mp moved
  rcases ControlDevice.called_spec called with
    ⟨refused, -, same⟩ | ⟨succeeds, accepted, sets | ⟨none, controls, events, synced⟩⟩
  · cases refused
    cases same
    exact kept
  · cases succeeds
    refine ⟨?_, ?_, (sets.synced_iff kept.synced).mpr (alone accepted)⟩
    · refine sets.values.trans ?_
      rw [kept.values]
      exact List.foldl_append.symm
    · refine sets.notified.trans ?_
      rw [kept.notified, kept.values]
      exact (ControlValues.changes_append _ _ _).symm
  · cases succeeds
    simp only [none, List.append_nil, if_true]
    exact ⟨congrArg _ controls |>.trans kept.values, congrArg _ events |>.trans kept.notified,
      synced kept.synced⟩

theorem Kept.of_reaches (reached : (machine lens_facing).Reaches Alone run) :
    run.Kept lens_facing := by
  refine reached.invariant ?_ fun _ _ _ kept alone moved => kept.step alone moved
  rintro _ rfl
  exact ⟨rfl, rfl, fun _ _ found => nomatch found⟩

theorem Kept.correct (kept : run.Kept lens_facing) : run.Correct lens_facing where
  read id readable := by
    rw [ControlDevice.g_ctrl_eq readable, kept.values]
  notified := kept.notified
  synced := kept.synced

end ControlRun

theorem ControlDevice.atomic {device : ControlDevice} {call : ControlCall}
    {result : ControlDevice × Bool} (called : device.called call = some result) :
    device.Atomic call result where
  refused failed := by
    rcases called_spec called with ⟨-, -, same⟩ | ⟨succeeds, -⟩
    · exact same
    · exact absurd (failed.symm.trans succeeds) Bool.false_ne_true
  together session_id which count ctrl_array same succeeds := by
    subst same
    obtain ⟨channel, opened, rfl⟩ := map_eq_some_iff.mp called
    obtain ⟨tried, all⟩ := device.s_ext_ctrls_spec session_id which count ctrl_array
    have each := setEach_alike session_id (settable_of_tried which count (tried.mp succeeds))
      (rfl : device.controls = _) rfl
    simp only [Prod.map, id] at succeeds ⊢
    rw [if_pos succeeds] at all
    rw [all, each.1, each.2]
    exact ⟨rfl, rfl⟩
  tried session_id which count ctrl_array same := by
    subst same
    obtain ⟨channel, opened, rfl⟩ := map_eq_some_iff.mp called
    exact (device.s_ext_ctrls_spec session_id which count ctrl_array).1.symm

/-- While no other session is open when a value changes the controls are right, and the threads stay
in step just as long. -/
theorem controls_device_wide {lens_facing : LensFacing} {run : ControlRun}
    (reached : (ControlRun.machine lens_facing).Reaches ControlRun.Alone run) :
    run.Correct lens_facing ∧
      ∀ call result, run.device.called call = some result →
        run.device.Atomic call result ∧ (result.1.Synced ↔ run.Alone call) := by
  have kept := ControlRun.Kept.of_reaches reached
  refine ⟨kept.correct, fun call result called => ⟨ControlDevice.atomic called, ?_⟩⟩
  rcases ControlDevice.called_spec called with
    ⟨-, refused, same⟩ | ⟨-, accepted, sets | ⟨none, -, -, synced⟩⟩
  · exact iff_of_true (same ▸ kept.synced) fun accepted => absurd accepted refused
  · exact (sets.synced_iff kept.synced).trans (imp_iff_right accepted).symm
  · refine iff_of_true (synced kept.synced) fun _ => .inl ?_
    rw [none]
    rfl

def patternSet (others : List ControlCall) : ControlRun :=
  (((ControlRun.machine .Front).run ⟨{controls := {lens_facing := .Front}}, []⟩
    ([.new_session 1] ++ others ++ [.s_ctrl 1 ⟨V4L2_CID_TEST_PATTERN, 1⟩]))).getD
      ⟨{controls := {lens_facing := .Front}}, []⟩

theorem controls_device_wide_alone :
    (patternSet []).Correct .Front ∧
      ∀ call result, (patternSet []).device.called call = some result →
        (patternSet []).device.Atomic call result ∧
          (result.1.Synced ↔ (patternSet []).Alone call) := by
  refine controls_device_wide (.take (.s_ctrl 1 ⟨V4L2_CID_TEST_PATTERN, 1⟩)
    (.take (.new_session 1) (.start rfl) (fun _ => .inl rfl) rfl) ?_ rfl)
  exact fun _ => .inr fun other ne => update_of_ne ne _ _

/-- The thread of a second session keeps the old test pattern. -/
theorem controls_out_of_step :
    ¬∀ run, (ControlRun.machine .Front).Reachable run → run.device.Synced := by
  intro synced
  have reached : (ControlRun.machine .Front).Reachable (patternSet [.new_session 2]) :=
    .getD_run _ (.start rfl) rfl
  have kept := synced _ reached 2 ⟨{lens_facing := .Front}, []⟩ rfl
  exact absurd kept (by decide)

end Ika.EmulatedCamera
