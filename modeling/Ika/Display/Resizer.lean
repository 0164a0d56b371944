import Ika.Display.Flex
import Ika.Foundation.Machine

/-!
The resizes of the main display: `PrimaryDisplayResizer` on the control thread, `DisplayMonitor` on
the thread of the configuration events, and Android's display.

Each step is one access to what is shared: a call into Android, a block synchronized on the resizer
or the monitor, or the call of the listener.
-/

set_option autoImplicit false

namespace Ika.Display

open Transition

structure DisplayProperties where
  size : Size
  rotation : Nat
  deriving DecidableEq, Repr

/-- Android's side of the display. -/
structure AndroidDisplay where
  initialSize : Option Size
  forcedSize : Size
  /-- `DisplayInfo`, which takes the forced size at some later time. -/
  info : DisplayProperties
  scalingDisabled : Bool := false
  density : Option Nat := none
  /-- The configuration events that were not handled yet. -/
  events : Nat := 0

structure PrimaryDisplayResizer where
  dpi : Nat
  physicalSize : Option Size := none
  scalingDisabled : Option Bool := none
  densityPending : Bool := false
  pendingSize : Option Size := none

structure DisplayMonitor where
  props : Option DisplayProperties

inductive ResizePc where
  | idle
  | setScaling (size : Size)
  | getDisplayInfo (size : Size)
  | clearPending (size : Size)
  | notifyListener (size : Size)
  | setPending (size : Size)
  | setForcedSize (size : Size)
  | forcingFailed (size : Size)
  | applyDensity
  deriving DecidableEq, Repr

/-- Where the thread of the events is in `checkDisplayPropertiesChanged`, and in `checkReady`. -/
inductive MonitorPc where
  | idle
  | getDisplayInfo
  | exchange (props : DisplayProperties)
  | readyDisplayInfo
  | comparePending (size : Size)
  | notifyListener (size : Size)
  deriving DecidableEq, Repr

/-- A call of `onDisplayReady`, and the size forced on the display at that moment. -/
structure Ready where
  size : Size
  forcedSize : Size
  deriving DecidableEq, Repr

structure ResizeState where
  android : AndroidDisplay
  resizer : PrimaryDisplayResizer
  monitor : DisplayMonitor
  resizePc : ResizePc := .idle
  monitorPc : MonitorPc := .idle
  readies : List Ready := []
  succeeded : Option Size := none

inductive ResizeEvent where
  | resize (width height : Nat)
  /-- The control thread goes on; if it calls into Android, that succeeds or not. -/
  | control (succeeds : Bool)
  /-- The thread of the events goes on, or takes the next event. -/
  | monitor
  | takeForcedSize
  | configurationEvent

def resizerClamp (width height : Nat) : Size := ⟨max width 360, max height 540⟩

namespace ResizeState

variable (state : ResizeState)

def onDisplayReady (size : Size) : ResizeState := {state with
  readies := ⟨size, state.android.forcedSize⟩ :: state.readies}

def setPendingSize (size : Option Size) : ResizeState := {state with
  resizer := {state.resizer with pendingSize := size}}

/-- `applyPendingDensity`: a density that changes has its configuration event, too. -/
def applyPendingDensity : ResizeState :=
  if state.resizer.densityPending then
    {state with
      android := {state.android with
        density := some state.resizer.dpi, events := state.android.events + 1}
      resizer := {state.resizer with densityPending := false}}
  else state

/-- `physicalSize` is looked up, and the scaling is to follow whether the size fits it. -/
def lookUpPhysicalSize : ResizeState := {state with
  resizer := {state.resizer with
    physicalSize := state.resizer.physicalSize.or state.android.initialSize}}

def fits (size : Size) : Bool :=
  state.resizer.physicalSize.any fun physical =>
    size.width ≤ physical.width && size.height ≤ physical.height

def setScalingDisabled (disabled : Bool) : ResizeState := {state with
  android := {state.android with scalingDisabled := disabled}
  resizer := {state.resizer with scalingDisabled := some disabled}}

def goTo (pc : ResizePc) : ResizeState := {state with resizePc := pc}

def monitorTo (pc : MonitorPc) : ResizeState := {state with monitorPc := pc}

def setForcedDisplaySize (size : Size) : ResizeState := {state with
  android := {state.android with forcedSize := size}, succeeded := some size}

def succeed (size : Size) : ResizeState := {state with succeeded := some size}

def controlStep (succeeds : Bool) : Option ResizeState :=
  match state.resizePc with
  | .idle => none
  | .setScaling size =>
    let state := state.lookUpPhysicalSize
    let fits := state.fits size
    let state :=
      if state.resizer.scalingDisabled ≠ some fits ∧ succeeds then state.setScalingDisabled fits
      else state
    some (state.goTo (.getDisplayInfo size))
  | .getDisplayInfo size =>
    if size = state.android.info.size then some (state.goTo (.clearPending size))
    else some (state.goTo (.setPending size))
  | .clearPending size =>
    some ((state.applyPendingDensity.setPendingSize none).goTo (.notifyListener size))
  | .notifyListener size => some (((state.onDisplayReady size).succeed size).goTo .idle)
  | .setPending size => some ((state.setPendingSize (some size)).goTo (.setForcedSize size))
  | .setForcedSize size =>
    if succeeds then some ((state.setForcedDisplaySize size).goTo .applyDensity)
    else some (state.goTo (.forcingFailed size))
  | .forcingFailed _ => some ((state.setPendingSize none).goTo .applyDensity)
  | .applyDensity => some (state.applyPendingDensity.goTo .idle)

/-- `getAndSetDisplayProperties`, and whether they changed. -/
def exchangeProperties (props : DisplayProperties) : ResizeState :=
  let changed := state.monitor.props ≠ some props
  {state with monitor := {props := some props}}.monitorTo
    (if changed then .readyDisplayInfo else .idle)

def monitorStep : Option ResizeState :=
  match state.monitorPc with
  | .idle =>
    if state.android.events = 0 then none
    else some ({state with android := {state.android with
      events := state.android.events - 1}}.monitorTo .getDisplayInfo)
  | .getDisplayInfo => some (state.monitorTo (.exchange state.android.info))
  | .exchange props => some (state.exchangeProperties props)
  | .readyDisplayInfo => some (state.monitorTo (.comparePending state.android.info.size))
  | .comparePending size =>
    if state.resizer.pendingSize = some size then
      some ((state.setPendingSize none).monitorTo (.notifyListener size))
    else some (state.monitorTo .idle)
  | .notifyListener size => some ((state.onDisplayReady size).monitorTo .idle)

/-- The size of `DisplayInfo` changes, and a configuration event follows. -/
def takeForcedSize : ResizeState := {state with
  android := {state.android with
    info := {state.android.info with size := state.android.forcedSize}
    events := state.android.events + 1}}

def step : ResizeEvent → Option ResizeState
  | .resize width height =>
    if state.resizePc = .idle then some (state.goTo (.setScaling (resizerClamp width height)))
    else none
  | .control succeeds => state.controlStep succeeds
  | .monitor => state.monitorStep
  | .takeForcedSize =>
    if state.android.info.size = state.android.forcedSize then none else some state.takeForcedSize
  | .configurationEvent =>
    some {state with android := {state.android with events := state.android.events + 1}}

/-- After `start`: the monitor has the properties of the display at that time. -/
def start (android : AndroidDisplay) (dpi : Nat) (densityPending : Bool) : ResizeState where
  android
  resizer := {dpi, densityPending}
  monitor := {props := some android.info}

end ResizeState

def resizeMachine : Machine ResizeState ResizeEvent where
  init state := ∃ android dpi densityPending, state = .start android dpi densityPending
  step state event := state.step event

end Ika.Display
