import Ika.Display.Coords
import Mathlib.Algebra.Order.Ring.Int

/-! The flex display of `flex.c`: the device display follows the window.

Times are `sc_tick`, in microseconds. The textures are left out but for whether
there is a preview, and so are the late frames and the background.
-/

set_option autoImplicit false

namespace Ika.Display

def fromMs (ms : Int) : Int := ms * 1000

def flexMinWidth : Nat := 360
def flexMinHeight : Nat := 540
def flexDragDelay : Int := fromMs 200
def flexDiscreteDelay : Int := fromMs 30
def flexStateChangeWindow : Int := fromMs 250
def flexGuestIdle : Int := fromMs 120
def flexMinFrames : Nat := 2
def flexMaxSettle : Int := fromMs 1000
def flexBlurFadeIn : Int := fromMs 500
def flexBlurFadeOut : Int := fromMs 300
def flexReveal : Int := fromMs 250
def flexAnimationInterval : Int := fromMs 16
def flexMaxAlignment : Nat := 16

def flexClamp (size : Size) : Size where
  width := max size.width flexMinWidth
  height := max size.height flexMinHeight

def flexFrameMatches (frame requested : Size) : Bool :=
  frame.width ≤ requested.width && frame.height ≤ requested.height &&
    requested.width - frame.width < flexMaxAlignment &&
    requested.height - frame.height < flexMaxAlignment

structure Flex where
  raw : Bool
  appWindow : Bool
  pending : Size := {}
  pendingDeadline : Int := 0
  requested : Size := {}
  shown : Size := {}
  stateChangeTick : Int := 0
  readyTick : Int := 0
  readyUnchanged : Bool := false
  frameTick : Int := 0
  framesSinceRequest : Nat := 0
  holding : Bool
  revealed : Bool
  preview : Bool := false
  holdTick : Int := 0
  releaseTick : Int := 0
  releaseReveal : Bool := false
  timer : Bool := false
  timerDeadline : Int := 0

/-- `sc_flex_init`: until the first size is confirmed, the raw content is unknown. -/
def Flex.init (raw appWindow : Bool) : Flex where
  raw
  appWindow := raw && appWindow
  holding := raw
  revealed := !raw

/-- What SDL does during a call, and when it is. -/
structure Platform where
  now : Int
  addsTimer : Bool := true
  captures : Bool := true

namespace Flex

variable (flex : Flex) (platform : Platform)

def schedule (deadline : Int) : Flex :=
  if flex.timer ∧ flex.timerDeadline ≤ deadline then flex
  else {flex with timer := platform.addsTimer, timerDeadline := deadline}

/-- The part of the fade-in that the blur of a release stands for. -/
def blurTicks (intensity : Int → Int) : Int :=
  if flex.releaseTick ≠ 0 ∧ !flex.releaseReveal then
    if flexBlurFadeOut ≤ platform.now - flex.releaseTick then 0
    else intensity (platform.now - flex.releaseTick)
  else 0

def held (intensity : Int → Int) : Flex := {flex with
  holding := true
  holdTick := platform.now - flex.blurTicks platform intensity
  releaseTick := 0
  readyTick := 0
  preview := if flex.raw then platform.captures else flex.preview}

def startHold (intensity : Int → Int) : Flex :=
  (flex.held platform intensity).schedule platform (platform.now + flexAnimationInterval)

def released : Flex := {flex with
  holding := false
  readyTick := 0
  shown := if flex.raw then flex.requested else flex.shown
  releaseTick := platform.now
  releaseReveal := !flex.revealed
  revealed := true
  preview := false}

def release : Flex :=
  (flex.released platform).schedule platform (platform.now + flexAnimationInterval)

def resize (size : Size) : Flex :=
  let discrete := flex.stateChangeTick ≠ 0 ∧
    platform.now - flex.stateChangeTick < flexStateChangeWindow
  {flex with
    pending := size
    pendingDeadline :=
      if ¬flex.requested.IsSet then platform.now
      else platform.now + if discrete then flexDiscreteDelay else flexDragDelay}

/-- A hold starts: the content has not the size of the window. -/
def StartsHold (size : Size) : Prop :=
  (flex.raw = true ∨ flex.shown.IsSet) ∧ flex.holding = false ∧ size ≠ flex.shown
  deriving Decidable

def onWindowSize (intensity : Int → Int) (size : Size) : Flex :=
  let size := flexClamp size
  if size = flex.pending then flex
  else
    let resized := flex.resize platform size
    let after := if flex.StartsHold size then resized.startHold platform intensity else resized
    after.schedule platform after.pendingDeadline

def onWindowStateChanged : Flex := {flex with stateChangeTick := platform.now}

def onDisplayReady (size : Size) : Flex :=
  if !flex.raw ∨ size ≠ flex.requested then flex
  else
    {flex with readyTick := platform.now, readyUnchanged := size = flex.shown}.schedule
      platform platform.now

def onFrame (frameSize : Size) : Flex :=
  let flex := {flex with frameTick := platform.now}
  if flex.raw then
    let flex := {flex with framesSinceRequest := (flex.framesSinceRequest + 1) % 2 ^ 32}
    if flex.holding ∧ flex.readyTick ≠ 0 then
      let first := flex.appWindow && !flex.revealed
      flex.schedule platform (if first then platform.now else platform.now + flexGuestIdle)
    else flex
  else
    let flex := {flex with shown := frameSize}
    if flex.holding ∧ flex.readyTick ≠ 0 ∧ flex.pending = flex.requested ∧
        flexFrameMatches frameSize flex.requested then
      flex.release platform
    else flex

/-- When the next timer event is due, whether to render, and the size requested. -/
structure Wake where
  flex : Flex
  next : Int := 0
  render : Bool := false
  sent : Option Size := none

def Wake.due (wake : Wake) (deadline : Int) : Wake :=
  {wake with next := if wake.next ≠ 0 then min wake.next deadline else deadline}

/-- The size of the window is requested; video frames tell it by themselves. -/
def request : Flex := {flex with
  requested := flex.pending
  readyTick := if flex.raw then 0 else platform.now
  framesSinceRequest := 0
  readyUnchanged :=
    if flex.raw then flex.readyUnchanged else flexFrameMatches flex.shown flex.pending}

def wakeRequest (wake : Wake) : Wake :=
  let flex := wake.flex
  if flex.pending.IsSet ∧ flex.pending ≠ flex.requested then
    if flex.pendingDeadline ≤ platform.now then
      {wake with flex := flex.request platform, sent := some flex.pending}
    else wake.due flex.pendingDeadline
  else wake

def keepHolding : Flex := {flex with
  readyTick := 0
  shown := if flex.raw then flex.requested else flex.shown}

/-- Ends the hold once the requested size is drawn, unless the window was resized again. -/
def wakeSettle (wake : Wake) : Wake :=
  let flex := wake.flex
  if flex.holding ∧ flex.readyTick ≠ 0 then
    let maxDeadline := flex.readyTick + flexMaxSettle
    let idleDeadline := flex.frameTick + flexGuestIdle
    let redrawn := flexMinFrames ≤ flex.framesSinceRequest
    let drawn := flex.raw ∧ redrawn ∧ idleDeadline ≤ platform.now
    let firstDrawn := flex.appWindow ∧ !flex.revealed ∧ flex.readyTick ≤ flex.frameTick
    if flex.readyUnchanged ∨ drawn ∨ firstDrawn ∨ maxDeadline ≤ platform.now then
      if flex.pending = flex.requested then
        {wake with flex := flex.release platform, render := true}
      else
        {wake with flex := flex.keepHolding, render := true}
    else if flex.raw ∧ redrawn then wake.due (min idleDeadline maxDeadline)
    else wake.due maxDeadline
  else wake

def fadeOut : Int := if flex.releaseReveal then flexReveal else flexBlurFadeOut

def wakeAnimate (wake : Wake) : Wake :=
  let flex := wake.flex
  let fadingIn := flex.holding ∧ (flex.preview ∨ !flex.raw) ∧
    platform.now - flex.holdTick < flexBlurFadeIn
  let fadingOut := flex.releaseTick ≠ 0 ∧ platform.now - flex.releaseTick < flex.fadeOut
  if fadingIn ∨ fadingOut then
    {wake with render := true}.due (platform.now + flexAnimationInterval)
  else if flex.releaseTick ≠ 0 ∧ !flex.holding then
    {wake with flex := {flex with releaseTick := 0}, render := true}
  else wake

def awake : Wake :=
  wakeAnimate platform
    (wakeSettle platform (wakeRequest platform {flex := {flex with timer := false}}))

def onTimer : Wake :=
  let wake := flex.awake platform
  if wake.next ≠ 0 then {wake with flex := wake.flex.schedule platform wake.next} else wake

end Flex

end Ika.Display
