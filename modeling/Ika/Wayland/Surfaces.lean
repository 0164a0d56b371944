import Ika.Foundation.Loans
import Ika.Foundation.Machine
import Ika.FrameStream.Messages

/-!
The dma-buf buffers `wayland_surfaces.cpp` and `wayland_surface.cpp` hold for the consumer of their
frames.

What a commit shows, maps or logs is left out, and so are buffers of shared memory, which are
released at once.
-/

set_option autoImplicit false

namespace Ika.Wayland

open Loans Transition

def kMaxHeldDmabufBuffers : Nat := 3

structure HeldDmabufBuffer where
  surface : Nat
  frameId : UInt32
  buffer : Nat
  deriving DecidableEq, Repr

structure Surface where
  pendingBuffer : Option Nat := none
  scanoutId : Option UInt32 := none
  destroyed : Bool := false

structure Dmabuf where
  fdOk : Bool
  destroyed : Bool := false

/-- A commit of a buffer, and whether its frame was shown and released since. -/
structure Commit where
  surface : Nat
  frameId : Option UInt32
  released : Bool

/-- The commits with the releases they got, and the releases sent to destroyed buffers. -/
structure History where
  commits : List (Loan Nat Commit) := []
  strayReleases : List Nat := []

structure State where
  surfaces : List Surface := []
  buffers : List Dmabuf := []
  /-- `held_`, in the order of its keys, and the destroy listeners set on held buffers. -/
  held : List HeldDmabufBuffer := []
  listeners : List HeldDmabufBuffer := []
  nextFrameId : UInt32 := 1
  releaseSource : Bool
  releasedFrames : List UInt32 := []
  history : History := {}

namespace State

variable (state : State)

def bufferAlive (buffer : Nat) : Bool :=
  state.buffers[buffer]?.any fun dmabuf => !dmabuf.destroyed

def surfaceAlive (surface : Nat) : Bool :=
  state.surfaces[surface]?.any fun known => !known.destroyed

def pendingBuffer (surface : Nat) : Option Nat := state.surfaces[surface]?.bind (·.pendingBuffer)

def sendRelease (buffer : Nat) : State :=
  if state.bufferAlive buffer then
    {state with history := {state.history with
      commits := giveBack buffer state.history.commits}}
  else {state with history := {state.history with
    strayReleases := state.history.strayReleases ++ [buffer]}}

def releaseHeldLocked (held : HeldDmabufBuffer) (send : Bool) : State :=
  let state := {state with
    held := state.held.erase held, listeners := state.listeners.erase held}
  if send then state.sendRelease held.buffer else state

def heldOfSurface (surface : Nat) : List HeldDmabufBuffer :=
  state.held.filter fun held => held.surface = surface

def insertHeld (new : HeldDmabufBuffer) : List HeldDmabufBuffer → List HeldDmabufBuffer
  | [] => [new]
  | held :: rest =>
    if new.frameId < held.frameId then new :: held :: rest
    else if new.frameId = held.frameId then new :: rest
    else held :: insertHeld new rest

def supersede (buffer : Nat) : State :=
  (state.held.filter fun held => held.buffer = buffer).foldl
    (fun state held => state.releaseHeldLocked held false) state

def evictOldest (surface : Nat) : State :=
  match state.heldOfSurface surface with
  | [] => state
  | oldest :: others =>
    if kMaxHeldDmabufBuffers ≤ (oldest :: others).length then state.releaseHeldLocked oldest true
    else state

def holdDmabufBuffer (surface : Nat) (frameId : UInt32) (buffer : Nat) : State :=
  let state := (state.supersede buffer).evictOldest surface
  let held := ⟨surface, frameId, buffer⟩
  {state with listeners := state.listeners ++ [held], held := insertHeld held state.held}

def frameIdAfter (frameId : UInt32) : UInt32 := if frameId + 1 = 0 then 1 else frameId + 1

/-- The answer of the consumer is `none` where no callback is set. -/
def handleSurfaceDmabufFrame (surface buffer : Nat) (answer : Option DmabufFrameResult) :
    DmabufFrameResult × State :=
  let frameId := state.nextFrameId
  let state := {state with nextFrameId := frameIdAfter frameId}
  let result := answer.getD .notDelivered
  if result = .held then
    if state.releaseSource then (result, state.holdDmabufBuffer surface frameId buffer)
    else (.delivered, state)
  else (result, state)

def releaseDmabufFrame (frameId : UInt32) : State :=
  if state.releaseSource then
    {state with
      releasedFrames := state.releasedFrames ++ [frameId]
      history := {state.history with
        commits := state.history.commits.map fun commit =>
          if commit.terms.frameId = some frameId then
            {commit with terms := {commit.terms with released := true}}
          else commit}}
  else state

def releaseFrame (frameId : UInt32) : State :=
  match state.held.find? fun held => held.frameId = frameId with
  | none => state
  | some held => state.releaseHeldLocked held true

def releasePendingFrames : State :=
  state.releasedFrames.foldl releaseFrame {state with releasedFrames := []}

def onHeldBufferDestroyed (listener : HeldDmabufBuffer) : State :=
  match state.held.find? fun held => held.frameId = listener.frameId with
  | none => state
  | some held => state.releaseHeldLocked held false

def releaseHeldDmabufBuffers (surface : Nat) : State :=
  (state.heldOfSurface surface).foldl (fun state held => state.releaseHeldLocked held true) state

def createSurface : State := {state with surfaces := state.surfaces ++ [{}]}

def createBuffer (fdOk : Bool) : State := {state with buffers := state.buffers ++ [{fdOk}]}

/-- A client can only name buffers and surfaces that are there. -/
def attach (surface : Nat) (buffer : Option Nat) : Option State :=
  if state.surfaceAlive surface ∧ ∀ named ∈ buffer, state.bufferAlive named then
    some {state with
      surfaces := state.surfaces.modify surface fun known => {known with pendingBuffer := buffer}}
  else none

def setVirtioGpuScanoutId (surface : Nat) (scanoutId : UInt32) : Option State :=
  if state.surfaceAlive surface then
    some {state with
      surfaces := state.surfaces.modify surface fun known =>
        {known with scanoutId := some scanoutId}}
  else none

def clearPending (surface : Nat) : State :=
  {state with
    surfaces := state.surfaces.modify surface fun known => {known with pendingBuffer := none}}

def shows (surface buffer : Nat) : Bool :=
  (state.surfaces[surface]?.any fun known => known.scanoutId.isSome) &&
    state.buffers[buffer]?.any (·.fdOk)

def showFrame (surface buffer : Nat) (answer : Option DmabufFrameResult) :
    DmabufFrameResult × State :=
  if state.shows surface buffer then state.handleSurfaceDmabufFrame surface buffer answer
  else (.notDelivered, state)

/-- The consumer may have released the frame before it was recorded as held. -/
def releaseUnlessHeld (surface buffer : Nat) (frameId : UInt32) (result : DmabufFrameResult) :
    State :=
  let bufferHeld := decide (result = .held)
  let terms : Commit := {
    surface
    frameId := if bufferHeld then some frameId else none
    released := bufferHeld && decide (frameId ∈ state.releasedFrames)}
  let state := {state with history := {state.history with
    commits := {item := buffer, terms} :: state.history.commits}}
  if bufferHeld then state else state.sendRelease buffer

def commit (surface : Nat) (answer : Option DmabufFrameResult) : Option State :=
  if !state.surfaceAlive surface then none
  else match state.pendingBuffer surface with
  | none => some state
  | some buffer =>
    let frameId := state.nextFrameId
    let (result, state) := (state.clearPending surface).showFrame surface buffer answer
    some (state.releaseUnlessHeld surface buffer frameId result)

def destroyBuffer (buffer : Nat) : Option State :=
  if state.bufferAlive buffer then
    let state := {state with
      buffers := state.buffers.modify buffer fun dmabuf => {dmabuf with destroyed := true}}
    some ((state.listeners.filter fun held => held.buffer = buffer).foldl
      onHeldBufferDestroyed state)
  else none

def destroySurface (surface : Nat) : Option State :=
  if state.surfaceAlive surface then
    let state := state.releaseHeldDmabufBuffers surface
    some {state with
      surfaces := state.surfaces.modify surface fun _ => {destroyed := true}}
  else none

end State

inductive Event where
  | createSurface
  | createBuffer (fdOk : Bool)
  | attach (surface : Nat) (buffer : Option Nat)
  | setVirtioGpuScanoutId (surface : Nat) (scanoutId : UInt32)
  | commit (surface : Nat) (answer : Option DmabufFrameResult)
  | releaseDmabufFrame (frameId : UInt32)
  | releasePendingFrames
  | destroyBuffer (buffer : Nat)
  | destroySurface (surface : Nat)

def State.step (state : State) : Event → Option State
  | .createSurface => some state.createSurface
  | .createBuffer fdOk => some (state.createBuffer fdOk)
  | .attach surface buffer => state.attach surface buffer
  | .setVirtioGpuScanoutId surface scanoutId => state.setVirtioGpuScanoutId surface scanoutId
  | .commit surface answer => state.commit surface answer
  | .releaseDmabufFrame frameId => some (state.releaseDmabufFrame frameId)
  | .releasePendingFrames => some state.releasePendingFrames
  | .destroyBuffer buffer => state.destroyBuffer buffer
  | .destroySurface surface => state.destroySurface surface

def surfacesMachine : Machine State Event where
  init state := state = {releaseSource := state.releaseSource}
  step := State.step

end Ika.Wayland
