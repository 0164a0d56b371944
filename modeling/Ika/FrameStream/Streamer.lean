import Mathlib.Algebra.Order.Ring.Int
import Ika.Foundation.Contents
import Ika.Foundation.Slots
import Ika.FrameStream.Messages

/-!
The critical sections of `RawFrameStreamer`, each a function of the display it locks.

What only feeds the log (`dmabuf_geometry`, `frame_path`) is left out.
-/

set_option autoImplicit false

namespace Ika.FrameStream

inductive FrameType where
  | none
  | raw
  | dmabuf
  deriving DecidableEq, Repr

structure Frame where
  type : FrameType := .none
  header : RawFrameHeader := {}
  pixels : Option (List UInt8) := none
  dmabufFd : Option Descriptor := none
  offset : UInt32 := 0
  modifierHi : UInt32 := 0
  modifierLo : UInt32 := 0
  slot : Option Nat := none
  slotSent : Bool := false
  holdId : UInt32 := 0
  holdTaken : Bool := false
  arrivalNs : UInt64 := 0
  /-- Ghost: the number of the call that brought the frame. -/
  call : Nat := 0
  deriving DecidableEq

/-- The bytes of a mapping are a segment: a copy in flight outlives the mapping. -/
structure ShmMapping where
  id : Nat
  deriving DecidableEq, Repr

structure ClientShm where
  mapping : Option ShmMapping := none
  slotSize : Nat := 0
  slotCount : Nat := 0
  nextSlot : Nat := 0
  generation : UInt32 := 0
  busySlots : BitVec 32 := 0#32
  clientReleasesSlots : Bool := false
  lastGeneration : UInt32 := 0
  clientReleasesDmabufs : Bool := false
  wantsTimestamps : Bool := false
  heldDmabufs : List UInt32 := []
  displayNumber : UInt32 := 0
  paused : Bool := false
  /-- The bytes of a message not complete yet (`message`, `message_size`). -/
  message : List UInt8 := []

structure DisplayStream where
  clientFd : Option Nat := none
  generation : Nat := 0
  suppressNextRaw : Bool := false
  latestFrame : Frame := {}
  shm : ClientShm := {}

/-- The search both `ReserveSlotLocked` and `AcquireShmSlot` make from the next slot on. -/
def ClientShm.freeSlot (shm : ClientShm) : Option Nat :=
  ((List.range shm.slotCount).map fun i => (shm.nextSlot + i) % shm.slotCount).find?
    fun index => !shm.busySlots.getLsbD index

def ClientShm.takeSlot (shm : ClientShm) (index : Nat) : ClientShm :=
  {shm with busySlots := SlotMask.mark shm.busySlots index, nextSlot := index + 1}

def ClientShm.slotAddress (shm : ClientShm) (index : Nat) : Nat := index * shm.slotSize

def reserveSlotLocked (display : DisplayStream) (payloadSize : Nat) :
    Option (Nat × DisplayStream) :=
  if display.shm.mapping.isNone ∨ display.shm.generation = 0 ∨
      display.shm.slotSize < payloadSize then none
  else display.shm.freeSlot.map fun index =>
    (index, {display with shm := display.shm.takeSlot index})

def detachLatestFrameFromShmLocked (memory : Memory) (display : DisplayStream) : DisplayStream :=
  match display.latestFrame.slot with
  | none => display
  | some slot =>
    let frame := match display.shm.mapping with
      | some mapping => {display.latestFrame with
          pixels := some (memory.read mapping.id (display.shm.slotAddress slot)
            display.latestFrame.header.payloadSize.toNat)}
      | none => {display.latestFrame with type := .none}
    {display with latestFrame := {frame with slot := none, slotSent := false}}

def releaseDmabufHold (holdId : UInt32) : List UInt32 :=
  if holdId ≠ 0 then [holdId] else []

def releaseLatestHoldLocked (display : DisplayStream) : DisplayStream × List UInt32 :=
  let latest := display.latestFrame
  ({display with latestFrame := {latest with holdId := 0, holdTaken := false}},
    if latest.holdId ≠ 0 ∧ latest.holdTaken = false then releaseDmabufHold latest.holdId else [])

def replaceLatestFrameLocked (display : DisplayStream) (frame : Frame) :
    DisplayStream × List UInt32 :=
  let latest := display.latestFrame
  -- A slot never sent to the client is free again
  let shm := match latest.slot with
    | some slot =>
      if latest.slotSent = false ∧ frame.slot ≠ some slot then
        {display.shm with busySlots := SlotMask.clear display.shm.busySlots slot}
      else display.shm
    | none => display.shm
  let (display, released) := releaseLatestHoldLocked {display with shm}
  ({display with latestFrame := frame}, released)

def frameChangedLocked (display : DisplayStream) : DisplayStream :=
  {display with generation := display.generation + 1}

/-- `duplicated` says whether `fcntl(F_DUPFD_CLOEXEC)` succeeds. -/
def copyLatestFrameLocked (display : DisplayStream) (duplicated : Bool) : Frame × DisplayStream :=
  let latest := display.latestFrame
  let takesHold := decide (latest.holdId ≠ 0 ∧ latest.holdTaken = false)
  ({ type := latest.type, header := latest.header, pixels := latest.pixels,
     offset := latest.offset, modifierHi := latest.modifierHi, modifierLo := latest.modifierLo,
     arrivalNs := latest.arrivalNs, slot := latest.slot,
     holdId := if takesHold then latest.holdId else 0,
     dmabufFd := if duplicated then latest.dmabufFd else none,
     call := latest.call},
   {display with latestFrame := {latest with
       slotSent := latest.slotSent || latest.slot.isSome
       holdTaken := latest.holdTaken || takesHold}})

def closeClientShm (shm : ClientShm) : ClientShm :=
  {shm with mapping := none, slotSize := 0, slotCount := 0, nextSlot := 0, generation := 0,
             busySlots := 0#32}

def endClientLocked (memory : Memory) (display : DisplayStream) : DisplayStream × List UInt32 :=
  let display := detachLatestFrameFromShmLocked memory display
  let held := display.shm.heldDmabufs.flatMap releaseDmabufHold
  let display := {display with shm := {display.shm with heldDmabufs := []}}
  let (display, latest) := releaseLatestHoldLocked display
  ({display with shm := closeClientShm display.shm}, held ++ latest)

def applyClientMessage (shm : ClientShm) (message : ClientMessage) : ClientShm × List UInt32 :=
  let helloFlags := decide (message.magic = kClientHelloMagic ∧
    message.version = kClientHelloFlagsVersion)
  if message.version ≠ kShmReleaseVersion ∧ helloFlags = false then (shm, [])
  else if helloFlags then
    ({shm with
        clientReleasesSlots := message.arg0 &&& kHelloReleasesSlots != 0
        clientReleasesDmabufs := message.arg0 &&& kHelloReleasesDmabufs != 0
        wantsTimestamps := message.arg0 &&& kHelloWantsTimestamps != 0
        displayNumber := message.arg1}, [])
  else if message.magic = kClientHelloMagic then
    ({shm with
        clientReleasesSlots := message.arg0 == 1
        displayNumber := message.arg1}, [])
  else if message.magic = kDmabufReleaseMagic then
    if message.arg0 ∈ shm.heldDmabufs then
      ({shm with heldDmabufs := shm.heldDmabufs.erase message.arg0},
        releaseDmabufHold message.arg0)
    else (shm, [])
  else if message.magic = kClientPauseMagic then
    ({shm with paused := message.arg0 == 1}, [])
  else if message.magic = kSlotReleaseMagic ∧ shm.generation ≠ 0 ∧
      message.arg0 = shm.generation ∧ message.arg1.toNat < shm.slotCount then
    ({shm with busySlots := SlotMask.clear shm.busySlots message.arg1.toNat}, [])
  else (shm, [])

/-- What the messages a new client sent at once make of a `ClientShm` of its own. -/
def helloShm (hello : List ClientMessage) : ClientShm :=
  hello.foldl (fun shm message => (applyClientMessage shm message).1) {}

/-- The checks of `OnFrame` and the header it builds, `none` where it returns at once. -/
def onFrameHeader (displayNumber width height fourcc strideBytes : UInt32)
    (pixels : Option (List UInt8)) : Option RawFrameHeader :=
  if width = 0 ∨ height = 0 ∨ strideBytes = 0 ∨ pixels.isNone then none
  else
    let payloadSize := height.toNat * strideBytes.toNat
    if uint32Max < payloadSize then none
    else some {
      magic := kRawFrameMagic, version := kRawFrameVersion, displayNumber, width, height, fourcc,
      strideBytes, payloadSize := UInt32.ofNat payloadSize}

structure DmabufArrival where
  width : UInt32
  height : UInt32
  fourcc : UInt32
  dmabufFd : Option Descriptor
  offset : UInt32
  strideBytes : UInt32
  modifierHi : UInt32
  modifierLo : UInt32
  frameId : UInt32
  arrivalNs : UInt64

def DmabufArrival.frame (arrival : DmabufArrival) (displayNumber : UInt32) (call : Nat) : Frame where
  type := .dmabuf
  arrivalNs := arrival.arrivalNs
  header := {
    magic := kDmabufFrameMagic, version := kDmabufFrameVersion, displayNumber
    width := arrival.width, height := arrival.height, fourcc := arrival.fourcc
    strideBytes := arrival.strideBytes, payloadSize := 0}
  dmabufFd := arrival.dmabufFd
  offset := arrival.offset
  modifierHi := arrival.modifierHi
  modifierLo := arrival.modifierLo
  call := call

def DmabufArrival.isHeld (arrival : DmabufArrival) (display : DisplayStream) : Bool :=
  display.clientFd.isSome && display.shm.clientReleasesDmabufs && !display.shm.paused &&
    arrival.frameId != 0

/-- The critical section of `OnDmabufFrame`, with the result of the call. -/
def onDmabufFrameLocked (display : DisplayStream) (displayNumber : UInt32) (call : Nat)
    (arrival : DmabufArrival) : DisplayStream × DmabufFrameResult × List UInt32 :=
  let held := arrival.isHeld display
  let frame := arrival.frame displayNumber call
  let frame := if held then {frame with holdId := arrival.frameId} else frame
  let (display, released) := replaceLatestFrameLocked display frame
  (frameChangedLocked {display with suppressNextRaw := true},
    if held then .held else .delivered, released)

/-- What `SendRawFrame` and `SendShmFrame` do with a frame in a pixel buffer. -/
inductive RawPath where
  | fails
  | initialises (payloadSize : Nat)
  | acquires

def rawPath (shm : ClientShm) (frame : Frame) : RawPath :=
  match frame.pixels with
  | none => .fails
  | some pixels =>
    if pixels = [] ∨ frame.header.payloadSize = 0 then .fails
    else if uint32Max < pixels.length then .fails
    else if shm.mapping.isNone ∨ shm.slotSize < pixels.length then .initialises pixels.length
    else .acquires

/-- The check `SendShmFrame` makes again once the slots were set up. -/
def shmReady (shm : ClientShm) (frame : Frame) : Bool :=
  shm.mapping.isSome && decide ((frame.pixels.getD []).length ≤ shm.slotSize) &&
    decide (shm.slotCount ≠ 0)

/-- The size of a slot for a payload, `none` where `SendShmInit` finds it out of range. -/
def shmSlotSize (payloadSize : Nat) : Option Nat :=
  let slotSize := max payloadSize 1
  if uint32Max < slotSize then none
  else if slotSize * kSlotCount % 2 ^ 64 / kSlotCount ≠ slotSize then none
  else some slotSize

/-- The generation of the slots `SendShmInit` announces, 0 if the client copies them. -/
def shmInitGeneration (shm : ClientShm) : UInt32 :=
  if shm.clientReleasesSlots then shm.lastGeneration + 1 else 0

def shmInitHeader (slotSize : Nat) (generation : UInt32) : ShmInitReleaseHeader where
  magic := kShmInitMagic
  version := if generation ≠ 0 then kShmReleaseVersion else kShmFrameVersion
  slotCount := UInt32.ofNat kSlotCount
  slotSize := UInt32.ofNat slotSize
  generation := generation

/-- The critical section of `SendShmInit`, after the message was sent. -/
def installShmLocked (memory : Memory) (display : DisplayStream) (mapping : ShmMapping)
    (slotSize : Nat) (generation : UInt32) : DisplayStream :=
  let display := detachLatestFrameFromShmLocked memory display
  let shm := closeClientShm display.shm
  {display with shm := {shm with
      mapping := some mapping, slotSize := slotSize, slotCount := kSlotCount, nextSlot := 0
      generation := generation, busySlots := 0#32
      lastGeneration := if generation ≠ 0 then generation else shm.lastGeneration}}

/-- One round of `AcquireShmSlot`: the slot taken, if one is free. -/
def acquireShmSlot (shm : ClientShm) : Option (Nat × ClientShm) :=
  if shm.generation = 0 then
    some (shm.nextSlot % shm.slotCount, {shm with nextSlot := (shm.nextSlot + 1) % 2 ^ 32})
  else shm.freeSlot.map fun index => (index, shm.takeSlot index)

def shmNotifyHeader (frame : Frame) (slotIndex : Nat) : ShmFrameHeader where
  magic := kShmNotifyMagic
  version := kShmFrameVersion
  displayNumber := frame.header.displayNumber
  width := frame.header.width
  height := frame.header.height
  fourcc := frame.header.fourcc
  strideBytes := frame.header.strideBytes
  payloadSize := frame.header.payloadSize
  slotIndex := UInt32.ofNat slotIndex

def timestampsHeader (frame : Frame) (now : UInt64) : TimestampsHeader where
  magic := kTimestampsMagic
  version := kTimestampsVersion
  displayNumber := frame.header.displayNumber
  reserved := 0
  arrivalNs := frame.arrivalNs
  sendNs := now

def dmabufFrameHeader (frame : Frame) (withFrameId : Bool) : DmabufFrameIdHeader where
  frame := {
    magic := kDmabufFrameMagic
    version := if withFrameId then kDmabufFrameIdVersion else kDmabufFrameVersion
    displayNumber := frame.header.displayNumber
    width := frame.header.width
    height := frame.header.height
    fourcc := frame.header.fourcc
    offset := frame.offset
    strideBytes := frame.header.strideBytes
    modifierHi := frame.modifierHi
    modifierLo := frame.modifierLo}
  frameId := frame.holdId

end Ika.FrameStream
