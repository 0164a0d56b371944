import Ika.FrameStream.Wire

/-!
The client of the frame socket, as `cf_source.c` reads it.

A function of the source that returns false is `none` here: the connection is then closed. Left out
are the duplicates of the socket that released slots and dma-bufs are sent over, and the closing of
descriptors.
-/

set_option autoImplicit false

namespace Ika.FrameStream

open ByteStream

def cfVersion : UInt32 := 1
def cfVersionShmRelease : UInt32 := 2
def cfVersionDmaBufRelease : UInt32 := 2
def cfMagicRaw : UInt32 := 0x46414b49
def cfMagicDmaBuf : UInt32 := 0x44414b49
def cfMagicShmInit : UInt32 := 0x53414b49
def cfMagicShmFrame : UInt32 := 0x4e414b49
def cfMagicShmRelease : UInt32 := 0x52414b49
def cfMagicDmaBufRelease : UInt32 := 0x42414b49
def cfMagicTimestamps : UInt32 := 0x54414b49
def cfMaxPayload : UInt32 := 256 * 1024 * 1024
def cfMaxSlots : UInt32 := 16

structure CfHeader where
  magic : UInt32
  version : UInt32

structure CfRawHeader where
  displayNumber : UInt32
  width : UInt32
  height : UInt32
  fourcc : UInt32
  stride : UInt32
  payloadSize : UInt32
  deriving DecidableEq, Repr

structure CfDmaBufHeader where
  displayNumber : UInt32
  width : UInt32
  height : UInt32
  fourcc : UInt32
  offset : UInt32
  stride : UInt32
  modifierHi : UInt32
  modifierLo : UInt32
  frameId : UInt32
  deriving DecidableEq, Repr

structure CfTimestampsHeader where
  displayNumber : UInt32
  reserved : UInt32
  arrivalNs : UInt64
  sendNs : UInt64
  deriving DecidableEq, Repr

structure CfShmInitHeader where
  slotCount : UInt32
  slotSize : UInt32
  deriving DecidableEq, Repr

structure CfShmFrameHeader where
  displayNumber : UInt32
  width : UInt32
  height : UInt32
  fourcc : UInt32
  stride : UInt32
  payloadSize : UInt32
  slotIndex : UInt32
  deriving DecidableEq, Repr

def CfHeader.ofBytes (stored : List UInt8) : CfHeader := ⟨wordAt stored 0, wordAt stored 4⟩

def CfRawHeader.ofBytes (stored : List UInt8) : CfRawHeader :=
  ⟨wordAt stored 0, wordAt stored 4, wordAt stored 8, wordAt stored 12, wordAt stored 16,
    wordAt stored 20⟩

def CfDmaBufHeader.ofBytes (stored : List UInt8) : CfDmaBufHeader :=
  ⟨wordAt stored 0, wordAt stored 4, wordAt stored 8, wordAt stored 12, wordAt stored 16,
    wordAt stored 20, wordAt stored 24, wordAt stored 28, wordAt stored 32⟩

def CfTimestampsHeader.ofBytes (stored : List UInt8) : CfTimestampsHeader :=
  ⟨wordAt stored 0, wordAt stored 4, doubleWordAt stored 8, doubleWordAt stored 16⟩

def CfShmInitHeader.ofBytes (stored : List UInt8) : CfShmInitHeader :=
  ⟨wordAt stored 0, wordAt stored 4⟩

def CfShmFrameHeader.ofBytes (stored : List UInt8) : CfShmFrameHeader :=
  ⟨wordAt stored 0, wordAt stored 4, wordAt stored 8, wordAt stored 12, wordAt stored 16,
    wordAt stored 20, wordAt stored 24⟩

inductive CfMessage where
  | raw (header : CfRawHeader)
  | shmInit (header : CfShmInitHeader) (generation : UInt32) (fd : Descriptor)
  | shmFrame (header : CfShmFrameHeader)
  | timestamps (header : CfTimestampsHeader)
  | dmaBuf (header : CfDmaBufHeader) (fd : Descriptor)
  deriving DecidableEq, Repr

/-- The formats of `sc_cf_get_pix_fmt`, and that of a dma-buf frame. -/
inductive PixFmt where
  | bgr0 | rgb0 | zeroBgr | zeroRgb | bgra | rgba | abgr | argb
  | drmPrime

def scFourcc (a b c d : Char) : UInt32 :=
  a.val ||| b.val <<< 8 ||| c.val <<< 16 ||| d.val <<< 24

def cfGetPixFmt (fourcc : UInt32) : Option PixFmt :=
  if fourcc = scFourcc 'X' 'R' '2' '4' then some .bgr0
  else if fourcc = scFourcc 'X' 'B' '2' '4' then some .rgb0
  else if fourcc = scFourcc 'R' 'X' '2' '4' then some .zeroBgr
  else if fourcc = scFourcc 'B' 'X' '2' '4' then some .zeroRgb
  else if fourcc = scFourcc 'A' 'R' '2' '4' then some .bgra
  else if fourcc = scFourcc 'A' 'B' '2' '4' then some .rgba
  else if fourcc = scFourcc 'R' 'A' '2' '4' then some .abgr
  else if fourcc = scFourcc 'B' 'A' '2' '4' then some .argb
  else none

def cfCheckSize (width height stride : UInt32) : Bool :=
  width != 0 && decide (width ≤ 0xffff) && height != 0 && decide (height ≤ 0xffff) &&
    decide (width * 4 ≤ stride)

structure CfShm where
  data : Descriptor
  slotCount : UInt32
  slotSize : UInt32
  generation : UInt32

structure LatencyStamps where
  arrivalNs : UInt64 := 0
  sendNs : UInt64 := 0
  recvNs : UInt64 := 0

inductive CfFrameData where
  | pixels (bytes : List UInt8)
  /-- A copy made of a slot, or the slot itself. -/
  | copied (data : Descriptor) (address payloadSize : Nat)
  | slot (data : Descriptor) (address payloadSize : Nat) (generation index : UInt32)
  | dmaBuf (fd : Descriptor) (fourcc offset pitch : UInt32) (modifier : UInt64) (frameId : UInt32)

structure CfFrame where
  data : CfFrameData
  /-- Not set for a dma-buf frame, whose planes say it. -/
  stride : UInt32 := 0
  format : PixFmt
  width : UInt32
  height : UInt32
  stamps : Option LatencyStamps := none

/-- What is not in the source: whether calls of the system and of the sinks succeed. -/
structure CfHost where
  mapsSlots : CfShm → Bool
  allocates : Nat → Bool
  referencesSlot : CfShmFrameHeader → Bool
  describesDmaBuf : CfDmaBufHeader → Bool
  opensSinks : (width height : UInt32) → Bool
  takesFrame : CfFrame → Bool
  attachesStamps : LatencyStamps → Bool
  now : UInt64

/-- Memory, mappings and sinks are available. -/
structure CfHost.Works (host : CfHost) : Prop where
  mapsSlots : ∀ shm, host.mapsSlots shm = true
  allocates : ∀ size, host.allocates size = true
  referencesSlot : ∀ header, host.referencesSlot header = true
  describesDmaBuf : ∀ header, host.describesDmaBuf header = true
  opensSinks : ∀ width height, host.opensSinks width height = true
  takesFrame : ∀ frame, host.takesFrame frame = true

structure CfSource where
  displayNumber : UInt32
  shm : Option CfShm := none
  stamps : LatencyStamps := {}
  stampsPending : Bool := false
  sinksOpen : Bool := false

/-- A source with the socket it reads, what it decoded, showed and sent. -/
structure CfClient where
  source : CfSource
  socket : List (Cell Descriptor)
  decoded : List CfMessage := []
  pushed : List CfFrame := []
  replies : List ClientMessage := []

namespace CfClient

variable (host : CfHost) (client : CfClient)

def noteDecoded (socket : List (Cell Descriptor)) (message : CfMessage) : CfClient :=
  {client with socket := socket, decoded := client.decoded ++ [message]}

def sendMsg (magic arg0 arg1 : UInt32) : CfClient :=
  {client with replies := client.replies ++ [⟨magic, cfVersionShmRelease, arg0, arg1⟩]}

def releaseSlot (shm : CfShm) (index : UInt32) : CfClient :=
  if shm.generation ≠ 0 then client.sendMsg cfMagicShmRelease shm.generation index else client

def attachStamps (frame : CfFrame) : CfFrame :=
  if client.source.stampsPending && host.attachesStamps client.source.stamps then
    {frame with stamps := some client.source.stamps}
  else frame

def push (frame : CfFrame) : Option CfClient :=
  let frame := client.attachStamps host frame
  if !client.source.sinksOpen && !host.opensSinks frame.width frame.height then none
  else if host.takesFrame frame then
    some {client with
      source := {client.source with stampsPending := false, sinksOpen := true}
      pushed := client.pushed ++ [frame]}
  else none

def shows (displayNumber fourcc : UInt32) : Option PixFmt :=
  if displayNumber ≠ client.source.displayNumber then none else cfGetPixFmt fourcc

def processRaw : Option CfClient := do
  let (stored, socket) ← readAll client.socket 24
  let h := CfRawHeader.ofBytes stored
  if !cfCheckSize h.width h.height h.stride || cfMaxPayload < h.payloadSize ||
      decide (h.payloadSize.toNat < h.stride.toNat * h.height.toNat) then none
  else
    -- the payload is skipped if it is not shown, and else read to a buffer
    let (pixels, socket) ← readAll socket h.payloadSize.toNat
    let client := client.noteDecoded socket (.raw h)
    match client.shows h.displayNumber h.fourcc with
    | none => some client
    | some format =>
      if host.allocates h.payloadSize.toNat then
        client.push host
          { data := .pixels pixels, stride := h.stride, format, width := h.width
            height := h.height}
      else none

def readGeneration (socket : List (Cell Descriptor)) (release : Bool) :
    Option (UInt32 × List (Cell Descriptor)) :=
  if release then (readAll socket 4).map fun (stored, socket) => (wordAt stored 0, socket)
  else some (0, socket)

def processShmInit (release : Bool) (attached : Option Descriptor) : Option CfClient := do
  let fd ← attached
  let (stored, socket) ← readAll client.socket 8
  let h := CfShmInitHeader.ofBytes stored
  let (generation, socket) ← readGeneration socket release
  if (release && generation == 0) || h.slotCount == 0 || cfMaxSlots < h.slotCount ||
      h.slotSize == 0 || cfMaxPayload < h.slotSize then none
  else
    let shm : CfShm := {data := fd, slotCount := h.slotCount, slotSize := h.slotSize, generation}
    if host.mapsSlots shm then
      some { client.noteDecoded socket (.shmInit h generation fd) with
        source := {client.source with shm := some shm}}
    else none

def processShmFrame : Option CfClient := do
  let (stored, socket) ← readAll client.socket 28
  let h := CfShmFrameHeader.ofBytes stored
  let shm ← client.source.shm
  if shm.slotCount ≤ h.slotIndex || !cfCheckSize h.width h.height h.stride ||
      shm.slotSize < h.payloadSize ||
      decide (h.payloadSize.toNat < h.stride.toNat * h.height.toNat) then none
  else
    let client := client.noteDecoded socket (.shmFrame h)
    match client.shows h.displayNumber h.fourcc with
    | none => some (client.releaseSlot shm h.slotIndex)
    | some format =>
      let address := h.slotIndex.toNat * shm.slotSize.toNat
      let payloadSize := h.payloadSize.toNat
      if shm.generation ≠ 0 then
        if host.referencesSlot h then
          client.push host
            { data := .slot shm.data address payloadSize shm.generation h.slotIndex
              stride := h.stride, format, width := h.width, height := h.height}
        else none
      -- the server reuses the slot for a later frame
      else if host.allocates payloadSize then
        client.push host
          { data := .copied shm.data address payloadSize, stride := h.stride, format
            width := h.width, height := h.height}
      else none

def processTimestamps : Option CfClient := do
  let (stored, socket) ← readAll client.socket 24
  let h := CfTimestampsHeader.ofBytes stored
  let client := client.noteDecoded socket (.timestamps h)
  if h.displayNumber ≠ client.source.displayNumber then some client
  else some {client with source := {client.source with
    stamps := {arrivalNs := h.arrivalNs, sendNs := h.sendNs, recvNs := host.now}
    stampsPending := true}}

def processDmaBuf (release : Bool) (attached : Option Descriptor) : Option CfClient := do
  let fd ← attached
  let (stored, socket) ← readAll client.socket (if release then 36 else 32)
  let h := CfDmaBufHeader.ofBytes stored
  if !cfCheckSize h.width h.height h.stride then none
  else
    let client := client.noteDecoded socket (.dmaBuf h fd)
    match client.shows h.displayNumber h.fourcc with
    | none =>
      some (if h.frameId ≠ 0 then client.sendMsg cfMagicDmaBufRelease h.frameId 0 else client)
    | some _ =>
      if host.describesDmaBuf h then
        client.push host
          { data := .dmaBuf fd h.fourcc h.offset h.stride
              (h.modifierHi.toUInt64 <<< 32 ||| h.modifierLo.toUInt64) h.frameId
            format := .drmPrime, width := h.width, height := h.height}
      else none

def processMsg : Option CfClient := do
  let (stored, attached, socket) ← receiveAll client.socket 8
  let header := CfHeader.ofBytes stored
  let client := {client with socket := socket}
  let shmRelease := header.magic == cfMagicShmInit && header.version == cfVersionShmRelease
  let dmaBufRelease := header.magic == cfMagicDmaBuf && header.version == cfVersionDmaBufRelease
  if header.version != cfVersion && !shmRelease && !dmaBufRelease then none
  else if header.magic = cfMagicRaw then client.processRaw host
  else if header.magic = cfMagicShmInit then client.processShmInit host shmRelease attached
  else if header.magic = cfMagicShmFrame then client.processShmFrame host
  else if header.magic = cfMagicTimestamps then client.processTimestamps host
  else if header.magic = cfMagicDmaBuf then client.processDmaBuf host dmaBufRelease attached
  else none

def processMsgs : Nat → Option CfClient
  | 0 => some client
  | count + 1 => (processMsgs count).bind (processMsg host)

end CfClient

end Ika.FrameStream
