import Mathlib.Init

/-! The messages of the frame socket, as `ika_stream.cpp` lays them out.

The structures keep the fields and their order; the socket carries them as
little-endian bytes without padding.
-/

set_option autoImplicit false

namespace Ika

/-- What the consumer of a dma-buf frame did with it. -/
inductive DmabufFrameResult where
  | notDelivered
  | delivered
  | held
  deriving DecidableEq, Repr

namespace FrameStream

def kRawFrameMagic : UInt32 := 0x46414b49
def kRawFrameVersion : UInt32 := 1
def kDmabufFrameMagic : UInt32 := 0x44414b49
def kDmabufFrameVersion : UInt32 := 1
def kDmabufFrameIdVersion : UInt32 := 2
def kShmInitMagic : UInt32 := 0x53414b49
def kShmNotifyMagic : UInt32 := 0x4e414b49
def kShmFrameVersion : UInt32 := 1
def kShmReleaseVersion : UInt32 := 2
def kClientHelloMagic : UInt32 := 0x48414b49
def kSlotReleaseMagic : UInt32 := 0x52414b49
def kClientPauseMagic : UInt32 := 0x50414b49
def kDmabufReleaseMagic : UInt32 := 0x42414b49
def kClientHelloFlagsVersion : UInt32 := 3
def kHelloReleasesSlots : UInt32 := 1
def kHelloReleasesDmabufs : UInt32 := 2
def kHelloWantsTimestamps : UInt32 := 4
def kTimestampsMagic : UInt32 := 0x54414b49
def kTimestampsVersion : UInt32 := 1
def kSlotCount : Nat := 6

def uint32Max : Nat := 0xffffffff

structure RawFrameHeader where
  magic : UInt32 := 0
  version : UInt32 := 0
  displayNumber : UInt32 := 0
  width : UInt32 := 0
  height : UInt32 := 0
  fourcc : UInt32 := 0
  strideBytes : UInt32 := 0
  payloadSize : UInt32 := 0
  deriving DecidableEq, Repr

structure DmabufFrameHeader where
  magic : UInt32
  version : UInt32
  displayNumber : UInt32
  width : UInt32
  height : UInt32
  fourcc : UInt32
  offset : UInt32
  strideBytes : UInt32
  modifierHi : UInt32
  modifierLo : UInt32

structure DmabufFrameIdHeader where
  frame : DmabufFrameHeader
  frameId : UInt32

structure TimestampsHeader where
  magic : UInt32
  version : UInt32
  displayNumber : UInt32
  reserved : UInt32
  arrivalNs : UInt64
  sendNs : UInt64

/-- `ShmInitHeader` is this without its last field. -/
structure ShmInitReleaseHeader where
  magic : UInt32
  version : UInt32
  slotCount : UInt32
  slotSize : UInt32
  generation : UInt32

structure ShmFrameHeader where
  magic : UInt32
  version : UInt32
  displayNumber : UInt32
  width : UInt32
  height : UInt32
  fourcc : UInt32
  strideBytes : UInt32
  payloadSize : UInt32
  slotIndex : UInt32

structure ClientMessage where
  magic : UInt32
  version : UInt32
  arg0 : UInt32
  arg1 : UInt32

def ClientMessage.isSlotRelease (message : ClientMessage) : Prop :=
  message.magic = kSlotReleaseMagic ∧ message.version = kShmReleaseVersion
  deriving Decidable

def ClientMessage.isDmabufRelease (message : ClientMessage) : Prop :=
  message.magic = kDmabufReleaseMagic ∧ message.version = kShmReleaseVersion
  deriving Decidable

inductive Descriptor where
  | slots (mapping : Nat)
  | dmabuf (buffer : Nat)
  deriving DecidableEq, Repr

inductive ServerMessage where
  | shmInit (header : ShmInitReleaseHeader) (fd : Descriptor)
  | shmNotify (header : ShmFrameHeader)
  | rawFrame (header : RawFrameHeader) (pixels : List UInt8)
  | dmabufFrame (header : DmabufFrameIdHeader) (withFrameId : Bool) (fd : Descriptor)
  | timestamps (header : TimestampsHeader)

end FrameStream

end Ika
