import Ika.Foundation.ByteStream
import Ika.FrameStream.Interleaving

/-! The bytes of the messages, and `ReadClientMessages` on a socket that delivers them in pieces. -/

set_option autoImplicit false

namespace Ika.FrameStream

open ByteStream List

def RawFrameHeader.bytes (header : RawFrameHeader) : List UInt8 :=
  words [header.magic, header.version, header.displayNumber, header.width, header.height,
    header.fourcc, header.strideBytes, header.payloadSize]

def DmabufFrameHeader.bytes (header : DmabufFrameHeader) : List UInt8 :=
  words [header.magic, header.version, header.displayNumber, header.width, header.height,
    header.fourcc, header.offset, header.strideBytes, header.modifierHi, header.modifierLo]

def DmabufFrameIdHeader.bytes (header : DmabufFrameIdHeader) : List UInt8 :=
  header.frame.bytes ++ word header.frameId

def TimestampsHeader.bytes (header : TimestampsHeader) : List UInt8 :=
  words [header.magic, header.version, header.displayNumber, header.reserved] ++
    (doubleWord header.arrivalNs ++ doubleWord header.sendNs)

def ShmInitReleaseHeader.bytes (header : ShmInitReleaseHeader) : List UInt8 :=
  words [header.magic, header.version, header.slotCount, header.slotSize, header.generation]

def ShmFrameHeader.bytes (header : ShmFrameHeader) : List UInt8 :=
  words [header.magic, header.version, header.displayNumber, header.width, header.height,
    header.fourcc, header.strideBytes, header.payloadSize, header.slotIndex]

def shmInitHeaderSize : Nat := 16

/-- What is sent for a message, with its header cut short for an older client. -/
def ServerMessage.sent : ServerMessage → List (Cell Descriptor)
  | .shmInit header fd =>
    withDescriptor fd
      (if header.generation ≠ 0 then header.bytes else header.bytes.take shmInitHeaderSize)
  | .shmNotify header => plain header.bytes
  | .rawFrame header pixels => plain (header.bytes ++ pixels)
  | .dmabufFrame header withFrameId fd =>
    withDescriptor fd (if withFrameId then header.bytes else header.frame.bytes)
  | .timestamps header => plain header.bytes

def clientMessageSize : Nat := 16

def ClientMessage.bytes (message : ClientMessage) : List UInt8 :=
  words [message.magic, message.version, message.arg0, message.arg1]

def ClientMessage.ofBytes (stored : List UInt8) : ClientMessage where
  magic := wordAt stored 0
  version := wordAt stored 4
  arg0 := wordAt stored 8
  arg1 := wordAt stored 12

/-- How the last `recv` of a call ends it. -/
inductive ReadEnd where
  | wouldBlock
  | closed
  | failed
  deriving DecidableEq, Repr

/-- What the `recv` calls of one call of `ReadClientMessages` return: bytes, or an interruption. -/
structure ReadCall where
  received : List (Option (List UInt8))
  last : ReadEnd

def receiveMessage (shm : ClientShm) : Option (List UInt8) → ClientShm × List UInt32
  | none => (shm, [])
  | some received =>
    let message := shm.message ++ received
    if message.length < clientMessageSize then ({shm with message := message}, [])
    else applyClientMessage {shm with message := []} (ClientMessage.ofBytes message)

def readClientMessages (shm : ClientShm) (call : ReadCall) : ClientShm × List UInt32 × Bool :=
  let (shm, released) := feed receiveMessage shm call.received
  (shm, released, call.last = .wouldBlock)

def readCalls (shm : ClientShm) (calls : List ReadCall) : ClientShm × List UInt32 :=
  feed (fun shm call => let (shm, released, _) := readClientMessages shm call; (shm, released))
    shm calls

/-- Each `recv` asks for what is missing of a message, and gets some of it. -/
def Fits : Nat → List (Option (List UInt8)) → Prop
  | _, [] => True
  | size, none :: rest => Fits size rest
  | size, some received :: rest =>
    received ≠ [] ∧ size + received.length ≤ clientMessageSize ∧
      Fits ((size + received.length) % clientMessageSize) rest

def applyClientMessages (shm : ClientShm) (messages : List ClientMessage) :
    ClientShm × List UInt32 :=
  feed applyClientMessage shm messages

variable {shm : ClientShm} {received : List UInt8} (message : ClientMessage)

theorem ClientMessage.ofBytes_bytes : ClientMessage.ofBytes message.bytes = message := by
  simp [ClientMessage.ofBytes, ClientMessage.bytes]

theorem ClientMessage.length_bytes : message.bytes.length = clientMessageSize := by
  simp [ClientMessage.bytes, clientMessageSize]

theorem applyClientMessage_message (shm : ClientShm) (message : ClientMessage) :
    (applyClientMessage shm message).1.message = shm.message := by
  unfold applyClientMessage
  dsimp only
  split_ifs <;> rfl

def receiveByte (shm : ClientShm) (byte : UInt8) : ClientShm × List UInt32 :=
  receiveMessage shm (some [byte])

theorem receiveMessage_incomplete
    (incomplete : shm.message.length + received.length < clientMessageSize) :
    receiveMessage shm (some received) = ({shm with message := shm.message ++ received}, []) := by
  rw [← length_append] at incomplete
  rw [receiveMessage, if_pos incomplete]

theorem receiveMessage_length (fits : shm.message.length + received.length ≤ clientMessageSize) :
    (receiveMessage shm (some received)).1.message.length =
      (shm.message.length + received.length) % clientMessageSize := by
  simp only [receiveMessage, length_append]
  split
  · rename_i incomplete
    rw [Nat.mod_eq_of_lt incomplete, length_append]
  · rename_i complete
    have : shm.message.length + received.length = clientMessageSize :=
      Nat.le_antisymm fits (Nat.not_lt.mp complete)
    rw [applyClientMessage_message, this, Nat.mod_self]
    rfl

theorem feed_receiveByte (some_byte : received ≠ [])
    (fits : shm.message.length + received.length ≤ clientMessageSize) :
    feed receiveByte shm received = receiveMessage shm (some received) := by
  induction received generalizing shm with
  | nil => exact absurd rfl some_byte
  | cons byte rest ih =>
    cases rest with
    | nil => simp [feed, receiveByte]
    | cons next more =>
      have incomplete : shm.message.length + [byte].length < clientMessageSize := by
        simp only [length_cons, length_nil] at fits ⊢
        omega
      have left : (shm.message ++ [byte]).length + (next :: more).length ≤ clientMessageSize := by
        simp only [length_append, length_cons, length_nil] at fits ⊢
        omega
      rw [feed, receiveByte, receiveMessage_incomplete incomplete]
      dsimp only
      rw [ih (by simp) left]
      simp [receiveMessage]

theorem feed_receiveMessage {results : List (Option (List UInt8))}
    (fits : Fits shm.message.length results) :
    feed receiveMessage shm results =
      feed receiveByte shm (results.flatMap fun result => result.getD []) := by
  induction results generalizing shm with
  | nil => rfl
  | cons result rest ih =>
    cases result with
    | none =>
      rw [flatMap_cons]
      exact ih fits
    | some received =>
      obtain ⟨some_byte, room, later⟩ := fits
      rw [← receiveMessage_length room] at later
      rw [flatMap_cons, feed_append, Option.getD_some, feed_receiveByte some_byte room,
        ← ih later]
      rfl

theorem feed_bytes (shm : ClientShm) (message : ClientMessage) (empty : shm.message = []) :
    feed receiveByte shm message.bytes = applyClientMessage shm message := by
  have whole : shm.message.length + message.bytes.length = clientMessageSize := by
    rw [empty, message.length_bytes, length_nil, Nat.zero_add]
  have some_byte : message.bytes ≠ [] := by
    intro none
    rw [empty, none] at whole
    cases whole
  rw [feed_receiveByte some_byte (Nat.le_of_eq whole), receiveMessage, empty, nil_append,
    message.length_bytes, if_neg (Nat.lt_irrefl _), ClientMessage.ofBytes_bytes, ← empty]

theorem feed_incomplete (incomplete : shm.message.length + received.length < clientMessageSize) :
    feed receiveByte shm received = ({shm with message := shm.message ++ received}, []) := by
  cases received with
  | nil => simp [feed]
  | cons byte rest =>
    rw [feed_receiveByte (by simp) (Nat.le_of_lt incomplete), receiveMessage_incomplete incomplete]

theorem readCalls_eq (shm : ClientShm) (calls : List ReadCall) :
    readCalls shm calls = feed receiveMessage shm (calls.flatMap (·.received)) :=
  (feed_flatMap (fun _ => True) (fun _ _ _ => rfl) (fun _ _ _ => trivial) trivial calls).symm

/-- However the bytes arrive, the messages they make up are applied one after the other. -/
theorem readCalls_messages {calls : List ReadCall} {messages : List ClientMessage}
    {tail : List UInt8} (begun : shm.message.length < clientMessageSize)
    (fits : Fits shm.message.length (calls.flatMap (·.received)))
    (incomplete : tail.length < clientMessageSize)
    (stream : shm.message ++ (calls.flatMap (·.received)).flatMap (fun result => result.getD []) =
      messages.flatMap ClientMessage.bytes ++ tail) :
    readCalls shm calls =
      ({(applyClientMessages {shm with message := []} messages).1 with message := tail},
        (applyClientMessages {shm with message := []} messages).2) := by
  set fresh : ClientShm := {shm with message := []} with cleared
  -- the bytes kept from before are as good as received again
  have kept : feed receiveByte fresh shm.message = (shm, []) := by
    rw [feed_incomplete (by simpa [cleared] using begun)]
    rfl
  have applied : feed receiveByte fresh (messages.flatMap ClientMessage.bytes) =
      applyClientMessages fresh messages :=
    feed_flatMap (fun shm => shm.message = []) (fun shm message => feed_bytes shm message)
      (fun shm message empty => (applyClientMessage_message shm message).trans empty) rfl messages
  have unbuffered : ∀ (list : List ClientMessage) (start : ClientShm), start.message = [] →
      (applyClientMessages start list).1.message = [] := by
    intro list
    induction list with
    | nil => exact fun _ empty => empty
    | cons message rest ih =>
      exact fun start empty => ih _ ((applyClientMessage_message start message).trans empty)
  have empty := unbuffered messages fresh rfl
  have again := @feed_append _ _ _ receiveByte fresh shm.message
    ((calls.flatMap (·.received)).flatMap fun result => result.getD [])
  rw [kept, stream, feed_append, applied, feed_incomplete (by simpa [empty] using incomplete)] at again
  rw [readCalls_eq, feed_receiveMessage fits]
  simp only [nil_append, append_nil, Prod.mk.eta, empty] at again
  exact again.symm

end Ika.FrameStream
