import Ika.Control.ControlMsg

/-! The control messages as `ControlMessageReader.java` reads them.

An `int` is an `Int32` and a `long` an `Int64`. The strings of Java are left as the
characters they are made of; what malformed bytes decode to is a parameter, as no
message has any.
-/

set_option autoImplicit false

namespace Ika.Control

open ByteStream Nat

def readUnsignedByte : Reader Int32 := do
  let number ← readNumber 1
  return Int32.ofNat number

def readUnsignedShort : Reader Int32 := do
  let number ← readNumber 2
  return Int32.ofNat number

def readShort : Reader Int16 := do
  let number ← readNumber 2
  return (UInt16.ofNat number).toInt16

def readInt : Reader Int32 := do
  let number ← readNumber 4
  return (UInt32.ofNat number).toInt32

def readLong : Reader Int64 := do
  let number ← readNumber 8
  return (UInt64.ofNat number).toInt64

/-- Whether `readBoolean`, or `readByte` compared with zero, gives true. -/
def readBoolean : Reader Bool := do
  let number ← readNumber 1
  return number ≠ 0

structure ReadPosition where
  x : Int32
  y : Int32
  screenWidth : Int32
  screenHeight : Int32

/-- `ControlMessage`, by the method that creates it; `empty` is for the types without content. -/
inductive ControlMessage where
  | injectKeycode (action keycode repeatCount metaState : Int32)
  | injectText (text : List Char)
  | injectTouchEvent (action : Int32) (pointerId : Int64) (position : ReadPosition)
      (pressure : Int16) (actionButton buttons : Int32)
  | injectScrollEvent (position : ReadPosition) (hScroll vScroll : Int16) (buttons : Int32)
  | backOrScreenOn (action : Int32)
  | getClipboard (copyKey : Int32)
  | setClipboard (sequence : Int64) (text : List Char) (paste : Bool)
  | setDisplayPower (on : Bool)
  | empty (type : Int32)
  | uhidCreate (id vendorId productId : Int32) (name : List Char) (reportDesc : List UInt8)
  | uhidInput (id : Int32) (data : List UInt8)
  | uhidDestroy (id : Int32)
  | startApp (name : List Char)
  | cameraSetTorch (on : Bool)
  | resizeDisplay (width height : Int32)
  | scanFile (path : List Char)

namespace ControlMessageReader

/-- The loop of `parseBufferLength`, on 32 bits. -/
def parseBufferLengthFrom (length : UInt32) : Nat → Reader UInt32
  | 0 => return length
  | sizeBytes + 1 => do
    let number ← readNumber 1
    parseBufferLengthFrom ((length <<< 8) ||| UInt32.ofNat number) sizeBytes

def parseBufferLength (sizeBytes : Nat) : Reader Int32 := do
  let length ← parseBufferLengthFrom 0 sizeBytes
  return length.toInt32

def parseByteArray (sizeBytes : Nat) : Reader (List UInt8) := do
  let length ← parseBufferLength sizeBytes
  if length < 0 then failure else readFully length.toInt.toNat

variable (malformed : List UInt8 → List Char)

/-- `new String(data, StandardCharsets.UTF_8)`. -/
def newString (data : List UInt8) : List Char := (Utf8.decode data).getD (malformed data)

def parseString (sizeBytes : Nat) : Reader (List Char) := do
  let data ← parseByteArray sizeBytes
  return newString malformed data

def parsePosition : Reader ReadPosition := do
  let x ← readInt
  let y ← readInt
  let screenWidth ← readUnsignedShort
  let screenHeight ← readUnsignedShort
  return {x, y, screenWidth, screenHeight}

def parseInjectKeycode : Reader ControlMessage := do
  let action ← readUnsignedByte
  let keycode ← readInt
  let repeatCount ← readInt
  let metaState ← readInt
  return .injectKeycode action keycode repeatCount metaState

def parseInjectText : Reader ControlMessage := do
  let text ← parseString malformed 4
  return .injectText text

def parseInjectTouchEvent : Reader ControlMessage := do
  let action ← readUnsignedByte
  let pointerId ← readLong
  let position ← parsePosition
  let pressure ← readShort
  let actionButton ← readInt
  let buttons ← readInt
  return .injectTouchEvent action pointerId position pressure actionButton buttons

def parseInjectScrollEvent : Reader ControlMessage := do
  let position ← parsePosition
  let hScroll ← readShort
  let vScroll ← readShort
  let buttons ← readInt
  return .injectScrollEvent position hScroll vScroll buttons

def parseBackOrScreenOnEvent : Reader ControlMessage := do
  let action ← readUnsignedByte
  return .backOrScreenOn action

def parseGetClipboard : Reader ControlMessage := do
  let copyKey ← readUnsignedByte
  return .getClipboard copyKey

def parseSetClipboard : Reader ControlMessage := do
  let sequence ← readLong
  let paste ← readBoolean
  let text ← parseString malformed 4
  return .setClipboard sequence text paste

def parseSetDisplayPower : Reader ControlMessage := do
  let on ← readBoolean
  return .setDisplayPower on

def parseUhidCreate : Reader ControlMessage := do
  let id ← readUnsignedShort
  let vendorId ← readUnsignedShort
  let productId ← readUnsignedShort
  let name ← parseString malformed 1
  let data ← parseByteArray 2
  return .uhidCreate id vendorId productId name data

def parseUhidInput : Reader ControlMessage := do
  let id ← readUnsignedShort
  let data ← parseByteArray 2
  return .uhidInput id data

def parseUhidDestroy : Reader ControlMessage := do
  let id ← readUnsignedShort
  return .uhidDestroy id

def parseStartApp : Reader ControlMessage := do
  let name ← parseString malformed 1
  return .startApp name

def parseCameraSetTorch : Reader ControlMessage := do
  let on ← readBoolean
  return .cameraSetTorch on

def parseResizeDisplay : Reader ControlMessage := do
  let width ← readUnsignedShort
  let height ← readUnsignedShort
  return .resizeDisplay width height

def parseScanFile : Reader ControlMessage := do
  let path ← parseString malformed 4
  return .scanFile path

/-- The cases of `read`; any other type is a protocol error. -/
def parse (type : Int32) : Reader ControlMessage :=
  match type.toInt with
  | 0 => parseInjectKeycode
  | 1 => parseInjectText malformed
  | 2 => parseInjectTouchEvent
  | 3 => parseInjectScrollEvent
  | 4 => parseBackOrScreenOnEvent
  | 8 => parseGetClipboard
  | 9 => parseSetClipboard malformed
  | 10 => parseSetDisplayPower
  | 5 | 6 | 7 | 11 | 15 | 17 | 19 | 20 => return .empty type
  | 12 => parseUhidCreate malformed
  | 13 => parseUhidInput
  | 14 => parseUhidDestroy
  | 16 => parseStartApp malformed
  | 18 => parseCameraSetTorch
  | 21 => parseResizeDisplay
  | 22 => parseScanFile malformed
  | _ => failure

def read : Reader ControlMessage := do
  let type ← readUnsignedByte
  parse malformed type

end ControlMessageReader

def lowByte (number : UInt32) : Int32 := Int32.ofNat number.toUInt8.toNat

def Position.received (position : Position) : ReadPosition where
  x := position.x
  y := position.y
  screenWidth := Int32.ofNat position.screenWidth.toNat
  screenHeight := Int32.ofNat position.screenHeight.toNat

/-- The message that is read: actions and copy keys lose all but a byte, strings what does not fit.
-/
def ControlMsg.received : ControlMsg → ControlMessage
  | .injectKeycode action keycode repeatCount metastate =>
    .injectKeycode (lowByte action) keycode.toInt32 repeatCount.toInt32 metastate.toInt32
  | .injectText text => .injectText (sentText injectTextMaxLength text)
  | .injectTouchEvent action pointerId position pressure actionButton buttons =>
    .injectTouchEvent (lowByte action) pointerId.toInt64 position.received pressure.toInt16
      actionButton.toInt32 buttons.toInt32
  | .injectScrollEvent position hscroll vscroll buttons =>
    .injectScrollEvent position.received hscroll.toInt16 vscroll.toInt16 buttons.toInt32
  | .backOrScreenOn action => .backOrScreenOn (lowByte action)
  | .getClipboard copyKey => .getClipboard (lowByte copyKey)
  | .setClipboard sequence text paste =>
    .setClipboard sequence.toInt64 (sentText clipboardTextMaxLength text) paste
  | .setDisplayPower on => .setDisplayPower on
  | .uhidCreate id vendorId productId name reportDesc =>
    .uhidCreate (Int32.ofNat id.toNat) (Int32.ofNat vendorId.toNat) (Int32.ofNat productId.toNat)
      (sentText 127 name) reportDesc.val
  | .uhidInput id data => .uhidInput (Int32.ofNat id.toNat) data.val
  | .uhidDestroy id => .uhidDestroy (Int32.ofNat id.toNat)
  | .startApp name => .startApp (sentText 255 name)
  | .cameraSetTorch on => .cameraSetTorch on
  | .resizeDisplay width height =>
    .resizeDisplay (Int32.ofNat width.toNat) (Int32.ofNat height.toNat)
  | .scanFile path => .scanFile (sentText scanFilePathMaxLength path)
  | .expandNotificationPanel => .empty 5
  | .expandSettingsPanel => .empty 6
  | .collapsePanels => .empty 7
  | .rotateDevice => .empty 11
  | .openHardKeyboardSettings => .empty 15
  | .resetVideo => .empty 17
  | .cameraZoomIn => .empty 19
  | .cameraZoomOut => .empty 20

variable (byte : UInt8) (number : UInt16)

theorem readNumber_byte : Reads (readNumber 1) [byte] byte.toNat := by
  have reads := readNumber_reads 1 byte.toNat
  rw [mod_eq_of_lt (by simpa using byte.toNat_lt)] at reads
  simpa [bigEndian, bytes] using reads

theorem readUnsignedByte_reads : Reads readUnsignedByte [byte] (Int32.ofNat byte.toNat) :=
  (readNumber_byte byte).last Int32.ofNat

theorem readBoolean_reads (flag : Bool) : Reads readBoolean [byteOfBool flag] flag := by
  have reads := (readNumber_byte (byteOfBool flag)).last fun number => decide (number ≠ 0)
  cases flag <;> exact reads

theorem readNumber_word {size : Nat} {number : Nat} (bound : number < 256 ^ size) :
    Reads (readNumber size) (bigEndian size number) number := by
  have reads := readNumber_reads size number
  rwa [mod_eq_of_lt bound] at reads

theorem readUnsignedShort_reads :
    Reads readUnsignedShort (write16be number) (Int32.ofNat number.toNat) :=
  (@readNumber_word 2 _ number.toNat_lt).last Int32.ofNat

theorem readShort_reads : Reads readShort (write16be number) number.toInt16 := by
  have reads := (@readNumber_word 2 _ number.toNat_lt).last fun value => (UInt16.ofNat value).toInt16
  rwa [UInt16.ofNat_toNat] at reads

theorem readInt_reads (number : UInt32) : Reads readInt (write32be number) number.toInt32 := by
  have reads := (@readNumber_word 4 _ number.toNat_lt).last fun value => (UInt32.ofNat value).toInt32
  rwa [UInt32.ofNat_toNat] at reads

theorem readLong_reads (number : UInt64) : Reads readLong (write64be number) number.toInt64 := by
  have reads := (@readNumber_word 8 _ number.toNat_lt).last fun value => (UInt64.ofNat value).toInt64
  rwa [UInt64.ofNat_toNat] at reads

theorem parsePosition_reads (position : Position) :
    Reads ControlMessageReader.parsePosition (writePosition position) position.received :=
  (readInt_reads _).bind <| (readInt_reads _).bind <| (readUnsignedShort_reads _).bind <|
    (readUnsignedShort_reads _).last _

theorem toNat_shiftLeft_or {length : UInt32} {byte : UInt8}
    (fits : length.toNat * 256 + byte.toNat < 2 ^ 32) :
    ((length <<< 8) ||| UInt32.ofNat byte.toNat).toNat = length.toNat * 256 + byte.toNat := by
  have small : byte.toNat < 2 ^ 8 := byte.toNat_lt
  have shifted : length.toNat <<< 8 = length.toNat * 256 := shiftLeft_eq _ 8
  have left : (length <<< 8).toNat = length.toNat <<< 8 := by
    rw [UInt32.toNat_shiftLeft]
    apply mod_eq_of_lt
    change length.toNat <<< 8 < 2 ^ 32
    omega
  have right : (UInt32.ofNat byte.toNat).toNat = byte.toNat := by
    rw [UInt32.toNat_ofNat']
    exact mod_eq_of_lt (by omega)
  rw [UInt32.toNat_or, left, right, ← shiftLeft_add_eq_or_of_lt small, shifted]

theorem parseBufferLengthFrom_reads (stored : List UInt8) (length : UInt32)
    (fits : length.toNat * 256 ^ stored.length + bigEndianValue stored < 2 ^ 32) :
    Reads (ControlMessageReader.parseBufferLengthFrom length stored.length) stored
      (UInt32.ofNat (length.toNat * 256 ^ stored.length + bigEndianValue stored)) := by
  induction stored generalizing length with
  | nil =>
    have same : bigEndianValue [] = 0 := rfl
    rw [List.length_nil, pow_zero, mul_one, same, Nat.add_zero, UInt32.ofNat_toNat]
    exact .pure length
  | cons byte rest ih =>
    have whole : length.toNat * 256 ^ (byte :: rest).length + bigEndianValue (byte :: rest) =
        (length.toNat * 256 + byte.toNat) * 256 ^ rest.length + bigEndianValue rest := by
      rw [bigEndianValue_cons, List.length_cons, pow_succ]
      ring
    rw [whole] at fits ⊢
    have turn : length.toNat * 256 + byte.toNat < 2 ^ 32 := by
      have positive : 0 < 256 ^ rest.length := Nat.pow_pos (by decide)
      have := Nat.le_mul_of_pos_right (length.toNat * 256 + byte.toNat) positive
      omega
    have next := ih ((length <<< 8) ||| UInt32.ofNat byte.toNat)
    rw [toNat_shiftLeft_or turn] at next
    exact (readNumber_byte byte).bind (next fits)

theorem parseByteArray_reads {sizeBytes : Nat} (data : List UInt8)
    (fits : data.length < 256 ^ sizeBytes) (positive : data.length < 2 ^ 31) :
    Reads (ControlMessageReader.parseByteArray sizeBytes)
      (bigEndian sizeBytes data.length ++ data) data := by
  have value : bigEndianValue (bigEndian sizeBytes data.length) = data.length := by
    rw [bigEndianValue_bigEndian, mod_eq_of_lt fits]
  have length := parseBufferLengthFrom_reads (bigEndian sizeBytes data.length) 0
    (by rw [value]; simp only [UInt32.toNat_zero]; omega)
  rw [value, length_bigEndian, UInt32.toNat_zero, Nat.zero_mul, Nat.zero_add] at length
  apply (length.last UInt32.toInt32).bind
  have same : (UInt32.ofNat data.length).toInt32.toInt = data.length := by
    rw [UInt32.toInt32_ofNat', Int32.toInt_ofNat_of_lt positive]
  have negative : ¬(UInt32.ofNat data.length).toInt32 < 0 := by
    rw [Int32.lt_iff_toInt_lt, same]
    exact Int.not_lt.mpr (Int.natCast_nonneg _)
  rw [if_neg negative, same]
  exact readFully_reads data

section Strings

variable (malformed : List UInt8 → List Char)

theorem parseString_reads {sizeBytes : Nat} (text : List Char)
    (fits : (Utf8.encode text).length < 256 ^ sizeBytes)
    (positive : (Utf8.encode text).length < 2 ^ 31) :
    Reads (ControlMessageReader.parseString malformed sizeBytes)
      (bigEndian sizeBytes (Utf8.encode text).length ++ Utf8.encode text) text := by
  have read := (parseByteArray_reads (Utf8.encode text) fits positive).last
    (ControlMessageReader.newString malformed)
  have same : ControlMessageReader.newString malformed (Utf8.encode text) = text := by
    rw [ControlMessageReader.newString, Utf8.decode_encode, Option.getD_some]
  rwa [same] at read

variable {limit : Nat} (msg : ControlMsg) (text : Option Text)

theorem parseString_writeString (bound : limit < 2 ^ 31) :
    Reads (ControlMessageReader.parseString malformed 4) (writeString text limit)
      (sentText limit text) := by
  have size := length_sentText text limit
  have number : (UInt32.ofNat (Utf8.encode (sentText limit text)).length).toNat =
      (Utf8.encode (sentText limit text)).length := by
    rw [UInt32.toNat_ofNat']
    exact mod_eq_of_lt (by omega)
  rw [writeString_eq, write32be, number]
  exact parseString_reads malformed _ (by omega) (by omega)

theorem parseString_writeStringTiny (bound : limit < 256) :
    Reads (ControlMessageReader.parseString malformed 1) (writeStringTiny text limit)
      (sentText limit text) := by
  have size := length_sentText text limit
  rw [writeStringTiny_eq]
  exact parseString_reads malformed (sentText limit text) (by omega) (by omega)

open ControlMessageReader

theorem parseByteArray_short (data : List UInt8) (bound : data.length < 65536) :
    Reads (parseByteArray 2) (write16be (UInt16.ofNat data.length) ++ data) data := by
  have number : (UInt16.ofNat data.length).toNat = data.length := by
    rw [UInt16.toNat_ofNat']
    exact mod_eq_of_lt (by omega)
  rw [write16be, number]
  exact parseByteArray_reads data (by omega) (by omega)

theorem parse_body :
    Reads (parse malformed (Int32.ofNat msg.type.toNat)) msg.body msg.received := by
  cases msg with
  | injectKeycode action keycode repeatCount metastate =>
    exact (readUnsignedByte_reads _).bind <| (readInt_reads _).bind <| (readInt_reads _).bind <|
      (readInt_reads _).last _
  | injectText text =>
    exact (parseString_writeString malformed text (by decide)).last _
  | injectTouchEvent action pointerId position pressure actionButton buttons =>
    exact (readUnsignedByte_reads _).bind <| (readLong_reads _).bind <|
      (parsePosition_reads _).bind <| (readShort_reads _).bind <| (readInt_reads _).bind <|
        (readInt_reads _).last _
  | injectScrollEvent position hscroll vscroll buttons =>
    exact (parsePosition_reads _).bind <| (readShort_reads _).bind <| (readShort_reads _).bind <|
      (readInt_reads _).last _
  | backOrScreenOn action => exact (readUnsignedByte_reads _).last _
  | getClipboard copyKey => exact (readUnsignedByte_reads _).last _
  | setClipboard sequence text paste =>
    exact (readLong_reads _).bind <| (readBoolean_reads paste).bind <|
      (parseString_writeString malformed text (by decide)).last _
  | setDisplayPower on => exact (readBoolean_reads on).last _
  | uhidCreate id vendorId productId name reportDesc =>
    exact (readUnsignedShort_reads _).bind <| (readUnsignedShort_reads _).bind <|
      (readUnsignedShort_reads _).bind <|
        (parseString_writeStringTiny malformed name (by decide)).bind <|
          (parseByteArray_short _ reportDesc.property).last _
  | uhidInput id data =>
    have bound : data.val.length < 65536 := Nat.lt_of_le_of_lt data.property (by decide)
    exact (readUnsignedShort_reads _).bind <| (parseByteArray_short _ bound).last _
  | uhidDestroy id => exact (readUnsignedShort_reads _).last _
  | startApp name => exact (parseString_writeStringTiny malformed name (by decide)).last _
  | cameraSetTorch on => exact (readBoolean_reads on).last _
  | resizeDisplay width height =>
    exact (readUnsignedShort_reads _).bind <| (readUnsignedShort_reads _).last _
  | scanFile path => exact (parseString_writeString malformed path (by decide)).last _
  | _ => exact .pure _

theorem read_serialize : Reads (read malformed) msg.serialize msg.received :=
  (readUnsignedByte_reads msg.type).bind (parse_body malformed msg)

end Strings

end Ika.Control
