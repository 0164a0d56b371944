import Ika.Foundation.ByteStream
import Ika.Foundation.Utf8

/-!
The control messages of `control_msg.c` and the bytes that are sent for them.

Enumerations are the 32 bits of a C `enum`.
-/

set_option autoImplicit false

namespace Ika.Control

open ByteStream List

def controlMsgMaxSize : Nat := 1 <<< 18
def injectTextMaxLength : Nat := 300
def clipboardTextMaxLength : Nat := controlMsgMaxSize - 14
def scanFilePathMaxLength : Nat := 256
def hidMaxSize : Nat := 15

structure Text where
  chars : List Char
  ends : '\x00' ∉ chars

def Text.stored (text : Text) : List UInt8 := Utf8.encode text.chars ++ [0]

structure Position where
  x : Int32
  y : Int32
  screenWidth : UInt16
  screenHeight : UInt16

/-- `struct sc_control_msg`. A pointer to a string may be `NULL`. -/
inductive ControlMsg where
  | injectKeycode (action keycode repeatCount metastate : UInt32)
  | injectText (text : Option Text)
  | injectTouchEvent (action : UInt32) (pointerId : UInt64) (position : Position)
      (pressure : UInt16) (actionButton buttons : UInt32)
  | injectScrollEvent (position : Position) (hscroll vscroll : UInt16) (buttons : UInt32)
  | backOrScreenOn (action : UInt32)
  | expandNotificationPanel
  | expandSettingsPanel
  | collapsePanels
  | getClipboard (copyKey : UInt32)
  | setClipboard (sequence : UInt64) (text : Option Text) (paste : Bool)
  | setDisplayPower (on : Bool)
  | rotateDevice
  | uhidCreate (id vendorId productId : UInt16) (name : Option Text)
      (reportDesc : {stored : List UInt8 // stored.length < 65536})
  | uhidInput (id : UInt16) (data : {stored : List UInt8 // stored.length ≤ hidMaxSize})
  | uhidDestroy (id : UInt16)
  | openHardKeyboardSettings
  | startApp (name : Option Text)
  | resetVideo
  | cameraSetTorch (on : Bool)
  | cameraZoomIn
  | cameraZoomOut
  | resizeDisplay (width height : UInt16)
  | scanFile (path : Option Text)

def ControlMsg.type : ControlMsg → UInt8
  | .injectKeycode .. => 0
  | .injectText .. => 1
  | .injectTouchEvent .. => 2
  | .injectScrollEvent .. => 3
  | .backOrScreenOn .. => 4
  | .expandNotificationPanel => 5
  | .expandSettingsPanel => 6
  | .collapsePanels => 7
  | .getClipboard .. => 8
  | .setClipboard .. => 9
  | .setDisplayPower .. => 10
  | .rotateDevice => 11
  | .uhidCreate .. => 12
  | .uhidInput .. => 13
  | .uhidDestroy .. => 14
  | .openHardKeyboardSettings => 15
  | .startApp .. => 16
  | .resetVideo => 17
  | .cameraSetTorch .. => 18
  | .cameraZoomIn => 19
  | .cameraZoomOut => 20
  | .resizeDisplay .. => 21
  | .scanFile .. => 22

def write16be (number : UInt16) : List UInt8 := bigEndian 2 number.toNat
def write32be (number : UInt32) : List UInt8 := bigEndian 4 number.toNat
def write64be (number : UInt64) : List UInt8 := bigEndian 8 number.toNat

def writePosition (position : Position) : List UInt8 :=
  write32be position.x.toUInt32 ++ (write32be position.y.toUInt32 ++
    (write16be position.screenWidth ++ write16be position.screenHeight))

def strlen (stored : List UInt8) : Nat := (stored.takeWhile (· ≠ 0)).length

def strUtf8TruncationIndex (stored : List UInt8) (maxLength : Nat) : Nat :=
  if strlen stored ≤ maxLength then strlen stored else Utf8.cutBack stored maxLength

def writeStringPayload (text : Option Text) (maxLength : Nat) : List UInt8 :=
  match text with
  | none => []
  | some text => text.stored.take (strUtf8TruncationIndex text.stored maxLength)

def writeString (text : Option Text) (maxLength : Nat) : List UInt8 :=
  let payload := writeStringPayload text maxLength
  write32be (UInt32.ofNat payload.length) ++ payload

def writeStringTiny (text : Option Text) (maxLength : Nat) : List UInt8 :=
  let payload := writeStringPayload text maxLength
  UInt8.ofNat payload.length :: payload

def byteOfBool (flag : Bool) : UInt8 := if flag then 1 else 0

/-- What `sc_control_msg_serialize` writes after the type. -/
def ControlMsg.body : ControlMsg → List UInt8
  | .injectKeycode action keycode repeatCount metastate =>
    action.toUInt8 :: (write32be keycode ++ (write32be repeatCount ++ write32be metastate))
  | .injectText text => writeString text injectTextMaxLength
  | .injectTouchEvent action pointerId position pressure actionButton buttons =>
    action.toUInt8 :: (write64be pointerId ++ (writePosition position ++ (write16be pressure ++
      (write32be actionButton ++ write32be buttons))))
  | .injectScrollEvent position hscroll vscroll buttons =>
    writePosition position ++ (write16be hscroll ++ (write16be vscroll ++ write32be buttons))
  | .backOrScreenOn action => [action.toUInt8]
  | .getClipboard copyKey => [copyKey.toUInt8]
  | .setClipboard sequence text paste =>
    write64be sequence ++ byteOfBool paste :: writeString text clipboardTextMaxLength
  | .setDisplayPower on => [byteOfBool on]
  | .uhidCreate id vendorId productId name reportDesc =>
    write16be id ++ (write16be vendorId ++ (write16be productId ++ (writeStringTiny name 127 ++
      (write16be (UInt16.ofNat reportDesc.val.length) ++ reportDesc.val))))
  | .uhidInput id data =>
    write16be id ++ (write16be (UInt16.ofNat data.val.length) ++ data.val)
  | .uhidDestroy id => write16be id
  | .startApp name => writeStringTiny name 255
  | .cameraSetTorch on => [byteOfBool on]
  | .resizeDisplay width height => write16be width ++ write16be height
  | .scanFile path => writeString path scanFilePathMaxLength
  | .expandNotificationPanel | .expandSettingsPanel | .collapsePanels | .rotateDevice
  | .openHardKeyboardSettings | .resetVideo | .cameraZoomIn | .cameraZoomOut => []

def ControlMsg.serialize (msg : ControlMsg) : List UInt8 := msg.type :: msg.body

def sentText (limit : Nat) (text : Option Text) : List Char :=
  (text.map fun text => Utf8.fitting limit text.chars).getD []

theorem Text.strlen_stored (text : Text) : strlen text.stored = (Utf8.encode text.chars).length := by
  have clean := Utf8.zero_mem_encode text.ends
  rw [strlen, Text.stored, takeWhile_append_of_pos]
  · simp
  · intro byte mem
    simpa using ne_of_mem_of_not_mem mem clean

theorem Text.truncation (text : Text) (limit : Nat) :
    strUtf8TruncationIndex text.stored limit =
      (Utf8.encode (Utf8.fitting limit text.chars)).length := by
  unfold strUtf8TruncationIndex
  rw [text.strlen_stored]
  split_ifs with fits
  · rw [Utf8.fitting_of_le fits]
  · exact Utf8.cutBack_encode (Nat.lt_of_not_le fits) [0]

variable (text : Option Text) (limit : Nat)

theorem writeStringPayload_eq :
    writeStringPayload text limit = Utf8.encode (sentText limit text) := by
  cases text with
  | none => rfl
  | some text =>
    rw [writeStringPayload, text.truncation]
    exact Utf8.take_encode_fitting limit text.chars [0]

theorem length_sentText : (Utf8.encode (sentText limit text)).length ≤ limit := by
  cases text with
  | none => exact Nat.zero_le _
  | some text => exact (Utf8.fitting_longest limit text.chars).2.1

theorem writeString_eq :
    writeString text limit =
      write32be (UInt32.ofNat (Utf8.encode (sentText limit text)).length) ++
        Utf8.encode (sentText limit text) := by
  rw [writeString, writeStringPayload_eq]

theorem writeStringTiny_eq :
    writeStringTiny text limit =
      UInt8.ofNat (Utf8.encode (sentText limit text)).length ::
        Utf8.encode (sentText limit text) := by
  rw [writeStringTiny, writeStringPayload_eq]

@[simp] theorem length_write16be (number : UInt16) : (write16be number).length = 2 :=
  length_bigEndian 2 _

@[simp] theorem length_write32be (number : UInt32) : (write32be number).length = 4 :=
  length_bigEndian 4 _

@[simp] theorem length_write64be (number : UInt64) : (write64be number).length = 8 :=
  length_bigEndian 8 _

@[simp] theorem length_writePosition (position : Position) :
    (writePosition position).length = 12 := by
  simp [writePosition]

theorem length_writeString : (writeString text limit).length ≤ 4 + limit := by
  have := length_sentText text limit
  rw [writeString_eq, length_append, length_write32be]
  omega

theorem length_writeStringTiny : (writeStringTiny text limit).length ≤ 1 + limit := by
  have := length_sentText text limit
  rw [writeStringTiny_eq, length_cons]
  omega

/-- The buffer of the controller is large enough for every message. -/
theorem ControlMsg.length_serialize (msg : ControlMsg) :
    msg.serialize.length ≤ controlMsgMaxSize := by
  have max : controlMsgMaxSize = 262144 := rfl
  rw [serialize, length_cons]
  cases msg with
  | injectText text =>
    have size := length_writeString text injectTextMaxLength
    simp only [body, injectTextMaxLength] at size ⊢
    omega
  | setClipboard sequence text paste =>
    have size := length_writeString text clipboardTextMaxLength
    simp only [body, clipboardTextMaxLength, length_append, length_cons,
      length_write64be] at size ⊢
    omega
  | uhidCreate id vendorId productId name reportDesc =>
    have size := length_writeStringTiny name 127
    have bound := reportDesc.property
    simp only [body, length_append, length_write16be]
    omega
  | uhidInput id data =>
    have bound := data.property
    simp only [body, length_append, length_write16be, hidMaxSize] at bound ⊢
    omega
  | startApp name =>
    have size := length_writeStringTiny name 255
    simp only [body]
    omega
  | scanFile path =>
    have size := length_writeString path scanFilePathMaxLength
    simp only [body, scanFilePathMaxLength] at size ⊢
    omega
  | _ => simp [body, max]

end Ika.Control
