import Ika.Control.ControlMsg

/-! The messages of the device: what `DeviceMessageWriter.java` writes and `device_msg.c` reads.

Allocations succeed. A string of Java is the list of its UTF-16 code units.
-/

set_option autoImplicit false

namespace Ika.Control

open ByteStream List Nat

def deviceMsgMaxSize : Nat := 1 <<< 18
def deviceMsgTextMaxLength : Nat := deviceMsgMaxSize - 5

def isHighSurrogate (unit : UInt16) : Prop := 0xd800 ≤ unit.toNat ∧ unit.toNat < 0xdc00
  deriving Decidable

def isLowSurrogate (unit : UInt16) : Prop := 0xdc00 ≤ unit.toNat ∧ unit.toNat < 0xe000
  deriving Decidable

/-- The character of a code unit that is not of a pair; a surrogate is replaced. -/
def unitChar (unit : UInt16) : Char :=
  if isHighSurrogate unit ∨ isLowSurrogate unit then '?' else Char.ofNat unit.toNat

def pairChar (high low : UInt16) : Char :=
  Char.ofNat (0x10000 + (high.toNat - 0xd800) * 0x400 + (low.toNat - 0xdc00))

/-- The characters that `getBytes(StandardCharsets.UTF_8)` encodes. -/
def textChars : List UInt16 → List Char
  | [] => []
  | [unit] => [unitChar unit]
  | unit :: next :: rest =>
    if isHighSurrogate unit ∧ isLowSurrogate next then pairChar unit next :: textChars rest
    else unitChar unit :: textChars (next :: rest)

/-- `DeviceMessage`, by the method that creates it. -/
inductive DeviceMessage where
  | clipboard (text : List UInt16)
  | ackClipboard (sequence : Int64)
  | uhidOutput (id : Int32) (data : List UInt8)
  | displayReady (displayId width height : Int32)
  | appEnded
  | themeBackground (color : Int32)

def DeviceMessage.type : DeviceMessage → UInt8
  | .clipboard .. => 0
  | .ackClipboard .. => 1
  | .uhidOutput .. => 2
  | .displayReady .. => 3
  | .appEnded => 4
  | .themeBackground .. => 5

/-- `DataOutputStream.writeShort`, of the low 16 bits. -/
def writeShort (number : Int32) : List UInt8 := bigEndian 2 number.toUInt32.toNat

def writeInt (number : Int32) : List UInt8 := bigEndian 4 number.toUInt32.toNat

def writeLong (number : Int64) : List UInt8 := bigEndian 8 number.toUInt64.toNat

def getUtf8TruncationIndex (utf8 : List UInt8) (maxLength : Nat) : Nat :=
  if utf8.length ≤ maxLength then utf8.length else Utf8.cutBack utf8 maxLength

def DeviceMessage.body : DeviceMessage → List UInt8
  | .clipboard text =>
    let raw := Utf8.encode (textChars text)
    let length := getUtf8TruncationIndex raw deviceMsgTextMaxLength
    writeInt (Int32.ofNat length) ++ raw.take length
  | .ackClipboard sequence => writeLong sequence
  | .uhidOutput id data => writeShort id ++ (writeShort (Int32.ofNat data.length) ++ data)
  | .displayReady displayId width height =>
    writeInt displayId ++ (writeShort width ++ writeShort height)
  | .appEnded => []
  | .themeBackground color => writeInt color

def DeviceMessage.write (message : DeviceMessage) : List UInt8 := message.type :: message.body

/-- `struct sc_device_msg`; a string is what stands before its null character. -/
inductive DeviceMsg where
  | clipboard (text : List UInt8)
  | ackClipboard (sequence : UInt64)
  | uhidOutput (id : UInt16) (data : List UInt8)
  | displayReady (displayId : UInt32) (width height : UInt16)
  | appEnded
  | themeBackground (color : UInt32)
  deriving DecidableEq, Repr

def numberAt (buf : List UInt8) (offset size : Nat) : Nat :=
  bigEndianValue ((buf.drop offset).take size)

def read16be (buf : List UInt8) (offset : Nat) : UInt16 := UInt16.ofNat (numberAt buf offset 2)
def read32be (buf : List UInt8) (offset : Nat) : UInt32 := UInt32.ofNat (numberAt buf offset 4)
def read64be (buf : List UInt8) (offset : Nat) : UInt64 := UInt64.ofNat (numberAt buf offset 8)

inductive Deserialized where
  | incomplete
  | error
  | complete (consumed : Nat) (msg : DeviceMsg)
  deriving DecidableEq, Repr

/-- The string in memory that the bytes and a null character are copied to. -/
def cString (copied : List UInt8) : List UInt8 := (copied ++ [0]).takeWhile (· ≠ 0)

def deserializeAs (type : UInt8) (buf : List UInt8) : Deserialized :=
  match type.toNat with
  | 0 =>
    if buf.length < 5 then .incomplete
    else
      let clipboardLength := (read32be buf 1).toNat
      if buf.length - 5 < clipboardLength then .incomplete
      else .complete (5 + clipboardLength) (.clipboard (cString ((buf.drop 5).take clipboardLength)))
  | 1 => if buf.length < 9 then .incomplete else .complete 9 (.ackClipboard (read64be buf 1))
  | 2 =>
    if buf.length < 5 then .incomplete
    else
      let size := (read16be buf 3).toNat
      if buf.length - 5 < size then .incomplete
      else .complete (5 + size) (.uhidOutput (read16be buf 1) ((buf.drop 5).take size))
  | 3 =>
    if buf.length < 9 then .incomplete
    else .complete 9 (.displayReady (read32be buf 1) (read16be buf 5) (read16be buf 7))
  | 4 => .complete 1 .appEnded
  | 5 => if buf.length < 5 then .incomplete else .complete 5 (.themeBackground (read32be buf 1))
  | _ => .error

def deserialize (buf : List UInt8) : Deserialized :=
  match buf with
  | [] => .incomplete
  | type :: _ => deserializeAs type buf

/-- The message that is processed: 16 bits of numbers, and the characters that fit. -/
def DeviceMessage.received : DeviceMessage → DeviceMsg
  | .clipboard text =>
    .clipboard (Utf8.encode (Utf8.fitting deviceMsgTextMaxLength (textChars text)))
  | .ackClipboard sequence => .ackClipboard sequence.toUInt64
  | .uhidOutput id data => .uhidOutput id.toUInt32.toUInt16 data
  | .displayReady displayId width height =>
    .displayReady displayId.toUInt32 width.toUInt32.toUInt16 height.toUInt32.toUInt16
  | .appEnded => .appEnded
  | .themeBackground color => .themeBackground color.toUInt32

/-- A text without null, and a report whose length the protocol can tell. -/
def DeviceMessage.Sendable : DeviceMessage → Prop
  | .clipboard text => 0 ∉ text
  | .uhidOutput _ data => data.length < 65536
  | _ => True

theorem ofNat_ne_null {number : Nat} (valid : number.isValidChar) (nonzero : number ≠ 0) :
    Char.ofNat number ≠ '\x00' := by
  intro null
  have value := congrArg Char.toNat null
  rw [Char.ofNat, dif_pos valid] at value
  exact nonzero value

theorem unitChar_ne_zero {unit : UInt16} (nonzero : unit ≠ 0) : unitChar unit ≠ '\x00' := by
  unfold unitChar
  split_ifs with surrogate
  · decide
  · apply ofNat_ne_null
    · have bound : unit.toNat < 65536 := unit.toNat_lt
      simp only [isHighSurrogate, isLowSurrogate] at surrogate
      unfold Nat.isValidChar
      omega
    · exact fun zero => nonzero (UInt16.toNat_inj.mp zero)

theorem pairChar_ne_zero {high low : UInt16} (isHigh : isHighSurrogate high)
    (isLow : isLowSurrogate low) : pairChar high low ≠ '\x00' := by
  simp only [isHighSurrogate, isLowSurrogate] at isHigh isLow
  apply ofNat_ne_null
  · unfold Nat.isValidChar
    omega
  · omega

theorem textChars_clean {text : List UInt16} (clean : 0 ∉ text) : '\x00' ∉ textChars text := by
  induction text using textChars.induct with
  | case1 => simp [textChars]
  | case2 unit =>
    simp only [mem_singleton] at clean
    simpa [textChars] using (unitChar_ne_zero (Ne.symm clean)).symm
  | case3 unit next rest pair ih =>
    simp only [mem_cons, not_or] at clean
    simp only [textChars, if_pos pair, mem_cons, not_or]
    exact ⟨(pairChar_ne_zero pair.1 pair.2).symm, ih clean.2.2⟩
  | case4 unit next rest pair ih =>
    simp only [mem_cons, not_or] at clean
    simp only [textChars, if_neg pair, mem_cons, not_or]
    refine ⟨(unitChar_ne_zero (Ne.symm clean.1)).symm, ih ?_⟩
    simp only [mem_cons, not_or]
    exact clean.2

variable {stored : List UInt8} {length : Nat} {buf : List UInt8} {message : DeviceMessage}
  (number : UInt32) (rest : List UInt8) (size : Nat) (text : List UInt16)

theorem cString_clean (clean : 0 ∉ stored) : cString stored = stored := by
  rw [cString, takeWhile_append_of_pos]
  · simp
  · intro byte mem
    simpa using ne_of_mem_of_not_mem mem clean

theorem clipboard_body :
    (DeviceMessage.clipboard text).body =
      writeInt (Int32.ofNat
        (Utf8.encode (Utf8.fitting deviceMsgTextMaxLength (textChars text))).length) ++
      Utf8.encode (Utf8.fitting deviceMsgTextMaxLength (textChars text)) := by
  have index : getUtf8TruncationIndex (Utf8.encode (textChars text)) deviceMsgTextMaxLength =
      (Utf8.encode (Utf8.fitting deviceMsgTextMaxLength (textChars text))).length := by
    unfold getUtf8TruncationIndex
    split_ifs with fits
    · rw [Utf8.fitting_of_le fits]
    · have cut := Utf8.cutBack_encode (Nat.lt_of_not_le fits) []
      rwa [append_nil] at cut
  have kept := Utf8.take_encode_fitting deviceMsgTextMaxLength (textChars text) []
  rw [append_nil] at kept
  rw [DeviceMessage.body, index, kept]

theorem numberAt_cons (byte : UInt8) (rest : List UInt8) (offset size : Nat) :
    numberAt (byte :: rest) (offset + 1) size = numberAt rest offset size := rfl

theorem numberAt_here (number : Nat) (rest : List UInt8) :
    numberAt (bigEndian size number ++ rest) 0 size = number % 256 ^ size := by
  rw [numberAt, drop_zero, take_left' (length_bigEndian ..), bigEndianValue_bigEndian]

theorem numberAt_past (whole : stored.length = length) (rest : List UInt8) (offset : Nat) :
    numberAt (stored ++ rest) (length + offset) size = numberAt rest offset size := by
  rw [numberAt, ← drop_drop, drop_left' whole, numberAt]

theorem numberAt_append {offset size : Nat} (within : offset + size ≤ buf.length)
    (rest : List UInt8) : numberAt (buf ++ rest) offset size = numberAt buf offset size := by
  rw [numberAt, drop_append_of_le_length (by omega), take_append_of_le_length, numberAt]
  rw [length_drop]
  omega

theorem number32 (number : Nat) : UInt32.ofNat (number % 256 ^ 4) = UInt32.ofNat number := by
  apply UInt32.toNat_inj.mp
  simp only [UInt32.toNat_ofNat']
  exact mod_mod _ _

theorem number16 : UInt16.ofNat (number.toNat % 256 ^ 2) = number.toUInt16 := by
  apply UInt16.toNat_inj.mp
  simp only [UInt16.toNat_ofNat', UInt32.toNat_toUInt16]
  exact mod_mod _ _

theorem read32be_here :
    UInt32.ofNat (numberAt (bigEndian 4 number.toNat ++ rest) 0 4) = number := by
  rw [numberAt_here, number32, UInt32.ofNat_toNat]

theorem read16be_here :
    UInt16.ofNat (numberAt (bigEndian 2 number.toNat ++ rest) 0 2) = number.toUInt16 := by
  rw [numberAt_here, number16]

@[simp] theorem length_writeShort (number : Int32) : (writeShort number).length = 2 :=
  length_bigEndian 2 _

@[simp] theorem length_writeInt (number : Int32) : (writeInt number).length = 4 :=
  length_bigEndian 4 _

@[simp] theorem length_writeLong (number : Int64) : (writeLong number).length = 8 :=
  length_bigEndian 8 _

theorem length_clipboard :
    (Utf8.encode (Utf8.fitting deviceMsgTextMaxLength (textChars text))).length ≤
      deviceMsgTextMaxLength :=
  (Utf8.fitting_longest _ _).2.1

theorem toNat_length32 (bound : length < 2 ^ 31) :
    (Int32.ofNat length).toUInt32.toNat = length := by
  change (UInt32.ofNat length).toNat = length
  rw [UInt32.toNat_ofNat']
  exact mod_eq_of_lt (by omega)

theorem toNat_length16 (bound : length < 65536) :
    (Int32.ofNat length).toUInt32.toUInt16.toNat = length := by
  rw [UInt32.toNat_toUInt16, toNat_length32 (by omega)]
  exact mod_eq_of_lt bound

theorem length_write (sendable : message.Sendable) : message.write.length ≤ deviceMsgMaxSize := by
  have max : deviceMsgMaxSize = 262144 := rfl
  rw [DeviceMessage.write, length_cons]
  cases message with
  | clipboard text =>
    have size := length_clipboard text
    rw [clipboard_body, length_append, length_writeInt]
    simp only [deviceMsgTextMaxLength] at size ⊢
    omega
  | uhidOutput id data =>
    simp only [DeviceMessage.Sendable] at sendable
    simp only [DeviceMessage.body, length_append, length_writeShort]
    omega
  | _ => simp [DeviceMessage.body, max]

theorem clipboard_length {text : List UInt16} {buf rest : List UInt8}
    (split : (DeviceMessage.clipboard text).write ++ rest = buf) :
    (read32be buf 1).toNat =
      (Utf8.encode (Utf8.fitting deviceMsgTextMaxLength (textChars text))).length := by
  have bound := length_clipboard text
  have small : deviceMsgTextMaxLength < 2 ^ 31 := by decide
  rw [← split, DeviceMessage.write, clipboard_body, cons_append, read32be, numberAt_cons,
    append_assoc, writeInt, read32be_here, toNat_length32 (by omega)]

theorem uhidOutput_length {id : Int32} {data buf rest : List UInt8} (bound : data.length < 65536)
    (split : (DeviceMessage.uhidOutput id data).write ++ rest = buf) :
    (read16be buf 3).toNat = data.length := by
  have past := numberAt_past 2 (length_writeShort id)
    (writeShort (Int32.ofNat data.length) ++ (data ++ rest)) 0
  rw [← split, DeviceMessage.write, DeviceMessage.body, cons_append, read16be, numberAt_cons,
    append_assoc, append_assoc, past, writeShort, read16be_here, toNat_length16 bound]

theorem deserialize_write (sendable : message.Sendable) (rest : List UInt8) :
    deserialize (message.write ++ rest) =
      .complete message.write.length message.received := by
  change deserializeAs message.type (message.write ++ rest) = _
  cases message with
  | clipboard text =>
    have length := @clipboard_length text _ rest rfl
    have clean := cString_clean (Utf8.zero_mem_encode (fun null =>
      textChars_clean sendable ((Utf8.fitting_longest deviceMsgTextMaxLength _).1.subset null)))
    have body := clipboard_body text
    have size : (DeviceMessage.clipboard text).write.length =
        5 + (Utf8.encode (Utf8.fitting deviceMsgTextMaxLength (textChars text))).length := by
      simp only [DeviceMessage.write, body, length_cons, length_append, length_writeInt]
      omega
    have content : ((DeviceMessage.clipboard text).write ++ rest).drop 5 =
        Utf8.encode (Utf8.fitting deviceMsgTextMaxLength (textChars text)) ++ rest := by
      rw [DeviceMessage.write, body, cons_append, drop_succ_cons, append_assoc,
        drop_left' (length_writeInt _)]
    simp only [deserializeAs, DeviceMessage.type, UInt8.toNat_zero]
    rw [length, content, take_left, clean, if_neg (by rw [length_append]; omega),
      if_neg (by rw [length_append]; omega), size]
    rfl
  | ackClipboard sequence =>
    have value : read64be ((DeviceMessage.ackClipboard sequence).write ++ rest) 1 =
        sequence.toUInt64 := by
      have number : sequence.toUInt64.toNat % 256 ^ 8 = sequence.toUInt64.toNat :=
        mod_eq_of_lt sequence.toUInt64.toNat_lt
      rw [DeviceMessage.write, DeviceMessage.body, cons_append, read64be, numberAt_cons,
        writeLong, numberAt_here, number, UInt64.ofNat_toNat]
    simp only [deserializeAs, DeviceMessage.type]
    rw [value]
    simp [DeviceMessage.write, DeviceMessage.body, DeviceMessage.received]
  | uhidOutput id data =>
    have length := @uhidOutput_length id data _ rest sendable rfl
    have number : read16be ((DeviceMessage.uhidOutput id data).write ++ rest) 1 =
        id.toUInt32.toUInt16 := by
      rw [DeviceMessage.write, DeviceMessage.body, cons_append, read16be, numberAt_cons,
        append_assoc, writeShort, read16be_here]
    have content : ((DeviceMessage.uhidOutput id data).write ++ rest).drop 5 = data ++ rest := by
      rw [DeviceMessage.write, DeviceMessage.body, cons_append, drop_succ_cons,
        ← append_assoc, append_assoc, drop_left' (by simp)]
    have size : (DeviceMessage.uhidOutput id data).write.length = 5 + data.length := by
      simp only [DeviceMessage.write, DeviceMessage.body, length_cons, length_append,
        length_writeShort]
      omega
    simp only [deserializeAs, DeviceMessage.type]
    change (if _ then _ else if _ then _ else _) = _
    rw [length, number, content, take_left, if_neg (by rw [length_append]; omega),
      if_neg (by rw [length_append]; omega), size]
    rfl
  | displayReady displayId width height =>
    have first : read32be ((DeviceMessage.displayReady displayId width height).write ++ rest) 1 =
        displayId.toUInt32 := by
      rw [DeviceMessage.write, DeviceMessage.body, cons_append, read32be, numberAt_cons,
        append_assoc, writeInt, read32be_here]
    have second : read16be ((DeviceMessage.displayReady displayId width height).write ++ rest) 5 =
        width.toUInt32.toUInt16 := by
      have past := numberAt_past 2 (length_writeInt displayId)
        (writeShort width ++ (writeShort height ++ rest)) 0
      rw [DeviceMessage.write, DeviceMessage.body, cons_append, read16be, numberAt_cons,
        append_assoc, append_assoc, past, writeShort, read16be_here]
    have third : read16be ((DeviceMessage.displayReady displayId width height).write ++ rest) 7 =
        height.toUInt32.toUInt16 := by
      have past := numberAt_past 2 (length_writeInt displayId)
        (writeShort width ++ (writeShort height ++ rest)) 2
      have past' := numberAt_past 2 (length_writeShort width) (writeShort height ++ rest) 0
      rw [DeviceMessage.write, DeviceMessage.body, cons_append, read16be, numberAt_cons,
        append_assoc, append_assoc, past, past', writeShort, read16be_here]
    simp only [deserializeAs, DeviceMessage.type]
    change (if _ then _ else _) = _
    rw [first, second, third, if_neg]
    · simp [DeviceMessage.write, DeviceMessage.body, DeviceMessage.received]
    · simp only [DeviceMessage.write, DeviceMessage.body, length_append, length_cons,
        length_writeInt, length_writeShort]
      omega
  | appEnded => rfl
  | themeBackground color =>
    have value : read32be ((DeviceMessage.themeBackground color).write ++ rest) 1 =
        color.toUInt32 := by
      rw [DeviceMessage.write, DeviceMessage.body, cons_append, read32be, numberAt_cons,
        writeInt, read32be_here]
    simp only [deserializeAs, DeviceMessage.type]
    change (if _ then _ else _) = _
    rw [value]
    simp [DeviceMessage.write, DeviceMessage.body, DeviceMessage.received]

theorem deserialize_partial (sendable : message.Sendable) {missing : List UInt8}
    (split : message.write = buf ++ missing) (more : missing ≠ []) :
    deserialize buf = .incomplete := by
  cases buf with
  | nil => rfl
  | cons type stored =>
    have same : message.type = type := by
      rw [DeviceMessage.write, cons_append] at split
      exact (List.cons.inj split).1
    have shorter : (type :: stored).length < message.write.length := by
      have := length_pos_iff.mpr more
      rw [split, length_append]
      omega
    change deserializeAs type (type :: stored) = _
    rw [← same] at shorter split ⊢
    have nonempty : 0 < (message.type :: stored).length := succ_pos _
    generalize message.type :: stored = buf at *
    cases message with
    | clipboard text =>
      have whole := @clipboard_length text _ [] (append_nil _)
      simp only [deserializeAs, DeviceMessage.type, UInt8.toNat_zero]
      split_ifs with header text
      · rfl
      · rfl
      · rw [split, read32be, numberAt_append (by omega)] at whole
        rw [DeviceMessage.write, clipboard_body, length_cons, length_append,
          length_writeInt] at shorter
        exact absurd (by rw [read32be, whole]; omega) text
    | uhidOutput id data =>
      have whole := @uhidOutput_length id data _ [] sendable (append_nil _)
      simp only [deserializeAs, DeviceMessage.type]
      change (if _ then _ else if _ then _ else _) = _
      split_ifs with header report
      · rfl
      · rfl
      · rw [split, read16be, numberAt_append (by omega)] at whole
        simp only [DeviceMessage.write, DeviceMessage.body, length_cons, length_append,
          length_writeShort] at shorter
        exact absurd (by rw [read16be, whole]; omega) report
    | ackClipboard sequence =>
      simp only [DeviceMessage.write, DeviceMessage.body, length_cons, length_writeLong] at shorter
      exact if_pos (by omega)
    | displayReady displayId width height =>
      simp only [DeviceMessage.write, DeviceMessage.body, length_cons, length_append,
        length_writeInt, length_writeShort] at shorter
      exact if_pos (by omega)
    | appEnded =>
      simp only [DeviceMessage.write, DeviceMessage.body, length_cons, length_nil] at shorter
      omega
    | themeBackground color =>
      simp only [DeviceMessage.write, DeviceMessage.body, length_cons, length_writeInt] at shorter
      exact if_pos (by omega)

theorem deserialize_consumed {consumed : Nat} {msg : DeviceMsg}
    (done : deserialize buf = .complete consumed msg) : 0 < consumed ∧ consumed ≤ buf.length := by
  cases buf with
  | nil => cases done
  | cons type stored =>
    simp only [deserialize, deserializeAs] at done
    split at done
    all_goals
      first
      | (split_ifs at done <;> cases done <;> omega)
      | (cases done <;> simp)

end Ika.Control
