import Ika.Foundation.ByteStream

/-!
The protocol buffer wire format: a message is the sequence of its fields.

A field has a number and a value that is a base-128 number or a run of bytes. The fixed-width values
are read and never written here.
-/

set_option autoImplicit false

namespace Protobuf

open ByteStream List

/-- Groups of seven bits, the lowest first, each but the last with the high bit set. -/
def groups : Nat → Nat → List UInt8
  | 0, number => [UInt8.ofNat number]
  | more + 1, number =>
    if number < 128 then [UInt8.ofNat number]
    else UInt8.ofNat (number % 128 + 128) :: groups more (number / 128)

def varint (number : Nat) : List UInt8 := groups 9 number

def readGroups : Nat → Reader Nat
  | _, [] => none
  | 0, byte :: rest => if byte.toNat < 128 then some (byte.toNat, rest) else none
  | more + 1, byte :: rest =>
    if byte.toNat < 128 then some (byte.toNat, rest)
    else (readGroups more rest).map fun (high, rest) => (byte.toNat % 128 + 128 * high, rest)

/-- At most ten groups; the bits that do not fit are dropped. -/
def readVarint : Reader Nat := fun stream =>
  (readGroups 9 stream).map fun (number, rest) => (number % 2 ^ 64, rest)

variable {number : Nat} (more : Nat)

theorem groups_ne_nil (number : Nat) : groups more number ≠ [] := by
  cases more with
  | zero => simp [groups]
  | succ more =>
    unfold groups
    split <;> simp

theorem readGroups_small (small : number < 128) (rest : List UInt8) :
    readGroups more (UInt8.ofNat number :: rest) = some (number, rest) := by
  have byte : (UInt8.ofNat number).toNat = number := by
    rw [UInt8.toNat_ofNat']
    omega
  cases more <;> simp [readGroups, byte, small]

theorem readGroups_groups {more : Nat} (bound : number < 128 ^ (more + 1)) (rest : List UInt8) :
    readGroups more (groups more number ++ rest) = some (number, rest) := by
  induction more generalizing number with
  | zero => exact readGroups_small 0 (by simpa using bound) rest
  | succ more ih =>
    unfold groups
    split
    · rename_i small
      exact readGroups_small (more + 1) small rest
    · -- the group with the high bit set, then the others
      have byte : (UInt8.ofNat (number % 128 + 128)).toNat = number % 128 + 128 := by
        rw [UInt8.toNat_ofNat']
        omega
      have high : number / 128 < 128 ^ (more + 1) := by
        rw [Nat.div_lt_iff_lt_mul (by omega), ← pow_succ]
        exact bound
      have continued : ¬number % 128 + 128 < 128 := by omega
      rw [cons_append, readGroups, byte, if_neg continued, ih high]
      simp only [Option.map_some, Option.some.injEq, Prod.mk.injEq, and_true]
      omega

theorem varint_reads (bound : number < 2 ^ 64) : Reads readVarint (varint number) number := by
  intro rest
  have wide : number < 128 ^ (9 + 1) := by omega
  rw [readVarint, varint, readGroups_groups wide]
  simpa using bound

inductive Value where
  | varint (number : Nat)
  | fixed64 (stored : List UInt8)
  | delimited (stored : List UInt8)
  | fixed32 (stored : List UInt8)

structure Field where
  number : Nat
  value : Value

def Value.wireType : Value → Nat
  | varint _ => 0
  | fixed64 _ => 1
  | delimited _ => 2
  | fixed32 _ => 5

theorem Value.wireType_lt (value : Value) : value.wireType < 8 := by
  cases value <;> simp [wireType]

def Value.write : Value → List UInt8
  | varint number => Protobuf.varint number
  | fixed64 stored => stored
  | delimited stored => Protobuf.varint stored.length ++ stored
  | fixed32 stored => stored

def Field.write (field : Field) : List UInt8 :=
  varint (field.number * 8 + field.value.wireType) ++ field.value.write

/-- The deprecated group types have no reader. -/
def readValue (wireType : Nat) : Reader Value :=
  match wireType with
  | 0 => do
    let number ← readVarint
    return .varint number
  | 1 => do
    let stored ← readFully 8
    return .fixed64 stored
  | 2 => do
    let size ← readVarint
    let stored ← readFully size
    return .delimited stored
  | 5 => do
    let stored ← readFully 4
    return .fixed32 stored
  | _ => failure

def readField : Reader Field := do
  let tag ← readVarint
  let value ← readValue (tag % 8)
  return ⟨tag / 8, value⟩

def write (fields : List Field) : List UInt8 := fields.flatMap Field.write

def readFields : Nat → List UInt8 → Option (List Field)
  | _, [] => some []
  | 0, _ :: _ => none
  | more + 1, stream@(_ :: _) => do
    let (field, rest) ← readField stream
    let others ← readFields more rest
    return field :: others

def read (stored : List UInt8) : Option (List Field) := readFields stored.length stored

def Value.Fits : Value → Prop
  | varint number => number < 2 ^ 64
  | fixed64 stored => stored.length = 8
  | delimited stored => stored.length < 2 ^ 64
  | fixed32 stored => stored.length = 4

def Field.Fits (field : Field) : Prop := field.number < 2 ^ 29 ∧ field.value.Fits

theorem Value.write_reads {value : Value} (fits : value.Fits) :
    Reads (readValue value.wireType) value.write value := by
  cases value with
  | varint number => exact (varint_reads fits).last Value.varint
  | fixed64 stored =>
    have reads := (readFully_reads stored).last Value.fixed64
    rw [show stored.length = 8 from fits] at reads
    exact reads
  | delimited stored => exact (varint_reads fits).bind ((readFully_reads stored).last Value.delimited)
  | fixed32 stored =>
    have reads := (readFully_reads stored).last Value.fixed32
    rw [show stored.length = 4 from fits] at reads
    exact reads

theorem Field.write_reads {field : Field} (fits : field.Fits) :
    Reads readField field.write field := by
  have tag : field.number * 8 + field.value.wireType < 2 ^ 64 ∧
      (field.number * 8 + field.value.wireType) % 8 = field.value.wireType ∧
      (field.number * 8 + field.value.wireType) / 8 = field.number := by
    have small := field.value.wireType_lt
    have bound := fits.1
    omega
  have value := (Value.write_reads fits.2).last (Field.mk field.number)
  apply (varint_reads tag.1).bind
  rw [tag.2.1, tag.2.2]
  exact value

theorem Field.write_ne_nil (field : Field) : field.write ≠ [] := by
  intro empty
  exact groups_ne_nil 9 _ (List.append_eq_nil_iff.mp empty).1

variable {fields : List Field}

theorem readFields_write (fits : ∀ field ∈ fields, field.Fits) {fuel : Nat}
    (enough : (write fields).length ≤ fuel) : readFields fuel (write fields) = some fields := by
  induction fields generalizing fuel with
  | nil => cases fuel <;> rfl
  | cons field rest ih =>
    have bytes : write (field :: rest) = field.write ++ write rest := rfl
    rw [bytes, length_append] at enough
    have reads := Field.write_reads (fits field (mem_cons_self ..)) (write rest)
    have others := @ih fun other mem => fits other (mem_cons_of_mem _ mem)
    rw [bytes]
    -- a field is not empty, so there is a first byte to read it from
    cases first : field.write with
    | nil => exact absurd first field.write_ne_nil
    | cons byte tail =>
      rw [first] at reads enough
      cases fuel with
      | zero => simp at enough
      | succ fuel =>
        rw [cons_append] at reads
        rw [cons_append, readFields, reads]
        have room : (write rest).length ≤ fuel := by
          simp only [length_cons] at enough
          omega
        simp [others room]

theorem read_write (fits : ∀ field ∈ fields, field.Fits) : read (write fields) = some fields :=
  readFields_write fits (Nat.le_refl _)

theorem length_le_write {number : Nat} {stored : List UInt8}
    (mem : ⟨number, .delimited stored⟩ ∈ fields) : stored.length ≤ (write fields).length := by
  induction fields with
  | nil => cases mem
  | cons field rest ih =>
    have bytes : write (field :: rest) = field.write ++ write rest := rfl
    rw [bytes, length_append]
    rcases mem_cons.mp mem with rfl | later
    · simp only [Field.write, Value.write, length_append]
      omega
    · have := ih later
      omega

section Message

variable {Message : Type}

def readMessage (merge : Message → Field → Option Message) (empty : Message)
    (stored : List UInt8) : Option Message :=
  (read stored).bind fun fields => fields.foldlM merge empty

def Field.Plain (field : Field) : Prop :=
  field.number < 2 ^ 29 ∧ ((∃ number < 2 ^ 64, field.value = .varint number) ∨
    ∃ stored, field.value = .delimited stored)

theorem readMessage_write {merge : Message → Field → Option Message} {empty message : Message}
    {fields : List Field} (plain : ∀ field ∈ fields, field.Plain)
    (bound : (write fields).length < 2 ^ 64) (merged : fields.foldlM merge empty = some message) :
    readMessage merge empty (write fields) = some message := by
  have fits : ∀ field ∈ fields, field.Fits := by
    rintro ⟨number, value⟩ mem
    obtain ⟨small, ⟨value, fits, rfl⟩ | ⟨stored, rfl⟩⟩ := plain _ mem
    · exact ⟨small, fits⟩
    · exact ⟨small, Nat.lt_of_le_of_lt (length_le_write mem) bound⟩
  rw [readMessage, read_write fits]
  exact merged

def numberField (number value : Nat) : List Field :=
  if value = 0 then [] else [⟨number, .varint value⟩]

def textField (number : Nat) (text : String) : List Field :=
  if text = "" then [] else [⟨number, .delimited text.toUTF8.data.toList⟩]

def messageFields {Item : Type} (number : Nat) (serialize : Item → List UInt8)
    (items : List Item) : List Field :=
  items.map fun item => ⟨number, .delimited (serialize item)⟩

/-- A string that is not valid text makes the message invalid. -/
def readText (stored : List UInt8) : Option String := String.fromUTF8? ⟨stored.toArray⟩

@[simp] theorem readText_toUTF8 (text : String) : readText text.toUTF8.data.toList = some text := by
  simp only [readText, Array.toArray_toList]
  exact dif_pos text.isValidUTF8

variable {number value : Nat}

theorem plain_numberField (small : number < 2 ^ 29) (bound : value < 2 ^ 64) :
    ∀ field ∈ numberField number value, field.Plain := by
  intro field mem
  unfold numberField at mem
  split at mem
  · cases mem
  · rw [mem_singleton.mp mem]
    exact ⟨small, .inl ⟨value, bound, rfl⟩⟩

theorem plain_textField (small : number < 2 ^ 29) (text : String) :
    ∀ field ∈ textField number text, field.Plain := by
  intro field mem
  unfold textField at mem
  split at mem
  · cases mem
  · rw [mem_singleton.mp mem]
    exact ⟨small, .inr ⟨_, rfl⟩⟩

theorem plain_messageFields {Item : Type} (small : number < 2 ^ 29)
    (serialize : Item → List UInt8) (items : List Item) :
    ∀ field ∈ messageFields number serialize items, field.Plain := by
  intro field mem
  obtain ⟨item, _, rfl⟩ := mem_map.mp mem
  exact ⟨small, .inr ⟨_, rfl⟩⟩

variable {merge : Message → Field → Option Message} {before after : Message}

theorem merge_numberField {number : Nat} (zero : value = 0 → after = before)
    (merged : merge before ⟨number, .varint value⟩ = some after) :
    (numberField number value).foldlM merge before = some after := by
  unfold numberField
  split
  · rename_i left
    rw [zero left]
    rfl
  · simpa using merged

theorem merge_textField {number : Nat} {text : String} (empty : text = "" → after = before)
    (merged : merge before ⟨number, .delimited text.toUTF8.data.toList⟩ = some after) :
    (textField number text).foldlM merge before = some after := by
  unfold textField
  split
  · rename_i left
    rw [empty left]
    rfl
  · simpa using merged

theorem merge_messageFields {Item : Type} {number : Nat} {serialize : Item → List UInt8}
    {add : Message → Item → Message} (items : List Item) (before : Message)
    (merged : ∀ message, ∀ item ∈ items,
      merge message ⟨number, .delimited (serialize item)⟩ = some (add message item)) :
    (messageFields number serialize items).foldlM merge before = some (items.foldl add before) := by
  induction items generalizing before with
  | nil => rfl
  | cons item rest ih =>
    have first := merged before item (mem_cons_self ..)
    have others := ih (add before item) fun message other mem =>
      merged message other (mem_cons_of_mem _ mem)
    rw [messageFields, map_cons, foldlM_cons, first]
    exact others

theorem merge_append {middle : Message} {first second : List Field}
    (left : first.foldlM merge before = some middle)
    (right : second.foldlM merge middle = some after) :
    (first ++ second).foldlM merge before = some after := by
  rw [foldlM_append, left]
  exact right

end Message

end Protobuf
