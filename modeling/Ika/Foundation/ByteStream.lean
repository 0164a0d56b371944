import Mathlib.Tactic.Ring

/-! Byte streams: little-endian words in them, descriptors passed along with them, and what is
read from them however they are cut.
-/

set_option autoImplicit false

namespace ByteStream

open List Nat

def bytes : Nat → Nat → List UInt8
  | 0, _ => []
  | size + 1, number => UInt8.ofNat number :: bytes size (number / 256)

def value : List UInt8 → Nat
  | [] => 0
  | byte :: rest => byte.toNat + 256 * value rest

variable (number : UInt32) (rest : List UInt8) (offset size : Nat)

@[simp] theorem length_bytes (number : Nat) : (bytes size number).length = size := by
  induction size generalizing number with
  | zero => rfl
  | succ size ih => simp [bytes, ih]

theorem value_bytes (number : Nat) : value (bytes size number) = number % 256 ^ size := by
  induction size generalizing number with
  | zero => simp [bytes, value, mod_one]
  | succ size ih =>
    have low : (UInt8.ofNat number).toNat = number % 256 := UInt8.toNat_ofNat'
    rw [bytes, value, ih, low, pow_succ', mod_mul]

def word (word : UInt32) : List UInt8 := bytes 4 word.toNat

def doubleWord (word : UInt64) : List UInt8 := bytes 8 word.toNat

def words (list : List UInt32) : List UInt8 := list.flatMap word

def wordAt (stored : List UInt8) (offset : Nat) : UInt32 :=
  UInt32.ofNat (value ((stored.drop offset).take 4))

def doubleWordAt (stored : List UInt8) (offset : Nat) : UInt64 :=
  UInt64.ofNat (value ((stored.drop offset).take 8))

@[simp] theorem length_word : (word number).length = 4 := length_bytes 4 _

@[simp] theorem length_doubleWord (number : UInt64) : (doubleWord number).length = 8 :=
  length_bytes 8 _

@[simp] theorem words_nil : words [] = [] := rfl

@[simp] theorem words_cons (list : List UInt32) :
    words (number :: list) = word number ++ words list := rfl

@[simp] theorem wordAt_zero : wordAt (word number ++ rest) 0 = number := by
  have bound : number.toNat < 256 ^ 4 := number.toNat_lt
  rw [wordAt, drop_zero, take_left' (length_word number), word, value_bytes,
    mod_eq_of_lt bound, UInt32.ofNat_toNat]

@[simp] theorem doubleWordAt_zero (number : UInt64) (rest : List UInt8) :
    doubleWordAt (doubleWord number ++ rest) 0 = number := by
  have bound : number.toNat < 256 ^ 8 := number.toNat_lt
  rw [doubleWordAt, drop_zero, take_left' (length_doubleWord number), doubleWord,
    value_bytes, mod_eq_of_lt bound, UInt64.ofNat_toNat]

@[simp] theorem wordAt_word : wordAt (word number) 0 = number := by
  have last := wordAt_zero number []
  rwa [append_nil] at last

@[simp] theorem doubleWordAt_doubleWord (number : UInt64) :
    doubleWordAt (doubleWord number) 0 = number := by
  have last := doubleWordAt_zero number []
  rwa [append_nil] at last

@[simp] theorem wordAt_next : wordAt (word number ++ rest) (offset + 4) = wordAt rest offset := by
  rw [wordAt, Nat.add_comm, ← drop_drop, drop_left' (length_word number), wordAt]

@[simp] theorem doubleWordAt_next :
    doubleWordAt (word number ++ rest) (offset + 4) = doubleWordAt rest offset := by
  rw [doubleWordAt, Nat.add_comm, ← drop_drop, drop_left' (length_word number),
    doubleWordAt]

@[simp] theorem doubleWordAt_next_double (number : UInt64) (rest : List UInt8) (offset : Nat) :
    doubleWordAt (doubleWord number ++ rest) (offset + 8) = doubleWordAt rest offset := by
  rw [doubleWordAt, Nat.add_comm, ← drop_drop, drop_left' (length_doubleWord number),
    doubleWordAt]

@[simp] theorem wordAt_nil : wordAt [] offset = 0 := by
  simp [wordAt, value]

@[simp] theorem wordAt_word_next : wordAt (word number) (offset + 4) = 0 := by
  have past := wordAt_next number [] offset
  rwa [append_nil, wordAt_nil] at past

structure Cell (Descriptor : Type) where
  byte : UInt8
  attached : Option Descriptor := none

section Socket

variable {Descriptor : Type}

def plain (sent : List UInt8) : List (Cell Descriptor) := sent.map fun byte => {byte}

def withDescriptor (descriptor : Descriptor) : List UInt8 → List (Cell Descriptor)
  | [] => []
  | byte :: rest => {byte, attached := some descriptor} :: plain rest

/-- Read exactly so many bytes; the descriptors among them are lost. -/
def readAll (socket : List (Cell Descriptor)) (size : Nat) :
    Option (List UInt8 × List (Cell Descriptor)) :=
  if socket.length < size then none
  else some ((socket.take size).map (·.byte), socket.drop size)

/-- Receive exactly so many bytes, with the first descriptor attached to them. -/
def receiveAll (socket : List (Cell Descriptor)) (size : Nat) :
    Option (List UInt8 × Option Descriptor × List (Cell Descriptor)) :=
  (readAll socket size).map fun (received, rest) =>
    (received, (socket.take size).findSome? (·.attached), rest)

variable {size : Nat} (descriptor : Descriptor) (byte : UInt8) (sent first second : List UInt8)

@[simp] theorem plain_append :
    (plain (first ++ second) : List (Cell Descriptor)) = plain first ++ plain second :=
  map_append

theorem withDescriptor_append :
    withDescriptor descriptor (byte :: first ++ second) =
      withDescriptor descriptor (byte :: first) ++ plain second := by
  simp [withDescriptor]

theorem readAll_plain (length : sent.length = size) (rest : List (Cell Descriptor)) :
    readAll (plain sent ++ rest) size = some (sent, rest) := by
  have length : (plain sent : List (Cell Descriptor)).length = size := by
    rw [plain, length_map, length]
  have enough : ¬ (plain sent ++ rest).length < size := by
    rw [length_append]
    omega
  rw [readAll, if_neg enough, take_left' length, drop_left' length, plain,
    map_map]
  exact congrArg some (Prod.ext (map_id sent) rfl)

theorem receiveAll_plain (length : sent.length = size) (rest : List (Cell Descriptor)) :
    receiveAll (plain sent ++ rest) size = some (sent, none, rest) := by
  have cells : (plain sent : List (Cell Descriptor)).length = size := by
    rw [plain, length_map, length]
  have unattached : (plain sent : List (Cell Descriptor)).findSome? (·.attached) = none := by
    simp [plain]
  rw [receiveAll, readAll_plain sent length, take_left' cells, unattached]
  rfl

theorem receiveAll_withDescriptor (length : sent.length + 1 = size)
    (rest : List (Cell Descriptor)) :
    receiveAll (withDescriptor descriptor (byte :: sent) ++ rest) size =
      some (byte :: sent, some descriptor, rest) := by
  have cells : (withDescriptor descriptor (byte :: sent)).length = size := by
    simp [withDescriptor, plain, length]
  have enough : ¬ (withDescriptor descriptor (byte :: sent) ++ rest).length < size := by
    rw [length_append]
    omega
  rw [receiveAll, readAll, if_neg enough, take_left' cells, drop_left' cells]
  simp [withDescriptor, plain, Function.comp_def]

end Socket

section Pieces

variable {State Input Piece Output : Type}

def feed (step : State → Input → State × List Output) : State → List Input → State × List Output
  | state, [] => (state, [])
  | state, input :: rest =>
    let (next, out) := step state input
    let (last, more) := feed step next rest
    (last, out ++ more)

variable {step : State → Input → State × List Output}

theorem feed_append (state : State) (first second : List Input) :
    feed step state (first ++ second) =
      ((feed step (feed step state first).1 second).1,
        (feed step state first).2 ++ (feed step (feed step state first).1 second).2) := by
  induction first generalizing state with
  | nil => rfl
  | cons input rest ih => simp [feed, ih]

theorem feed_flatMap {small : State → Piece → State × List Output} {pieces : Input → List Piece}
    (Ready : State → Prop)
    (agree : ∀ state input, Ready state → feed small state (pieces input) = step state input)
    (keep : ∀ state input, Ready state → Ready (step state input).1) {state : State}
    (ready : Ready state) (inputs : List Input) :
    feed small state (inputs.flatMap pieces) = feed step state inputs := by
  induction inputs generalizing state with
  | nil => rfl
  | cons input rest ih =>
    rw [flatMap_cons, feed_append, agree state input ready, ih (keep state input ready)]
    rfl

end Pieces

end ByteStream

/-! Readers of big-endian streams, and what they read back.

A reader takes what it needs from the front of the stream and fails where the
stream ends too early.
-/

namespace ByteStream

open List

def bigEndian (size number : Nat) : List UInt8 := (bytes size number).reverse

def bigEndianValue (stored : List UInt8) : Nat := value stored.reverse

variable (size number : Nat)

@[simp] theorem length_bigEndian : (bigEndian size number).length = size := by
  simp [bigEndian]

theorem bigEndianValue_bigEndian :
    bigEndianValue (bigEndian size number) = number % 256 ^ size := by
  rw [bigEndianValue, bigEndian, reverse_reverse, value_bytes]

theorem value_append (first second : List UInt8) :
    value (first ++ second) = value first + 256 ^ first.length * value second := by
  induction first with
  | nil => simp [value]
  | cons byte rest ih =>
    rw [cons_append, value, value, ih, length_cons, pow_succ]
    ring

theorem bigEndianValue_cons (byte : UInt8) (rest : List UInt8) :
    bigEndianValue (byte :: rest) = byte.toNat * 256 ^ rest.length + bigEndianValue rest := by
  rw [bigEndianValue, reverse_cons, value_append, length_reverse]
  simp only [value, bigEndianValue]
  ring

abbrev Reader (Result : Type) := StateT (List UInt8) Option Result

section Reader

variable {Result Next : Type}

def Reads (reader : Reader Result) (taken : List UInt8) (result : Result) : Prop :=
  ∀ rest, reader (taken ++ rest) = some (result, rest)

variable {reader : Reader Result} (result : Result) (size : Nat)

theorem Reads.pure : Reads (Pure.pure result) [] result := fun _ => rfl

theorem Reads.bind {reader : Reader Result} {next : Result → Reader Next}
    {first second : List UInt8} {result : Result} {last : Next} (left : Reads reader first result)
    (right : Reads (next result) second last) : Reads (reader >>= next) (first ++ second) last := by
  intro rest
  change (reader (first ++ second ++ rest)).bind _ = _
  rw [append_assoc, left]
  exact right rest

theorem Reads.last {taken : List UInt8} {result : Result} (reads : Reads reader taken result)
    (finish : Result → Next) :
    Reads (reader >>= fun result => Pure.pure (finish result)) taken (finish result) := by
  have done := @Reads.bind _ _ reader (fun result => Pure.pure (finish result)) taken [] result _
    reads (.pure _)
  rwa [append_nil] at done

def readFully (size : Nat) : Reader (List UInt8) := fun stream =>
  if stream.length < size then none else some (stream.take size, stream.drop size)

def readNumber (size : Nat) : Reader Nat := do
  let stored ← readFully size
  return bigEndianValue stored

theorem readFully_reads (sent : List UInt8) : Reads (readFully sent.length) sent sent := by
  intro rest
  have enough : ¬(sent ++ rest).length < sent.length := by
    rw [length_append]
    omega
  rw [readFully, if_neg enough, take_left, drop_left]

theorem readNumber_reads (number : Nat) :
    Reads (readNumber size) (bigEndian size number) (number % 256 ^ size) := by
  have stored := readFully_reads (bigEndian size number)
  rw [length_bigEndian] at stored
  rw [← bigEndianValue_bigEndian]
  exact stored.last bigEndianValue

def readMany (reader : Reader Result) : Nat → Reader (List Result)
  | 0 => return []
  | count + 1 => do
    let result ← reader
    let others ← readMany reader count
    return result :: others

theorem readMany_reads {Item : Type} {write : Item → List UInt8} {read : Item → Result}
    (items : List Item) (reads : ∀ item ∈ items, Reads reader (write item) (read item)) :
    Reads (readMany reader items.length) (items.flatMap write) (items.map read) := by
  induction items with
  | nil => exact .pure []
  | cons item rest ih =>
    have others := ih fun other mem => reads other (mem_cons_of_mem _ mem)
    exact (reads item (mem_cons_self ..)).bind (others.last (read item :: ·))

end Reader

end ByteStream
