import Mathlib.Data.List.TakeWhile
import Mathlib.Data.Nat.Digits.Lemmas

/-! Building the text that hands a short message to the modem. -/

set_option autoImplicit false

namespace Ika.Sms

open List

def kGSM7BitDefaultAlphabet : List Char :=
  ['@', '£', '$', '¥', 'è', 'é', 'ù', 'ì', 'ò', 'Ç', '\n', 'Ø', 'ø', '\r', 'Å', 'å',
   'Δ', '_', 'Φ', 'Γ', 'Λ', 'Ω', 'Π', 'Ψ', 'Σ', 'Θ', 'Ξ', '\uffff', 'Æ', 'æ', 'ß', 'É',
   ' ', '!', Char.ofNat 34, '#', '¤', '%', '&', Char.ofNat 39, '(', ')', '*', '+', ',', '-', '.', '/',
   '0', '1', '2', '3', '4', '5', '6', '7', '8', '9', ':', ';', '<', '=', '>', '?',
   '¡', 'A', 'B', 'C', 'D', 'E', 'F', 'G', 'H', 'I', 'J', 'K', 'L', 'M', 'N', 'O',
   'P', 'Q', 'R', 'S', 'T', 'U', 'V', 'W', 'X', 'Y', 'Z', 'Ä', 'Ö', 'Ñ', 'Ü', '§',
   '¿', 'a', 'b', 'c', 'd', 'e', 'f', 'g', 'h', 'i', 'j', 'k', 'l', 'm', 'n', 'o',
   'p', 'q', 'r', 's', 't', 'u', 'v', 'w', 'x', 'y', 'z', 'ä', 'ö', 'ñ', 'ü', 'à']

def utf16 (char : Char) : List Nat :=
  if char.toNat < 0x10000 then [char.toNat]
  else [0xD800 + (char.toNat - 0x10000) / 0x400, 0xDC00 + (char.toNat - 0x10000) % 0x400]

def UnicodeString (text : List Char) : List Nat :=
  (text.takeWhile (· ≠ '\x00')).flatMap utf16

/-- Half of a pair alone is not a character. -/
def u_strToUTF8 (uchar : Nat) : Option Char :=
  if 0xD800 ≤ uchar ∧ uchar ≤ 0xDFFF then none else some (Char.ofNat uchar)

/-- The octets before `octets_index`, the last one first. -/
structure Packer where
  octets : List Nat := []
  bits_to_write_in_prev_octet : Nat := 0

def Packer.write (hasPrevious : Bool) (code : Nat) (packer : Packer) : Packer :=
  let bits := packer.bits_to_write_in_prev_octet
  -- the lowest part goes into the previous octet, the rest into the next one
  let octets :=
    match hasPrevious, packer.octets with
    | true, prev_octet_value :: before => (code <<< (8 - bits) % 256 ||| prev_octet_value) :: before
    | _, octets => octets
  if bits < 7 then {octets := code >>> bits :: octets, bits_to_write_in_prev_octet := bits + 1}
  else {octets := octets, bits_to_write_in_prev_octet := 0}

def encodeLoop : Bool → List Nat → Packer → Option Packer
  | _, [], packer => some packer
  | hasPrevious, uchar :: rest, packer =>
    match u_strToUTF8 uchar with
    | none => none
    | some character =>
      match kGSM7BitDefaultAlphabet.idxOf? character with
      | none => none
      | some code => encodeLoop true rest (packer.write hasPrevious code)

/-- Converts to hexadecimal representation filling with a leading 0 if necessary. -/
def DecimalToHexString (number : Nat) : List Char :=
  let digits := Nat.toDigits 16 number
  .replicate (2 - digits.length) '0' ++ digits

def Gsm7bitEncode (input : List Char) : List Char :=
  let unicode_str := UnicodeString input
  let octets_size := unicode_str.length - unicode_str.length / 8
  match encodeLoop false unicode_str {} with
  | none => []
  | some packer =>
    ((packer.octets.reverse ++ .replicate octets_size 0).take octets_size).flatMap DecimalToHexString

def isDigit (char : Char) : Bool := '0' ≤ char && char ≤ '9'

def withoutPlus : List Char → List Char
  | '+' :: number => number
  | number => number

def IsValidE164PhoneNumber (number : List Char) : Bool :=
  match withoutPlus number with
  | [] => false
  | first :: rest =>
    '1' ≤ first && first ≤ '9' && rest.all isDigit && 1 ≤ rest.length && rest.length ≤ 14

def swapPairs : List Char → List Char
  | first :: second :: rest => second :: first :: swapPairs rest
  | _ => []

def SemiOctetsEncode (input : List Char) : List Char :=
  let length_is_odd := input.length % 2 = 1
  let «end» := if length_is_odd then input.length - 1 else input.length
  swapPairs (input.take «end») ++ if length_is_odd then 'f' :: input.drop «end» else []

structure PDUFormatBuilder where
  user_data_ : List Char
  sender_number_ : List Char

/-- The empty text stands for an error. -/
def PDUFormatBuilder.Build (builder : PDUFormatBuilder) : List Char :=
  if builder.user_data_ = [] then []
  else if builder.sender_number_ = [] then []
  else if ¬IsValidE164PhoneNumber builder.sender_number_ then []
  else
    let sender_number_without_plus := withoutPlus builder.sender_number_
    let ulength := (UnicodeString builder.user_data_).length
    if ulength > 160 then []
    else
      let encoded := Gsm7bitEncode builder.user_data_
      if encoded = [] then []
      else
        ['0', '0', '0', '1', '0', '0'] ++ DecimalToHexString sender_number_without_plus.length ++
          ['9', '1'] ++ SemiOctetsEncode sender_number_without_plus ++ ['0', '0'] ++ ['0', '0'] ++
          DecimalToHexString ulength ++ encoded

/-- The octets are the number that the codes are, each least significant first. -/
structure Packed (codes : List Nat) (packer : Packer) : Prop where
  bits : packer.bits_to_write_in_prev_octet = codes.length % 8
  length : packer.octets.length = codes.length - codes.length / 8
  bytes : ∀ octet ∈ packer.octets, octet < 256
  value : Nat.ofDigits 256 packer.octets.reverse = Nat.ofDigits 128 codes

section Packing

variable {codes : List Nat} {packer : Packer} {code : Nat}

theorem shifted_or {bits last : Nat} (few : bits ≤ 8) (below : last < 2 ^ (8 - bits)) :
    (code <<< (8 - bits) % 256 ||| last) = last + code % 2 ^ bits * 2 ^ (8 - bits) := by
  have whole : 256 = 2 ^ bits * 2 ^ (8 - bits) := by
    rw [← Nat.pow_add, Nat.add_sub_cancel' few]
  rw [Nat.shiftLeft_eq, whole, Nat.mul_mod_mul_right, ← Nat.shiftLeft_eq,
    ← Nat.shiftLeft_add_eq_or_of_lt below, Nat.add_comm]

theorem Packed.width (packed : Packed codes packer) :
    8 * packer.octets.length = 7 * codes.length + packer.bits_to_write_in_prev_octet := by
  have bits := packed.bits
  have length := packed.length
  omega

variable {last : Nat} {before : List Nat}

theorem Packed.place (packed : Packed codes packer) (octets : packer.octets = last :: before) :
    (128 : Nat) ^ codes.length =
      256 ^ before.length * 2 ^ (8 - packer.bits_to_write_in_prev_octet) := by
  have width := packed.width
  have few : packer.bits_to_write_in_prev_octet < 8 := by rw [packed.bits]; omega
  rw [octets, length_cons] at width
  rw [show (128 : Nat) = 2 ^ 7 from rfl, show (256 : Nat) = 2 ^ 8 from rfl, ← Nat.pow_mul,
    ← Nat.pow_mul, ← Nat.pow_add]
  congr 1
  omega

theorem Packed.value_cons (packed : Packed codes packer) (octets : packer.octets = last :: before) :
    Nat.ofDigits 256 before.reverse + 256 ^ before.length * last = Nat.ofDigits 128 codes := by
  have value := packed.value
  rw [octets, reverse_cons, Nat.ofDigits_append, Nat.ofDigits_singleton,
    length_reverse] at value
  exact value

theorem Packed.last_lt (packed : Packed codes packer) (octets : packer.octets = last :: before)
    (small : ∀ code ∈ codes, code < 128) : last < 2 ^ (8 - packer.bits_to_write_in_prev_octet) := by
  have value := packed.value_cons octets
  have below : Nat.ofDigits 128 codes < 128 ^ codes.length :=
    Nat.ofDigits_lt_base_pow_length (by decide) small
  rw [packed.place octets] at below
  exact Nat.lt_of_mul_lt_mul_left (Nat.lt_of_le_of_lt (by omega) below)

theorem packed_first (small : code < 128) : Packed [code] (Packer.write false code {}) where
  bits := rfl
  length := by simp [Packer.write]
  bytes octet listed := by
    cases mem_singleton.mp listed
    exact Nat.lt_of_lt_of_le small (by decide)
  value := rfl

theorem Packed.write (packed : Packed codes packer) (some : codes ≠ [])
    (small : ∀ code ∈ codes, code < 128) (fits : code < 128) :
    Packed (codes ++ [code]) (packer.write true code) := by
  have width := packed.width
  have bits := packed.bits
  have length := packed.length
  have many := length_pos_iff.mpr some
  obtain ⟨octets, taken⟩ := packer
  cases octets with
  | nil =>
    rw [length_nil] at length
    omega
  | cons last before =>
    have place := packed.place rfl
    have value := packed.value_cons rfl
    have clear := packed.last_lt rfl small
    dsimp only at width bits length place clear
    rw [length_cons] at width length
    have merged := @shifted_or code taken last (by omega) clear
    have split : code % 2 ^ taken * 2 ^ (8 - taken) + 256 * (code / 2 ^ taken) =
        2 ^ (8 - taken) * code := by
      have whole : 256 = 2 ^ taken * 2 ^ (8 - taken) := by
        rw [← Nat.pow_add, Nat.add_sub_cancel' (by omega)]
      rw [whole]
      calc code % 2 ^ taken * 2 ^ (8 - taken) + 2 ^ taken * 2 ^ (8 - taken) * (code / 2 ^ taken)
          = 2 ^ (8 - taken) * (code % 2 ^ taken + 2 ^ taken * (code / 2 ^ taken)) := by ring
        _ = 2 ^ (8 - taken) * code := by rw [Nat.mod_add_div]
    have target : Nat.ofDigits 128 (codes ++ [code]) =
        Nat.ofDigits 256 before.reverse + 256 ^ before.length * (last + 2 ^ (8 - taken) * code) := by
      rw [Nat.ofDigits_append, Nat.ofDigits_singleton, place, ← value]
      ring
    have byte : (code <<< (8 - taken) % 256 ||| last) < 256 :=
      Nat.or_lt_two_pow (n := 8) (Nat.mod_lt _ (by decide))
        (packed.bytes last mem_cons_self)
    unfold Packer.write
    dsimp only
    split
    · rename_i more
      constructor
      · rw [length_append, length_singleton]
        dsimp only
        omega
      · rw [length_append, length_singleton, length_cons, length_cons]
        omega
      · intro octet listed
        rcases mem_cons.mp listed with rfl | listed
        · rw [Nat.shiftRight_eq_div_pow]
          exact Nat.lt_of_le_of_lt (Nat.div_le_self _ _) (by omega)
        · rcases mem_cons.mp listed with rfl | listed
          · exact byte
          · exact packed.bytes octet (mem_cons_of_mem _ listed)
      · rw [merged, reverse_cons, reverse_cons, append_assoc, Nat.ofDigits_append,
          length_reverse, target, Nat.shiftRight_eq_div_pow]
        rw [singleton_append, Nat.ofDigits_cons, Nat.ofDigits_singleton, ← split]
        ring
    · -- all seven bits of the code go into the previous octet
      rename_i full
      have seven : taken = 7 := by omega
      constructor
      · rw [length_append, length_singleton]
        dsimp only
        omega
      · rw [length_append, length_singleton, length_cons]
        omega
      · intro octet listed
        rcases mem_cons.mp listed with rfl | listed
        · exact byte
        · exact packed.bytes octet (mem_cons_of_mem _ listed)
      · rw [merged, reverse_cons, Nat.ofDigits_append, length_reverse,
          Nat.ofDigits_singleton, target, seven, Nat.mod_eq_of_lt (by omega)]
        ring

end Packing

/-- The text's characters as their places in the table. -/
def codesOf (text : List Char) : List Nat := text.map kGSM7BitDefaultAlphabet.idxOf

def InAlphabet (text : List Char) : Prop := ∀ char ∈ text, char ∈ kGSM7BitDefaultAlphabet

section Texts

variable {text : List Char} {char : Char}

theorem alphabet_units : ∀ char ∈ kGSM7BitDefaultAlphabet,
    char.toNat < 0x10000 ∧ ¬(0xD800 ≤ char.toNat ∧ char.toNat ≤ 0xDFFF) ∧ char ≠ '\x00' := by
  have checked : kGSM7BitDefaultAlphabet.all (fun char =>
      char.toNat < 0x10000 ∧ ¬(0xD800 ≤ char.toNat ∧ char.toNat ≤ 0xDFFF) ∧ char ≠ '\x00') = true := by
    decide +kernel
  exact fun char listed => of_decide_eq_true (all_eq_true.mp checked char listed)

theorem code_lt (listed : char ∈ kGSM7BitDefaultAlphabet) :
    kGSM7BitDefaultAlphabet.idxOf char < 128 := idxOf_lt_length_of_mem listed

theorem codesOf_lt (listed : InAlphabet text) : ∀ code ∈ codesOf text, code < 128 := by
  intro code member
  obtain ⟨char, inside, rfl⟩ := mem_map.mp member
  exact code_lt (listed char inside)

theorem u_strToUTF8_alphabet (listed : char ∈ kGSM7BitDefaultAlphabet) :
    u_strToUTF8 char.toNat = some char := by
  unfold u_strToUTF8
  rw [if_neg (alphabet_units char listed).2.1, Char.ofNat_toNat]

theorem idxOf?_alphabet (listed : char ∈ kGSM7BitDefaultAlphabet) :
    kGSM7BitDefaultAlphabet.idxOf? char = some (kGSM7BitDefaultAlphabet.idxOf char) := by
  cases found : kGSM7BitDefaultAlphabet.idxOf? char with
  | none => exact absurd listed (List.idxOf?_eq_none_iff.mp found)
  | some code => rw [idxOf_eq_getD_idxOf?, found, Option.getD_some]

section

variable (listed : InAlphabet text)
include listed

theorem UnicodeString_alphabet : UnicodeString text = text.map Char.toNat := by
  have whole : text.takeWhile (· ≠ '\x00') = text := by
    refine takeWhile_eq_self_iff.mpr fun char member => ?_
    exact decide_eq_true (alphabet_units char (listed char member)).2.2
  unfold UnicodeString
  rw [whole]
  clear whole
  induction text with
  | nil => rfl
  | cons char rest ih =>
    have single : utf16 char = [char.toNat] :=
      if_pos (alphabet_units char (listed char mem_cons_self)).1
    rw [flatMap_cons, single, ih fun char member => listed char (mem_cons_of_mem _ member)]
    rfl

theorem encodeLoop_more {codes : List Nat} {packer : Packer}
    (packed : Packed codes packer) (some_codes : codes ≠ []) (small : ∀ code ∈ codes, code < 128) :
    ∃ last, encodeLoop true (text.map Char.toNat) packer = some last ∧
      Packed (codes ++ codesOf text) last := by
  induction text generalizing codes packer with
  | nil => exact ⟨packer, rfl, by rw [codesOf, map_nil, append_nil]; exact packed⟩
  | cons char rest ih =>
    have first := listed char mem_cons_self
    have fits := code_lt first
    have step := packed.write some_codes small fits
    have bounded : ∀ code ∈ codes ++ [kGSM7BitDefaultAlphabet.idxOf char], code < 128 := by
      intro code member
      rcases mem_append.mp member with before | last
      · exact small code before
      · exact mem_singleton.mp last ▸ fits
    obtain ⟨last, run, whole⟩ := ih (fun char member => listed char (mem_cons_of_mem _ member))
      step (append_ne_nil_of_right_ne_nil _ (cons_ne_nil _ _)) bounded
    refine ⟨last, ?_, ?_⟩
    · rw [map_cons, encodeLoop, u_strToUTF8_alphabet first]
      dsimp only
      rw [idxOf?_alphabet first]
      exact run
    · rw [append_assoc] at whole
      exact whole

theorem encodeLoop_packed (some_text : text ≠ []) :
    ∃ last, encodeLoop false (text.map Char.toNat) {} = some last ∧ Packed (codesOf text) last := by
  cases text with
  | nil => exact absurd rfl some_text
  | cons char rest =>
    have first := listed char mem_cons_self
    have fits := code_lt first
    obtain ⟨last, run, whole⟩ := encodeLoop_more
      (fun char member => listed char (mem_cons_of_mem _ member)) (packed_first fits)
      (cons_ne_nil _ _) (fun code member => mem_singleton.mp member ▸ fits)
    refine ⟨last, ?_, whole⟩
    rw [map_cons, encodeLoop, u_strToUTF8_alphabet first]
    dsimp only
    rw [idxOf?_alphabet first]
    exact run

theorem Gsm7bitEncode_octets (some_text : text ≠ []) :
    ∃ octets, Gsm7bitEncode text = octets.flatMap DecimalToHexString ∧
      octets.length = text.length - text.length / 8 ∧ (∀ octet ∈ octets, octet < 256) ∧
      Nat.ofDigits 256 octets = Nat.ofDigits 128 (codesOf text) := by
  obtain ⟨packer, run, packed⟩ := encodeLoop_packed listed some_text
  have length := packed.length
  have codes : (codesOf text).length = text.length := length_map _
  rw [codes] at length
  refine ⟨packer.octets.reverse, ?_, ?_, ?_, packed.value⟩
  · unfold Gsm7bitEncode
    rw [UnicodeString_alphabet listed]
    dsimp only
    rw [run]
    dsimp only
    rw [length_map, ← length, ← length_reverse, take_left]
  · rw [length_reverse, length]
  · intro octet member
    exact packed.bytes octet (mem_reverse.mp member)

end

end Texts

def septets : Nat → Nat → List Nat
  | 0, _ => []
  | count + 1, number => number % 128 :: septets count (number / 128)

def unpack (count : Nat) (octets : List Nat) : List Nat := septets count (Nat.ofDigits 256 octets)

example : unpack 8 [0xe3, 0xf1, 0x78, 0x3c, 0x1e, 0x8f, 0xc7] = .replicate 8 0x63 := by decide

theorem septets_ofDigits {codes : List Nat} (small : ∀ code ∈ codes, code < 128) :
    septets codes.length (Nat.ofDigits 128 codes) = codes := by
  induction codes with
  | nil => rfl
  | cons code rest ih =>
    have fits := small code mem_cons_self
    have others := ih fun code member => small code (mem_cons_of_mem _ member)
    rw [length_cons, septets, Nat.ofDigits_cons, Nat.add_mul_mod_self_left,
      Nat.add_mul_div_left _ _ (by decide), Nat.div_eq_of_lt fits, Nat.zero_add, others,
      Nat.mod_eq_of_lt fits]

end Ika.Sms
