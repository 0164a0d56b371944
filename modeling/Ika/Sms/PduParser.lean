import Ika.Sms.PduFormatBuilder

/-! The modem's reading of a short message, and what it reads of one that was built. -/

set_option autoImplicit false

namespace Ika.Sms

open List

/-- An `int` that becomes a `size_t`. -/
def size_t (value : Int) : Nat := (value % 2 ^ 64).toNat

def HexCharToInt (c : Char) : Int :=
  if '0' ≤ c ∧ c ≤ '9' then c.toNat - 48
  else if 'A' ≤ c ∧ c ≤ 'F' then c.toNat - 65 + 10
  else if 'a' ≤ c ∧ c ≤ 'f' then c.toNat - 97 + 10
  else -1

def Hex2ToByte : List Char → Int
  | first :: second :: _ =>
    let hi := HexCharToInt first
    let lo := HexCharToInt second
    if hi < 0 ∨ lo < 0 then -1 else hi * 16 + lo
  | _ => -1

/-- The fields stay empty where the text is too short for them. -/
structure PDUParser where
  is_valid_pdu_ : Bool := false
  pdu_type_ : List Char := []
  message_reference_ : List Char := []
  originator_address_ : List Char := []
  protocol_id_ : List Char := []
  data_code_scheme_ : List Char := []
  user_data_ : List Char := []

def view (pdu : List Char) (pos : Nat) : List Char := pdu.drop (min pos pdu.length)

namespace PDUParser

variable (pdu : List Char) (pos : Nat) (parser : PDUParser)

/-- Eight septets are in seven octets. In the other schemes every octet is counted. -/
def decodeUserData : PDUParser :=
  let ud_length := Hex2ToByte ((view pdu pos).take 2)
  let finish :=
    if parser.data_code_scheme_ = ['0', '0'] then
      size_t (size_t (pos + (ud_length * 2 + 2)) - ud_length.tdiv 8 * 2)
    else size_t (pos + (ud_length * 2 + 2))
  {parser with user_data_ := view pdu pos, is_valid_pdu_ := finish = pdu.length}

def decodeScheme : PDUParser :=
  let protocol_id_ := (view pdu pos).take 2
  let pos := size_t (pos + 2)
  let data_code_scheme_ := (view pdu pos).take 2
  decodeUserData pdu (size_t (pos + 2)) {parser with protocol_id_, data_code_scheme_}

def decodeAddress : PDUParser :=
  let oa_length := Hex2ToByte ((view pdu pos).take 2)
  let oa_length := if oa_length % 2 = 1 then oa_length + 1 else oa_length
  let originator_address_ := (view pdu pos).take (size_t (oa_length + 4))
  decodeScheme pdu (size_t (pos + (oa_length + 4))) {parser with originator_address_}

def decodeType : PDUParser :=
  let pdu_type_ := (view pdu pos).take 2
  let pos := size_t (pos + 2)
  let message_reference_ := (view pdu pos).take 2
  decodeAddress pdu (size_t (pos + 2)) {parser with pdu_type_, message_reference_}

end PDUParser

def DecodePDU (pdu : List Char) : PDUParser :=
  if pdu.length < 8 then {}
  else
    let smsc := pdu.take 2
    let pos := if smsc ≠ ['0', '0'] then size_t (2 + Hex2ToByte smsc * 2) else 2
    PDUParser.decodeType pdu pos {}

def BCDToString (data : List Char) : List Char :=
  if data = [] then []
  else if data.length % 2 = 1 then []
  else
    let dst := swapPairs data
    if dst.getLast? = some 'F' then dst.dropLast else dst

/-- Skips the length and the type, and a country code of two digits in an address of 14. -/
def PDUParser.GetPhoneNumberFromAddress (parser : PDUParser) : Option (List Char) :=
  if ¬parser.is_valid_pdu_ then some []
  else if parser.originator_address_.length = 18 then
    some (BCDToString (parser.originator_address_.drop 6))
  else if parser.originator_address_.length < 4 then none
  else some (BCDToString (parser.originator_address_.drop 4))

/-- The octets that a text has in hexadecimal. -/
def octetsOf : List Char → List Nat
  | first :: second :: rest => (Hex2ToByte [first, second]).toNat :: octetsOf rest
  | _ => []

theorem HexCharToInt_digitChar : ∀ digit < 16, HexCharToInt (Nat.digitChar digit) = digit := by
  decide

theorem DecimalToHexString_eq : ∀ number < 256,
    DecimalToHexString number = [Nat.digitChar (number / 16), Nat.digitChar (number % 16)] := by
  decide +kernel

theorem Hex2ToByte_digits {number : Nat} (small : number < 256) {rest : List Char} :
    Hex2ToByte (Nat.digitChar (number / 16) :: Nat.digitChar (number % 16) :: rest) = number := by
  have high := HexCharToInt_digitChar (number / 16) (by omega)
  have low := HexCharToInt_digitChar (number % 16) (Nat.mod_lt _ (by decide))
  unfold Hex2ToByte
  dsimp only
  rw [high, low, if_neg (by omega)]
  omega

variable {octets : List Nat}

theorem length_flatMap_hex (small : ∀ octet ∈ octets, octet < 256) :
    (octets.flatMap DecimalToHexString).length = 2 * octets.length := by
  induction octets with
  | nil => rfl
  | cons octet rest ih =>
    have others := ih fun octet listed => small octet (mem_cons_of_mem _ listed)
    rw [flatMap_cons, length_append, others,
      DecimalToHexString_eq octet (small octet mem_cons_self), length_cons]
    simp only [length_cons, length_nil]
    omega

theorem octetsOf_hex (small : ∀ octet ∈ octets, octet < 256) :
    octetsOf (octets.flatMap DecimalToHexString) = octets := by
  induction octets with
  | nil => rfl
  | cons octet rest ih =>
    have fits := small octet mem_cons_self
    have others := ih fun octet listed => small octet (mem_cons_of_mem _ listed)
    rw [flatMap_cons, DecimalToHexString_eq octet fits, cons_append, cons_append,
      nil_append, octetsOf, others, Hex2ToByte_digits fits, Int.toNat_natCast]

theorem size_t_eq {value : Int} {number : Nat} (same : value = number) (fits : number < 2 ^ 64) :
    size_t value = number := by
  unfold size_t
  omega

theorem view_eq {pdu tail : List Char} {pos : Nat} (inside : pos ≤ pdu.length)
    (same : pdu.drop pos = tail) : view pdu pos = tail := by
  unfold view
  rw [Nat.min_eq_left inside, same]

section Decoding

variable {pdu encoded rest : List Char} {pos number : Nat} {parser : PDUParser}

theorem decodeUserData_eq (scheme : parser.data_code_scheme_ = ['0', '0']) (small : number < 256)
    (tail : pdu.drop pos = DecimalToHexString number ++ encoded)
    (long : encoded.length = 2 * (number - number / 8)) (before : pos ≤ pdu.length)
    (few : pdu.length < 2 ^ 63) :
    PDUParser.decodeUserData pdu pos parser =
      {parser with user_data_ := DecimalToHexString number ++ encoded, is_valid_pdu_ := true} := by
  have total := congrArg List.length tail
  rw [DecimalToHexString_eq number small] at tail total ⊢
  have shown := view_eq before tail
  have read : Hex2ToByte ((view pdu pos).take 2) = number := by
    rw [shown]
    exact Hex2ToByte_digits small
  rw [length_drop] at total
  simp only [length_append, length_cons, length_nil] at total
  have divided : (number : Int).tdiv 8 = (number / 8 : Nat) := rfl
  have first : size_t (pos + ((number : Int) * 2 + 2)) = pos + (number * 2 + 2) :=
    size_t_eq (by omega) (by omega)
  have last : size_t ((pos + (number * 2 + 2) : Nat) - (number / 8 : Nat) * 2) = pdu.length :=
    size_t_eq (by omega) (by omega)
  unfold PDUParser.decodeUserData
  dsimp only
  rw [read, if_pos scheme, divided, first, last, shown, decide_eq_true rfl]

theorem decodeScheme_eq (tail : pdu.drop pos = '0' :: '0' :: '0' :: '0' :: rest)
    (before : pos + 4 ≤ pdu.length) (few : pdu.length < 2 ^ 63) :
    PDUParser.decodeScheme pdu pos parser =
      PDUParser.decodeUserData pdu (pos + 4)
        {parser with protocol_id_ := ['0', '0'], data_code_scheme_ := ['0', '0']} := by
  have first := view_eq (by omega) tail
  have behind : pdu.drop (pos + 2) = '0' :: '0' :: rest := by rw [← drop_drop, tail]; rfl
  have second := view_eq (by omega) behind
  have moved : size_t ((pos : Int) + 2) = pos + 2 := size_t_eq (by omega) (by omega)
  have moved' : size_t (((pos + 2 : Nat) : Int) + 2) = pos + 4 := size_t_eq (by omega) (by omega)
  unfold PDUParser.decodeScheme
  dsimp only
  rw [moved, moved', first, second]
  rfl

variable {semi : List Char}

theorem decodeAddress_eq (small : number < 256)
    (tail : pdu.drop pos = DecimalToHexString number ++ '9' :: '1' :: (semi ++ rest))
    (filled : semi.length = number + number % 2) (before : pos ≤ pdu.length)
    (few : pdu.length < 2 ^ 63) :
    PDUParser.decodeAddress pdu pos parser =
      PDUParser.decodeScheme pdu (pos + (semi.length + 4))
        {parser with originator_address_ := DecimalToHexString number ++ '9' :: '1' :: semi} := by
  have shown := view_eq before tail
  have read : Hex2ToByte ((view pdu pos).take 2) = number := by
    rw [shown, DecimalToHexString_eq number small]
    exact Hex2ToByte_digits small
  have evened : (if (number : Int) % 2 = 1 then (number : Int) + 1 else number) = semi.length := by
    split
    · omega
    · omega
  have count : size_t ((semi.length : Int) + 4) = semi.length + 4 := size_t_eq (by omega) (by omega)
  have moved : size_t ((pos : Int) + ((semi.length : Int) + 4)) = pos + (semi.length + 4) :=
    size_t_eq (by omega) (by omega)
  have address : (view pdu pos).take (semi.length + 4) =
      DecimalToHexString number ++ '9' :: '1' :: semi := by
    rw [shown, DecimalToHexString_eq number small]
    simp only [cons_append, nil_append, take_succ_cons, take_left]
  unfold PDUParser.decodeAddress
  dsimp only
  rw [read, evened, count, moved, address]

theorem DecodePDU_built {digits count : Nat} (few : digits < 256) (small : count < 256)
    (filled : semi.length = digits + digits % 2) (long : encoded.length = 2 * (count - count / 8)) :
    DecodePDU (['0', '0', '0', '1', '0', '0'] ++ DecimalToHexString digits ++ ['9', '1'] ++ semi ++
        ['0', '0'] ++ ['0', '0'] ++ DecimalToHexString count ++ encoded) =
      { is_valid_pdu_ := true
        pdu_type_ := ['0', '1']
        message_reference_ := ['0', '0']
        originator_address_ := DecimalToHexString digits ++ '9' :: '1' :: semi
        protocol_id_ := ['0', '0']
        data_code_scheme_ := ['0', '0']
        user_data_ := DecimalToHexString count ++ encoded} := by
  generalize whole : ['0', '0', '0', '1', '0', '0'] ++ _ ++ _ ++ _ ++ _ ++ _ ++ _ ++ encoded = pdu
  have text : pdu = '0' :: '0' :: '0' :: '1' :: '0' :: '0' :: (DecimalToHexString digits ++
      '9' :: '1' :: (semi ++ '0' :: '0' :: '0' :: '0' :: (DecimalToHexString count ++ encoded))) := by
    rw [← whole]
    simp only [cons_append, nil_append, append_assoc]
  have width : (DecimalToHexString digits).length = 2 := by
    rw [DecimalToHexString_eq digits few]
    rfl
  have width' : (DecimalToHexString count).length = 2 := by
    rw [DecimalToHexString_eq count small]
    rfl
  have total : pdu.length = semi.length + encoded.length + 16 := by
    rw [text]
    simp only [length_cons, length_append, width, width']
    omega
  have address : pdu.drop 6 = DecimalToHexString digits ++ '9' :: '1' ::
      (semi ++ '0' :: '0' :: '0' :: '0' :: (DecimalToHexString count ++ encoded)) := by
    rw [text]
    rfl
  have scheme : pdu.drop (6 + (semi.length + 4)) =
      '0' :: '0' :: '0' :: '0' :: (DecimalToHexString count ++ encoded) := by
    rw [← drop_drop, address, DecimalToHexString_eq digits few]
    simp only [cons_append, nil_append, drop_succ_cons, drop_left]
  have data : pdu.drop (6 + (semi.length + 4) + 4) = DecimalToHexString count ++ encoded := by
    rw [← drop_drop, scheme]
    rfl
  have start : DecodePDU pdu = PDUParser.decodeAddress pdu 6
      { pdu_type_ := ['0', '1'], message_reference_ := ['0', '0']} := by
    unfold DecodePDU
    rw [if_neg (by omega), text]
    rfl
  rw [start, decodeAddress_eq few address filled (by omega) (by omega),
    decodeScheme_eq scheme (by omega) (by omega),
    decodeUserData_eq rfl small data long (by omega) (by omega)]

end Decoding

/-! The modem reads of a message what was put into it. -/

section Numbers

variable {digits number text : List Char}

theorem swapPairs_even (even : digits.length % 2 = 0) :
    swapPairs (swapPairs digits) = digits ∧ (swapPairs digits).length = digits.length := by
  fun_induction swapPairs digits with
  | case1 first second rest ih =>
    rw [length_cons, length_cons] at even
    obtain ⟨back, length⟩ := ih (by omega)
    rw [swapPairs, back, length_cons, length_cons, length]
    exact ⟨rfl, rfl⟩
  | case2 digits short =>
    cases digits with
    | nil => exact ⟨rfl, rfl⟩
    | cons first rest =>
      cases rest with
      | nil => cases even
      | cons second rest => exact absurd rfl (short first second rest)

theorem length_SemiOctetsEncode :
    (SemiOctetsEncode digits).length = digits.length + digits.length % 2 := by
  unfold SemiOctetsEncode
  dsimp only
  split
  · rename_i odd
    have even : (digits.take (digits.length - 1)).length % 2 = 0 := by
      rw [length_take]
      omega
    rw [length_append, (swapPairs_even even).2, length_take, length_cons,
      length_drop]
    omega
  · rename_i even
    rw [take_length, append_nil, (swapPairs_even (by omega)).2]
    omega

theorem SemiOctetsEncode_even (even : digits.length % 2 = 0) :
    SemiOctetsEncode digits = swapPairs digits := by
  unfold SemiOctetsEncode
  dsimp only
  rw [if_neg (by omega), if_neg (by omega), take_length, append_nil]

theorem BCDToString_swapPairs (even : digits.length % 2 = 0) (some_digits : digits ≠ [])
    (decimal : ∀ char ∈ digits, isDigit char = true) : BCDToString (swapPairs digits) = digits := by
  have length := (swapPairs_even even).2
  have filled : swapPairs digits ≠ [] := by
    rw [← length_pos_iff, length, length_pos_iff]
    exact some_digits
  unfold BCDToString
  rw [if_neg filled, if_neg (by omega), (swapPairs_even even).1]
  refine if_neg fun last => ?_
  have listed := mem_of_getLast? last
  exact absurd (decimal 'F' listed) (by decide)

theorem digits_of_valid (valid : IsValidE164PhoneNumber number = true) :
    2 ≤ (withoutPlus number).length ∧ (withoutPlus number).length ≤ 15 ∧
      ∀ char ∈ withoutPlus number, isDigit char = true := by
  unfold IsValidE164PhoneNumber at valid
  cases written : withoutPlus number with
  | nil =>
    rw [written] at valid
    cases valid
  | cons first rest =>
    rw [written] at valid
    simp only [Bool.and_eq_true, decide_eq_true_eq, all_eq_true] at valid
    obtain ⟨⟨⟨⟨low, high⟩, decimal⟩, long⟩, short⟩ := valid
    refine ⟨by rw [length_cons]; omega, by rw [length_cons]; omega, ?_⟩
    intro char listed
    rcases mem_cons.mp listed with rfl | later
    · unfold isDigit
      rw [Bool.and_eq_true, decide_eq_true_eq, decide_eq_true_eq]
      exact ⟨Nat.le_trans (by decide) low, high⟩
    · exact decimal char later

end Numbers

section Messages

variable {text number : List Char}

theorem Build_eq (listed : InAlphabet text) (some_text : text ≠ []) (short : text.length ≤ 160)
    (valid : IsValidE164PhoneNumber number = true) :
    PDUFormatBuilder.Build ⟨text, number⟩ =
      ['0', '0', '0', '1', '0', '0'] ++ DecimalToHexString (withoutPlus number).length ++
        ['9', '1'] ++ SemiOctetsEncode (withoutPlus number) ++ ['0', '0'] ++ ['0', '0'] ++
        DecimalToHexString text.length ++ Gsm7bitEncode text := by
  have some_number : number ≠ [] := by
    rintro rfl
    cases valid
  have units : (UnicodeString text).length = text.length := by
    rw [UnicodeString_alphabet listed, length_map]
  have encoded : Gsm7bitEncode text ≠ [] := by
    obtain ⟨octets, same, length, bytes, -⟩ := Gsm7bitEncode_octets listed some_text
    have many := length_pos_iff.mpr some_text
    rw [← length_pos_iff, same, length_flatMap_hex bytes, length]
    omega
  unfold PDUFormatBuilder.Build
  dsimp only
  rw [if_neg some_text, if_neg some_number, if_neg (not_not.mpr valid), units, if_neg (by omega),
    if_neg encoded]

theorem address_read {parser : PDUParser} {digits : List Char} (accepted : parser.is_valid_pdu_ = true)
    (address : parser.originator_address_ =
      DecimalToHexString digits.length ++ '9' :: '1' :: SemiOctetsEncode digits)
    (low : 2 ≤ digits.length) (high : digits.length ≤ 15) (even : digits.length % 2 = 0)
    (decimal : ∀ char ∈ digits, isDigit char = true) :
    parser.GetPhoneNumberFromAddress =
      some (if digits.length = 14 then digits.drop 2 else digits) := by
  have width := (swapPairs_even even).2
  have some_digits : digits ≠ [] := length_pos_iff.mp (by omega)
  rw [SemiOctetsEncode_even even, DecimalToHexString_eq _ (by omega)] at address
  have length : parser.originator_address_.length = digits.length + 4 := by
    rw [address]
    simp only [length_append, length_cons, length_nil]
    omega
  unfold PDUParser.GetPhoneNumberFromAddress
  rw [if_neg (not_not.mpr accepted), length]
  by_cases long : digits.length = 14
  · -- the first pair is passed over with the length and the type
    rw [if_pos (by omega), if_pos long, address]
    obtain ⟨first, second, rest, rfl⟩ : ∃ first second rest, digits = first :: second :: rest := by
      match digits, low with
      | first :: second :: rest, _ => exact ⟨first, second, rest, rfl⟩
    simp only [length_cons] at long even
    refine congrArg some (BCDToString_swapPairs (by omega) ?_ fun char listed => ?_)
    · exact length_pos_iff.mp (by omega)
    · exact decimal char (mem_cons_of_mem _ (mem_cons_of_mem _ listed))
  · rw [if_neg (by omega), if_neg (by omega), if_neg long, address]
    exact congrArg some (BCDToString_swapPairs even some_digits decimal)

/-- A message is accepted, its text is unpacked, and an even number is read but for the country. -/
theorem message_decoded (listed : InAlphabet text) (some_text : 1 ≤ text.length)
    (short : text.length ≤ 160) (valid : IsValidE164PhoneNumber number = true) :
    let parser := DecodePDU (PDUFormatBuilder.Build ⟨text, number⟩)
    let digits := withoutPlus number
    parser.is_valid_pdu_ = true ∧
      Hex2ToByte (parser.user_data_.take 2) = text.length ∧
      unpack text.length (octetsOf (parser.user_data_.drop 2)) = codesOf text ∧
      (digits.length % 2 = 0 →
        parser.GetPhoneNumberFromAddress =
          some (if digits.length = 14 then digits.drop 2 else digits)) := by
  have filled : text ≠ [] := length_pos_iff.mp some_text
  obtain ⟨octets, same, length, bytes, value⟩ := Gsm7bitEncode_octets listed filled
  obtain ⟨low, high, decimal⟩ := digits_of_valid valid
  have long : (Gsm7bitEncode text).length = 2 * (text.length - text.length / 8) := by
    rw [same, length_flatMap_hex bytes, length]
  dsimp only
  rw [Build_eq listed filled short valid,
    DecodePDU_built (by omega) (by omega) length_SemiOctetsEncode long]
  refine ⟨rfl, ?_, ?_, ?_⟩
  · rw [DecimalToHexString_eq text.length (by omega)]
    exact Hex2ToByte_digits (by omega)
  · rw [DecimalToHexString_eq text.length (by omega), same]
    have codes : (codesOf text).length = text.length := length_map _
    have read : octetsOf (octets.flatMap DecimalToHexString) = octets := octetsOf_hex bytes
    change unpack text.length (octetsOf (octets.flatMap DecimalToHexString)) = codesOf text
    rw [read, unpack, value, ← codes, septets_ofDigits (codesOf_lt listed)]
  · exact fun even => address_read rfl rfl low high even decimal

end Messages

theorem message_decoded_hello :
    let parser := DecodePDU (PDUFormatBuilder.Build ⟨"Hi Ω".toList, "+526501234567".toList⟩)
    parser.is_valid_pdu_ = true ∧ Hex2ToByte (parser.user_data_.take 2) = 4 ∧
      unpack 4 (octetsOf (parser.user_data_.drop 2)) = codesOf "Hi Ω".toList ∧
      parser.GetPhoneNumberFromAddress = some "526501234567".toList := by
  have checked : ("Hi Ω".toList.all fun char => char ∈ kGSM7BitDefaultAlphabet) = true := by decide
  have listed : InAlphabet "Hi Ω".toList := fun char member =>
    of_decide_eq_true (all_eq_true.mp checked char member)
  obtain ⟨accepted, count, unpacked, address⟩ := @message_decoded "Hi Ω".toList
    "+526501234567".toList listed (by decide) (by decide) (by decide)
  exact ⟨accepted, count, unpacked, address (by decide)⟩

/-- What the modem reads of the number in a message of one character. -/
def numberRead (number : List Char) : Option (List Char) :=
  (DecodePDU (PDUFormatBuilder.Build ⟨['c'], number⟩)).GetPhoneNumberFromAddress

/-- Of eleven digits the filler stays, and of fourteen the first two are passed over. -/
theorem number_changed :
    (numberRead "+16501234567".toList = some "16501234567f".toList ∧
      numberRead "+16501234567".toList ≠ some (withoutPlus "+16501234567".toList)) ∧
    numberRead "12345678901234".toList = some "345678901234".toList ∧
      numberRead "12345678901234".toList ≠ some (withoutPlus "12345678901234".toList) := by
  decide +kernel

end Ika.Sms
