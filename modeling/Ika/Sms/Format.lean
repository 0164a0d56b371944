import Ika.Sms.PduParser

/-! The format that the modem's parser accepts, the texts without one of its lengths that it
accepts as well, and the message in this format that another modem gets. -/

set_option autoImplicit false

namespace Ika.Sms

open List

/-! ## The format -/

def PDUParser.text (parser : PDUParser) : List Char :=
  parser.pdu_type_ ++ parser.message_reference_ ++ parser.originator_address_ ++
    parser.protocol_id_ ++ parser.data_code_scheme_ ++ parser.user_data_

/-- A number of two hexadecimal digits, and behind it the bytes that the number stands for. -/
def Counted (bytes : Nat → Nat) (field : List Char) : Prop :=
  0 ≤ Hex2ToByte field ∧ field.length = 2 + 2 * bytes (Hex2ToByte field).toNat

def addressBytes (digits : Nat) : Nat := 1 + (digits + 1) / 2

def dataBytes (scheme : List Char) (number : Nat) : Nat :=
  if scheme = ['0', '0'] then (7 * number + 7) / 8 else number

structure Bytes (parser : PDUParser) : Prop where
  type : parser.pdu_type_.length = 2
  reference : parser.message_reference_.length = 2
  protocol : parser.protocol_id_.length = 2
  scheme : parser.data_code_scheme_.length = 2

/-- A message in the format, apart from the address of its service center. -/
structure WellFormed (center : List Char) (parser : PDUParser) : Prop where
  bytes : Bytes parser
  service_center : Counted id center
  address : Counted addressBytes parser.originator_address_
  data : Counted (dataBytes parser.data_code_scheme_) parser.user_data_

/-- A message that is taken: each of its lengths may be left out or not be a number. -/
structure Taken (center : List Char) (parser : PDUParser) : Prop where
  bytes : Bytes parser
  service_center : Counted id center ∨ center = [] ∧ Hex2ToByte parser.pdu_type_ < 0
  address : Counted addressBytes parser.originator_address_ ∨
    parser.originator_address_.length = 4 ∧ Hex2ToByte parser.originator_address_ < 0
  data : Counted (dataBytes parser.data_code_scheme_) parser.user_data_ ∨ parser.user_data_ = []

structure Slipped (center : List Char) (parser : PDUParser) : Prop extends Taken center parser where
  slip : center = [] ∨ Hex2ToByte parser.originator_address_ < 0 ∨ parser.user_data_ = []

def AcceptsFormat (pdu : List Char) : Prop :=
  ((DecodePDU pdu).is_valid_pdu_ = true ↔
    ∃ center parser, WellFormed center parser ∧ pdu = center ++ parser.text) ∧
  ∀ center parser, WellFormed center parser → pdu = center ++ parser.text →
    pdu = center ++ (DecodePDU pdu).text

/-! ## Where the parser goes -/

def span (missing : Nat) (bytes : Nat → Nat) (field : List Char) : Nat :=
  if Hex2ToByte field < 0 then missing else 2 + 2 * bytes (Hex2ToByte field).toNat

theorem HexCharToInt_bounds (c : Char) : -1 ≤ HexCharToInt c ∧ HexCharToInt c < 16 := by
  have value (low high : Char) (between : low ≤ c ∧ c ≤ high) :
      low.toNat ≤ c.toNat ∧ c.toNat ≤ high.toNat := between
  unfold HexCharToInt
  split
  · rename_i between
    have := value '0' '9' between
    simp at this
    omega
  · split
    · rename_i between
      have := value 'A' 'F' between
      simp at this
      omega
    · split
      · rename_i between
        have := value 'a' 'f' between
        simp at this
        omega
      · omega

variable {missing : Nat} {bytes : Nat → Nat} (field : List Char)

theorem Hex2ToByte_bounds : -1 ≤ Hex2ToByte field ∧ Hex2ToByte field < 256 := by
  unfold Hex2ToByte
  split
  · rename_i first second rest
    have high := HexCharToInt_bounds first
    have low := HexCharToInt_bounds second
    dsimp only
    split
    · omega
    · omega
  · omega

theorem Hex2ToByte_append {field : List Char} (long : 2 ≤ field.length) (rest : List Char) :
    Hex2ToByte (field ++ rest) = Hex2ToByte field := by
  match field, long with
  | first :: second :: body, _ => rfl

theorem Hex2ToByte_take : Hex2ToByte (field.take 2) = Hex2ToByte field := by
  match field with
  | [] => rfl
  | [_] => rfl
  | _ :: _ :: _ => rfl

theorem span_center_lt : span 0 id field < 596 := by
  have bounds := Hex2ToByte_bounds field
  unfold span id
  split <;> omega

theorem span_address_le : span 4 addressBytes field ≤ 260 := by
  have bounds := Hex2ToByte_bounds field
  unfold span addressBytes
  split <;> omega

theorem span_counted {missing : Nat} {bytes : Nat → Nat} {field : List Char}
    (counted : Counted bytes field) (rest : List Char) :
    span missing bytes (field ++ rest) = field.length := by
  obtain ⟨number, length⟩ := counted
  unfold span
  rw [Hex2ToByte_append (by omega), if_neg (Int.not_lt.mpr number), length]

theorem counted_take {field : List Char} (number : 0 ≤ Hex2ToByte field)
    (inside : span missing bytes field ≤ field.length) :
    Counted bytes (field.take (span missing bytes field)) := by
  have reach : span missing bytes field = 2 + 2 * bytes (Hex2ToByte field).toNat :=
    if_neg (Int.not_lt.mpr number)
  have same : Hex2ToByte (field.take (span missing bytes field)) = Hex2ToByte field := by
    rw [← Hex2ToByte_take, take_take, Nat.min_eq_left (by omega), Hex2ToByte_take]
  refine ⟨same ▸ number, ?_⟩
  rw [same, length_take, Nat.min_eq_left inside, reach]

theorem span_missing {field : List Char} (none : Hex2ToByte field < 0) :
    span missing bytes field = missing := if_pos none

theorem view_drop (pdu : List Char) (pos : Nat) : view pdu pos = pdu.drop pos := by
  unfold view
  rcases Nat.le_total pos pdu.length with inside | behind
  · rw [Nat.min_eq_left inside]
  · rw [Nat.min_eq_right behind, drop_of_length_le behind, drop_length]

def fields (rest : List Char) : PDUParser :=
  let behindType := rest.drop 4
  let address := span 4 addressBytes behindType
  let behindAddress := behindType.drop address
  { pdu_type_ := rest.take 2
    message_reference_ := (rest.drop 2).take 2
    originator_address_ := behindType.take address
    protocol_id_ := behindAddress.take 2
    data_code_scheme_ := (behindAddress.drop 2).take 2
    user_data_ := behindAddress.drop 4}

section Positions

variable {pdu : List Char} {pos : Nat} {parser : PDUParser}

theorem decodeUserData_span (near : pos < 2000) :
    PDUParser.decodeUserData pdu pos parser =
      {parser with
        user_data_ := pdu.drop pos
        is_valid_pdu_ := decide
          (pos + span 0 (dataBytes parser.data_code_scheme_) (pdu.drop pos) = pdu.length)} := by
  have bounds := Hex2ToByte_bounds (pdu.drop pos)
  unfold PDUParser.decodeUserData span dataBytes
  dsimp only
  rw [view_drop, Hex2ToByte_take]
  generalize Hex2ToByte (pdu.drop pos) = number at bounds
  congr 1
  refine decide_eq_decide.mpr ?_
  by_cases missing : number < 0
  · -- the position stays where it is
    obtain rfl : number = -1 := by omega
    have same : size_t (pos + (-1 * 2 + 2)) = pos := size_t_eq (by omega) (by omega)
    have same' : size_t (pos - (-1 : Int).tdiv 8 * 2) = pos := size_t_eq (by simp) (by omega)
    rw [same, same', ite_self, if_pos missing, Nat.add_zero]
  · obtain ⟨counted, rfl⟩ := Int.eq_ofNat_of_zero_le (Int.not_lt.mp missing)
    have divided : (counted : Int).tdiv 8 = (counted / 8 : Nat) := rfl
    have first : size_t (pos + ((counted : Int) * 2 + 2)) = pos + (counted * 2 + 2) :=
      size_t_eq (by omega) (by omega)
    have second : size_t ((pos + (counted * 2 + 2) : Nat) - (counted / 8 : Nat) * 2) =
        pos + (2 + 2 * ((7 * counted + 7) / 8)) := size_t_eq (by omega) (by omega)
    rw [if_neg missing, divided, Int.toNat_natCast, first, second]
    split
    · rfl
    · rw [Nat.mul_comm, Nat.add_comm 2]

theorem decodeScheme_span (near : pos < 1000) :
    PDUParser.decodeScheme pdu pos parser =
      PDUParser.decodeUserData pdu (pos + 4) {parser with
        protocol_id_ := (pdu.drop pos).take 2
        data_code_scheme_ := ((pdu.drop pos).drop 2).take 2} := by
  have moved : size_t ((pos : Int) + 2) = pos + 2 := size_t_eq (by omega) (by omega)
  have moved' : size_t (((pos + 2 : Nat) : Int) + 2) = pos + 4 := size_t_eq (by omega) (by omega)
  unfold PDUParser.decodeScheme
  dsimp only
  rw [moved, moved', view_drop, view_drop, drop_drop]

theorem decodeAddress_span (near : pos < 600) :
    PDUParser.decodeAddress pdu pos parser =
      PDUParser.decodeScheme pdu (pos + span 4 addressBytes (pdu.drop pos)) {parser with
        originator_address_ := (pdu.drop pos).take (span 4 addressBytes (pdu.drop pos))} := by
  have bounds := Hex2ToByte_bounds (pdu.drop pos)
  have reach : (if Hex2ToByte (pdu.drop pos) % 2 = 1 then Hex2ToByte (pdu.drop pos) + 1
      else Hex2ToByte (pdu.drop pos)) + 4 = (span 4 addressBytes (pdu.drop pos) : Int) := by
    unfold span addressBytes
    generalize Hex2ToByte (pdu.drop pos) = number at bounds
    split <;> split <;> omega
  have small := span_address_le (pdu.drop pos)
  unfold PDUParser.decodeAddress
  dsimp only
  rw [view_drop, Hex2ToByte_take, reach, size_t_eq rfl (by omega),
    @size_t_eq (pos + (span 4 addressBytes (pdu.drop pos) : Int))
      (pos + span 4 addressBytes (pdu.drop pos)) (by omega) (by omega)]

theorem decodeType_span (near : pos < 596) :
    PDUParser.decodeType pdu pos parser =
      PDUParser.decodeAddress pdu (pos + 4) {parser with
        pdu_type_ := (pdu.drop pos).take 2
        message_reference_ := ((pdu.drop pos).drop 2).take 2} := by
  have moved : size_t ((pos : Int) + 2) = pos + 2 := size_t_eq (by omega) (by omega)
  have moved' : size_t (((pos + 2 : Nat) : Int) + 2) = pos + 4 := size_t_eq (by omega) (by omega)
  unfold PDUParser.decodeType
  dsimp only
  rw [moved, moved', view_drop, view_drop, drop_drop]

end Positions

/-! ## What is accepted -/

section Accepted

variable {pdu center : List Char} {parser : PDUParser}

theorem DecodePDU_fields (long : 8 ≤ pdu.length) :
    DecodePDU pdu =
      { fields (pdu.drop (span 0 id pdu)) with
        is_valid_pdu_ := decide (span 0 id pdu + 4 +
          span 4 addressBytes (pdu.drop (span 0 id pdu + 4)) + 4 +
          span 0 (dataBytes (fields (pdu.drop (span 0 id pdu))).data_code_scheme_)
            (fields (pdu.drop (span 0 id pdu))).user_data_ = pdu.length)} := by
  have bounds := Hex2ToByte_bounds pdu
  have near := span_center_lt pdu
  have small := span_address_le (pdu.drop (span 0 id pdu + 4))
  have start : (if pdu.take 2 ≠ ['0', '0'] then size_t (2 + Hex2ToByte (pdu.take 2) * 2) else 2) =
      span 0 id pdu := by
    rw [Hex2ToByte_take]
    split
    · unfold span id size_t
      split <;> omega
    · rename_i none
      have zero : Hex2ToByte pdu = 0 := by
        rw [← Hex2ToByte_take, not_not.mp none]
        rfl
      unfold span
      rw [zero]
      rfl
  unfold DecodePDU
  dsimp only
  rw [if_neg (by omega), start, decodeType_span near,
    decodeAddress_span (by omega), decodeScheme_span (by omega),
    decodeUserData_span (by omega)]
  simp only [fields, drop_drop, Nat.add_assoc]

/-! ### A message in the text -/

section

variable (taken : Taken center parser)
include taken

theorem span_service_center : span 0 id (center ++ parser.text) = center.length := by
  rcases taken.service_center with counted | ⟨rfl, none⟩
  · exact span_counted counted _
  · have type := taken.bytes.type
    refine span_missing ?_
    simp only [PDUParser.text, append_assoc, nil_append]
    rwa [Hex2ToByte_append (by omega)]

theorem span_address (rest : List Char) :
    span 4 addressBytes (parser.originator_address_ ++ rest) =
      parser.originator_address_.length := by
  rcases taken.address with counted | ⟨length, none⟩
  · exact span_counted counted rest
  · rw [span_missing, length]
    rwa [Hex2ToByte_append (by omega)]

theorem span_data :
    span 0 (dataBytes parser.data_code_scheme_) parser.user_data_ = parser.user_data_.length := by
  rcases taken.data with counted | none
  · have whole := @span_counted 0 _ _ counted []
    rwa [append_nil] at whole
  · rw [none]
    rfl

theorem fields_text : fields parser.text = {parser with is_valid_pdu_ := false} := by
  obtain ⟨type, reference, protocol, scheme⟩ := taken.bytes
  have first : parser.text.take 2 = parser.pdu_type_ := by
    simp only [PDUParser.text, append_assoc]
    exact take_left' type
  have behindType : parser.text.drop 2 = parser.message_reference_ ++
      (parser.originator_address_ ++ (parser.protocol_id_ ++ (parser.data_code_scheme_ ++
        parser.user_data_))) := by
    simp only [PDUParser.text, append_assoc]
    exact drop_left' type
  have behindReference : parser.text.drop 4 = parser.originator_address_ ++
      (parser.protocol_id_ ++ (parser.data_code_scheme_ ++ parser.user_data_)) := by
    rw [← drop_drop (i := 2) (j := 2), behindType]
    exact drop_left' reference
  have behindAddress := @drop_left _ parser.originator_address_
    (parser.protocol_id_ ++ (parser.data_code_scheme_ ++ parser.user_data_))
  have behindProtocol := @drop_left' _ parser.protocol_id_
    (parser.data_code_scheme_ ++ parser.user_data_) 2 protocol
  have data : (parser.protocol_id_ ++ (parser.data_code_scheme_ ++ parser.user_data_)).drop 4 =
      parser.user_data_ := by
    rw [← drop_drop (i := 2) (j := 2), behindProtocol]
    exact drop_left' scheme
  unfold fields
  dsimp only
  rw [first, behindType, behindReference, span_address taken, take_left, behindAddress,
    behindProtocol, data, take_left' reference, take_left' protocol,
    take_left' scheme]

theorem DecodePDU_taken (same : pdu = center ++ parser.text) :
    DecodePDU pdu = {parser with is_valid_pdu_ := true} := by
  obtain ⟨type, reference, protocol, scheme⟩ := taken.bytes
  have address : 4 ≤ parser.originator_address_.length := by
    rcases taken.address with ⟨-, length⟩ | ⟨length, -⟩
    · unfold addressBytes at length
      omega
    · omega
  have total : pdu.length = center.length + 4 + parser.originator_address_.length + 4 +
      parser.user_data_.length := by
    rw [same]
    simp only [PDUParser.text, length_append, type, reference, protocol, scheme]
    omega
  have first : span 0 id pdu = center.length := same ▸ span_service_center taken
  have rest : pdu.drop center.length = parser.text := by rw [same, drop_left]
  have behind : pdu.drop (center.length + 4) = parser.originator_address_ ++
      (parser.protocol_id_ ++ (parser.data_code_scheme_ ++ parser.user_data_)) := by
    rw [← drop_drop, rest]
    simp only [PDUParser.text, append_assoc]
    rw [← append_assoc]
    refine drop_left' ?_
    rw [length_append, type, reference]
  rw [DecodePDU_fields (by omega), first, rest, fields_text taken, behind, span_address taken,
    span_data taken, decide_eq_true total.symm]

end

/-! ### The message that is read -/

theorem text_fields (rest : List Char) : (fields rest).text = rest := by
  unfold fields PDUParser.text
  dsimp only
  have last (behind : List Char) :
      behind.take 2 ++ ((behind.drop 2).take 2 ++ behind.drop 4) = behind := by
    rw [← drop_drop (i := 2) (j := 2), take_append_drop, take_append_drop]
  simp only [append_assoc]
  rw [last, take_append_drop, last]

theorem taken_fields {rest : List Char}
    (whole : 4 + span 4 addressBytes (rest.drop 4) + 4 +
      span 0 (dataBytes (fields rest).data_code_scheme_) (fields rest).user_data_ = rest.length)
    (first : Counted id center ∨ center = [] ∧ Hex2ToByte rest < 0) :
    Taken center (fields rest) := by
  have behind : (rest.drop 4).length = rest.length - 4 := length_drop
  have inside : span 4 addressBytes (rest.drop 4) ≤ (rest.drop 4).length := by omega
  have data : (fields rest).user_data_.length =
      span 0 (dataBytes (fields rest).data_code_scheme_) (fields rest).user_data_ := by
    have length : (fields rest).user_data_.length =
        rest.length - 4 - span 4 addressBytes (rest.drop 4) - 4 := by
      simp only [fields, length_drop]
    omega
  refine ⟨?_, ?_, ?_, ?_⟩
  · constructor <;> simp only [fields, length_take, length_drop] <;> omega
  · refine first.imp_right fun without => ⟨without.1, ?_⟩
    exact (Hex2ToByte_take rest).trans_lt without.2
  · -- a length of -1 leaves the length and the type of the address, and no digits
    rcases Int.lt_or_le (Hex2ToByte (rest.drop 4)) 0 with unread | number
    · have short : span 4 addressBytes (rest.drop 4) = 4 := span_missing unread
      refine Or.inr ⟨?_, ?_⟩
      · simp only [fields, short, length_take]
        omega
      · simp only [fields, short]
        rwa [← Hex2ToByte_take, take_take, Nat.min_eq_left (by decide), Hex2ToByte_take]
    · exact Or.inl (counted_take number inside)
  · generalize (fields rest).data_code_scheme_ = scheme at data ⊢
    rcases Int.lt_or_le (Hex2ToByte (fields rest).user_data_) 0 with unread | number
    · rw [span_missing unread] at data
      exact Or.inr (length_eq_zero_iff.mp data)
    · have counted := counted_take number data.ge
      rw [← data, take_length] at counted
      exact Or.inl counted

theorem taken_of_valid (valid : (DecodePDU pdu).is_valid_pdu_ = true) :
    ∃ center, Taken center (DecodePDU pdu) ∧ pdu = center ++ (DecodePDU pdu).text := by
  have long : 8 ≤ pdu.length := by
    by_contra short
    unfold DecodePDU at valid
    rw [if_pos (by omega)] at valid
    cases valid
  have read := DecodePDU_fields long
  rw [read] at valid
  have total := of_decide_eq_true valid
  rw [← drop_drop] at total
  have first : Counted id (pdu.take (span 0 id pdu)) ∨
      pdu.take (span 0 id pdu) = [] ∧ Hex2ToByte (pdu.drop (span 0 id pdu)) < 0 := by
    rcases Int.lt_or_le (Hex2ToByte pdu) 0 with unread | number
    · rw [span_missing unread]
      exact Or.inr ⟨rfl, unread⟩
    · exact Or.inl (counted_take number (by omega))
  have taken := taken_fields (by rw [length_drop]; omega) first
  have text := text_fields (pdu.drop (span 0 id pdu))
  refine ⟨pdu.take (span 0 id pdu), ?_, ?_⟩
  · rw [read]
    exact ⟨⟨taken.bytes.1, taken.bytes.2, taken.bytes.3, taken.bytes.4⟩, taken.2, taken.3, taken.4⟩
  · rw [read]
    exact (take_append_drop _ pdu).symm.trans (congrArg (pdu.take _ ++ ·) text.symm)

/-! ### The format -/

theorem Counted.some {bytes : Nat → Nat} {field : List Char} (counted : Counted bytes field) :
    field ≠ [] ∧ ¬Hex2ToByte field < 0 := by
  obtain ⟨number, length⟩ := counted
  exact ⟨length_pos_iff.mp (by omega), Int.not_lt.mpr number⟩

theorem WellFormed.taken (formed : WellFormed center parser) : Taken center parser :=
  ⟨formed.bytes, Or.inl formed.service_center, Or.inl formed.address, Or.inl formed.data⟩

theorem Taken.wellFormed (taken : Taken center parser)
    (kept : ¬(center = [] ∨ Hex2ToByte parser.originator_address_ < 0 ∨ parser.user_data_ = [])) :
    WellFormed center parser := by
  simp only [not_or] at kept
  obtain ⟨center, address, data⟩ := kept
  exact {
    bytes := taken.bytes
    service_center := taken.service_center.resolve_right fun without => center without.1
    address := taken.address.resolve_right fun without => address without.2
    data := taken.data.resolve_right data}

theorem Slipped.not_wellFormed {other : List Char} {read : PDUParser} (slipped : Slipped center parser)
    (same : pdu = center ++ parser.text) (formed : WellFormed other read) :
    pdu ≠ other ++ read.text := by
  intro same'
  have parsed := (DecodePDU_taken slipped.toTaken same).symm.trans (DecodePDU_taken formed.taken same')
  injection parsed with _ type reference address protocol scheme data
  have text : parser.text = read.text := by
    simp only [PDUParser.text, type, reference, address, protocol, scheme, data]
  rw [same, text] at same'
  have first : center = other := append_cancel_right same'
  rcases slipped.slip with without | without | without
  · exact formed.service_center.some.1 (first ▸ without)
  · exact formed.address.some.2 (address ▸ without)
  · exact formed.data.some.1 (data ▸ without)

/-- The parser accepts the format and nothing else, but for lengths that are left out or no numbers.
-/
theorem accepts_format_iff (pdu : List Char) :
    AcceptsFormat pdu ↔ ¬∃ center parser, Slipped center parser ∧ pdu = center ++ parser.text := by
  constructor
  · rintro ⟨accepted, -⟩ ⟨center, parser, slipped, same⟩
    have valid : (DecodePDU pdu).is_valid_pdu_ = true := by
      rw [DecodePDU_taken slipped.toTaken same]
    obtain ⟨other, read, formed, same'⟩ := accepted.mp valid
    exact slipped.not_wellFormed same formed same'
  · intro kept
    refine ⟨⟨fun valid => ?_, ?_⟩, ?_⟩
    · obtain ⟨center, taken, same⟩ := taken_of_valid valid
      refine ⟨center, DecodePDU pdu, taken.wellFormed fun slip => ?_, same⟩
      exact kept ⟨center, DecodePDU pdu, ⟨taken, slip⟩, same⟩
    · rintro ⟨center, parser, formed, same⟩
      rw [DecodePDU_taken formed.taken same]
    · intro center parser formed same
      rw [DecodePDU_taken formed.taken same]
      exact same

/-- A text whose first byte is no number is accepted as if it had no service center. -/
theorem accepts_without_center : ¬AcceptsFormat
    ['Z', 'Z', '0', '0', '0', '0', '8', '1', '0', '0', '0', '0', '0', '0'] := by
  intro accepted
  obtain ⟨center, parser, formed, same⟩ := accepted.1.mp (by decide)
  match center, formed.service_center with
  | first :: second :: body, ⟨number, _⟩ =>
    injection same with first
    subst first
    exact absurd number (by simp [Hex2ToByte, HexCharToInt])

end Accepted

/-! ## A message for another modem -/

/-- The last digits of the number make room for the port. A short number makes none. -/
def PDUParser.CreateRemotePDU (parser : PDUParser) (host_port : List Char) : Option (List Char) :=
  if host_port.length ≠ 4 ∨ ¬parser.is_valid_pdu_ then some []
  else
    match parser.GetPhoneNumberFromAddress with
    | none => none
    | some number =>
      let pdu := ['0', '0'] ++ parser.pdu_type_ ++ parser.message_reference_
      let new_phone_number := number.take (size_t (number.length - 4)) ++ host_port
      let new_phone_number :=
        if new_phone_number.length % 2 = 1 then new_phone_number ++ ['F'] else new_phone_number
      let pdu := pdu ++ parser.originator_address_.take
        (size_t (parser.originator_address_.length - new_phone_number.length))
      some (pdu ++ BCDToString new_phone_number ++ parser.protocol_id_ ++
        parser.data_code_scheme_ ++ parser.user_data_)

def filled (digits : List Char) : List Char :=
  if digits.length % 2 = 1 then digits ++ ['F'] else digits

section Remote

variable {digits host_port : List Char}

theorem length_filled (digits : List Char) :
    (filled digits).length = digits.length + digits.length % 2 := by
  unfold filled
  split
  · rw [length_append, length_singleton]
    omega
  · omega

variable {address : List Char} (first second : Char)

theorem filled_pair (rest : List Char) :
    filled (first :: second :: rest) = first :: second :: filled rest := by
  have even : (rest.length + 2) % 2 = rest.length % 2 := Nat.add_mod_right ..
  unfold filled
  simp only [length_cons, even]
  split
  · rfl
  · rfl

/-- The digits of a number end in a digit, also where they are swapped in pairs. -/
theorem swapPairs_filled_last (decimal : ∀ char ∈ digits, isDigit char = true) :
    (swapPairs (filled digits)).getLast? ≠ some 'F' := by
  induction digits using List.twoStepInduction with
  | nil => decide
  | singleton digit =>
    have distinct : digit ≠ 'F' := by
      rintro rfl
      exact absurd (decimal 'F' mem_cons_self) (by decide)
    simpa [filled, swapPairs] using distinct
  | cons_cons first second rest ih =>
    have others := ih fun char listed =>
      decimal char (mem_cons_of_mem _ (mem_cons_of_mem _ listed))
    have distinct : first ≠ 'F' := by
      rintro rfl
      exact absurd (decimal 'F' mem_cons_self) (by decide)
    rw [filled_pair, swapPairs]
    cases shown : swapPairs (filled rest) with
    | nil => simpa using distinct
    | cons head tail =>
      rw [shown] at others
      rwa [getLast?_cons_cons, getLast?_cons_cons]

theorem filled_even (digits : List Char) : (filled digits).length % 2 = 0 := by
  rw [length_filled]
  omega

theorem BCDToString_swapped (decimal : ∀ char ∈ digits, isDigit char = true) :
    BCDToString (swapPairs (filled digits)) = digits := by
  obtain ⟨back, length⟩ := swapPairs_even (filled_even digits)
  by_cases none : digits = []
  · rw [none]
    rfl
  have some_digits := length_pos_iff.mpr none
  have some_bytes : swapPairs (filled digits) ≠ [] := by
    rw [← length_pos_iff, length, length_filled]
    omega
  unfold BCDToString
  dsimp only
  rw [if_neg some_bytes, length, filled_even, if_neg (by decide), back]
  unfold filled
  split
  · rw [getLast?_concat, if_pos rfl, dropLast_concat]
  · refine if_neg fun last => ?_
    exact absurd (decimal 'F' (mem_of_getLast? last)) (by decide)

theorem BCDToString_filled (decimal : ∀ char ∈ digits, isDigit char = true) :
    BCDToString (filled digits) = swapPairs (filled digits) := by
  unfold BCDToString
  dsimp only
  split
  · rename_i none
    rw [none]
    rfl
  · rw [filled_even, if_neg (by decide), if_neg (swapPairs_filled_last decimal)]

theorem number_of_address {parser : PDUParser} (accepted : parser.is_valid_pdu_ = true)
    (address : parser.originator_address_.drop 4 = swapPairs (filled digits))
    (decimal : ∀ char ∈ digits, isDigit char = true) (many : 4 ≤ digits.length) :
    parser.GetPhoneNumberFromAddress =
      some (if parser.originator_address_.length = 18 then digits.drop 2 else digits) := by
  have length := congrArg List.length address
  rw [(swapPairs_even (filled_even digits)).2, length_filled, length_drop] at length
  unfold PDUParser.GetPhoneNumberFromAddress
  rw [if_neg (not_not.mpr accepted)]
  by_cases long : parser.originator_address_.length = 18
  · rw [if_pos long, if_pos long, ← drop_drop (i := 2) (j := 4), address]
    match digits, decimal with
    | first :: second :: rest, decimal =>
      rw [filled_pair, swapPairs]
      exact congrArg some (BCDToString_swapped fun char listed =>
        decimal char (mem_cons_of_mem _ (mem_cons_of_mem _ listed)))
  · rw [if_neg long, if_neg (by omega), if_neg long, address, BCDToString_swapped decimal]

theorem Taken.with_address {center : List Char} {parser : PDUParser} (taken : Taken center parser)
    (first : address.take 4 = parser.originator_address_.take 4)
    (length : address.length = parser.originator_address_.length)
    (long : 4 < parser.originator_address_.length) :
    Taken ['0', '0'] {parser with originator_address_ := address} := by
  have same : Hex2ToByte address = Hex2ToByte parser.originator_address_ := by
    rw [← Hex2ToByte_take, ← Hex2ToByte_take parser.originator_address_]
    have shorter := congrArg (List.take 2) first
    rw [take_take, take_take] at shorter
    exact congrArg Hex2ToByte shorter
  refine ⟨⟨taken.bytes.1, taken.bytes.2, taken.bytes.3, taken.bytes.4⟩, Or.inl ?_, Or.inl ?_,
    taken.data⟩
  · exact ⟨by decide, rfl⟩
  · obtain ⟨number, counted⟩ := taken.address.resolve_right fun without => by omega
    exact ⟨same ▸ number, by rw [same, length]; exact counted⟩

def withPort (number host_port : List Char) : List Char :=
  number.take (number.length - 4) ++ host_port

theorem length_withPort (many : 4 ≤ digits.length) (port : host_port.length = 4) :
    (withPort digits host_port).length = digits.length := by
  unfold withPort
  rw [length_append, length_take, port]
  omega

theorem withPort_decimal (decimal : ∀ char ∈ digits, isDigit char = true)
    (port : ∀ char ∈ host_port, isDigit char = true) :
    ∀ char ∈ withPort digits host_port, isDigit char = true := by
  intro char listed
  rcases mem_append.mp listed with kept | new
  · exact decimal char (mem_of_mem_take kept)
  · exact port char new

theorem withPort_pair {rest : List Char} (many : 4 ≤ rest.length) :
    withPort (first :: second :: rest) host_port = first :: second :: withPort rest host_port := by
  have count : (first :: second :: rest).length - 4 = rest.length - 4 + 2 := by
    simp only [length_cons]
    omega
  unfold withPort
  rw [count]
  rfl

theorem withPort_drop (many : 6 ≤ digits.length) :
    (withPort digits host_port).drop 2 = withPort (digits.drop 2) host_port := by
  match digits, many with
  | first :: second :: rest, many =>
    rw [withPort_pair first second (by simpa using many)]
    rfl

theorem address_replaced (held : address.drop 4 = swapPairs (filled digits))
    (many : 6 ≤ digits.length) :
    address.take 6 ++ swapPairs (filled (withPort (digits.drop 2) host_port)) =
      address.take 4 ++ swapPairs (filled (withPort digits host_port)) := by
  match digits, many with
  | first :: second :: rest, many =>
    rw [filled_pair, swapPairs] at held
    have cut : address.take 6 = address.take 4 ++ [second, first] := by
      rw [take_add (i := 4) (j := 2), held]
      rfl
    rw [withPort_pair first second (by simpa using many), filled_pair, swapPairs, cut,
      append_assoc]
    rfl

theorem CreateRemotePDU_eq {parser : PDUParser} (accepted : parser.is_valid_pdu_ = true)
    (short : parser.originator_address_.length < 2 ^ 64)
    (address : parser.originator_address_.drop 4 = swapPairs (filled digits))
    (decimal : ∀ char ∈ digits, isDigit char = true) (many : 4 ≤ digits.length)
    (port : host_port.length = 4) (port_decimal : ∀ char ∈ host_port, isDigit char = true) :
    parser.CreateRemotePDU host_port =
      some (['0', '0'] ++ PDUParser.text {parser with
        originator_address_ := parser.originator_address_.take 4 ++
          swapPairs (filled (withPort digits host_port))}) := by
  have held := congrArg List.length address
  rw [(swapPairs_even (filled_even digits)).2, length_filled, length_drop] at held
  have read := number_of_address accepted address decimal many
  -- an address of 18 characters is read without its country code
  generalize chosen : (if parser.originator_address_.length = 18 then digits.drop 2 else digits) =
    number at read
  have fits : 4 ≤ number.length ∧ number.length ≤ digits.length ∧
      ∀ char ∈ number, isDigit char = true := by
    rw [← chosen]
    split
    · rw [length_drop]
      exact ⟨by omega, by omega, fun char listed => decimal char (mem_of_mem_drop listed)⟩
    · exact ⟨many, le_rfl, decimal⟩
  obtain ⟨enough, fewer, number_decimal⟩ := fits
  have kept : size_t ((number.length : Int) - 4) = number.length - 4 :=
    size_t_eq (by omega) (by omega)
  have replaced :
      parser.originator_address_.take (size_t ((parser.originator_address_.length : Int) -
          (filled (withPort number host_port)).length)) ++
        BCDToString (filled (withPort number host_port)) =
      parser.originator_address_.take 4 ++ swapPairs (filled (withPort digits host_port)) := by
    rw [BCDToString_filled (withPort_decimal number_decimal port_decimal), length_filled,
      length_withPort enough port, ← chosen]
    split
    · -- the country code stays with the length and the type
      rw [length_drop, @size_t_eq _ 6 (by omega) (by omega)]
      exact address_replaced address (by omega)
    · rw [@size_t_eq _ 4 (by omega) (by omega)]
  unfold PDUParser.CreateRemotePDU
  rw [if_neg (by simp [port, accepted]), read]
  dsimp only
  rw [kept]
  change some (['0', '0'] ++ _ ++ _ ++ List.take (size_t (_ - (filled (withPort _ _)).length)) _ ++
    BCDToString (filled (withPort number host_port)) ++ _ ++ _ ++ _) = _
  simp only [PDUParser.text, append_assoc]
  rw [← append_assoc (List.take _ _), replaced]
  simp only [append_assoc]

/-- Another modem reads the number with the port in it, and all else as it was. -/
theorem remote_pdu_read {pdu : List Char} (valid : (DecodePDU pdu).is_valid_pdu_ = true)
    (address : (DecodePDU pdu).originator_address_.drop 4 = swapPairs (filled digits))
    (decimal : ∀ char ∈ digits, isDigit char = true) (many : 4 ≤ digits.length)
    (port : host_port.length = 4) (port_decimal : ∀ char ∈ host_port, isDigit char = true) :
    ∃ remote number, (DecodePDU pdu).CreateRemotePDU host_port = some remote ∧
      DecodePDU remote = { DecodePDU pdu with
        is_valid_pdu_ := true
        originator_address_ := (DecodePDU pdu).originator_address_.take 4 ++
          swapPairs (filled (digits.take (digits.length - 4) ++ host_port))} ∧
      (DecodePDU pdu).GetPhoneNumberFromAddress = some number ∧
      (DecodePDU remote).GetPhoneNumberFromAddress =
        some (number.take (number.length - 4) ++ host_port) := by
  obtain ⟨center, taken, -⟩ := taken_of_valid valid
  have held := congrArg List.length address
  rw [(swapPairs_even (filled_even digits)).2, length_filled, length_drop] at held
  have short : (DecodePDU pdu).originator_address_.length ≤ 260 := by
    rw [← span_address taken []]
    exact span_address_le _
  -- the new address is as long as the old one, so that the same fields are split off
  have changed := length_withPort many port
  have changed_decimal := withPort_decimal decimal port_decimal
  have cut : ((DecodePDU pdu).originator_address_.take 4).length = 4 := by
    rw [length_take]
    omega
  have same : ((DecodePDU pdu).originator_address_.take 4 ++
      swapPairs (filled (withPort digits host_port))).length =
      (DecodePDU pdu).originator_address_.length := by
    rw [length_append, cut, (swapPairs_even (filled_even _)).2, length_filled, changed]
    omega
  have read := DecodePDU_taken (taken.with_address (take_left' cut) same (by omega)) rfl
  have behind : (DecodePDU (['0', '0'] ++ PDUParser.text { DecodePDU pdu with
      originator_address_ := (DecodePDU pdu).originator_address_.take 4 ++
        swapPairs (filled (withPort digits host_port))})).originator_address_.drop 4 =
      swapPairs (filled (withPort digits host_port)) := by
    rw [read]
    exact drop_left' cut
  have number := number_of_address (congrArg _ read) behind changed_decimal (by omega)
  refine ⟨_, _, CreateRemotePDU_eq valid (by omega) address decimal many port port_decimal, read,
    number_of_address valid address decimal many, ?_⟩
  rw [number, read]
  dsimp only
  rw [same]
  split
  · exact congrArg some (withPort_drop (by omega))
  · rfl

/-- A message to six digits, the last of which are a port. -/
theorem remote_pdu_read_six :
    ∃ remote number,
      (DecodePDU "0001000681214365000000".toList).CreateRemotePDU ['6', '5', '2', '1'] =
        some remote ∧
      DecodePDU remote = { DecodePDU "0001000681214365000000".toList with
        is_valid_pdu_ := true
        originator_address_ :=
          (DecodePDU "0001000681214365000000".toList).originator_address_.take 4 ++
            swapPairs (filled (['1', '2', '3', '4', '5', '6'].take
              (['1', '2', '3', '4', '5', '6'].length - 4) ++ ['6', '5', '2', '1']))} ∧
      (DecodePDU "0001000681214365000000".toList).GetPhoneNumberFromAddress = some number ∧
      (DecodePDU remote).GetPhoneNumberFromAddress =
        some (number.take (number.length - 4) ++ ['6', '5', '2', '1']) :=
  remote_pdu_read (by decide) (by decide) (by simp [isDigit]) (by decide) rfl (by simp [isDigit])

end Remote

end Ika.Sms
