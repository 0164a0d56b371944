import Ika.Sms.Format
import Ika.Foundation.Decimal

/-! What the modem does with the line that follows its prompt for a message, whatever is in it. -/

set_option autoImplicit false

namespace Ika.Sms

open List

/-- The number in the front of a text. It throws where there is none. -/
def stoi (text : List Char) : Option Int :=
  Decimal.stoi (text.map fun char => UInt8.ofNat char.toNat)

def to_string (number : Int) : List Char := (toString number).toList

def kCmsErrorInvalidPDUModeParam : List Char := "+CMS ERROR: 304".toList
def kCmsErrorSCAddressUnknown : List Char := "+CMS ERROR: 304".toList
def kRemotePortRange : Int × Int := (6520, 6527)

def PDUParser.IsNeededStatuReport (parser : PDUParser) : Bool :=
  parser.is_valid_pdu_ && Hex2ToByte parser.pdu_type_ / 32 % 2 = 1

inductive Callback where
  | HandleReceiveSMS (sms_pdu : PDUParser)
  | HandleSMSStatuReport (sms_pdu : PDUParser) (message_reference : Int)

inductive Effect where
  | SendCommandResponse (responses : List (List Char))
  | Post (callback : Callback)
  | Write (remote_port token command : List Char)

/-- The device, the number in its SIM card, and which modems take a connection. -/
structure Surroundings where
  host_id : Int
  sim_number : Option (List Char)
  IsOpen : List Char → Bool

structure SmsService where
  is_waiting_sms_pdu_ : Bool := false
  message_reference_ : Int := 1

variable (around : Surroundings) (service : SmsService) (command : List Char)

def SendSmsToRemote (remote_port : List Char) (sms_pdu : PDUParser) : Option (List Effect) :=
  if ¬around.IsOpen remote_port then some []
  else
    match sms_pdu.CreateRemotePDU (to_string around.host_id) with
    | none => none
    | some pdu =>
      some [.Write remote_port "REM0".toList ("AT+REMOTESMS=".toList ++ pdu ++ ['\r'])]

/-- Where the message goes. A number of eleven or four characters is taken to end in a port. -/
def forward (phone_number : List Char) (port : Int) (sms_pdu : PDUParser) : Option (List Effect) :=
  if kRemotePortRange.1 ≤ port ∧ port ≤ kRemotePortRange.2 then
    let remote_host_port := to_string port
    if to_string around.host_id = remote_host_port then
      some [.Post (.HandleReceiveSMS sms_pdu)]
    else SendSmsToRemote around remote_host_port sms_pdu
  else if around.sim_number = some phone_number then some [.Post (.HandleReceiveSMS sms_pdu)]
  else some []

/-- No outcome is an exception. -/
def HandleSendSMSPDU : Option (SmsService × List Effect) :=
  let service := {service with is_waiting_sms_pdu_ := false}
  let sms_pdu := DecodePDU command
  if ¬sms_pdu.is_valid_pdu_ then
    some (service, [.SendCommandResponse [kCmsErrorInvalidPDUModeParam]])
  else
    match sms_pdu.GetPhoneNumberFromAddress with
    | none => none
    | some phone_number =>
      let port :=
        if phone_number.length = 11 then stoi (phone_number.drop 7)
        else if phone_number.length = 4 then stoi phone_number
        else some 0
      match port with
      | none => none
      | some port =>
        if phone_number = [] then
          some (service, [.SendCommandResponse [kCmsErrorSCAddressUnknown]])
        else
          match forward around phone_number port sms_pdu with
          | none => none
          | some sent =>
            let message_reference_ := service.message_reference_ + 1
            let report :=
              if sms_pdu.IsNeededStatuReport then
                [.Post (.HandleSMSStatuReport sms_pdu message_reference_)]
              else []
            some ({service with message_reference_}, sent ++
              .SendCommandResponse ["+CMGS: ".toList ++ to_string message_reference_, "OK".toList] ::
                report)

def Effect.answers : Effect → Bool
  | .SendCommandResponse _ => true
  | _ => false

def Effect.remote : Effect → Bool
  | .Write .. => true
  | _ => false

def Answered (outcome : Option (SmsService × List Effect)) : Prop :=
  ∃ after effects, outcome = some (after, effects) ∧
    (effects.any Effect.remote = false → effects.countP Effect.answers = 1)

/-- A number as long as one that ends in a port, but without one. -/
def Portless : Prop :=
  ∃ phone_number, (DecodePDU command).is_valid_pdu_ = true ∧
    (DecodePDU command).GetPhoneNumberFromAddress = some phone_number ∧
    (phone_number.length = 11 ∨ phone_number.length = 4) ∧
    ¬Decimal.BeginsNumber
      ((phone_number.drop (phone_number.length - 4)).map fun char => UInt8.ofNat char.toNat)

section Outcomes

variable {around service command} {phone_number remote_port : List Char} {port : Int}
  {sms_pdu : PDUParser}

theorem stoi_isSome {text : List Char} (short : text.length ≤ 9) :
    (stoi text).isSome = true ↔
      Decimal.BeginsNumber (text.map fun char => UInt8.ofNat char.toNat) :=
  Decimal.stoi_isSome_iff ((length_map _).trans_le short)

theorem port_isSome :
    (if phone_number.length = 11 then stoi (phone_number.drop 7)
      else if phone_number.length = 4 then stoi phone_number else some 0).isSome = true ↔
      ((phone_number.length = 11 ∨ phone_number.length = 4) →
        Decimal.BeginsNumber
          ((phone_number.drop (phone_number.length - 4)).map fun char =>
            UInt8.ofNat char.toNat)) := by
  by_cases long : phone_number.length = 11
  · have last : (phone_number.drop 7).length = 4 := by rw [length_drop, long]
    rw [if_pos long, stoi_isSome (by omega), long]
    simp
  · by_cases short : phone_number.length = 4
    · rw [if_neg long, if_pos short, stoi_isSome (by omega), short]
      simp
    · rw [if_neg long, if_neg short]
      simp [long, short]

theorem number_read (accepted : (DecodePDU command).is_valid_pdu_ = true) :
    ∃ number, (DecodePDU command).GetPhoneNumberFromAddress = some number := by
  obtain ⟨center, taken, -⟩ := taken_of_valid accepted
  have long : ¬(DecodePDU command).originator_address_.length < 4 := by
    rcases taken.address with ⟨-, length⟩ | ⟨length, -⟩
    · unfold addressBytes at length
      omega
    · omega
  unfold PDUParser.GetPhoneNumberFromAddress
  rw [if_neg (not_not.mpr accepted), if_neg long]
  split
  · exact ⟨_, rfl⟩
  · exact ⟨_, rfl⟩

theorem CreateRemotePDU_isSome (read : sms_pdu.GetPhoneNumberFromAddress = some phone_number)
    (host_port : List Char) : ∃ pdu, sms_pdu.CreateRemotePDU host_port = some pdu := by
  unfold PDUParser.CreateRemotePDU
  rw [read]
  split
  · exact ⟨_, rfl⟩
  · exact ⟨_, rfl⟩

theorem forward_eq (read : sms_pdu.GetPhoneNumberFromAddress = some phone_number) :
    ∃ sent, forward around phone_number port sms_pdu = some sent ∧
      sent.countP Effect.answers = 0 ∧
      ∀ other, Effect.Post (.HandleReceiveSMS other) ∈ sent → other = sms_pdu := by
  have one : [Effect.Post (.HandleReceiveSMS sms_pdu)].countP Effect.answers = 0 ∧
      ∀ other, Effect.Post (.HandleReceiveSMS other) ∈
        [Effect.Post (.HandleReceiveSMS sms_pdu)] → other = sms_pdu := ⟨rfl, by simp⟩
  unfold forward
  dsimp only
  split
  · split
    · exact ⟨_, rfl, one⟩
    · obtain ⟨pdu, created⟩ := CreateRemotePDU_isSome read (to_string around.host_id)
      unfold SendSmsToRemote
      split
      · exact ⟨_, rfl, rfl, nofun⟩
      · rw [created]
        exact ⟨_, rfl, rfl, by simp⟩
  · split
    · exact ⟨_, rfl, one⟩
    · exact ⟨_, rfl, rfl, nofun⟩

end Outcomes

section Handled

variable {around service command} {after : SmsService} {effects : List Effect}

theorem handled_effects (handled : HandleSendSMSPDU around service command = some (after, effects)) :
    effects.countP Effect.answers = 1 ∧
      ∀ sms_pdu, Effect.Post (.HandleReceiveSMS sms_pdu) ∈ effects →
        sms_pdu = DecodePDU command ∧ sms_pdu.is_valid_pdu_ = true := by
  unfold HandleSendSMSPDU at handled
  dsimp only at handled
  split at handled
  · cases handled
    exact ⟨rfl, by simp⟩
  rename_i accepted
  split at handled
  · cases handled
  rename_i phone_number read
  split at handled
  · cases handled
  rename_i port _
  split at handled
  · cases handled
    exact ⟨rfl, by simp⟩
  -- whatever is done with the message, the answer is given behind it
  obtain ⟨sent, forwarded, silent, same⟩ := @forward_eq around _ port _ read
  rw [forwarded] at handled
  cases handled
  constructor
  · rw [countP_append, silent, countP_cons_of_pos rfl]
    split
    · rfl
    · rfl
  · intro sms_pdu posted
    rcases mem_append.mp posted with before | behind
    · rw [same sms_pdu before]
      exact ⟨rfl, not_not.mp accepted⟩
    · split at behind
      · simp at behind
      · simp at behind

end Handled

theorem handled_iff :
    (HandleSendSMSPDU around service command).isSome = true ↔ ¬Portless command := by
  by_cases accepted : (DecodePDU command).is_valid_pdu_ = true
  · obtain ⟨phone_number, read⟩ := number_read accepted
    have portless : Portless command ↔
        ¬(if phone_number.length = 11 then stoi (phone_number.drop 7)
          else if phone_number.length = 4 then stoi phone_number else some 0).isSome = true := by
      rw [port_isSome, Classical.not_imp]
      constructor
      · rintro ⟨number, -, same, portless⟩
        cases read.symm.trans same
        exact portless
      · exact fun portless => ⟨phone_number, accepted, read, portless⟩
    rw [portless, not_not]
    unfold HandleSendSMSPDU
    dsimp only
    rw [if_neg (not_not.mpr accepted), read]
    dsimp only
    -- only the port may be missing: all that comes behind it is done
    generalize (if phone_number.length = 11 then stoi (phone_number.drop 7)
      else if phone_number.length = 4 then stoi phone_number else some 0) = port
    cases port with
    | none => rfl
    | some port =>
      obtain ⟨sent, forwarded, -⟩ := @forward_eq around _ port _ read
      dsimp only
      rw [forwarded]
      split
      · rfl
      · rfl
  · have fine : ¬Portless command := fun ⟨_, valid, _⟩ => accepted valid
    unfold HandleSendSMSPDU
    rw [if_pos accepted]
    simp [fine]

/-- A message brings the modem down exactly where its number is as long as one with a port and has
none; otherwise it is answered once. -/
theorem send_answered_iff :
    Answered (HandleSendSMSPDU around service command) ↔ ¬Portless command := by
  rw [← handled_iff around service command]
  constructor
  · rintro ⟨after, effects, same, -⟩
    rw [same]
    rfl
  · intro handled
    obtain ⟨⟨after, effects⟩, same⟩ := Option.isSome_iff_exists.mp handled
    exact ⟨after, effects, same, fun _ => (handled_effects same).1⟩

/-- A message to a number of four letters. -/
theorem send_letters :
    ¬Answered (HandleSendSMSPDU ⟨6520, none, fun _ => false⟩ {}
      "0001000491BADC000000".toList) := by
  rintro ⟨after, effects, same, -⟩
  have thrown : HandleSendSMSPDU ⟨6520, none, fun _ => false⟩ {}
      "0001000491BADC000000".toList = none := rfl
  rw [thrown] at same
  cases same

end Ika.Sms
