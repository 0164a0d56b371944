import Mathlib.Data.FinEnum
import Ika.ConfuiPackets.Packet

/-! Which messages come back as they were sent. -/

set_option autoImplicit false

namespace Ika.ConfuiPackets

open Decimal List

variable (option : UIOption) (cmd : ConfUiCmd) (session promptText extraData locale : List UInt8)
  (options : List UIOption)

theorem ToCmd_ToString :
    ToCmd cmd.ToString = if cmd = .kUserTouchEvent then .kUnknown else cmd := by
  cases cmd <;> decide

theorem colon_notMem_ToString : colon ∉ cmd.ToString := by
  cases cmd <;> decide

def UIOption.Positive (option : UIOption) : Prop := option.toNat < 2 ^ 31
  deriving Decidable

theorem UIOption.toInt_eq :
    option.toInt32.toInt =
      if option.Positive then (option.toNat : Int) else (option.toNat : Int) - 2 ^ 32 := by
  have read : option.toInt32.toInt = option.toBitVec.toInt := rfl
  have cast : option.toBitVec.toNat = option.toNat := rfl
  rw [read, BitVec.toInt_eq_toNat_cond, cast]
  unfold Positive
  split_ifs <;> omega

theorem UIOption.ToString_positive {option : UIOption} (positive : option.Positive) :
    option.ToString = digits option.toNat := by
  unfold UIOption.ToString to_string
  rw [toInt_eq, if_pos positive, if_pos (Int.natCast_nonneg _), Int.toNat_natCast]

theorem UIOption.ToString_negative {option : UIOption} (negative : ¬option.Positive) :
    ∃ number, option.ToString = 45 :: digits number := by
  have bound : option.toNat < 2 ^ 32 := option.toNat_lt
  unfold UIOption.ToString to_string
  rw [toInt_eq, if_neg negative, if_neg (by omega)]
  exact ⟨_, rfl⟩

theorem UIOption.ToString_ne_nil : option.ToString ≠ [] := by
  by_cases positive : option.Positive
  · rw [ToString_positive positive]
    exact digits_ne_nil _
  · obtain ⟨number, text⟩ := ToString_negative positive
    rw [text]
    exact cons_ne_nil _ _

theorem UIOption.comma_notMem : comma ∉ option.ToString := by
  have noDigit : ∀ number, comma ∉ digits number := fun number listed => by
    cases (isDigit_of_mem listed : isDigit comma = true)
  by_cases positive : option.Positive
  · rw [ToString_positive positive]
    exact noDigit _
  · obtain ⟨number, text⟩ := ToString_negative positive
    rw [text]
    exact fun listed => (mem_cons.mp listed).elim (by decide) (noDigit number)

theorem ToUiOption_ToString :
    ToUiOption option.ToString = if option.Positive then .ok option else .error .refused := by
  unfold ToUiOption
  split_ifs with positive
  · rw [UIOption.ToString_positive positive, number_digits positive]
    exact congrArg Except.ok UInt32.ofNat_toNat
  · obtain ⟨count, text⟩ := UIOption.ToString_negative positive
    rw [text]
    -- The sign is no digit.
    have signed : number (45 :: digits count) = .error .refused := if_pos rfl
    rw [signed]

theorem uiOptions_ToString :
    uiOptions (options.map UIOption.ToString) =
      if ∀ option ∈ options, option.Positive then .ok options else .error .refused := by
  induction options with
  | nil => exact (if_pos fun _ listed => nomatch listed).symm
  | cons option options ih =>
    rw [map_cons, uiOptions, ToUiOption_ToString, ih]
    simp only [forall_mem_cons]
    split_ifs <;> first | rfl | grind

theorem UiOptsToString_eq :
    UiOptsToString options = [comma].intercalate (options.map UIOption.ToString) := by
  induction options with
  | nil => rfl
  | cons option options ih =>
    cases options with
    | nil => simp [UiOptsToString]
    | cons next options =>
      have filled : ((next :: options).flatMap fun option => option.ToString ++ [comma]) ≠ [] := by
        simp
      unfold UiOptsToString at ih ⊢
      rw [flatMap_cons, dropLast_append_of_ne_nil filled, ih]
      simp [List.intercalate]

theorem startOptions_sent :
    startOptions [promptText, extraData, locale, UiOptsToString options] =
      if ∀ option ∈ options, option.Positive then .ok options else .error .refused := by
  cases options with
  | nil => exact (if_pos fun _ listed => nomatch listed).symm
  | cons option options =>
    have split : (UiOptsToString (option :: options)).splitOn comma =
        (option :: options).map UIOption.ToString := by
      rw [UiOptsToString_eq]
      refine splitOn_intercalate comma (fun text listed => ?_) (cons_ne_nil _ _)
      obtain ⟨other, -, rfl⟩ := mem_map.mp listed
      exact other.comma_notMem
    have filled : UiOptsToString (option :: options) ≠ [] := by
      intro empty
      rw [empty] at split
      exact option.ToString_ne_nil (List.cons.inj split).1.symm
    unfold startOptions
    dsimp only
    rw [if_neg filled, split, uiOptions_ToString]

def ConfUiMessage.packet (message : ConfUiMessage) : ParsedPacket :=
  { sessionId := message.sessionId, type := message.GetType.ToString,
    additionalInfo := message.items}

/-- Only touches with options that are negative as an `int` are lost. -/
def ConfUiMessage.Readable : ConfUiMessage → Prop
  | .start _ _ _ _ options => ∀ option ∈ options, option.Positive
  | .userTouch .. => False
  | _ => True

instance : (message : ConfUiMessage) → Decidable message.Readable
  | .start _ _ _ _ options => inferInstanceAs (Decidable (∀ option ∈ options, option.Positive))
  | .userTouch .. => isFalse id
  | .stop _ => isTrue trivial
  | .abort _ => isTrue trivial
  | .ack .. => isTrue trivial
  | .cliResponse .. => isTrue trivial
  | .userSelection .. => isTrue trivial

theorem toAck_packet (isSuccess : Bool) (statusMessage : List UInt8) :
    toAck (ConfUiMessage.ack session isSuccess statusMessage).packet =
      .ok (.ack session isSuccess statusMessage) := by
  have told : decide (ascii (if isSuccess then "success" else "fail") = ascii "success") =
      isSuccess := by
    cases isSuccess <;> decide
  have named : (ConfUiMessage.ack session isSuccess statusMessage).packet.type =
      ConfUiCmd.kCliAck.ToString := by
    simp only [ConfUiMessage.packet, ConfUiMessage.GetType]
  have kind : ToCmd ConfUiCmd.kCliAck.ToString = .kCliAck := by
    rw [ToCmd_ToString, if_neg (by decide)]
  unfold toAck
  rw [named, if_neg (fun other => other kind)]
  exact congrArg (fun said => Except.ok (ConfUiMessage.ack session said statusMessage)) told

theorem toStart_packet :
    toStart (ConfUiMessage.start session promptText extraData locale options).packet =
      if ∀ option ∈ options, option.Positive then
        .ok (.start session promptText extraData locale options)
      else .error .refused := by
  have read := startOptions_sent promptText extraData locale options
  unfold toStart
  dsimp only [ConfUiMessage.packet, ConfUiMessage.items, ConfUiMessage.sessionId]
  rw [read]
  split_ifs <;> rfl

theorem ToConfUiMessage_packet (message : ConfUiMessage) :
    ToConfUiMessage message.packet =
      if message.Readable then .ok message else .error .refused := by
  have name : message.packet.type = message.GetType.ToString := rfl
  unfold ToConfUiMessage
  rw [name, ToCmd_ToString]
  cases message with
  | start session promptText extraData locale options =>
    exact toStart_packet session promptText extraData locale options
  | ack session isSuccess statusMessage => exact toAck_packet session isSuccess statusMessage
  | userTouch session x y => rfl
  | stop session => rfl
  | abort session => rfl
  | cliResponse session response sign message => rfl
  | userSelection session response => rfl

theorem RecvConfUiMsg_SendOver {message : ConfUiMessage} (named : colon ∉ message.sessionId)
    (short : message.payload.length < kMaxPayloadLength) (rest : List UInt8) :
    RecvConfUiMsg (message.SendOver ++ rest) =
      (if message.Readable then .ok message else .error .refused, rest) := by
  unfold RecvConfUiMsg ConfUiMessage.SendOver
  rw [ReadPayload_WritePayload named (colon_notMem_ToString _) short]
  exact Prod.ext (ToConfUiMessage_packet message) rfl

theorem receive_sent {messages : List ConfUiMessage}
    (named : ∀ message ∈ messages, colon ∉ message.sessionId)
    (short : ∀ message ∈ messages, message.payload.length < kMaxPayloadLength) (rest : List UInt8) :
    receive messages.length (messages.flatMap ConfUiMessage.SendOver ++ rest) =
      (messages.map fun message => if message.Readable then .ok message else .error .refused,
        rest) := by
  induction messages with
  | nil => rfl
  | cons message messages ih =>
    have first := RecvConfUiMsg_SendOver (named message mem_cons_self)
      (short message mem_cons_self) (messages.flatMap ConfUiMessage.SendOver ++ rest)
    have others := ih (fun other listed => named other (mem_cons_of_mem _ listed))
      (fun other listed => short other (mem_cons_of_mem _ listed))
    rw [flatMap_cons, append_assoc, length_cons, receive, first]
    split_ifs at first ⊢ <;> simp_all

/-- What was sent comes back exactly where it is no touch with an option that is negative as an
`int`. -/
theorem messages_return_iff {messages : List ConfUiMessage}
    (named : ∀ message ∈ messages, colon ∉ message.sessionId)
    (short : ∀ message ∈ messages, message.payload.length < kMaxPayloadLength) (rest : List UInt8) :
    receive messages.length (messages.flatMap ConfUiMessage.SendOver ++ rest) =
        (messages.map Except.ok, rest) ↔
      ∀ message ∈ messages, message.Readable := by
  rw [receive_sent named short, Prod.mk.injEq, map_inj_left]
  constructor
  · intro same message listed
    by_contra lost
    have here := same.1 message listed
    rw [if_neg lost] at here
    cases here
  · exact fun all => ⟨fun message listed => if_pos (all message listed), rfl⟩

/-- A text of separators and digits beside an empty item, with a stop behind it. -/
theorem messages_return_adversarial :
    receive 2 (([.cliResponse (ascii "s") (ascii "1:2:3") [] [0, 58, 49],
        .stop (ascii "other")] : List ConfUiMessage).flatMap ConfUiMessage.SendOver ++ [7]) =
      (([.cliResponse (ascii "s") (ascii "1:2:3") [] [0, 58, 49], .stop (ascii "other")] :
        List ConfUiMessage).map Except.ok, [7]) :=
  (@messages_return_iff [.cliResponse (ascii "s") (ascii "1:2:3") [] [0, 58, 49],
    .stop (ascii "other")] (by decide) (by decide +kernel) [7]).mpr (by decide)

/-- A touch is sent under a name that no receiver knows. -/
theorem touch_lost :
    ∃ message : ConfUiMessage, colon ∉ message.sessionId ∧
      message.payload.length < kMaxPayloadLength ∧
        (RecvConfUiMsg message.SendOver).1 ≠ .ok message := by
  refine ⟨.userTouch (ascii "s") 3 4, by decide, by decide +kernel, ?_⟩
  have read := @RecvConfUiMsg_SendOver (.userTouch (ascii "s") 3 4) (by decide)
    (by decide +kernel) []
  have touch : ¬(ConfUiMessage.userTouch (ascii "s") 3 4).Readable := id
  rw [append_nil, if_neg touch] at read
  rw [read]
  nofun

end Ika.ConfuiPackets
