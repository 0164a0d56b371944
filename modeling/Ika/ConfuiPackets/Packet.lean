import Mathlib.Algebra.Order.BigOperators.Group.List
import Ika.Foundation.ByteStream
import Ika.Foundation.Decimal
import Ika.Foundation.Splitting

/-! Confirmation UI packets: a textual header with the lengths of the items, and the items behind it.

A reader that runs into a failed check, a thrown exception or an access beyond a vector `died`.
-/

set_option autoImplicit false

namespace Ika.ConfuiPackets

open ByteStream Decimal List

inductive Failure where
  | refused
  | died
  deriving Repr, DecidableEq

structure ParsedPacket where
  sessionId : List UInt8
  type : List UInt8
  additionalInfo : List (List UInt8)

def kMaxPayloadLength : Nat := 10000

def colon : UInt8 := 58

def MakeSizeHeader (args : List (List UInt8)) : List Nat := args.map List.length

def sizes (lengths : List Nat) : List UInt8 := lengths.flatMap fun length => digits length ++ [colon]

def header (cmd session : List UInt8) (args : List (List UInt8)) : List UInt8 :=
  session ++ [colon] ++ cmd ++ [colon] ++ digits args.length ++ [colon] ++ sizes (MakeSizeHeader args)

def ToPayload (cmd session : List UInt8) (args : List (List UInt8)) : List UInt8 :=
  header cmd session args ++ args.flatten

def WritePayload (cmd session : List UInt8) (args : List (List UInt8)) : List UInt8 :=
  bytes 4 (ToPayload cmd session args).length ++ ToPayload cmd session args

/-! ## Reading

What is read is taken from the front of the stream, also where the packet is refused.
-/

def ReadRawData (stream : List UInt8) : Except Failure (List UInt8) × List UInt8 :=
  if stream.length < 4 then (.error .refused, [])
  else
    let length := ByteStream.value (stream.take 4)
    let rest := stream.drop 4
    if length = 0 then (.ok [], rest)
    else if kMaxPayloadLength ≤ length then (.error .refused, rest)
    else if rest.length < length then (.error .refused, [])
    else (.ok (rest.take length), rest.drop length)

def IsOnlyDigits (text : List UInt8) : Bool := text.all isDigit

/-- A number in a token that has only digits, so that `stoi` gives no negative number. -/
def number (token : List UInt8) : Except Failure Nat :=
  if IsOnlyDigits token = false then .error .refused
  else
    match stoi token with
    | none => .error .died
    | some read => .ok read.toNat

/-- The lengths of `count` items. There may be one token less than there are lengths. -/
def readLengths : Nat → List (List UInt8) → Except Failure (List Nat)
  | 0, _ => .ok []
  | _ + 1, [] => .error .died
  | count + 1, token :: tokens =>
    match number token with
    | .error failure => .error failure
    | .ok length =>
      match readLengths count tokens with
      | .error failure => .error failure
      | .ok lengths => .ok (length :: lengths)

def slices : List Nat → List UInt8 → List (List UInt8)
  | [], _ => []
  | length :: lengths, data => data.take length :: slices lengths (data.drop length)

/-- Where the items start: behind a `':'` after each token of the header. -/
def position (tokens : List (List UInt8)) (count : Nat) : Nat :=
  ((tokens.take (3 + count)).map fun token => token.length + 1).sum

def ParseRawData (data : List UInt8) : Except Failure ParsedPacket :=
  match data.splitOn colon with
  | session :: type :: count :: tokens =>
    match number count with
    | .error failure => .error failure
    | .ok count =>
      if (data.splitOn colon).length < count + 2 then .error .refused
      else
        match readLengths count tokens with
        | .error failure => .error failure
        | .ok lengths =>
          let pos := position (data.splitOn colon) count
          -- The sum is an `int`, which must not overflow.
          if 2 ^ 31 ≤ pos + lengths.sum then .error .died
          else if pos + lengths.sum ≠ data.length then .error .refused
          else .ok {sessionId := session, type, additionalInfo := slices lengths (data.drop pos)}
  | _ => .error .died

def ReadPayload (stream : List UInt8) : Except Failure ParsedPacket × List UInt8 :=
  match ReadRawData stream with
  | (.error failure, rest) => (.error failure, rest)
  | (.ok data, rest) => (ParseRawData data, rest)

theorem IsOnlyDigits_digits (number : Nat) : IsOnlyDigits (digits number) = true :=
  all_eq_true.mpr fun _ => isDigit_of_mem

theorem number_digits {count : Nat} (small : count < 2 ^ 31) :
    number (digits count) = .ok count := by
  unfold number
  rw [if_neg (by rw [IsOnlyDigits_digits]; nofun), stoi_digits small]
  rfl

theorem colon_notMem_digits (number : Nat) : colon ∉ digits number := by
  intro listed
  cases (isDigit_of_mem listed : isDigit colon = true)

variable {cmd session : List UInt8} (args : List (List UInt8)) (lengths : List Nat)

theorem length_sizes :
    (sizes lengths).length = (lengths.map fun length => (digits length).length + 1).sum := by
  unfold sizes
  rw [length_flatMap]
  exact congrArg List.sum (map_congr_left fun length _ => length_append)

theorem splitOn_sizes (data : List UInt8) :
    (sizes lengths ++ data).splitOn colon = lengths.map digits ++ data.splitOn colon := by
  have fields : sizes lengths = Splitting.closed colon (lengths.map digits) := by
    simp [sizes, Splitting.closed, flatMap_map]
  rw [fields, Splitting.splitOn_closed]
  intro field listed
  obtain ⟨length, _, rfl⟩ := mem_map.mp listed
  exact colon_notMem_digits length

theorem readLengths_digits (small : ∀ length ∈ lengths, length < 2 ^ 31)
    (tokens : List (List UInt8)) :
    readLengths lengths.length (lengths.map digits ++ tokens) = .ok lengths := by
  induction lengths with
  | nil => rfl
  | cons length lengths ih =>
    have first := number_digits (small length mem_cons_self)
    have others := ih fun other listed => small other (mem_cons_of_mem _ listed)
    simp only [length_cons, map_cons, cons_append, readLengths, first, others]

theorem slices_flatten : slices (MakeSizeHeader args) args.flatten = args := by
  induction args with
  | nil => rfl
  | cons arg args ih =>
    change (arg ++ args.flatten).take arg.length ::
      slices (MakeSizeHeader args) ((arg ++ args.flatten).drop arg.length) = arg :: args
    rw [take_left, drop_left, ih]

theorem splitOn_ToPayload (named : colon ∉ session) (kind : colon ∉ cmd) :
    (ToPayload cmd session args).splitOn colon =
      session :: cmd :: digits args.length ::
        ((MakeSizeHeader args).map digits ++ args.flatten.splitOn colon) := by
  have laid : ToPayload cmd session args =
      session ++ colon :: (cmd ++ colon :: (digits args.length ++ colon ::
        (sizes (MakeSizeHeader args) ++ args.flatten))) := by
    simp [ToPayload, header]
  rw [laid, splitOn_append_cons_self_of_not_mem named,
    splitOn_append_cons_self_of_not_mem kind,
    splitOn_append_cons_self_of_not_mem (colon_notMem_digits _), splitOn_sizes]

theorem sum_MakeSizeHeader : (MakeSizeHeader args).sum = args.flatten.length := by
  rw [length_flatten]
  rfl

theorem length_header (cmd session : List UInt8) (args tokens : List (List UInt8)) :
    position (session :: cmd :: digits args.length ::
      ((MakeSizeHeader args).map digits ++ tokens)) args.length =
      (header cmd session args).length := by
  have all : ((MakeSizeHeader args).map digits ++ tokens).take args.length =
      (MakeSizeHeader args).map digits :=
    take_left' (by rw [length_map, MakeSizeHeader, length_map])
  unfold position header
  rw [Nat.add_comm 3]
  simp only [take_succ_cons, all, map_cons, sum_cons, map_map,
    length_append, length_sizes, length_singleton]
  have same : (MakeSizeHeader args).map ((fun token => token.length + 1) ∘ digits) =
      (MakeSizeHeader args).map fun length => (digits length).length + 1 := rfl
  rw [same]
  omega

theorem length_ToPayload (cmd session : List UInt8) (args : List (List UInt8)) :
    (ToPayload cmd session args).length =
      (header cmd session args).length + args.flatten.length := length_append

theorem ParseRawData_ToPayload {args : List (List UInt8)} (named : colon ∉ session)
    (kind : colon ∉ cmd) (short : (ToPayload cmd session args).length < kMaxPayloadLength) :
    ParseRawData (ToPayload cmd session args) =
      .ok {sessionId := session, type := cmd, additionalInfo := args} := by
  have bound : kMaxPayloadLength = 10000 := rfl
  have total := length_ToPayload cmd session args
  have sum := sum_MakeSizeHeader args
  have counted : (MakeSizeHeader args).length = args.length := length_map _
  have listed := length_sizes (MakeSizeHeader args)
  -- Every item has a field in the header, so there are few items, and all of them are short.
  have few : args.length ≤ (sizes (MakeSizeHeader args)).length := by
    rw [listed, ← counted]
    have each := length_le_sum_of_one_le
      ((MakeSizeHeader args).map fun length => (digits length).length + 1) fun _ listed => by
        obtain ⟨length, -, rfl⟩ := mem_map.mp listed
        exact Nat.le_add_left 1 _
    rwa [length_map] at each
  have within : (sizes (MakeSizeHeader args)).length ≤ (header cmd session args).length := by
    unfold header
    rw [length_append]
    exact Nat.le_add_left _ _
  have lengths : ∀ length ∈ MakeSizeHeader args, length < 2 ^ 31 := fun length listed => by
    have part : length ≤ (MakeSizeHeader args).sum := single_le_sum (fun _ _ => Nat.zero_le _) _ listed
    omega
  have read := readLengths_digits (MakeSizeHeader args) lengths (args.flatten.splitOn colon)
  rw [counted] at read
  unfold ParseRawData
  simp only [splitOn_ToPayload args named kind, number_digits (show args.length < 2 ^ 31 by omega),
    read, length_header, sum]
  rw [if_neg (by simp only [length_cons, length_append, length_map]; omega),
    if_neg (by omega), if_neg (by omega)]
  unfold ToPayload
  rw [drop_left, slices_flatten]

theorem ReadRawData_written {payload rest : List UInt8} (filled : payload ≠ [])
    (short : payload.length < kMaxPayloadLength) :
    ReadRawData (bytes 4 payload.length ++ payload ++ rest) = (.ok payload, rest) := by
  have bound : kMaxPayloadLength = 10000 := rfl
  have front : (bytes 4 payload.length ++ (payload ++ rest)).take 4 = bytes 4 payload.length :=
    take_left' (length_bytes 4 _)
  have behind : (bytes 4 payload.length ++ (payload ++ rest)).drop 4 = payload ++ rest :=
    drop_left' (length_bytes 4 _)
  have told : ByteStream.value (bytes 4 payload.length) = payload.length := by
    rw [value_bytes]
    exact Nat.mod_eq_of_lt (by omega)
  have some : 0 < payload.length := length_pos_of_ne_nil filled
  unfold ReadRawData
  rw [append_assoc]
  simp only [front, behind, told, take_left, drop_left]
  rw [if_neg (by rw [length_append, length_bytes]; omega), if_neg (by omega),
    if_neg (by omega), if_neg (by rw [length_append]; omega)]

theorem ReadPayload_WritePayload {args : List (List UInt8)} (named : colon ∉ session)
    (kind : colon ∉ cmd) (short : (ToPayload cmd session args).length < kMaxPayloadLength)
    (rest : List UInt8) :
    ReadPayload (WritePayload cmd session args ++ rest) =
      (.ok {sessionId := session, type := cmd, additionalInfo := args}, rest) := by
  have filled : ToPayload cmd session args ≠ [] := by
    intro empty
    have length := length_ToPayload cmd session args
    rw [empty, header] at length
    simp only [length_append, length_nil, length_singleton] at length
    omega
  unfold ReadPayload WritePayload
  rw [ReadRawData_written filled short]
  dsimp only
  rw [ParseRawData_ToPayload named kind short]

/-! Confirmation UI messages: what each class sends, and how a packet becomes a message again.

The names of the commands stand in two tables, one for sending and one for receiving.
-/

inductive ConfUiCmd where
  | kUnknown
  | kStart
  | kStop
  | kCliAck
  | kCliRespond
  | kAbort
  | kUserInputEvent
  | kUserTouchEvent
  deriving Repr, DecidableEq

/-- The table of `ToDebugString`; the first entry of a key stays. -/
def lookUpTab : List (ConfUiCmd × String) :=
  [(.kUnknown, "kUnknown"), (.kStart, "kStart"), (.kStop, "kStop"), (.kCliAck, "kCliAck"),
    (.kCliRespond, "kCliRespond"), (.kAbort, "kAbort"), (.kUserInputEvent, "kUserInputEvent"),
    (.kUserInputEvent, "kUserTouchEvent")]

def ConfUiCmd.ToString (cmd : ConfUiCmd) : List UInt8 :=
  ascii ((lookUpTab.lookup cmd).getD "kUnknown")

def cmds : List (String × ConfUiCmd) :=
  [("kStart", .kStart), ("kStop", .kStop), ("kCliAck", .kCliAck), ("kCliRespond", .kCliRespond),
    ("kAbort", .kAbort), ("kUserInputEvent", .kUserInputEvent),
    ("kUserTouchEvent", .kUserTouchEvent)]

def ToCmd (name : List UInt8) : ConfUiCmd :=
  match cmds.find? fun entry => ascii entry.1 = name with
  | none => .kUnknown
  | some entry => entry.2

/-- `UIOption` has `uint32_t` below it; its enumerators are 0 and 1. -/
abbrev UIOption := UInt32

def UIOption.ToString (option : UIOption) : List UInt8 := to_string option.toInt32.toInt

def ToUiOption (src : List UInt8) : Except Failure UIOption :=
  match number src with
  | .error failure => .error failure
  | .ok read => .ok (UInt32.ofNat read)

def comma : UInt8 := 44

def UiOptsToString (options : List UIOption) : List UInt8 :=
  (options.flatMap fun option => option.ToString ++ [comma]).dropLast

inductive ConfUiMessage where
  | start (sessionId promptText extraData locale : List UInt8) (uiOpts : List UIOption)
  | stop (sessionId : List UInt8)
  | abort (sessionId : List UInt8)
  | ack (sessionId : List UInt8) (isSuccess : Bool) (statusMessage : List UInt8)
  | cliResponse (sessionId response sign message : List UInt8)
  | userSelection (sessionId response : List UInt8)
  | userTouch (sessionId : List UInt8) (x y : Int32)
  deriving DecidableEq

namespace ConfUiMessage

def sessionId : ConfUiMessage → List UInt8
  | start session _ _ _ _ => session
  | stop session => session
  | abort session => session
  | ack session _ _ => session
  | cliResponse session _ _ _ => session
  | userSelection session _ => session
  | userTouch session _ _ => session

def GetType : ConfUiMessage → ConfUiCmd
  | start .. => .kStart
  | stop .. => .kStop
  | abort .. => .kAbort
  | ack .. => .kCliAck
  | cliResponse .. => .kCliRespond
  | userSelection .. => .kUserInputEvent
  | userTouch .. => .kUserTouchEvent

/-- What `SendOver` passes on beside the command and the session. -/
def items : ConfUiMessage → List (List UInt8)
  | start _ promptText extraData locale uiOpts =>
    [promptText, extraData, locale, UiOptsToString uiOpts]
  | stop _ => []
  | abort _ => []
  | ack _ isSuccess statusMessage =>
    [ascii (if isSuccess then "success" else "fail"), statusMessage]
  | cliResponse _ response sign message => [response, sign, message]
  | userSelection _ response => [response]
  | userTouch _ x y => [to_string x.toInt, to_string y.toInt]

def payload (message : ConfUiMessage) : List UInt8 :=
  ToPayload message.GetType.ToString message.sessionId message.items

def SendOver (message : ConfUiMessage) : List UInt8 :=
  WritePayload message.GetType.ToString message.sessionId message.items

end ConfUiMessage

def toAck (packet : ParsedPacket) : Except Failure ConfUiMessage :=
  if ToCmd packet.type ≠ .kCliAck then .error .refused
  else
    match packet.additionalInfo with
    | [success, statusMessage] =>
      .ok (.ack packet.sessionId (success = ascii "success") statusMessage)
    | _ => .error .refused

def uiOptions : List (List UInt8) → Except Failure (List UIOption)
  | [] => .ok []
  | token :: tokens =>
    match ToUiOption token with
    | .error failure => .error failure
    | .ok option =>
      match uiOptions tokens with
      | .error failure => .error failure
      | .ok options => .ok (option :: options)

/-- The options are read where there are exactly four items, and the last one is not empty. -/
def startOptions : List (List UInt8) → Except Failure (List UIOption)
  | [_, _, _, text] => if text = [] then .ok [] else uiOptions (text.splitOn comma)
  | _ => .ok []

def toStart (packet : ParsedPacket) : Except Failure ConfUiMessage :=
  match packet.additionalInfo with
  | promptText :: extraData :: locale :: _ =>
    match startOptions packet.additionalInfo with
    | .error failure => .error failure
    | .ok options => .ok (.start packet.sessionId promptText extraData locale options)
  | _ => .error .refused

def toUserSelection (packet : ParsedPacket) : Except Failure ConfUiMessage :=
  match packet.additionalInfo with
  | response :: _ => .ok (.userSelection packet.sessionId response)
  | _ => .error .refused

def toUserTouch (packet : ParsedPacket) : Except Failure ConfUiMessage :=
  match packet.additionalInfo with
  | x :: y :: _ =>
    match stoi x, stoi y with
    | some x, some y => .ok (.userTouch packet.sessionId (Int32.ofInt x) (Int32.ofInt y))
    | _, _ => .error .died
  | _ => .error .refused

def toCliResponse (packet : ParsedPacket) : Except Failure ConfUiMessage :=
  match packet.additionalInfo with
  | response :: sign :: message :: _ => .ok (.cliResponse packet.sessionId response sign message)
  | _ => .error .refused

def ToConfUiMessage (packet : ParsedPacket) : Except Failure ConfUiMessage :=
  match ToCmd packet.type with
  | .kStart => toStart packet
  | .kCliAck => toAck packet
  | .kCliRespond => toCliResponse packet
  | .kUserInputEvent => toUserSelection packet
  | .kUserTouchEvent => toUserTouch packet
  | .kAbort => .ok (.abort packet.sessionId)
  | .kStop => .ok (.stop packet.sessionId)
  | .kUnknown => .error .refused

def RecvConfUiMsg (stream : List UInt8) : Except Failure ConfUiMessage × List UInt8 :=
  match ReadPayload stream with
  | (.error failure, rest) => (.error failure, rest)
  | (.ok packet, rest) => (ToConfUiMessage packet, rest)

/-- Message after message, as long as the process is alive. -/
def receive : Nat → List UInt8 → List (Except Failure ConfUiMessage) × List UInt8
  | 0, stream => ([], stream)
  | count + 1, stream =>
    match RecvConfUiMsg stream with
    | (.error .died, rest) => ([.error .died], rest)
    | (read, rest) => (read :: (receive count rest).1, (receive count rest).2)

end Ika.ConfuiPackets
