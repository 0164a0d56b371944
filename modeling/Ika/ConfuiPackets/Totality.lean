import Ika.ConfuiPackets.Packet

/-! Packets of any bytes: which of them the reader survives, and what it makes of them. -/

set_option autoImplicit false

namespace Ika.ConfuiPackets

open Decimal Splitting List

/-- The digits of a number that is an `int`. -/
def Fair (token : List UInt8) : Prop := token ≠ [] ∧ value token < 2 ^ 31
  deriving Decidable

def FairFront (tokens : List (List UInt8)) : Prop :=
  ∀ token ∈ tokens.takeWhile IsOnlyDigits, Fair token
  deriving Decidable

/-- There are `count` fields, unless reading them ends before. -/
structure Listed (count : Nat) (tokens : List (List UInt8)) : Prop where
  fair : FairFront (tokens.take count)
  enough : (tokens.take count).all IsOnlyDigits = true → count ≤ tokens.length

theorem number_eq (token : List UInt8) :
    number token =
      if IsOnlyDigits token = true then
        if Fair token then .ok (value token) else .error .died
      else .error .refused := by
  unfold number
  by_cases digits : IsOnlyDigits token = true
  · rw [if_neg (by simp [digits]), if_pos digits]
    by_cases filled : token = []
    · subst filled
      rw [if_neg fun fair : Fair [] => fair.1 rfl]
      rfl
    · rw [stoi_of_isDigit filled (all_eq_true.mp digits)]
      by_cases small : value token < 2 ^ 31
      · rw [if_pos small, if_pos ⟨filled, small⟩]
        rfl
      · rw [if_neg small, if_neg fun fair => small fair.2]
  · simp [digits]

variable {token : List UInt8} (packet : ParsedPacket)

theorem FairFront_cons {tokens : List (List UInt8)} :
    FairFront (token :: tokens) ↔ (IsOnlyDigits token = true → Fair token ∧ FairFront tokens) := by
  unfold FairFront
  by_cases digits : IsOnlyDigits token = true
  · simp [digits]
  · simp [digits]

section Lengths

variable {count : Nat} {tokens : List (List UInt8)} {lengths : List Nat}

variable {token : List UInt8}

theorem Listed_succ :
    Listed (count + 1) (token :: tokens) ↔
      (IsOnlyDigits token = true → Fair token ∧ Listed count tokens) := by
  constructor
  · rintro ⟨fair, enough⟩ digits
    rw [take_succ_cons, FairFront_cons] at fair
    refine ⟨(fair digits).1, (fair digits).2, fun all => ?_⟩
    have whole := enough (by simpa [digits] using all)
    simpa using whole
  · intro later
    constructor
    · rw [take_succ_cons, FairFront_cons]
      exact fun digits => ⟨(later digits).1, (later digits).2.fair⟩
    · intro all
      rw [take_succ_cons, all_cons, Bool.and_eq_true] at all
      have whole := (later all.1).2.enough all.2
      simpa using whole

theorem readLengths_cons :
    readLengths (count + 1) (token :: tokens) =
      if IsOnlyDigits token = true then
        if Fair token then (readLengths count tokens).map (value token :: ·) else .error .died
      else .error .refused := by
  rw [readLengths, number_eq]
  split_ifs with digits fair
  · cases readLengths count tokens <;> rfl
  · rfl
  · rfl

theorem readLengths_died : readLengths count tokens = .error .died ↔ ¬Listed count tokens := by
  induction count generalizing tokens with
  | zero =>
    have none : Listed 0 tokens := ⟨by simp [FairFront], by simp⟩
    simp [readLengths, none]
  | succ count ih =>
    cases tokens with
    | nil =>
      have none : ¬Listed (count + 1) [] := fun listed => by simpa using listed.enough rfl
      simp [readLengths, none]
    | cons token tokens =>
      rw [readLengths_cons, Listed_succ]
      split_ifs with digits fair
      · have others := @ih tokens
        cases read : readLengths count tokens with
        | error failure => simpa [Except.map, digits, fair, read] using others
        | ok lengths => simpa [Except.map, digits, fair, read] using others
      · simp [digits, fair]
      · simp [digits]

theorem readLengths_ok :
    readLengths count tokens = .ok lengths ↔
      count ≤ tokens.length ∧ (∀ token ∈ tokens.take count, IsOnlyDigits token = true ∧ Fair token) ∧
        (tokens.take count).map value = lengths := by
  induction count generalizing tokens lengths with
  | zero => simp [readLengths]
  | succ count ih =>
    cases tokens with
    | nil => simp [readLengths]
    | cons token tokens =>
      rw [readLengths_cons, take_succ_cons, forall_mem_cons, map_cons,
        length_cons, Nat.add_le_add_iff_right]
      split_ifs with digits fair
      · have mapped : (readLengths count tokens).map (value token :: ·) = .ok lengths ↔
            ∃ others, readLengths count tokens = .ok others ∧ value token :: others = lengths := by
          cases readLengths count tokens <;> simp [Except.map]
        simp only [mapped, ih, digits, fair, and_self, true_and]
        constructor
        · rintro ⟨others, ⟨whole, all, rfl⟩, same⟩
          exact ⟨whole, all, same⟩
        · rintro ⟨whole, all, same⟩
          exact ⟨_, ⟨whole, all, rfl⟩, same⟩
      · simp [digits, fair]
      · simp [digits]

end Lengths

/-- Four kinds of fields with a separator behind each, and the items behind them. -/
structure Laid (data session type count : List UInt8) (lengths items : List (List UInt8)) :
    Prop where
  named : colon ∉ session
  kind : colon ∉ type
  numbers : ∀ token ∈ count :: lengths, token ≠ [] ∧ IsOnlyDigits token = true
  counted : value count = items.length
  sized : lengths.map value = items.map List.length
  whole : data = closed colon (session :: type :: count :: lengths) ++ items.flatten

theorem colon_notMem_of_IsOnlyDigits (digits : IsOnlyDigits token = true) :
    colon ∉ token := fun listed => nomatch (all_eq_true.mp digits colon listed : false = true)

theorem slices_spec {lengths : List Nat} {data : List UInt8} (all : lengths.sum = data.length) :
    (slices lengths data).flatten = data ∧ (slices lengths data).map List.length = lengths := by
  induction lengths generalizing data with
  | nil =>
    obtain rfl := length_eq_zero_iff.mp all.symm
    exact ⟨rfl, rfl⟩
  | cons length rest ih =>
    rw [sum_cons] at all
    obtain ⟨flat, sizes⟩ := @ih (data.drop length) (by simp; omega)
    simp [slices, flat, sizes]
    omega

section Layout

variable {data session type count : List UInt8} {lengths items tokens : List (List UInt8)}

section

variable (laid : Laid data session type count lengths items)
include laid

theorem Laid.splitOn :
    data.splitOn colon =
      session :: type :: count :: (lengths ++ items.flatten.splitOn colon) := by
  rw [laid.whole, splitOn_closed]
  · rfl
  · intro field among
    rcases mem_cons.mp among with rfl | among
    · exact laid.named
    · rcases mem_cons.mp among with rfl | among
      · exact laid.kind
      · exact colon_notMem_of_IsOnlyDigits (laid.numbers field among).2

theorem Laid.length_lengths : lengths.length = items.length := by
  simpa using congrArg List.length laid.sized

theorem Laid.position :
    position (data.splitOn colon) items.length =
      (closed colon (session :: type :: count :: lengths)).length := by
  rw [laid.splitOn, length_closed, ConfuiPackets.position, Nat.add_comm 3,
    ← laid.length_lengths]
  simp only [take_succ_cons, take_left]

theorem Laid.parsed (short : data.length < 2 ^ 31) :
    ParseRawData data = .ok {sessionId := session, type, additionalInfo := items} := by
  have header := laid.position
  have total := congrArg List.length laid.whole
  rw [length_append] at total
  have sum : (items.map List.length).sum = items.flatten.length := (length_flatten).symm
  have same := laid.length_lengths
  -- all numbers are parts of the length, so that they are small
  have few : items.length ≤ (closed colon (session :: type :: count :: lengths)).length := by
    have each : lengths.length ≤ (lengths.map fun field => field.length + 1).sum := by
      have least := length_le_sum_of_one_le (lengths.map fun field => field.length + 1)
        (by simp)
      rwa [length_map] at least
    rw [length_closed]
    simp only [map_cons, sum_cons]
    omega
  have fair_count : Fair count :=
    ⟨(laid.numbers count mem_cons_self).1, by rw [laid.counted]; omega⟩
  have fair_length : ∀ token ∈ lengths, IsOnlyDigits token = true ∧ Fair token := by
    intro token among
    obtain ⟨filled, digits⟩ := laid.numbers token (mem_cons_of_mem _ among)
    have part : value token ≤ (lengths.map value).sum :=
      single_le_sum (fun _ _ => Nat.zero_le _) _ (mem_map_of_mem among)
    rw [laid.sized, sum] at part
    exact ⟨digits, filled, by omega⟩
  have counted : number count = .ok items.length := by
    rw [number_eq, if_pos (laid.numbers count mem_cons_self).2, if_pos fair_count, laid.counted]
  have read : readLengths items.length (lengths ++ items.flatten.splitOn colon) =
      .ok (items.map List.length) := by
    rw [readLengths_ok, ← same, take_left, laid.sized]
    exact ⟨by simp, fair_length, rfl⟩
  rw [laid.splitOn] at header
  unfold ParseRawData
  simp only [laid.splitOn, counted, read, header]
  rw [if_neg (by simp; omega), if_neg (by rw [sum]; omega), if_neg (by rw [sum]; omega), laid.whole,
    drop_left]
  exact congrArg _ (congrArg _ (slices_flatten items))

end

theorem ParseRawData_fields (split : data.splitOn colon = session :: type :: count :: tokens) :
    ParseRawData data =
      if IsOnlyDigits count = true then
        if Fair count then
          if tokens.length + 1 < value count then .error .refused
          else (readLengths (value count) tokens).bind fun lengths =>
            let pos := position (data.splitOn colon) (value count)
            if 2 ^ 31 ≤ pos + lengths.sum then .error .died
            else if pos + lengths.sum ≠ data.length then .error .refused
            else .ok {sessionId := session, type, additionalInfo := slices lengths (data.drop pos)}
        else .error .died
      else .error .refused := by
  unfold ParseRawData
  simp only [split, number_eq]
  split_ifs with digits fair few
  · simp [few]
  · simp only [length_cons]
    rw [if_neg (by omega)]
    cases readLengths (value count) tokens <;> rfl
  · rfl
  · rfl

theorem laid_of_parsed {packet : ParsedPacket} (parsed : ParseRawData data = .ok packet) :
    ∃ count lengths, Laid data packet.sessionId packet.type count lengths packet.additionalInfo := by
  obtain ⟨session, type, count, tokens, split⟩ : ∃ session type count tokens,
      data.splitOn colon = session :: type :: count :: tokens := by
    unfold ParseRawData at parsed
    split at parsed
    · rename_i split
      exact ⟨_, _, _, _, split⟩
    · cases parsed
  have plain : ∀ field ∈ data.splitOn colon, colon ∉ field := fun _ => notMem_of_mem_splitOn
  rw [ParseRawData_fields split] at parsed
  split_ifs at parsed with digits fair many
  cases read : readLengths (value count) tokens with
  | error failure =>
    rw [read] at parsed
    cases parsed
  | ok lengths =>
    rw [read] at parsed
    simp only [Except.bind] at parsed
    split_ifs at parsed with large different
    cases parsed
    obtain ⟨enough, numerals, rfl⟩ := readLengths_ok.mp read
    generalize fields_eq : session :: type :: count :: tokens.take (value count) = fields
    -- the data is the header with all its separators, and what is behind the last of them
    have cut : data.splitOn colon = fields ++ tokens.drop (value count) := by
      rw [split, ← fields_eq]
      simp
    have joined : data = [colon].intercalate (fields ++ tokens.drop (value count)) := by
      rw [← cut, intercalate_splitOn]
    have header : position (data.splitOn colon) (value count) = (closed colon fields).length := by
      have front : fields.length = 3 + value count := by
        rw [← fields_eq]
        simp
        omega
      rw [length_closed, position, cut, take_left' front]
    have some_fields : fields ≠ [] := by
      rw [← fields_eq]
      exact cons_ne_nil _ _
    have total := not_not.mp different
    -- without anything behind the header, the data were one separator too short
    have behind : tokens.drop (value count) ≠ [] := by
      intro none
      rw [none, append_nil] at joined
      have shorter : ([colon].intercalate fields).length + 1 = _ := length_intercalate some_fields
      rw [← joined] at shorter
      omega
    rw [intercalate_append behind] at joined
    have length := congrArg List.length joined
    rw [length_append] at length
    have exact_fit : ((tokens.take (value count)).map value).sum =
        (data.drop (closed colon fields).length).length := by
      rw [length_drop]
      omega
    obtain ⟨flat, sizes⟩ := slices_spec exact_fit
    refine ⟨count, tokens.take (value count), ?_, ?_, ?_, ?_, ?_, ?_⟩
    · exact plain session (by simp [split])
    · exact plain type (by simp [split])
    · intro token among
      rcases mem_cons.mp among with rfl | among
      · exact ⟨fair.1, digits⟩
      · exact ⟨(numerals token among).2.1, (numerals token among).1⟩
    · have counted := congrArg List.length sizes
      change value count = (slices _ (data.drop (position (data.splitOn colon) _))).length
      rw [header]
      rw [length_map, length_map, length_take] at counted
      omega
    · rw [header]
      exact sizes.symm
    · have taken : data.drop (closed colon fields).length =
          [colon].intercalate (tokens.drop (value count)) := by
        rw [joined, drop_left]
      rw [header, fields_eq, flat, taken]
      exact joined

/-- The header of a packet, where the count has only digits. -/
structure FairFields (data count : List UInt8) (tokens : List (List UInt8)) : Prop where
  fair : Fair count
  lengths : value count ≤ tokens.length + 1 → Listed (value count) tokens
  total : value count ≤ tokens.length → (tokens.take (value count)).all IsOnlyDigits = true →
    position (data.splitOn colon) (value count) +
      ((tokens.take (value count)).map value).sum < 2 ^ 31

theorem ParseRawData_died (split : data.splitOn colon = session :: type :: count :: tokens) :
    ParseRawData data = .error .died ↔
      ¬(IsOnlyDigits count = true → FairFields data count tokens) := by
  rw [ParseRawData_fields split]
  split_ifs with digits fair many
  · -- there are fewer fields than the count says
    have harmless : FairFields data count tokens := ⟨fair, by omega, by omega⟩
    simp [harmless]
  · -- the lengths are read one by one, up to the first that is none
    by_cases listed : Listed (value count) tokens
    · by_cases all : (tokens.take (value count)).all IsOnlyDigits = true
      · have numerals := all_eq_true.mp all
        have enough := listed.enough all
        have fair_front : ∀ token ∈ tokens.take (value count), Fair token := by
          have front := listed.fair
          rwa [FairFront, takeWhile_eq_self_iff.mpr numerals] at front
        have read : readLengths (value count) tokens =
            .ok ((tokens.take (value count)).map value) :=
          readLengths_ok.mpr ⟨enough, fun token among =>
            ⟨numerals token among, fair_front token among⟩, rfl⟩
        rw [read]
        simp only [Except.bind]
        split_ifs with large different
        · exact iff_of_true rfl fun harmless => by
            have small := (harmless digits).total enough all
            omega
        all_goals
          have harmless : FairFields data count tokens :=
            ⟨fair, fun _ => listed, fun _ _ => Nat.lt_of_not_le large⟩
          simp [harmless]
      · have harmless : FairFields data count tokens :=
          ⟨fair, fun _ => listed, fun _ whole => absurd whole all⟩
        have alive : readLengths (value count) tokens ≠ .error .died :=
          fun died => readLengths_died.mp died listed
        cases read : readLengths (value count) tokens with
        | error failure =>
          rw [read] at alive
          simpa [Except.bind, harmless] using alive
        | ok lengths =>
          have numerals := (readLengths_ok.mp read).2.1
          exact absurd (all_eq_true.mpr fun token among => (numerals token among).1) all
    · rw [readLengths_died.mpr listed]
      exact iff_of_true rfl fun harmless => listed ((harmless digits).lengths (by omega))
  · exact iff_of_true rfl fun harmless => fair (harmless digits).fair
  · simp [digits]

end Layout

/-- What `stoi` is asked to read of the items of a message. -/
structure FairItems (type : List UInt8) (items : List (List UInt8)) : Prop where
  touch : ToCmd type = .kUserTouchEvent → ∀ x y rest, items = x :: y :: rest →
    (stoi x).isSome = true ∧ (stoi y).isSome = true
  options : ToCmd type = .kStart → ∀ promptText extraData locale text,
    items = [promptText, extraData, locale, text] → text ≠ [] → FairFront (text.splitOn comma)

theorem uiOptions_died {tokens : List (List UInt8)} :
    uiOptions tokens = .error .died ↔ ¬FairFront tokens := by
  induction tokens with
  | nil => simp [uiOptions, FairFront]
  | cons token tokens ih =>
    have first : ToUiOption token =
        if IsOnlyDigits token = true then
          if Fair token then .ok (UInt32.ofNat (value token)) else .error .died
        else .error .refused := by
      rw [ToUiOption, number_eq]
      split_ifs <;> rfl
    rw [uiOptions, first, FairFront_cons]
    split_ifs with digits fair
    · cases read : uiOptions tokens with
      | error failure => simpa [digits, fair, read] using ih
      | ok options => simpa [digits, fair, read] using ih
    · simp [digits, fair]
    · simp [digits]

theorem toStart_died :
    toStart packet = .error .died ↔ ¬∀ promptText extraData locale text,
      packet.additionalInfo = [promptText, extraData, locale, text] → text ≠ [] →
        FairFront (text.splitOn comma) := by
  unfold toStart
  match items : packet.additionalInfo with
  | [] => simp
  | [_] => simp
  | [_, _] => simp
  | [_, _, _] => simp [startOptions]
  | [promptText, extraData, locale, text] =>
    by_cases none : text = []
    · simp [startOptions, none]
    · have died := @uiOptions_died (text.splitOn comma)
      cases read : uiOptions (text.splitOn comma) with
      | error failure => simpa [startOptions, none, read] using died
      | ok options => simpa [startOptions, none, read] using died
  | _ :: _ :: _ :: _ :: _ :: _ => simp [startOptions]

theorem ToConfUiMessage_died :
    ToConfUiMessage packet = .error .died ↔ ¬FairItems packet.type packet.additionalInfo := by
  -- only two kinds of messages have numbers in them
  have plain (touch : ToCmd packet.type ≠ .kUserTouchEvent) (start : ToCmd packet.type ≠ .kStart) :
      FairItems packet.type packet.additionalInfo :=
    ⟨fun same => absurd same touch, fun same => absurd same start⟩
  unfold ToConfUiMessage
  cases cmd : ToCmd packet.type with
  | kStart =>
    rw [toStart_died]
    apply not_congr
    constructor
    · exact fun all => ⟨by simp [cmd], fun _ => all⟩
    · exact fun fair => fair.options cmd
  | kUserTouchEvent =>
    have iff : FairItems packet.type packet.additionalInfo ↔
        ∀ x y rest, packet.additionalInfo = x :: y :: rest →
          (stoi x).isSome = true ∧ (stoi y).isSome = true :=
      ⟨fun fair => fair.touch cmd, fun all => ⟨fun _ => all, by simp [cmd]⟩⟩
    rw [iff]
    unfold toUserTouch
    match items : packet.additionalInfo with
    | [] => simp
    | [_] => simp
    | x :: y :: rest =>
      cases first : stoi x with
      | none => simp [first]
      | some left => cases second : stoi y <;> simp [first, second]
  | kCliAck =>
    have fair := plain (by simp [cmd]) (by simp [cmd])
    simp only [toAck, cmd, ne_eq, not_true_eq_false, if_false, fair]
    split <;> simp
  | kCliRespond =>
    have fair := plain (by simp [cmd]) (by simp [cmd])
    simp only [toCliResponse, fair]
    split <;> simp
  | kUserInputEvent =>
    have fair := plain (by simp [cmd]) (by simp [cmd])
    simp only [toUserSelection, fair]
    split <;> simp
  | kAbort => simp [plain (by simp [cmd]) (by simp [cmd])]
  | kStop => simp [plain (by simp [cmd]) (by simp [cmd])]
  | kUnknown => simp [plain (by simp [cmd]) (by simp [cmd])]

/-- The fields of a packet, up to the first that is refused, are numbers where they should be. -/
structure Harmless (data : List UInt8) : Prop where
  fields : ∃ session type count tokens, data.splitOn colon = session :: type :: count :: tokens ∧
    (IsOnlyDigits count = true → FairFields data count tokens)
  items : ∀ session type count lengths items, Laid data session type count lengths items →
    FairItems type items

def Framed (stream data : List UInt8) : Prop :=
  data.length < kMaxPayloadLength ∧
    ∃ header rest, stream = header ++ data ++ rest ∧ header.length = 4 ∧
      ByteStream.value header = data.length

theorem ReadRawData_ok {stream data : List UInt8} :
    (ReadRawData stream).1 = .ok data ↔ Framed stream data := by
  unfold ReadRawData Framed
  dsimp only
  constructor
  · intro read
    split_ifs at read with short none long missing
    · obtain rfl : [] = data := Except.ok.inj read
      refine ⟨by decide, stream.take 4, stream.drop 4, by simp, by simp; omega, none⟩
    · obtain rfl := Except.ok.inj read
      have length : ((stream.drop 4).take (ByteStream.value (stream.take 4))).length =
          ByteStream.value (stream.take 4) := length_take_of_le (by omega)
      refine ⟨by omega, stream.take 4, (stream.drop 4).drop (ByteStream.value (stream.take 4)), ?_,
        by simp; omega, length.symm⟩
      rw [append_assoc, take_append_drop, take_append_drop]
  · rintro ⟨short, header, rest, rfl, four, told⟩
    have front : (header ++ data ++ rest).take 4 = header := by
      rw [append_assoc]
      exact take_left' four
    have behind : (header ++ data ++ rest).drop 4 = data ++ rest := by
      rw [append_assoc]
      exact drop_left' four
    rw [front, behind, told, if_neg (by simp; omega)]
    by_cases none : data.length = 0
    · rw [if_pos none, length_eq_zero_iff.mp none]
    · rw [if_neg none, if_neg (by omega), if_neg (by simp), take_left]

theorem ReadRawData_alive (stream : List UInt8) : (ReadRawData stream).1 ≠ .error .died := by
  unfold ReadRawData
  dsimp only
  split_ifs <;> simp

theorem receive_alive_iff {data : List UInt8} (short : data.length < 2 ^ 31) :
    (ParseRawData data ≠ .error .died ∧
        ∀ packet, ParseRawData data = .ok packet → ToConfUiMessage packet ≠ .error .died) ↔
      Harmless data := by
  constructor
  · rintro ⟨alive, understood⟩
    constructor
    · obtain ⟨session, type, count, tokens, split⟩ : ∃ session type count tokens,
          data.splitOn colon = session :: type :: count :: tokens := by
        unfold ParseRawData at alive
        split at alive
        · rename_i split
          exact ⟨_, _, _, _, split⟩
        · exact absurd rfl alive
      exact ⟨session, type, count, tokens, split,
        not_not.mp fun unfair => alive ((ParseRawData_died split).mpr unfair)⟩
    · intro session type count lengths items laid
      have message := understood _ (laid.parsed short)
      rw [Ne, ToConfUiMessage_died, not_not] at message
      exact message
  · rintro ⟨⟨session, type, count, tokens, split, fields⟩, items⟩
    constructor
    · exact fun died => (ParseRawData_died split).mp died fields
    · intro packet parsed
      obtain ⟨count, lengths, laid⟩ := laid_of_parsed parsed
      rw [Ne, ToConfUiMessage_died, not_not]
      exact items _ _ _ _ _ laid

/-- A message or null comes of a stream exactly where the data it begins with are harmless; the
items are slices of the data one behind the other. -/
theorem recv_total_iff (stream : List UInt8) :
    ((RecvConfUiMsg stream).1 ≠ .error .died ∧
        ∀ data packet, (ReadRawData stream).1 = .ok data → ParseRawData data = .ok packet →
          ∃ header, header ++ packet.additionalInfo.flatten = data) ↔
      ∀ data, Framed stream data → Harmless data := by
  have slices : ∀ data packet, ParseRawData data = .ok packet →
      ∃ header, header ++ packet.additionalInfo.flatten = data := by
    intro data packet parsed
    obtain ⟨count, lengths, laid⟩ := laid_of_parsed parsed
    exact ⟨_, laid.whole.symm⟩
  rw [and_iff_left fun data packet _ parsed => slices data packet parsed]
  unfold RecvConfUiMsg ReadPayload
  cases read : ReadRawData stream with
  | mk answer rest =>
    have answered : (ReadRawData stream).1 = answer := by rw [read]
    cases answer with
    | error failure =>
      have alive := ReadRawData_alive stream
      rw [answered] at alive
      have unframed : ∀ data, ¬Framed stream data := fun data framed => by
        rw [← ReadRawData_ok, answered] at framed
        cases framed
      simpa [unframed] using alive
    | ok data =>
      -- a stream begins with one payload at most
      have framed := ReadRawData_ok.mp answered
      have only : ∀ other, Framed stream other → other = data := fun other framed => by
        rw [← ReadRawData_ok, answered] at framed
        exact (Except.ok.inj framed).symm
      have short : data.length < 2 ^ 31 := Nat.lt_trans framed.1 (by decide)
      have one : (∀ other, Framed stream other → Harmless other) ↔ Harmless data :=
        ⟨fun all => all data framed, fun harmless other framed => only other framed ▸ harmless⟩
      rw [one, ← receive_alive_iff short]
      cases parsed : ParseRawData data with
      | error failure => simp [parsed]
      | ok packet => simp [parsed]

def framed (payload : String) : List UInt8 :=
  ByteStream.bytes 4 (ascii payload).length ++ ascii payload

/-- Missing fields, digits and lengths, and too many of them. -/
theorem recv_dies :
    (RecvConfUiMsg (framed "")).1 = .error .died ∧
      (RecvConfUiMsg (framed "s:kStop:")).1 = .error .died ∧
      (RecvConfUiMsg (framed "s:kStop:2147483648:")).1 = .error .died ∧
      (RecvConfUiMsg (framed "s:kStop:1")).1 = .error .died ∧
      (RecvConfUiMsg (framed "s:kStop:2:2147483647:2147483647:")).1 = .error .died ∧
      (RecvConfUiMsg (framed "s:kUserTouchEvent:2:1:1:xy")).1 = .error .died ∧
      (RecvConfUiMsg (framed "s:kStart:4:0:0:0:2:0,")).1 = .error .died := by
  decide +kernel

end Ika.ConfuiPackets
