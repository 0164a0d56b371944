import Ika.Foundation.Machine

/-! Messages of a device as a polling client reads them.

The mutex of the client makes a poll and a message that comes in one step each. -/

set_option autoImplicit false

namespace Ika.Operator.Polling

open List Int

variable {Message : Type}

/-- A new slice of `count` elements with the given ones copied to its beginning. -/
def copied (null : Message) (count : Nat) (from_ : List Message) : List Message :=
  from_.take count ++ List.replicate (count - from_.length) null

/-- A slice of a made one; `none` is a panic. -/
def sliced (null : Message) (messages : List Message) (start stop count : Int64) :
    Option (List Message) :=
  if count < 0 then none
  else if start < 0 ∨ stop < start then none
  else some (copied null count.toInt.toNat
    ((messages.take stop.toInt.toNat).drop start.toInt.toNat))

def GetMessages (null : Message) (messages : List Message) (start count : Int64) :
    Option (List Message) :=
  let length := Int64.ofNat messages.length
  let count := if count < 0 then length - start else count
  let stop := start + count
  if length < stop then sliced null messages start length (length - start)
  else sliced null messages start stop count

/-- A field of the request as `FormValue` and `strconv.Atoi` give it. -/
inductive Field where
  | empty
  | number (value : Int64)
  | invalid

def Field.read (default : Int64) : Field → Option Int64
  | .empty => some default
  | .number value => some value
  | .invalid => none

inductive Response (Message : Type) where
  | notFound
  | badRequest (text : String)
  | json (messages : List Message)
  /-- The connection is closed, as the handler has panicked. -/
  | aborted
  deriving DecidableEq

def messages (null : Message) (conn : Option (List Message)) (sStr cStr : Field) :
    Response Message :=
  match conn with
  | none => .notFound
  | some conn =>
    match sStr.read 0 with
    | none => .badRequest "Invalid value for start field"
    | some start =>
      match cStr.read (-1) with
      | none => .badRequest "Invalid value for count field"
      | some count =>
        match GetMessages null conn start count with
        | none => .aborted
        | some found => .json found

/-- The messages from `start` to `start + count`, or all from `start` on. -/
def requested (messages : List Message) (start count : Int64) : List Message :=
  if count < 0 then messages.drop start.toInt.toNat
  else (messages.take (start.toInt + count.toInt).toNat).drop start.toInt.toNat

/-- The range starts among the messages or behind the last one, and its end is an `int`. -/
def Served (length : Nat) (start count : Int64) : Prop :=
  0 ≤ start.toInt ∧ start.toInt ≤ length ∧ (count.toInt < 0 ∨ start.toInt + count.toInt < 2 ^ 63)
  deriving Decidable

section Ranges

variable {null : Message} {sent : List Message} {start count : Int64}

theorem copied_length (part : List Message) : copied null part.length part = part := by
  simp [copied]

variable {low high : Nat} {stop : Int64}

theorem copied_part (ordered : low ≤ high) (inside : high ≤ sent.length) :
    copied null (high - low) ((sent.take high).drop low) = (sent.take high).drop low := by
  have width : ((sent.take high).drop low).length = high - low := by simp; omega
  rw [← width, copied_length]

theorem sliced_eq (first : start.toInt = low) (last : stop.toInt = high)
    (width : count.toInt = high - low) (inside : high ≤ sent.length) (ordered : low ≤ high) :
    sliced null sent start stop count = some ((sent.take high).drop low) := by
  have counted : count.toInt.toNat = high - low := by omega
  unfold sliced
  simp only [Int64.lt_iff_toInt_lt, Int64.toInt_zero, first, last]
  rw [if_neg (by omega), if_neg (by omega), counted]
  exact congrArg some (copied_part ordered inside)

theorem sliced_none (wrong : count.toInt < 0 ∨ start.toInt < 0 ∨ stop.toInt < start.toInt) :
    sliced null sent start stop count = none := by
  unfold sliced
  simp only [Int64.lt_iff_toInt_lt, Int64.toInt_zero]
  split_ifs with negative bounds
  · rfl
  · rfl
  · omega

/-- All messages from the start on, where the start is not behind the last one. -/
theorem sliced_rest (few : sent.length < 2 ^ 63) :
    sliced null sent start (.ofNat sent.length) (.ofNat sent.length - start) =
      if 0 ≤ start.toInt ∧ start.toInt ≤ sent.length then some (sent.drop start.toInt.toNat)
      else none := by
  have length := Int64.toInt_ofNat_of_lt few
  have low := start.le_toInt
  have rest := Int64.toInt_sub (.ofNat sent.length) start
  rw [length] at rest
  split_ifs with inside
  · rw [bmod_eq_of_le (by omega) (by omega)] at rest
    have whole : (sent.take sent.length).drop start.toInt.toNat = sent.drop start.toInt.toNat := by
      rw [take_length]
    rw [← whole]
    exact sliced_eq (by omega) length (by omega) (Nat.le_refl _) (by omega)
  · apply sliced_none
    by_cases negative : start.toInt < 0
    · exact .inr (.inl negative)
    · -- the start is behind the last message, and the difference is no positive number
      have high := start.toInt_lt
      rw [bmod_eq_of_le (by omega) (by omega)] at rest
      omega

theorem GetMessages_eq (few : sent.length < 2 ^ 63) :
    GetMessages null sent start count =
      if Served sent.length start count then some (requested sent start count) else none := by
  have length := Int64.toInt_ofNat_of_lt few
  have low := start.le_toInt
  have high := start.toInt_lt
  have highest := count.toInt_lt
  have sum := Int64.toInt_add start count
  unfold GetMessages requested Served
  simp only [Int64.lt_iff_toInt_lt, Int64.toInt_zero]
  by_cases all : count.toInt < 0
  · -- all that is left is as many as lie between the start and the end
    have stop : start + (Int64.ofNat sent.length - start) = Int64.ofNat sent.length := by
      rw [Int64.add_comm, Int64.sub_add_cancel]
    simp [all, stop, sliced_rest few]
  simp only [all, if_false, false_or, length]
  by_cases fits : start.toInt + count.toInt < 2 ^ 63
  · rw [bmod_eq_of_le (by omega) (by omega)] at sum
    rw [sum]
    split_ifs with beyond served served
    · -- the range is cut off at the last message
      have whole : sent.take (start.toInt + count.toInt).toNat = sent :=
        take_of_length_le (by omega)
      rw [sliced_rest few, if_pos ⟨served.1, served.2.1⟩, whole]
    · rw [sliced_rest few, if_neg fun inside => served ⟨inside.1, inside.2, fits⟩]
    · exact sliced_eq (by omega) (by omega) (by omega) (by omega) (by omega)
    · apply sliced_none
      omega
  · -- the sum is a negative number, as both of its parts are not
    have wrapped : (start + count).toInt < 0 := by
      rw [sum, bmod_def]
      omega
    rw [if_neg (by omega), if_neg fun served => fits served.2.2]
    apply sliced_none
    omega

end Ranges

structure State (Message : Type) where
  /-- The messages that were sent. -/
  messages : List Message := []
  received : List Message := []

inductive Event (Message : Type) where
  | send (message : Message)
  /-- The client asks for `count` messages behind those it has received. -/
  | poll (count : Int64)

/-- A slice has no more elements than an `int` can count. -/
def send (state : State Message) (message : Message) : Option (State Message) :=
  if state.messages.length + 1 < 2 ^ 63 then
    some {state with messages := state.messages ++ [message]}
  else none

/-- Nothing is received where the handler panics. -/
def poll (null : Message) (state : State Message) (count : Int64) : State Message :=
  match messages null (some state.messages) (.number (.ofNat state.received.length))
      (.number count) with
  | .json found => {state with received := state.received ++ found}
  | _ => state

def polling (null : Message) : Transition.Machine (State Message) (Event Message) where
  init state := state = {}
  step state
    | .send message => send state message
    | .poll count => some (poll null state count)

/-- The end of the range that is asked for is an `int`. -/
def Fits (state : State Message) : Event Message → Prop
  | .send _ => True
  | .poll count => count.toInt < 0 ∨ state.received.length + count.toInt < 2 ^ 63

instance (state : State Message) : (event : Event Message) → Decidable (Fits state event)
  | .send _ => inferInstanceAs (Decidable True)
  | .poll _ => inferInstanceAs (Decidable (_ ∨ _))

structure Kept (state : State Message) : Prop where
  few : state.messages.length < 2 ^ 63
  in_order : state.received <+: state.messages

def reached (state : State Message) (count : Int64) : Nat :=
  if count.toInt < 0 then state.messages.length else state.received.length + count.toInt.toNat

variable {null : Message} {state : State Message} {count : Int64}

theorem messages_iff {sent : List Message} {sStr cStr : Field} {start : Int64}
    (few : sent.length < 2 ^ 63) (first : sStr.read 0 = some start)
    (second : cStr.read (-1) = some count) :
    messages null (some sent) sStr cStr = .json (requested sent start count) ↔
      Served sent.length start count := by
  unfold messages
  simp only [first, second, GetMessages_eq few]
  by_cases served : Served sent.length start count
  · simp [served]
  · simp [served]

theorem poll_eq (kept : Kept state) (fits : Fits state (.poll count)) :
    poll null state count = {state with received := state.messages.take (reached state count)} := by
  obtain ⟨rest, whole⟩ := kept.in_order
  have few := kept.few
  have length := congrArg List.length whole
  rw [length_append] at length
  have start : (Int64.ofNat state.received.length).toInt = state.received.length :=
    Int64.toInt_ofNat_of_lt (by omega)
  have served : Served state.messages.length (.ofNat state.received.length) count := by
    unfold Served
    rw [start]
    exact ⟨by omega, by omega, fits⟩
  have answered : messages null (some state.messages) (.number (.ofNat state.received.length))
      (.number count) = .json _ := (messages_iff few rfl rfl).mpr served
  have ahead : state.received ++ requested state.messages (.ofNat state.received.length) count =
      state.messages.take (reached state count) := by
    unfold requested reached
    simp only [Int64.lt_iff_toInt_lt, Int64.toInt_zero, start]
    split_ifs with all
    · rw [← whole, take_length, drop_left' (by omega)]
    · have stop : ((state.received.length : Int) + count.toInt).toNat =
          state.received.length + count.toInt.toNat := by omega
      have behind : (state.received.length + count.toInt.toNat) - state.received.length =
          count.toInt.toNat := by omega
      rw [stop, ← whole, take_append, behind, take_of_length_le (by omega),
        drop_left' (by omega)]
  unfold poll
  rw [answered]
  exact congrArg (State.mk state.messages) ahead

theorem Kept.step {event : Event Message} {after : State Message} (kept : Kept state)
    (fits : Fits state event) (moved : (polling null).step state event = some after) :
    Kept after := by
  cases event with
  | send message =>
    obtain ⟨room, rfl⟩ : state.messages.length + 1 < 2 ^ 63 ∧
        {state with messages := state.messages ++ [message]} = after := by
      simpa [polling, send] using moved
    exact ⟨by simpa using room, kept.in_order.trans (prefix_append _ _)⟩
  | poll count =>
    obtain rfl : poll null state count = after := by simpa [polling] using moved
    rw [poll_eq kept fits]
    exact ⟨kept.few, take_prefix _ _⟩

/-- A poll is answered as it should be just where its range is served, and a client whose ranges end
at an `int` has the first messages up to where it has asked. -/
theorem polls_served (null : Message) :
    (∀ (sent : List Message) (sStr cStr : Field) (start count : Int64), sent.length < 2 ^ 63 →
      sStr.read 0 = some start → cStr.read (-1) = some count →
        (messages null (some sent) sStr cStr = .json (requested sent start count) ↔
          Served sent.length start count)) ∧
      ∀ state, (polling null).Reaches Fits state →
        state.received <+: state.messages ∧ ∀ count, Fits state (.poll count) →
          poll null state count =
            {state with received := state.messages.take (reached state count)} := by
  constructor
  · intro sent sStr cStr start count few first second
    exact messages_iff few first second
  · intro state reached
    have kept : Kept state := by
      apply reached.invariant
      · rintro state rfl
        exact ⟨by simp, nil_prefix⟩
      · exact fun _ _ _ kept fits moved => kept.step fits moved
    exact ⟨kept.in_order, fun count fits => poll_eq kept fits⟩

/-- A range, and a client that polls between two messages. -/
theorem polls_served_twice :
    messages "" (some ["one", "two"]) (.number 1) .empty = .json ["two"] ∧
      (["one"] <+: ["one", "two"] ∧
        poll "" ⟨["one", "two"], ["one"]⟩ (-1) = ⟨["one", "two"], ["one", "two"]⟩) := by
  constructor
  · exact ((polls_served "").1 ["one", "two"] (.number 1) .empty 1 (-1) (by decide) rfl rfl).mpr
      (by decide)
  · have first : poll "" ⟨["one"], []⟩ 5 = ⟨["one"], ["one"]⟩ := rfl
    have reached : (polling "").Reaches Fits ⟨["one", "two"], ["one"]⟩ := by
      refine .of_runAllowed [.send "one", .poll 5, .send "two"] (.start rfl) ?_
      simp [Transition.Machine.runAllowed, polling, send, first, Fits]
    obtain ⟨in_order, polled⟩ := (polls_served "").2 _ reached
    exact ⟨in_order, polled (-1) (.inl (by decide))⟩

/-- A start before the first message or behind the last one, and an end that is no `int`. -/
theorem polls_panic :
    messages "" (some ["one"]) (.number (-1)) .empty = .aborted ∧
      messages "" (some ["one"]) (.number 2) .empty = .aborted ∧
      messages "" (some ["one"]) (.number 1) (.number (2 ^ 63 - 1)) = .aborted ∧
      ¬∀ (sent : List String) (start count : Int64), sent.length < 2 ^ 63 →
        messages "" (some sent) (.number start) (.number count) =
          .json (requested sent start count) := by
  refine ⟨by decide, by decide, by decide +kernel, ?_⟩
  intro all
  have panics := all ["one"] (-1) (-1) (by decide)
  revert panics
  decide

end Ika.Operator.Polling
