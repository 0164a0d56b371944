import Mathlib.Algebra.Order.Ring.Int
import Mathlib.Data.List.Infix

/-! The callbacks of a buffered zip source: reading and seeking over four positions. -/

set_option autoImplicit false

namespace Ika.BufferedZip

open List Int

def asUint64 (value : Int) : Nat := (value % 2 ^ 64).toNat

def asInt64 (value : Nat) : Int := if value < 2 ^ 63 then value else value - 2 ^ 64

theorem asUint64_natCast {value : Nat} (high : value < 2 ^ 64) : asUint64 value = value := by
  unfold asUint64
  omega

/-- How the data provider answers: whether it could seek, and the bytes it read. -/
structure Answer where
  seeks : Bool
  read : Option (List UInt8)

inductive Outcome where
  | returned (data : List UInt8)
  | failed
  /-- Memory outside of the buffer was used. -/
  | overran
  /-- The call is still reading after all these answers of the data provider. -/
  | reading
  deriving DecidableEq, Repr

structure Callbacks where
  buffer_ : List UInt8
  size_ : Nat
  offset_ : Int := 0
  offset_in_buffer_ : Nat := 0
  buffer_remaining_ : Nat := 0

/-- What came of a call, and whether the data provider failed in it. -/
structure Call where
  outcome : Outcome
  callbacks : Callbacks
  failure : Bool := false

inductive Route where
  | bypass
  | buffer
  | ended
  | refill
  deriving DecidableEq, Repr

namespace Callbacks

variable (callbacks : Callbacks)

def buffer_fill : Nat :=
  if callbacks.size_ < asUint64 (callbacks.offset_ + callbacks.buffer_.length) then
    asUint64 (callbacks.size_ - callbacks.offset_)
  else callbacks.buffer_.length

def route (len : Nat) : Route :=
  if callbacks.buffer_.length < len then .bypass
  else if 0 < callbacks.buffer_remaining_ then .buffer
  else if callbacks.buffer_fill = 0 then .ended
  else .refill

def request (len : Nat) : Nat :=
  match callbacks.route len with
  | .bypass => len
  | .refill => callbacks.buffer_fill
  | _ => 0

def readBypass (answer : Answer) : Call :=
  let callbacks := {callbacks with buffer_remaining_ := 0}
  if answer.seeks then
    match answer.read with
    | some data =>
      ⟨.returned data, {callbacks with offset_ := callbacks.offset_ + data.length}, false⟩
    | none => ⟨.failed, callbacks, true⟩
  else
    -- `return false` is a read of no bytes
    ⟨.returned [], callbacks, true⟩

def readBuffer (len : Nat) : Call :=
  let to_read := min len callbacks.buffer_remaining_
  if callbacks.buffer_.length < callbacks.offset_in_buffer_ + to_read then
    ⟨.overran, callbacks, false⟩
  else
    ⟨.returned ((callbacks.buffer_.drop callbacks.offset_in_buffer_).take to_read),
      {callbacks with
        buffer_remaining_ := callbacks.buffer_remaining_ - to_read
        offset_in_buffer_ := callbacks.offset_in_buffer_ + to_read
        offset_ := callbacks.offset_ + to_read},
      false⟩

def filled (data : List UInt8) : Callbacks :=
  {callbacks with
    buffer_ := data ++ callbacks.buffer_.drop data.length
    buffer_remaining_ := data.length
    offset_in_buffer_ := 0}

/-- A read with the answers of the data provider, as often as it is asked. -/
def Read (len : Nat) : Callbacks → List Answer → Call
  | callbacks, [] =>
    match callbacks.route len with
    | .buffer => callbacks.readBuffer len
    | .ended => ⟨.returned [], callbacks, false⟩
    | .bypass | .refill => ⟨.reading, callbacks, false⟩
  | callbacks, answer :: answers =>
    match callbacks.route len with
    | .buffer => callbacks.readBuffer len
    | .ended => ⟨.returned [], callbacks, false⟩
    | .bypass => callbacks.readBypass answer
    | .refill =>
      if callbacks.buffer_.length < callbacks.buffer_fill then ⟨.overran, callbacks, false⟩
      else if answer.seeks then
        match answer.read with
        | some data => Read len (callbacks.filled data) answers
        | none => ⟨.failed, callbacks, true⟩
      else ⟨.failed, callbacks, true⟩

/-- The comparisons with unsigned numbers are made of unsigned numbers. -/
def SetOffset (new_offset : Int) : Callbacks :=
  if callbacks.offset_ ≤ new_offset ∧
      asUint64 new_offset < asUint64 (callbacks.offset_ + callbacks.buffer_remaining_) then
    {callbacks with
      offset_in_buffer_ := asUint64 (callbacks.offset_in_buffer_ + (new_offset - callbacks.offset_))
      buffer_remaining_ := asUint64 (callbacks.buffer_remaining_ - (new_offset - callbacks.offset_))
      offset_ := new_offset}
  else {callbacks with buffer_remaining_ := 0, offset_ := new_offset}

/-- The data provider reads its own bytes, and ends only at its end. -/
def Honest (source : List UInt8) (len : Nat) (answers : List Answer) : Prop :=
  answers ≠ [] ∧ ∀ answer ∈ answers, ∀ data ∈ answer.read,
    data <+: source.drop (asUint64 callbacks.offset_) ∧ data.length ≤ callbacks.request len ∧
      (data = [] → callbacks.request len = 0 ∨ source.length ≤ asUint64 callbacks.offset_)
  deriving Decidable

/-- A read past the buffer seeks, and the data provider does not end early. -/
def Sound (source : List UInt8) (len : Nat) (answers : List Answer) : Prop :=
  match callbacks.route len with
  | .bypass => ∀ answer ∈ answers.head?, answer.seeks = true
  | .refill => callbacks.offset_ < source.length
  | _ => True

instance (source : List UInt8) (len : Nat) (answers : List Answer) :
    Decidable (callbacks.Sound source len answers) := by
  unfold Sound
  split <;> infer_instance

end Callbacks

/-- The data of a source, which does not hold more than its size says. -/
structure Source where
  data : List UInt8
  size : Nat
  holds : data.length ≤ size
  fits : size < 2 ^ 63

namespace Callbacks

variable (callbacks : Callbacks)

/-- The buffer holds the bytes of the source from the position on. -/
structure Coherent (source : Source) (position : Nat) : Prop where
  sized : callbacks.size_ = source.size
  placed : callbacks.offset_ = position
  below : position ≤ source.size
  small : callbacks.buffer_.length < 2 ^ 63
  inside : 0 < callbacks.buffer_remaining_ →
    callbacks.offset_in_buffer_ + callbacks.buffer_remaining_ ≤ callbacks.buffer_.length
  buffered : 0 < callbacks.buffer_remaining_ →
    (callbacks.buffer_.drop callbacks.offset_in_buffer_).take callbacks.buffer_remaining_ <+:
      source.data.drop position

end Callbacks

def Call.Good (call : Call) (source : Source) (position len : Nat) : Prop :=
  match call.outcome with
  | .returned data =>
    data <+: source.data.drop position ∧ data.length ≤ len ∧
      (data = [] → len = 0 ∨ source.data.length ≤ position) ∧ call.failure = false ∧
      call.callbacks.Coherent source (position + data.length)
  | .failed => call.callbacks.Coherent source position
  | _ => False

namespace Callbacks.Coherent

variable {callbacks : Callbacks} {source : Source} {position len : Nat} {answer : Answer}
  {answers : List Answer}

section

variable (coherent : callbacks.Coherent source position)
include coherent

theorem asUint64_offset : asUint64 callbacks.offset_ = position := by
  have fits := source.fits
  have below := coherent.below
  rw [coherent.placed]
  exact asUint64_natCast (by omega)

theorem buffer_fill_eq :
    callbacks.buffer_fill = min callbacks.buffer_.length (source.size - position) := by
  have fits := source.fits
  have below := coherent.below
  have small := coherent.small
  unfold buffer_fill
  rw [coherent.sized, coherent.placed]
  have sum : asUint64 ((position : Int) + callbacks.buffer_.length) =
      position + callbacks.buffer_.length := by
    rw [← natCast_add]
    exact asUint64_natCast (by omega)
  have rest : asUint64 ((source.size : Int) - position) = source.size - position := by
    rw [← ofNat_sub below]
    exact asUint64_natCast (by omega)
  rw [sum, rest]
  split <;> omega

theorem dropped : Coherent {callbacks with buffer_remaining_ := 0} source position :=
  {coherent with
    inside := fun some => absurd some (Nat.lt_irrefl 0)
    buffered := fun some => absurd some (Nat.lt_irrefl 0)}

end

variable {data : List UInt8}

theorem advance_below (coherent : callbacks.Coherent source position)
    (starts : data <+: source.data.drop position) : position + data.length ≤ source.size := by
  have short := starts.length_le
  rw [length_drop] at short
  have holds := source.holds
  have below := coherent.below
  by_cases behind : source.data.length ≤ position
  · omega
  · omega

theorem readBypass (coherent : callbacks.Coherent source position)
    (read : ∀ data ∈ answer.read, data <+: source.data.drop position ∧ data.length ≤ len ∧
      (data = [] → len = 0 ∨ source.data.length ≤ position))
    (seeks : answer.seeks = true) : (callbacks.readBypass answer).Good source position len := by
  unfold Callbacks.readBypass
  dsimp only
  rw [if_pos seeks]
  cases given : answer.read with
  | none => exact coherent.dropped
  | some data =>
    obtain ⟨starts, short, empty⟩ := read data given
    exact ⟨starts, short, empty, rfl,
      { sized := coherent.sized
        placed := by
          dsimp only
          rw [coherent.placed]
          exact (natCast_add _ _).symm
        below := coherent.advance_below starts
        small := coherent.small
        inside := fun some => absurd some (Nat.lt_irrefl 0)
        buffered := fun some => absurd some (Nat.lt_irrefl 0)}⟩

theorem ahead {count : Nat} (coherent : callbacks.Coherent source position)
    (some : 0 < callbacks.buffer_remaining_) :
    (callbacks.buffer_.drop (callbacks.offset_in_buffer_ + count)).take
        (callbacks.buffer_remaining_ - count) <+: source.data.drop (position + count) := by
  have rest : (callbacks.buffer_.drop (callbacks.offset_in_buffer_ + count)).take
        (callbacks.buffer_remaining_ - count) =
      ((callbacks.buffer_.drop callbacks.offset_in_buffer_).take
        callbacks.buffer_remaining_).drop count := by
    rw [drop_take, drop_drop]
  rw [rest, ← drop_drop]
  exact (coherent.buffered some).drop _

theorem readBuffer (coherent : callbacks.Coherent source position)
    (some : 0 < callbacks.buffer_remaining_) :
    (callbacks.readBuffer len).Good source position len := by
  have inside := coherent.inside some
  have buffered := coherent.buffered some
  unfold Callbacks.readBuffer
  dsimp only
  rw [if_neg (by omega)]
  have length : ((callbacks.buffer_.drop callbacks.offset_in_buffer_).take
      (min len callbacks.buffer_remaining_)).length = min len callbacks.buffer_remaining_ := by
    rw [length_take, length_drop]
    omega
  have starts : (callbacks.buffer_.drop callbacks.offset_in_buffer_).take
      (min len callbacks.buffer_remaining_) <+: source.data.drop position := by
    rw [← take_take]
    exact ( take_prefix _ _).trans buffered
  refine ⟨starts, by omega, fun empty => .inl ?_, rfl, ?_⟩
  · rw [empty, length_nil] at length
    omega
  · rw [length]
    exact
      { sized := coherent.sized
        placed := by
          dsimp only
          rw [coherent.placed]
          exact (natCast_add _ _).symm
        below := by
          have end' := coherent.advance_below starts
          rwa [length] at end'
        small := coherent.small
        inside := fun left => by
          dsimp only at left ⊢
          omega
        buffered := fun _ => coherent.ahead some}

theorem filled (coherent : callbacks.Coherent source position)
    (starts : data <+: source.data.drop position) (room : data.length ≤ callbacks.buffer_.length) :
    (callbacks.filled data).Coherent source position where
  sized := coherent.sized
  placed := coherent.placed
  below := coherent.below
  small := by
    have small := coherent.small
    unfold Callbacks.filled
    dsimp only
    rw [length_append, length_drop]
    omega
  inside := fun _ => by
    unfold Callbacks.filled
    dsimp only
    rw [length_append, length_drop]
    omega
  buffered := fun _ => by
    unfold Callbacks.filled
    dsimp only
    rw [drop_zero, take_left]
    exact starts

theorem Read_eq_readBuffer (way : callbacks.route len = .buffer) :
    callbacks.Read len answers = callbacks.readBuffer len := by
  cases answers <;> unfold Read <;> rw [way]

theorem route_filled (fits : ¬callbacks.buffer_.length < len)
    (room : data.length ≤ callbacks.buffer_.length) (some : data ≠ []) :
    (callbacks.filled data).route len = .buffer := by
  have length : (callbacks.filled data).buffer_.length = callbacks.buffer_.length := by
    unfold Callbacks.filled
    rw [length_append, length_drop]
    omega
  unfold route
  rw [length, if_neg fits]
  exact if_pos (length_pos_of_ne_nil some)

section

variable (coherent : callbacks.Coherent source position)
include coherent

theorem refill (way : callbacks.route len = .refill) (before : position < source.data.length)
    (read : ∀ data ∈ answer.read, data <+: source.data.drop position ∧
      data.length ≤ callbacks.buffer_fill ∧
      (data = [] → callbacks.buffer_fill = 0 ∨ source.data.length ≤ position)) :
    (callbacks.Read len (answer :: answers)).Good source position len := by
  have fill := coherent.buffer_fill_eq
  unfold Read
  rw [way]
  unfold route at way
  split_ifs at way with large some none
  dsimp only
  rw [if_neg (by omega)]
  split
  · cases given : answer.read with
    | none => exact coherent
    | some data =>
      obtain ⟨starts, short, empty⟩ := read data given
      -- the data provider has not ended, so that there is something in the buffer now
      have some : data ≠ [] := fun none' => (empty none').elim none (by omega)
      dsimp only
      rw [Read_eq_readBuffer (route_filled large (by omega) some)]
      exact (coherent.filled starts (by omega)).readBuffer (length_pos_of_ne_nil some)
  · exact coherent

theorem Read (honest : callbacks.Honest source.data len answers)
    (sound : callbacks.Sound source.data len answers) :
    (callbacks.Read len answers).Good source position len := by
  cases answers with
  | nil => exact absurd rfl honest.1
  | cons answer answers =>
    have reads := honest.2 answer mem_cons_self
    rw [coherent.asUint64_offset] at reads
    unfold request at reads
    unfold Sound at sound
    cases way : callbacks.route len with
    | bypass =>
      simp only [way] at reads sound
      unfold Read
      rw [way]
      exact coherent.readBypass reads (sound answer rfl)
    | buffer =>
      rw [Read_eq_readBuffer way]
      refine coherent.readBuffer ?_
      unfold route at way
      split_ifs at way with large some
      exact some
    | ended =>
      have fill := coherent.buffer_fill_eq
      have holds := source.holds
      unfold Read
      rw [way]
      unfold route at way
      split_ifs at way with large some none
      refine ⟨ nil_prefix, Nat.zero_le _, fun _ => ?_, rfl, coherent⟩
      omega
    | refill =>
      simp only [way] at reads sound
      have before := coherent.placed
      exact coherent.refill way (by omega) reads

theorem buffer_remaining_le : callbacks.buffer_remaining_ ≤ callbacks.buffer_.length := by
  have inside := coherent.inside
  omega

theorem SetOffset {target : Nat}
    (within : target ≤ source.size) : (callbacks.SetOffset target).Coherent source target := by
  have fits := source.fits
  have below := coherent.below
  have remaining := coherent.buffer_remaining_le
  have small := coherent.small
  unfold Callbacks.SetOffset
  rw [coherent.placed]
  have high : asUint64 ((position : Int) + callbacks.buffer_remaining_) =
      position + callbacks.buffer_remaining_ := by
    rw [← natCast_add]
    exact asUint64_natCast (by omega)
  rw [asUint64_natCast (show target < 2 ^ 64 by omega), high]
  split_ifs with ahead
  · obtain ⟨forward, before⟩ := ahead
    have moved : asUint64 (callbacks.offset_in_buffer_ + ((target : Int) - position)) =
        callbacks.offset_in_buffer_ + (target - position) := by
      have inside := coherent.inside (by omega)
      rw [← ofNat_sub (by omega), ← natCast_add]
      exact asUint64_natCast (by omega)
    have left : asUint64 ((callbacks.buffer_remaining_ : Int) - ((target : Int) - position)) =
        callbacks.buffer_remaining_ - (target - position) := by
      rw [← ofNat_sub (by omega), ← ofNat_sub (by omega)]
      exact asUint64_natCast (by omega)
    have inside := coherent.inside (by omega)
    have ahead := @ahead _ _ _ (target - position) coherent (by omega)
    have there : position + (target - position) = target := by omega
    rw [there] at ahead
    exact
      { sized := coherent.sized
        placed := rfl
        below := within
        small := small
        inside := fun _ => by
          dsimp only
          rw [moved, left]
          omega
        buffered := fun _ => by
          dsimp only
          rw [moved, left]
          exact ahead}
  · exact
      { sized := coherent.sized
        placed := rfl
        below := within
        small := small
        inside := fun some => absurd some (Nat.lt_irrefl 0)
        buffered := fun some => absurd some (Nat.lt_irrefl 0)}

end

end Callbacks.Coherent

end Ika.BufferedZip
