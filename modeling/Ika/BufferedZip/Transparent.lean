import Ika.Foundation.Machine
import Ika.BufferedZip.Reader

/-! A reader over a buffered zip source against the source itself, call by call. -/

set_option autoImplicit false

namespace Ika.BufferedZip

open Transition List Option Int

inductive Entry where
  | read (position len : Nat) (failure : Bool) (outcome : Outcome)
  | seek (target : Int) (result : Option Nat)
  deriving DecidableEq, Repr

structure State where
  reader : Reader
  position : Nat := 0
  log : List Entry := []

inductive Event where
  | SeekSet (offset : Nat)
  | SeekCur (offset : Int)
  | SeekEnd (offset : Int)
  | Read (len : Nat) (commands : List (List Answer))
  | PRead (count offset : Nat) (commands : List (List Answer))

def Open (source : Source) (buffer_size : Nat) : State where
  reader := {callbacks := {buffer_ := .replicate buffer_size 0, size_ := source.size}}

namespace State

variable (source : Source) (lib : Libzip) (state : State)

def Within (target : Int) : Prop := 0 ≤ target ∧ target ≤ source.size
  deriving Decidable

def seek (target : Int) (result : Option Nat × Reader) : State where
  reader := result.2
  position := if Within source target then target.toNat else state.position
  log := state.log ++ [.seek target result.1]

def read (len : Nat) (reading : Reading) : State where
  reader := reading.reader
  position :=
    match reading.outcome with
    | .returned data => state.position + data.length
    | _ => state.position
  log := state.log ++ [.read state.position len reading.failure reading.outcome]

def pread (count offset : Nat) (reading : Reading) : State where
  reader := reading.reader
  position := state.position
  log := state.log ++ [.read offset count reading.failure reading.outcome]

/-- Nothing is called after a call that does not return, or that broke the memory. -/
def stands : Bool :=
  match state.log.getLast? with
  | some (.read _ _ _ .overran) | some (.read _ _ _ .reading) => false
  | _ => true

def after : Event → State
  | .SeekSet offset => state.seek source offset (state.reader.SeekSet lib offset)
  | .SeekCur offset => state.seek source (state.position + offset) (state.reader.SeekCur lib offset)
  | .SeekEnd offset => state.seek source (source.size + offset) (state.reader.SeekEnd lib offset)
  | .Read len commands => state.read len (state.reader.zip_source_read len commands)
  | .PRead count offset commands =>
    state.pread count offset (state.reader.PRead lib count offset commands)

def step (event : Event) : Option State :=
  if state.stands then some (state.after source lib event) else none

end State

def machine (source : Source) (lib : Libzip) (buffer_size : Nat) : Machine State Event where
  init state := state = Open source buffer_size
  step state := state.step source lib

section Conditions

variable (source : Source) (lib : Libzip) (state : State)

/-- The data provider answers each command with its own bytes, or with an error. -/
def Answered : Event → Prop
  | .Read len commands =>
    Reader.Along source.data Callbacks.Honest len state.reader.callbacks commands
  | .PRead count offset commands =>
    Reader.Along source.data Callbacks.Honest count (state.reader.atOffset lib offset).callbacks
      commands
  | _ => True

instance (event : Event) : Decidable (Answered source lib state event) := by
  cases event <;> unfold Answered <;> infer_instance

/-- Seeks stay within the source, and the data provider neither fails to seek nor ends early. -/
def Fit : Event → Prop
  | .SeekSet offset => offset ≤ source.size
  | .SeekCur offset => State.Within source (state.reader.callbacks.offset_ + offset)
  | .SeekEnd offset => State.Within source (source.size + offset)
  | .Read len commands =>
    Reader.Along source.data Callbacks.Sound len state.reader.callbacks commands
  | .PRead count offset commands =>
    offset ≤ source.size ∧
      Reader.Along source.data Callbacks.Sound count (state.reader.atOffset lib offset).callbacks
        commands

instance (event : Event) : Decidable (Fit source lib state event) := by
  cases event <;> unfold Fit <;> infer_instance

def Allowed (event : Event) : Prop := Answered source lib state event ∧ Fit source lib state event
  deriving Decidable

end Conditions

/-- A read returns the source's bytes, and nothing only at its end; a seek goes to its position. -/
def Entry.Right (source : Source) : Entry → Prop
  | .read position len failure outcome =>
    match outcome with
    | .returned data =>
      data <+: source.data.drop position ∧ data.length ≤ len ∧
        (data = [] → len = 0 ∨ source.data.length ≤ position) ∧ (failure = true → data ≠ [])
    | .failed => True
    | .overran | .reading => False
  | .seek target result =>
    result = if State.Within source target then some target.toNat else none

structure State.Transparent (source : Source) (state : State) : Prop where
  right : ∀ entry ∈ state.log, entry.Right source
  placed : state.reader.callbacks.offset_ = state.position

structure State.Kept (source : Source) (state : State) : Prop where
  right : ∀ entry ∈ state.log, entry.Right source
  coherent : state.reader.Coherent source state.position

theorem right_append {source : Source} {log : List Entry} {last : Entry}
    (right : ∀ entry ∈ log, entry.Right source) (new : last.Right source) :
    ∀ entry ∈ log ++ [last], entry.Right source := by
  intro entry listed
  rcases mem_append.mp listed with old | found
  · exact right entry old
  · rw [mem_singleton.mp found]
    exact new

theorem Reading.Good.right {reading : Reading} {source : Source} {position len : Nat}
    (good : reading.Good source position len False) :
    (Entry.read position len reading.failure reading.outcome).Right source := by
  unfold Reading.Good at good
  unfold Entry.Right
  split at good
  · rename_i data same
    rw [same]
    exact ⟨good.1, good.2.1, fun none => (good.2.2.1 none).resolve_left id, good.2.2.2.1⟩
  · rename_i same
    rw [same]
    trivial
  · exact good.elim

namespace State.Kept

variable {source : Source} {lib : Libzip} {state : State}

theorem seek {target : Int} {result : Option Nat × Reader} (kept : state.Kept source)
    (within : Within source target)
    (went : result.1 = some target.toNat ∧ result.2.Coherent source target.toNat) :
    (state.seek source target result).Kept source where
  right := by
    refine right_append kept.right ?_
    unfold Entry.Right
    dsimp only
    rw [if_pos within]
    exact went.1
  coherent := by
    unfold State.seek
    dsimp only
    rw [if_pos within]
    exact went.2

theorem read {len : Nat} {reading : Reading} (kept : state.Kept source)
    (good : reading.Good source state.position len False) :
    (state.read len reading).Kept source where
  right := right_append kept.right good.right
  coherent := by
    unfold Reading.Good at good
    unfold State.read
    dsimp only
    split at good
    · rename_i same
      rw [same]
      exact good.2.2.2.2
    · rename_i same
      rw [same]
      exact good
    · exact good.elim

theorem after {event : Event} (kept : state.Kept source)
    (allowed : Allowed source lib state event) : (state.after source lib event).Kept source := by
  have placed := kept.coherent.callbacks.placed
  cases event with
  | SeekSet offset =>
    have within : offset ≤ source.size := allowed.2
    exact kept.seek ⟨natCast_nonneg _, ofNat_le.mpr within⟩ (kept.coherent.SeekSet within)
  | SeekCur offset =>
    have within : Within source (state.reader.callbacks.offset_ + offset) := allowed.2
    rw [placed] at within
    obtain ⟨low, high⟩ := within
    refine kept.seek ⟨low, high⟩ (kept.coherent.Seek ?_ (by omega))
    exact (toNat_of_nonneg low).symm
  | SeekEnd offset =>
    have within : Within source (source.size + offset) := allowed.2
    obtain ⟨low, high⟩ := within
    refine kept.seek ⟨low, high⟩ (kept.coherent.Seek ?_ (by omega))
    exact (toNat_of_nonneg low).symm
  | Read len commands => exact kept.read (kept.coherent.zip_source_read allowed.1 allowed.2)
  | PRead count offset commands =>
    obtain ⟨home, there, good⟩ := kept.coherent.PRead allowed.2.1 allowed.1 allowed.2.2
    exact ⟨right_append kept.right good.right, home⟩

end State.Kept

theorem kept_open {source : Source} {buffer_size : Nat} (small : buffer_size < 2 ^ 63) :
    (Open source buffer_size).Kept source where
  right := nofun
  coherent :=
    { callbacks :=
        { sized := rfl
          placed := rfl
          below := Nat.zero_le _
          small := by
            unfold Open
            rw [length_replicate]
            exact small
          inside := fun some => absurd some (Nat.lt_irrefl 0)
          buffered := fun some => absurd some (Nat.lt_irrefl 0)}
      ended := nofun}

/-- A reader reads as its source does while its operations fit. -/
theorem buffered_transparent {source : Source} {lib : Libzip} {buffer_size : Nat} {state : State}
    (small : buffer_size < 2 ^ 63)
    (reached : (machine source lib buffer_size).Reaches (Allowed source lib) state) :
    state.Transparent source := by
  have kept : state.Kept source := by
    refine reached.invariant (fun first new => ?_) fun _ _ _ known allowed moved => ?_
    · rw [show first = Open source buffer_size from new]
      exact kept_open small
    · obtain ⟨-, same⟩ := ite_none_right_eq_some.mp moved
      rw [← Option.some.inj same]
      exact known.after allowed
  exact ⟨kept.right, kept.coherent.callbacks.placed⟩

/-- The library as it computes seeks. -/
def plainLibzip : Libzip where
  zip_source_seek_compute_offset offset length distance whence :=
    let target := seekTarget offset length distance whence
    if 0 ≤ target ∧ target ≤ length then target else -1
  inside low high := if_pos ⟨low, high⟩
  outside out := if_neg out

def fiveBytes : Source := ⟨[1, 2, 3, 4, 5], 5, by decide, by decide⟩

/-- Reads of all three kinds, with short answers and an error, and seeks within the buffer. -/
theorem buffered_transparent_reads :
    State.Transparent fiveBytes
      (((machine fiveBytes plainLibzip 3).runAllowed (Allowed fiveBytes plainLibzip)
          (Open fiveBytes 3) [.Read 2 [[⟨true, some [1, 2, 3]⟩]], .SeekCur (-1),
          .Read 3 [[⟨true, none⟩]],
          .Read 3 [[⟨true, some [2]⟩], [⟨true, some [3, 4, 5]⟩]], .SeekEnd (-2),
          .PRead 4 1 [[⟨true, some [2, 3]⟩], [⟨true, some [4]⟩], [⟨true, some [5]⟩]],
          .Read 9 [[⟨true, some [4, 5]⟩], [⟨true, some []⟩]], .Read 1 []]).getD
        (Open fiveBytes 3)) :=
  buffered_transparent (by decide)
    (Machine.Reaches.getD_runAllowed _ (.start rfl) (by decide +kernel))

theorem Callbacks.Read_ended {callbacks : Callbacks} {len : Nat}
    (way : callbacks.route len = .refill) (room : callbacks.buffer_fill ≤ callbacks.buffer_.length)
    (count : Nat) :
    (callbacks.Read len (List.replicate count ⟨true, some []⟩)).outcome = .reading ∧
      (callbacks.Read len (List.replicate count ⟨true, some []⟩)).failure = false := by
  induction count generalizing callbacks with
  | zero =>
    rw [replicate_zero]
    unfold Callbacks.Read
    rw [way]
    exact ⟨rfl, rfl⟩
  | succ count ih =>
    rw [replicate_succ]
    unfold Callbacks.Read
    rw [way]
    dsimp only
    rw [if_neg (Nat.not_lt.mpr room), if_pos rfl]
    -- filling the buffer with nothing leaves the buffer as it is, and empty
    refine @ih (callbacks.filled []) ?_ room
    unfold Callbacks.route at way ⊢
    split_ifs at way with large some none
    have fill : (callbacks.filled []).buffer_fill = callbacks.buffer_fill := rfl
    have length : (callbacks.filled []).buffer_.length = callbacks.buffer_.length := rfl
    rw [fill, length, if_neg large, if_neg none]
    rfl

def shortSource : Source := ⟨[1, 2], 5, by decide, by decide⟩

theorem zip_source_read_ended {reader : Reader} {len : Nat} (asked : len ≠ 0)
    (way : reader.callbacks.route len = .refill)
    (room : reader.callbacks.buffer_fill ≤ reader.callbacks.buffer_.length) (count : Nat) :
    (reader.zip_source_read len [List.replicate count ⟨true, some []⟩]).outcome = .reading ∧
      (reader.zip_source_read len [List.replicate count ⟨true, some []⟩]).failure = false := by
  obtain ⟨outcome, failure⟩ := Callbacks.Read_ended way room count
  unfold Reader.zip_source_read
  rw [if_neg nofun]
  unfold Reader.readOn
  rw [if_neg asked]
  dsimp only
  rw [outcome]
  exact ⟨rfl, failure⟩

/-- After a failed seek the reader is elsewhere, an error is taken for the end, and a read where the
source ends early goes on. -/
theorem buffered_mistaken :
    (∃ state, (machine fiveBytes plainLibzip 3).runAllowed (Answered fiveBytes plainLibzip)
        (Open fiveBytes 3) [.SeekSet 6] = some state ∧
      state.reader.callbacks.offset_ = -1 ∧ ¬state.Transparent fiveBytes) ∧
    (∃ state, (machine fiveBytes plainLibzip 3).runAllowed (Answered fiveBytes plainLibzip)
        (Open fiveBytes 3) [.SeekSet 6, .SeekSet 1, .Read 1 [[⟨true, none⟩]],
          .Read 1 [[⟨true, none⟩]]] = some state ∧
      .read 1 1 false (.returned [0]) ∈ state.log ∧ .read 2 1 false .overran ∈ state.log ∧
      ¬state.Transparent fiveBytes) ∧
    (∃ state, (machine fiveBytes plainLibzip 3).runAllowed (Answered fiveBytes plainLibzip)
        (Open fiveBytes 3) [.Read 4 [[⟨false, none⟩]]] = some state ∧
      .read 0 4 true (.returned []) ∈ state.log ∧ ¬state.Transparent fiveBytes) ∧
    ∀ count, ∃ state, (machine shortSource plainLibzip 3).run (Open shortSource 3)
        [.Read 2 [[⟨true, some [1, 2]⟩]], .Read 1 [List.replicate count ⟨true, some []⟩]] =
          some state ∧
      .read 2 1 false .reading ∈ state.log ∧ ¬state.Transparent shortSource := by
  refine ⟨⟨_, (some_get (by decide +kernel)).symm, by decide +kernel, fun right => ?_⟩,
    ⟨_, (some_get (by decide +kernel)).symm, by decide +kernel, by decide +kernel,
      fun right => ?_⟩,
    ⟨_, (some_get (by decide +kernel)).symm, by decide +kernel, fun right => ?_⟩,
    fun count => ?_⟩
  · exact absurd right.placed (by decide +kernel)
  · exact right.right (.read 2 1 false .overran) (by decide +kernel)
  · have wrong := right.right (.read 0 4 true (.returned [])) (by decide +kernel)
    exact wrong.2.2.2 rfl rfl
  · -- the first read empties the buffer, and the second one fills it with nothing
    let reader : Reader :=
      ⟨{buffer_ := [1, 2, 0], size_ := 5, offset_ := 2, offset_in_buffer_ := 2}, false⟩
    obtain ⟨outcome, failure⟩ :=
      @zip_source_read_ended reader 1 nofun (by decide) (by decide) count
    have listed : Entry.read 2 1 false .reading ∈
        [Entry.read 0 2 false (.returned [1, 2])] ++
          [.read 2 1 (reader.zip_source_read 1 [List.replicate count ⟨true, some []⟩]).failure
            (reader.zip_source_read 1 [List.replicate count ⟨true, some []⟩]).outcome] := by
      rw [outcome, failure]
      decide
    exact ⟨_, rfl, listed, fun right => right.right _ listed⟩

end Ika.BufferedZip
