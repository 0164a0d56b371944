import Ika.Foundation.Machine

/-! The clock that paces the captures, and the numbers the captures get.

Instants and durations are nanoseconds. A product saturates and a quotient is cut off at 64
bits, as in the source.
-/

set_option autoImplicit false

namespace Ika.EmulatedCamera

open Transition Option Nat

structure CaptureClock where
  interval : Nat
  stream_start : Nat
  next_tick : Nat
  ticks_count : Nat
  deriving DecidableEq, Repr

namespace CaptureClock

variable (clock : CaptureClock)

def as_u64 (nanos : Nat) : Nat := nanos % 2 ^ 64

def saturating_mul (left right : Nat) : Nat := min (left * right) (2 ^ 64 - 1)

def new (interval now : Nat) : CaptureClock := ⟨interval, now, now, 0⟩

def start (now : Nat) : CaptureClock :=
  {clock with stream_start := now, ticks_count := 1, next_tick := now + clock.interval}

def due (ticks_count : Nat) : Nat :=
  clock.stream_start + saturating_mul ticks_count (as_u64 clock.interval)

def scheduled (ticks_count : Nat) : CaptureClock :=
  {clock with
    ticks_count := as_u64 (ticks_count + 1),
    next_tick := clock.due (as_u64 (ticks_count + 1))}

/-- The number of ticks that were dropped; there is none if the assertion fails. -/
def advance (now : Nat) : Option (CaptureClock × Nat) :=
  let target := clock.due clock.ticks_count
  if target + clock.interval < now then
    let elapsed := now - clock.stream_start
    let expected_ticks_count := as_u64 (elapsed / clock.interval)
    -- The assertion that the schedule does not run backwards.
    if expected_ticks_count < clock.ticks_count then none
    else some (clock.scheduled expected_ticks_count, expected_ticks_count - clock.ticks_count)
  else some (clock.scheduled clock.ticks_count, 0)

end CaptureClock

structure Numbered where
  sequence : Nat
  tick : Nat
  deriving DecidableEq, Repr

structure Pacing where
  clock : CaptureClock
  iteration : Nat
  reading : Nat
  captures : List Numbered
  panicked : Bool
  deriving DecidableEq, Repr

namespace Pacing

variable (pacing : Pacing)

def start_capture (now : Nat) : Pacing :=
  {pacing with clock := pacing.clock.start now, iteration := 0, reading := now}

def produce_capture (now : Nat) : Pacing :=
  let sequence := pacing.iteration % 2 ^ 32
  let captures := pacing.captures ++ [⟨sequence, pacing.clock.ticks_count⟩]
  let produced := {pacing with iteration := pacing.iteration + 1, reading := now, captures}
  match pacing.clock.advance now with
  | none => {produced with panicked := true}
  | some (clock, dropped) => {produced with clock, iteration := pacing.iteration + 1 + dropped}

inductive Event where
  | start_capture (now : Nat)
  | produce_capture (now : Nat)

/-- Time does not run backwards, and a capture is made no earlier than it is due. -/
def step (pacing : Pacing) : Event → Option Pacing
  | .start_capture now =>
    if pacing.reading ≤ now then some (pacing.start_capture now) else none
  | .produce_capture now =>
    if pacing.reading ≤ now ∧ pacing.clock.next_tick ≤ now then some (pacing.produce_capture now)
    else none

/-- The first command that reaches a new clock starts it. -/
def machine (interval : Nat) : Machine Pacing Event where
  init pacing := ∃ made now, made ≤ now ∧
    pacing = start_capture ⟨.new interval made, 0, made, [], false⟩ now
  step := step

/-- The next deadline is less than 2^64 nanoseconds after the start. -/
def Unsaturated (pacing : Pacing) : Event → Prop
  | .start_capture _ => True
  | .produce_capture now => now - pacing.clock.stream_start + pacing.clock.interval < 2 ^ 64

instance (pacing : Pacing) (event : Event) : Decidable (pacing.Unsaturated event) :=
  match event with
  | .start_capture _ => inferInstanceAs (Decidable True)
  | .produce_capture _ => inferInstanceAs (Decidable (_ < _))

/-- The schedule is where the start put it, and the captures are numbered by their ticks. -/
structure OnSchedule (pacing : Pacing) : Prop where
  running : pacing.panicked = false
  due : pacing.clock.next_tick =
    pacing.clock.stream_start + pacing.clock.ticks_count * pacing.clock.interval
  ahead : pacing.reading ≤ pacing.clock.next_tick
  numbered : ∀ capture ∈ pacing.captures, capture.sequence = (capture.tick - 1) % 2 ^ 32

/-- A capture moves the clock on by one tick and those it drops, whose deadlines have passed. -/
structure Advances (pacing : Pacing) (now : Nat) (after : Pacing) (dropped : Nat) : Prop where
  advanced : pacing.clock.advance now = some (after.clock, dropped)
  ticks : after.clock.ticks_count = pacing.clock.ticks_count + dropped + 1
  skipped : ∀ tick, pacing.clock.ticks_count < tick → tick < after.clock.ticks_count →
    pacing.clock.stream_start + tick * pacing.clock.interval ≤ now
  started : after.clock.stream_start = pacing.clock.stream_start
  latest : after.captures = pacing.captures ++
    [⟨(pacing.clock.ticks_count - 1) % 2 ^ 32, pacing.clock.ticks_count⟩]

structure Kept (interval : Nat) (pacing : Pacing) : Prop extends OnSchedule pacing where
  interval_eq : pacing.clock.interval = interval
  counted : pacing.clock.ticks_count = pacing.iteration + 1

variable {pacing : Pacing} {interval : Nat}

theorem Kept.start_capture (kept : pacing.Kept interval) (now : Nat) :
    (pacing.start_capture now).Kept interval where
  running := kept.running
  due := congrArg _ (Nat.one_mul _).symm
  ahead := Nat.le_add_right _ _
  numbered := kept.numbered
  interval_eq := kept.interval_eq
  counted := rfl

variable {ticks_count now : Nat}

theorem due_eq {clock : CaptureClock} (small : clock.interval < 2 ^ 64)
    (bound : ticks_count * clock.interval < 2 ^ 64) :
    clock.due ticks_count = clock.stream_start + ticks_count * clock.interval := by
  unfold CaptureClock.due CaptureClock.saturating_mul CaptureClock.as_u64
  rw [mod_eq_of_lt small]
  omega

theorem scheduled_eq {clock : CaptureClock} (positive : 0 < clock.interval)
    (bound : (ticks_count + 1) * clock.interval < 2 ^ 64) :
    clock.scheduled ticks_count = {clock with
      ticks_count := ticks_count + 1
      next_tick := clock.stream_start + (ticks_count + 1) * clock.interval} := by
  have count : ticks_count + 1 ≤ (ticks_count + 1) * clock.interval :=
    Nat.le_mul_of_pos_right _ positive
  have small : clock.interval ≤ (ticks_count + 1) * clock.interval :=
    Nat.le_mul_of_pos_left _ (succ_pos _)
  unfold CaptureClock.scheduled CaptureClock.as_u64
  rw [mod_eq_of_lt (by omega), due_eq (by omega) bound]

theorem Kept.advance (kept : pacing.Kept interval) (positive : 0 < interval)
    (late : pacing.clock.next_tick ≤ now)
    (unsaturated : now - pacing.clock.stream_start + interval < 2 ^ 64) :
    ∃ dropped, pacing.clock.advance now = some ({pacing.clock with
        ticks_count := pacing.clock.ticks_count + dropped + 1
        next_tick := pacing.clock.stream_start +
          (pacing.clock.ticks_count + dropped + 1) * interval}, dropped) ∧
      (pacing.clock.ticks_count + dropped) * interval ≤ now - pacing.clock.stream_start ∧
      now ≤ pacing.clock.stream_start + (pacing.clock.ticks_count + dropped + 1) * interval := by
  obtain ⟨⟨running, due, ahead, numbered⟩, rfl, counted⟩ := kept
  have target : pacing.clock.due pacing.clock.ticks_count = pacing.clock.stream_start +
      pacing.clock.ticks_count * pacing.clock.interval := due_eq (by omega) (by omega)
  unfold CaptureClock.advance
  rw [target]
  dsimp only
  split
  case isTrue overrun =>
    -- more than an interval late: the ticks that have passed are counted by a division
    generalize quotient : (now - pacing.clock.stream_start) / pacing.clock.interval = expected
    have below : expected * pacing.clock.interval ≤ now - pacing.clock.stream_start :=
      quotient ▸ div_mul_le_self _ _
    have above : now - pacing.clock.stream_start < (expected + 1) * pacing.clock.interval := by
      rw [← quotient, Nat.mul_comm]
      exact lt_mul_div_succ _ positive
    have ordered : pacing.clock.ticks_count ≤ expected := by
      rw [← quotient]
      exact (Nat.le_div_iff_mul_le positive).mpr (by omega)
    have count : expected ≤ expected * pacing.clock.interval := Nat.le_mul_of_pos_right _ positive
    have truncated : CaptureClock.as_u64 expected = expected := mod_eq_of_lt (by omega)
    have next : (expected + 1) * pacing.clock.interval < 2 ^ 64 := by
      rw [succ_mul]
      omega
    obtain ⟨dropped, rfl⟩ := Nat.exists_eq_add_of_le ordered
    refine ⟨dropped, ?_, below, by omega⟩
    rw [truncated, if_neg (by omega), scheduled_eq positive next, Nat.add_sub_cancel_left]
  case isFalse onTime =>
    -- less than an interval late: the clock catches up with the next tick
    have next : (pacing.clock.ticks_count + 1) * pacing.clock.interval < 2 ^ 64 := by
      rw [succ_mul]
      omega
    refine ⟨0, ?_, ?_, ?_⟩
    · rw [scheduled_eq positive next]
    · rw [Nat.add_zero]
      omega
    · rw [Nat.add_zero, succ_mul]
      omega

theorem Kept.produce_capture (kept : pacing.Kept interval) (positive : 0 < interval)
    (late : pacing.clock.next_tick ≤ now)
    (unsaturated : pacing.Unsaturated (.produce_capture now)) :
    (pacing.produce_capture now).Kept interval ∧
      ∃ dropped, pacing.Advances now (pacing.produce_capture now) dropped := by
  rw [Unsaturated, kept.interval_eq] at unsaturated
  obtain ⟨dropped, advanced, passed, ahead⟩ := kept.advance positive late unsaturated
  have numbered : pacing.iteration = pacing.clock.ticks_count - 1 := by rw [kept.counted]; rfl
  unfold Pacing.produce_capture
  rw [advanced]
  refine ⟨⟨⟨kept.running, ?_, ahead, ?_⟩, kept.interval_eq, ?_⟩, dropped, advanced, rfl, ?_, rfl, ?_⟩
  · simp only [kept.interval_eq]
  · intro capture member
    rcases List.mem_append.mp member with old | latest
    · exact kept.numbered capture old
    · rw [List.mem_singleton.mp latest, numbered]
  · have := kept.counted
    simp only
    omega
  · intro tick _ before
    have := Nat.mul_le_mul_right pacing.clock.interval (le_of_lt_succ before)
    rw [kept.interval_eq] at this ⊢
    have := kept.due
    omega
  · rw [numbered]

theorem Kept.of_reaches (positive : 0 < interval)
    (reached : (machine interval).Reaches Unsaturated pacing) : pacing.Kept interval := by
  refine reached.invariant ?_ ?_
  · rintro _ ⟨made, now, -, rfl⟩
    exact ⟨⟨rfl, congrArg _ (Nat.one_mul _).symm, Nat.le_add_right _ _, nofun⟩, rfl, rfl⟩
  · intro state event after kept unsaturated moved
    cases event with
    | start_capture now =>
      obtain ⟨-, same⟩ := ite_none_right_eq_some.mp moved
      cases same
      exact kept.start_capture now
    | produce_capture now =>
      obtain ⟨⟨-, late⟩, same⟩ := ite_none_right_eq_some.mp moved
      cases same
      exact (kept.produce_capture positive late unsaturated).1

end Pacing

/-- The schedule never drifts or bursts and no assertion fails, while the deadlines fit 64 bits. -/
theorem captures_on_schedule {interval : Nat} (positive : 1 ≤ interval) {pacing : Pacing}
    (reached : (Pacing.machine interval).Reaches Pacing.Unsaturated pacing) :
    pacing.OnSchedule ∧ ∀ now after, pacing.Unsaturated (.produce_capture now) →
      pacing.step (.produce_capture now) = some after →
      after.OnSchedule ∧ ∃ dropped, pacing.Advances now after dropped := by
  have kept := Pacing.Kept.of_reaches positive reached
  refine ⟨kept.toOnSchedule, fun now after unsaturated moved => ?_⟩
  obtain ⟨⟨-, late⟩, same⟩ := ite_none_right_eq_some.mp moved
  cases same
  obtain ⟨next, advances⟩ := kept.produce_capture positive late unsaturated
  exact ⟨next.toOnSchedule, advances⟩

def hundredLater : Pacing :=
  Pacing.produce_capture ⟨⟨1, 0, 1, 1⟩, 0, 0, [], false⟩ 100

theorem captures_on_schedule_hundredLater :
    hundredLater.OnSchedule ∧ ∀ now after, hundredLater.Unsaturated (.produce_capture now) →
      hundredLater.step (.produce_capture now) = some after →
      after.OnSchedule ∧ ∃ dropped, hundredLater.Advances now after dropped := by
  refine captures_on_schedule Nat.one_pos (.take (.produce_capture 100)
    (.start ⟨0, 0, Nat.le_refl _, rfl⟩) ?_ ?_)
  · decide
  · decide

/-- 2^64 nanoseconds after the start the quotient loses its top bit, and the assertion fails. -/
theorem advance_panics : ¬∀ pacing, (Pacing.machine 1).Reachable pacing → pacing.OnSchedule := by
  intro scheduled
  have started : (Pacing.machine 1).Reachable ⟨⟨1, 0, 1, 1⟩, 0, 0, [], false⟩ :=
    .start ⟨0, 0, Nat.le_refl _, rfl⟩
  have late : (Pacing.machine 1).Reachable
      (Pacing.produce_capture ⟨⟨1, 0, 1, 1⟩, 0, 0, [], false⟩ (2 ^ 64)) :=
    started.take (.produce_capture (2 ^ 64)) trivial (by decide)
  exact absurd (scheduled _ late).running (by decide)

end Ika.EmulatedCamera
