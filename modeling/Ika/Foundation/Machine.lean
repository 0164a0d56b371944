import Mathlib.Algebra.Order.Ring.Int

/-!
Labelled transition machines, their runs and the rules of invariants.

An event that cannot happen in a state has no successor there. A run may be restricted to the steps
a condition allows, so that the states reached under an assumption about the environment are those
of the restricted runs.
-/

set_option autoImplicit false

namespace Transition

open Option Function

structure Machine (State Event : Type) where
  init : State → Prop
  step : State → Event → Option State

namespace Machine

variable {State Event : Type} (machine : Machine State Event)

inductive Reaches (allowed : State → Event → Prop) : State → Prop where
  | start {state : State} : machine.init state → Reaches allowed state
  | next {state after : State} {event : Event} : Reaches allowed state →
      allowed state event → machine.step state event = some after → Reaches allowed after

def Reachable : State → Prop := machine.Reaches fun _ _ => True

variable {machine} {allowed : State → Event → Prop}

theorem Reaches.invariant {Inv : State → Prop} (base : ∀ state, machine.init state → Inv state)
    (keep : ∀ state event after, Inv state → allowed state event →
      machine.step state event = some after → Inv after)
    {state : State} (reached : machine.Reaches allowed state) : Inv state := by
  induction reached with
  | start first => exact base _ first
  | next _ granted moved ih => exact keep _ _ _ ih granted moved

theorem Reaches.invariant_with (Known : State → Prop) {Inv : State → Prop}
    (known : ∀ state, machine.Reaches allowed state → Known state)
    (base : ∀ state, machine.init state → Inv state)
    (keep : ∀ state event after, Known state → Inv state → allowed state event →
      machine.step state event = some after → Inv after)
    {state : State} (reached : machine.Reaches allowed state) : Inv state := by
  induction reached with
  | start first => exact base _ first
  | next before granted moved ih => exact keep _ _ _ (known _ before) ih granted moved

variable {state last other : State} (events : List Event)

theorem Reaches.take {after : State} (event : Event) (reached : machine.Reaches allowed state)
    (granted : allowed state event) (moved : machine.step state event = some after) :
    machine.Reaches allowed after :=
  .next reached granted moved

variable (machine) in
def run (state : State) : List Event → Option State
  | [] => some state
  | event :: rest => (machine.step state event).bind fun after => run after rest

variable (machine) in
/-- As `run`, with each step checked against the condition. -/
def runAllowed (allowed : State → Event → Prop) [∀ state event, Decidable (allowed state event)]
    (state : State) : List Event → Option State
  | [] => some state
  | event :: rest =>
    if allowed state event then
      (machine.step state event).bind fun after => runAllowed allowed after rest
    else none

theorem Reaches.of_runAllowed [∀ state event, Decidable (allowed state event)] {state : State}
    (reached : machine.Reaches allowed state)
    (ran : machine.runAllowed allowed state events = some last) : machine.Reaches allowed last := by
  induction events generalizing state with
  | nil =>
    cases ran
    exact reached
  | cons event rest ih =>
    simp only [runAllowed] at ran
    split at ran
    · rename_i granted
      obtain ⟨after, moved, ran⟩ := bind_eq_some_iff.mp ran
      exact ih (.next reached granted moved) ran
    · cases ran

theorem Reaches.getD_runAllowed [∀ state event, Decidable (allowed state event)] {state : State}
    (reached : machine.Reaches allowed state)
    (ran : (machine.runAllowed allowed state events).isSome) :
    machine.Reaches allowed ((machine.runAllowed allowed state events).getD other) := by
  obtain ⟨last, ran⟩ := isSome_iff_exists.mp ran
  rw [ran]
  exact .of_runAllowed events reached ran

theorem Reachable.of_run (reached : machine.Reachable state)
    (ran : machine.run state events = some last) : machine.Reachable last := by
  induction events generalizing state with
  | nil =>
    cases ran
    exact reached
  | cons event rest ih =>
    obtain ⟨after, moved, ran⟩ := bind_eq_some_iff.mp ran
    exact ih (.next reached trivial moved) ran

theorem Reachable.getD_run (reached : machine.Reachable state)
    (ran : (machine.run state events).isSome) :
    machine.Reachable ((machine.run state events).getD other) := by
  obtain ⟨last, ran⟩ := isSome_iff_exists.mp ran
  rw [ran]
  exact .of_run events reached ran

section Product

variable {Index : Type} [DecidableEq Index]

/-- One machine for each index; an event moves the machine it names. -/
def product (machines : Index → Machine State Event) : Machine (Index → State) (Index × Event) where
  init states := ∀ index, (machines index).init (states index)
  step states event :=
    ((machines event.1).step (states event.1) event.2).map (Function.update states event.1)

def each (allowed : Index → State → Event → Prop) (states : Index → State)
    (event : Index × Event) : Prop :=
  allowed event.1 (states event.1) event.2

variable {allowed : Index → State → Event → Prop}

instance [∀ index state event, Decidable (allowed index state event)] (states : Index → State)
    (event : Index × Event) : Decidable (each allowed states event) :=
  inferInstanceAs (Decidable (allowed _ _ _))

theorem Reaches.component {machines : Index → Machine State Event} {states : Index → State}
    (reached : (product machines).Reaches (each allowed) states) (index : Index) :
    (machines index).Reaches (allowed index) (states index) := by
  induction reached with
  | start first => exact .start (first index)
  | @next states after event _ granted moved ih =>
    obtain ⟨moved', step, rfl⟩ := map_eq_some_iff.mp moved
    by_cases same : index = event.1
    · subst same
      rw [update_self]
      exact .next ih granted step
    · rw [update_of_ne same]
      exact ih

end Product

end Machine

section Calls

variable {State Call : Type} (after : State → Call → State)

def Along (holds : State → Call → Prop) : State → List Call → Prop
  | _, [] => True
  | state, call :: rest => holds state call ∧ Along holds (after state call) rest

instance Along.decidable {holds : State → Call → Prop}
    [∀ state call, Decidable (holds state call)] :
    (state : State) → (calls : List Call) → Decidable (Along after holds state calls)
  | _, [] => isTrue trivial
  | state, call :: rest =>
    have : Decidable (Along after holds (after state call) rest) := Along.decidable _ rest
    inferInstanceAs (Decidable (_ ∧ _))

variable {after}

/-- Two properties of a call that agree under an invariant agree along every sequence. -/
theorem Along.iff (Inv : State → Prop) {given first second : State → Call → Prop}
    (keep : ∀ state call, Inv state → given state call → Inv (after state call))
    (same : ∀ state call, Inv state → given state call → (first state call ↔ second state call))
    {state : State} {calls : List Call} (inv : Inv state) (all : Along after given state calls) :
    Along after first state calls ↔ Along after second state calls := by
  induction calls generalizing state with
  | nil => exact Iff.rfl
  | cons call rest ih =>
    exact and_congr (same state call inv all.1) (ih (keep state call inv all.1) all.2)

end Calls

end Transition
