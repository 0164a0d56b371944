import Mathlib.Data.List.Pairwise
import Mathlib.Data.List.Perm.Basic

/-! Key-value stores by their answers.

A store is one for a map when every answer it gives is one that the map may give; the answers to
the writes say which map that is from then on.
-/

set_option autoImplicit false

namespace KeyValue

inductive Call (Key Value : Type) where
  | HasKey (key : Key)
  | Read (key : Key)
  | Write (key : Key) (value : Value)
  | restart

inductive Answer (Value : Type) where
  | found (has : Bool)
  | data (value : Value)
  | done
  | error
  | exception

section Map

variable {Key Value : Type} [DecidableEq Key]

/-- A call, an answer that the map may give to it, and the map that this makes. -/
inductive Admits (map : Key → Option Value) :
    Call Key Value → Answer Value → (Key → Option Value) → Prop where
  | hasKey (key : Key) : Admits map (.HasKey key) (.found (map key).isSome) map
  | read {key : Key} {value : Value} : map key = some value →
      Admits map (.Read key) (.data value) map
  | missing {key : Key} : map key = none → Admits map (.Read key) .error map
  | written (key : Key) (value : Value) :
      Admits map (.Write key value) .done (Function.update map key (some value))
  | refused (key : Key) (value : Value) : Admits map (.Write key value) .error map
  | restarted : Admits map .restart .done map

inductive Behaves : (Key → Option Value) → List (Call Key Value × Answer Value) → Prop where
  | nil (map : Key → Option Value) : Behaves map []
  | cons {map after : Key → Option Value} {call : Call Key Value} {answer : Answer Value}
      {rest : List (Call Key Value × Answer Value)} :
      Admits map call answer after → Behaves after rest → Behaves map ((call, answer) :: rest)

variable [DecidableEq Value]

def next (map : Key → Option Value) : Call Key Value → Answer Value → Option (Key → Option Value)
  | .HasKey key, .found has => if has = (map key).isSome then some map else none
  | .Read key, .data value => if map key = some value then some map else none
  | .Read key, .error => if map key = none then some map else none
  | .Write key value, .done => some (Function.update map key (some value))
  | .Write _ _, .error => some map
  | .restart, .done => some map
  | _, _ => none

theorem admits_iff {map after : Key → Option Value} {call : Call Key Value}
    {answer : Answer Value} : Admits map call answer after ↔ next map call answer = some after := by
  constructor
  · intro admits
    cases admits with
    | hasKey key => exact if_pos rfl
    | read stored => exact if_pos stored
    | missing absent => exact if_pos absent
    | written => rfl
    | refused => rfl
    | restarted => rfl
  · intro may
    unfold next at may
    split at may
    · split_ifs at may with same
      cases may
      cases same
      exact .hasKey _
    · split_ifs at may with stored
      cases may
      exact .read stored
    · split_ifs at may with absent
      cases may
      exact .missing absent
    · cases may
      exact .written _ _
    · cases may
      exact .refused _ _
    · cases may
      exact .restarted
    · cases may

instance decidableBehaves : ∀ (trace : List (Call Key Value × Answer Value))
    (map : Key → Option Value), Decidable (Behaves map trace)
  | [], map => isTrue (.nil map)
  | (call, answer) :: rest, map =>
    match may : next map call answer with
    | none => isFalse fun
      | .cons admitted _ => nomatch may.symm.trans (admits_iff.mp admitted)
    | some after =>
      match decidableBehaves rest after with
      | isTrue behaves => isTrue (.cons (admits_iff.mpr may) behaves)
      | isFalse fails => isFalse fun
        | .cons admitted behaves =>
          fails (Option.some.inj (may.symm.trans (admits_iff.mp admitted)) ▸ behaves)

end Map

structure Store (Key Value State Event : Type) where
  call : Event → Call Key Value
  step : State → Event → Answer Value × State

namespace Store

variable {Key Value State Event : Type} (store : Store Key Value State Event)

def trace (state : State) : List Event → List (Call Key Value × Answer Value)
  | [] => []
  | event :: rest =>
    (store.call event, (store.step state event).1) :: trace (store.step state event).2 rest

def Meets (allowed : State → Event → Prop) (state : State) : List Event → Prop
  | [] => True
  | event :: rest => allowed state event ∧ Meets allowed (store.step state event).2 rest

instance decidableMeets {allowed : State → Event → Prop}
    [∀ state event, Decidable (allowed state event)] :
    ∀ (events : List Event) (state : State), Decidable (store.Meets allowed state events)
  | [], _ => inferInstanceAs (Decidable True)
  | _ :: rest, _ => @instDecidableAnd _ _ _ (decidableMeets rest _)

variable [DecidableEq Key]

theorem behaves {allowed : State → Event → Prop} (Represents : State → (Key → Option Value) → Prop)
    (keep : ∀ state map event, Represents state map → allowed state event →
      ∃ after, Admits map (store.call event) (store.step state event).1 after ∧
        Represents (store.step state event).2 after)
    {state : State} {map : Key → Option Value} (represents : Represents state map)
    (events : List Event) (meets : store.Meets allowed state events) :
    Behaves map (store.trace state events) := by
  induction events generalizing state map with
  | nil => exact .nil map
  | cons event rest ih =>
    obtain ⟨after, admitted, represented⟩ := keep state map event represents meets.1
    exact .cons admitted (ih represented meets.2)

end Store

end KeyValue

/-! The first match in a list where no two members match. -/

namespace UniqueMatch

open List

variable {α : Type} {test : α → Bool} {members others : List α}

def Single (test : α → Bool) (members : List α) : Prop :=
  members.Pairwise fun one other => ¬(test one = true ∧ test other = true)

theorem Single.eq (single : Single test members) {one other : α} (listed : one ∈ members)
    (listed' : other ∈ members) (matched : test one = true) (matched' : test other = true) :
    one = other := by
  by_contra differ
  have symmetric : Std.Symm fun one other : α => ¬(test one = true ∧ test other = true) :=
    ⟨fun _ _ apart both => apart both.symm⟩
  exact single.forall listed listed' differ ⟨matched, matched'⟩

theorem find?_of_perm (single : Single test members) (perm : others.Perm members) :
    others.find? test = members.find? test := by
  cases found : members.find? test with
  | none =>
    rw [List.find?_eq_none] at found ⊢
    exact fun one listed => found one (perm.mem_iff.mp listed)
  | some one =>
    have listed := mem_of_find?_eq_some found
    have matched := find?_some found
    cases found' : others.find? test with
    | none => exact absurd matched (List.find?_eq_none.mp found' one (perm.mem_iff.mpr listed))
    | some other =>
      have listed' := perm.mem_iff.mp (mem_of_find?_eq_some found')
      rw [single.eq listed' listed (find?_some found') matched]

end UniqueMatch
