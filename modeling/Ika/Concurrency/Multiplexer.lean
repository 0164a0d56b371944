import Mathlib.Algebra.BigOperators.Group.List.Basic
import Ika.Foundation.Machine

/-! A queue guarded by a mutex, with a handler that is called where it is full. -/

set_option autoImplicit false

namespace Ika.Concurrency

open List

variable {T : Type}

/-- A queue with what was put into it and what was taken out of it. No bound is zero. -/
structure ThreadSafeQueue (T : Type) where
  max_elements_ : Nat := 0
  max_elements_handler_ : List T → List T := id
  items_ : List T := []
  accepted : List T := []
  popped : List T := []

namespace ThreadSafeQueue

variable (queue : ThreadSafeQueue T)

def IsEmpty : Bool := queue.items_.isEmpty

def AtCapacity : Prop := queue.max_elements_ ≠ 0 ∧ queue.max_elements_ = queue.items_.length
  deriving Decidable

def DropItemsIfAtCapacity : ThreadSafeQueue T :=
  if queue.AtCapacity then {queue with items_ := queue.max_elements_handler_ queue.items_}
  else queue

def Push (item : T) : Bool × ThreadSafeQueue T :=
  let queue := queue.DropItemsIfAtCapacity
  if queue.AtCapacity then (false, queue)
  else
    (true, {queue with items_ := queue.items_ ++ [item], accepted := queue.accepted ++ [item]})

/-- It waits while the queue is empty. -/
def Pop : Option (T × ThreadSafeQueue T) :=
  match queue.items_ with
  | [] => none
  | item :: items => some (item, {queue with items_ := items, popped := queue.popped ++ [item]})

def Faithful : Prop := queue.accepted = queue.popped ++ queue.items_

variable {queue} {item : T}

theorem Push_of_room (room : ¬queue.AtCapacity) :
    queue.Push item =
      (true, {queue with
        items_ := queue.items_ ++ [item], accepted := queue.accepted ++ [item]}) := by
  unfold Push DropItemsIfAtCapacity
  rw [if_neg room]
  exact if_neg room

theorem Faithful.push (faithful : queue.Faithful) :
    Faithful {queue with
      items_ := queue.items_ ++ [item], accepted := queue.accepted ++ [item]} := by
  unfold Faithful at faithful ⊢
  dsimp only
  rw [faithful, append_assoc]

theorem Faithful.pop {items : List T} (faithful : queue.Faithful)
    (front : queue.items_ = item :: items) :
    Faithful {queue with items_ := items, popped := queue.popped ++ [item]} := by
  unfold Faithful at faithful ⊢
  dsimp only
  rw [faithful, front, append_assoc]
  rfl

end ThreadSafeQueue

def totalItems (queues : List (ThreadSafeQueue T)) : Nat :=
  (queues.map fun queue => queue.items_.length).sum

section Total

variable {queues : List (ThreadSafeQueue T)} {index : Nat} {queue : ThreadSafeQueue T}

theorem totalItems_set (found : queues[index]? = some queue) (after : ThreadSafeQueue T) :
    totalItems (queues.set index after) + queue.items_.length =
      totalItems queues + after.items_.length := by
  induction queues generalizing index with
  | nil => cases found
  | cons first rest ih =>
    unfold totalItems at ih ⊢
    cases index with
    | zero =>
      cases found
      rw [set_cons_zero, map_cons, sum_cons, map_cons, sum_cons]
      omega
    | succ index =>
      have rest := ih found
      rw [set_cons_succ, map_cons, sum_cons, map_cons, sum_cons]
      omega

theorem exists_of_totalItems (some' : 0 < totalItems queues) :
    ∃ (index : Nat) (queue : ThreadSafeQueue T),
      queues[index]? = some queue ∧ queue.items_ ≠ [] := by
  induction queues with
  | nil => exact absurd some' (Nat.lt_irrefl 0)
  | cons first rest ih =>
    by_cases empty : first.items_ = []
    · have later : 0 < totalItems rest := by
        unfold totalItems at some' ⊢
        rw [map_cons, sum_cons, empty] at some'
        simpa using some'
      obtain ⟨index, queue, found, some⟩ := ih later
      exact ⟨index + 1, queue, found, some⟩
    · exact ⟨0, first, rfl, empty⟩

end Total

end Ika.Concurrency

/-! Queues that many producers push to and one consumer pops from, with a semaphore that counts
their items. -/

namespace Ika.Concurrency

open Transition List Option

variable {T : Type}

inductive Consumer where
  | idle
  | selecting (index : Nat)
  | popping (index : Nat)
  deriving DecidableEq, Repr

inductive Caller where
  | Push
  | Pop
  deriving DecidableEq, Repr

structure Multiplexer (T : Type) where
  sem_items_ : Nat := 0
  queues_ : List (ThreadSafeQueue T) := []
  /-- The producers that pushed to a queue and are about to post. -/
  posting : List Nat := []
  consumer : Consumer := .idle
  dead : Option Caller := none

def RegisterQueue (multiplexer : Multiplexer T) (queue : ThreadSafeQueue T) :
    Nat × Multiplexer T :=
  (multiplexer.queues_.length, {multiplexer with queues_ := multiplexer.queues_ ++ [queue]})

inductive Event (T : Type) where
  | Push (producer idx : Nat) (item : T)
  | SemPost (producer : Nat)
  | SemWait
  | IsEmpty
  | Pop

namespace Multiplexer

variable (multiplexer : Multiplexer T)

/-- A producer pushes to its queue, and does not mind whether the item was taken. -/
def push (producer idx : Nat) (item : T) : Option (Multiplexer T) :=
  if producer ∈ multiplexer.posting then none
  else
    match multiplexer.queues_[idx]? with
    | none => some {multiplexer with dead := some .Push}
    | some queue =>
      some
        {multiplexer with
          queues_ := multiplexer.queues_.set idx (queue.Push item).2
          posting := producer :: multiplexer.posting}

def semPost (producer : Nat) : Option (Multiplexer T) :=
  if producer ∈ multiplexer.posting then
    some
      {multiplexer with
        sem_items_ := multiplexer.sem_items_ + 1
        posting := multiplexer.posting.erase producer}
  else none

def semWait : Option (Multiplexer T) :=
  match multiplexer.consumer, multiplexer.sem_items_ with
  | .idle, count + 1 =>
    some {multiplexer with sem_items_ := count, consumer := .selecting 0}
  | _, _ => none

/-- The selector takes the first queue that is not empty, one look after another. -/
def look : Option (Multiplexer T) :=
  match multiplexer.consumer with
  | .selecting index =>
    match multiplexer.queues_[index]? with
    | none => some {multiplexer with dead := some .Pop}
    | some queue =>
      some
        {multiplexer with
          consumer := if queue.IsEmpty then .selecting (index + 1) else .popping index}
  | _ => none

def pop : Option (Multiplexer T) :=
  match multiplexer.consumer with
  | .popping index =>
    multiplexer.queues_[index]?.bind fun queue =>
      queue.Pop.map fun popped =>
        {multiplexer with
          queues_ := multiplexer.queues_.set index popped.2
          consumer := .idle}
  | _ => none

def step (event : Event T) : Option (Multiplexer T) :=
  if multiplexer.dead = none then
    match event with
    | .Push producer idx item => multiplexer.push producer idx item
    | .SemPost producer => multiplexer.semPost producer
    | .SemWait => multiplexer.semWait
    | .IsEmpty => multiplexer.look
    | .Pop => multiplexer.pop
  else none

end Multiplexer

def Registered (multiplexer : Multiplexer T) : Prop :=
  ∃ queues : List (ThreadSafeQueue T),
    (∀ queue ∈ queues, queue.items_ = [] ∧ queue.accepted = [] ∧ queue.popped = []) ∧
      multiplexer = queues.foldl (fun multiplexer queue => (RegisterQueue multiplexer queue).2) {}

def machine (T : Type) : Machine (Multiplexer T) (Event T) where
  init := Registered
  step := Multiplexer.step

def Allowed (multiplexer : Multiplexer T) : Event T → Prop
  | .Push _ idx _ => ∀ queue ∈ multiplexer.queues_[idx]?, ¬queue.AtCapacity
  | _ => True

instance (multiplexer : Multiplexer T) (event : Event T) :
    Decidable (Allowed multiplexer event) := by
  cases event <;> unfold Allowed <;> infer_instance

/-- The semaphore counts the items, none is lost, doubled or out of order, and no `Pop` fails. -/
structure Multiplexer.Sound (multiplexer : Multiplexer T) : Prop where
  counted : multiplexer.posting = [] → multiplexer.consumer = .idle →
    multiplexer.sem_items_ = totalItems multiplexer.queues_
  faithful : ∀ queue ∈ multiplexer.queues_, queue.Faithful
  alive : multiplexer.dead ≠ some .Pop

def HasItem (multiplexer : Multiplexer T) (index : Nat) : Prop :=
  ∃ (later : Nat) (queue : ThreadSafeQueue T), index ≤ later ∧
    multiplexer.queues_[later]? = some queue ∧ queue.items_ ≠ []

/-- The item that the consumer has obtained from the semaphore, and not yet taken. -/
def Consumer.owed : Consumer → Nat
  | .idle => 0
  | _ => 1

structure Multiplexer.Kept (multiplexer : Multiplexer T) : Prop where
  /-- Every item is counted, is about to be, or is the consumer's. -/
  total : totalItems multiplexer.queues_ =
    multiplexer.sem_items_ + multiplexer.posting.length + multiplexer.consumer.owed
  faithful : ∀ queue ∈ multiplexer.queues_, queue.Faithful
  selects : ∀ index, multiplexer.consumer = .selecting index → HasItem multiplexer index
  pops : ∀ index, multiplexer.consumer = .popping index →
    ∃ queue, multiplexer.queues_[index]? = some queue ∧ queue.items_ ≠ []
  alive : multiplexer.dead ≠ some .Pop

namespace Multiplexer.Kept

variable {multiplexer after : Multiplexer T}

theorem registered (fresh : Registered multiplexer) : multiplexer.Kept := by
  obtain ⟨queues, empty, rfl⟩ := fresh
  have all : ∀ (rest : List (ThreadSafeQueue T)) (before : Multiplexer T),
      rest.foldl (fun multiplexer queue => (RegisterQueue multiplexer queue).2) before =
        {before with queues_ := before.queues_ ++ rest} := by
    intro rest
    induction rest with
    | nil =>
      intro before
      rw [foldl_nil, append_nil]
    | cons queue rest ih =>
      intro before
      rw [foldl_cons, ih]
      unfold RegisterQueue
      dsimp only
      rw [append_assoc]
      rfl
  rw [all]
  exact
    { total := by
        have none : ∀ queue ∈ queues, queue.items_.length = 0 := fun queue listed => by
          rw [(empty queue listed).1]
          rfl
        unfold totalItems
        rw [nil_append, map_congr_left none, map_const', sum_replicate]
        rfl
      faithful := fun queue listed => by
        obtain ⟨items, accepted, popped⟩ := empty queue listed
        unfold ThreadSafeQueue.Faithful
        rw [items, accepted, popped]
        rfl
      selects := nofun
      pops := nofun
      alive := nofun}

theorem some_set {queue : ThreadSafeQueue T} {idx later : Nat} {item : T}
    (found : multiplexer.queues_[later]? = some queue) (some' : queue.items_ ≠ [])
    (pushed : ThreadSafeQueue T) (here : multiplexer.queues_[idx]? = some pushed) :
    ∃ queue, (multiplexer.queues_.set idx
        {pushed with
          items_ := pushed.items_ ++ [item],
          accepted := pushed.accepted ++ [item]})[later]? = some queue ∧ queue.items_ ≠ [] := by
  by_cases same : idx = later
  · subst same
    have inside := (List.getElem?_eq_some_iff.mp here).1
    exact ⟨_, getElem?_set_self inside, append_ne_nil_of_right_ne_nil _ nofun⟩
  · exact ⟨queue, (getElem?_set_ne same).trans found, some'⟩

section

variable (kept : multiplexer.Kept)
include kept

theorem push {producer idx : Nat} {item : T}
    (room : ∀ queue ∈ multiplexer.queues_[idx]?, ¬queue.AtCapacity)
    (moved : multiplexer.push producer idx item = some after) : after.Kept := by
  unfold Multiplexer.push at moved
  split at moved
  · cases moved
  · split at moved
    · cases moved
      exact {kept with alive := nofun}
    · rename_i queue here
      cases moved
      rw [ThreadSafeQueue.Push_of_room (room queue here)]
      dsimp only
      exact
        { total := by
            have total := kept.total
            have changed := totalItems_set here {queue with
              items_ := queue.items_ ++ [item], accepted := queue.accepted ++ [item]}
            dsimp only at changed ⊢
            rw [length_append, length_singleton] at changed
            rw [length_cons]
            omega
          faithful := fun other listed => by
            rcases mem_or_eq_of_mem_set listed with old | new
            · exact kept.faithful other old
            · rw [new]
              exact (kept.faithful queue (mem_of_getElem? here)).push
          selects := fun index selecting => by
            obtain ⟨later, other, behind, found, some⟩ := kept.selects index selecting
            obtain ⟨other, found, some⟩ := some_set found some queue here
            exact ⟨later, other, behind, found, some⟩
          pops := fun index popping => by
            obtain ⟨other, found, some⟩ := kept.pops index popping
            exact some_set found some queue here
          alive := kept.alive}

theorem semPost {producer : Nat}
    (moved : multiplexer.semPost producer = some after) : after.Kept := by
  unfold Multiplexer.semPost at moved
  split at moved
  · rename_i listed
    cases moved
    exact {kept with
      total := by
        have total := kept.total
        have fewer := length_erase_of_mem listed
        have positive := length_pos_of_mem listed
        dsimp only
        omega}
  · cases moved

theorem semWait (moved : multiplexer.semWait = some after) : after.Kept := by
  unfold Multiplexer.semWait at moved
  split at moved
  · rename_i count idle counted
    cases moved
    have total := kept.total
    rw [idle, counted] at total
    have some := @exists_of_totalItems _ multiplexer.queues_ (by omega)
    obtain ⟨index, queue, found, some⟩ := some
    exact {kept with
      total := by
        unfold Consumer.owed at total ⊢
        dsimp only at total ⊢
        omega
      selects := fun start selecting => by
        cases selecting
        exact ⟨index, queue, Nat.zero_le _, found, some⟩
      pops := nofun}
  · cases moved

theorem look (moved : multiplexer.look = some after) : after.Kept := by
  unfold Multiplexer.look at moved
  split at moved
  · rename_i index selecting
    obtain ⟨later, other, behind, found, some⟩ := kept.selects index selecting
    have owed := kept.total
    rw [selecting] at owed
    split at moved
    · rename_i missing
      have inside := (List.getElem?_eq_some_iff.mp found).1
      have outside := List.getElem?_eq_none_iff.mp missing
      omega
    · rename_i queue here
      cases moved
      by_cases empty : queue.IsEmpty = true
      · rw [if_pos empty]
        exact {kept with
          total := owed
          selects := fun next selecting => by
            cases selecting
            refine ⟨later, other, ?_, found, some⟩
            by_contra before
            have same : later = index := by omega
            rw [same, here] at found
            cases found
            exact some (List.isEmpty_iff.mp empty)
          pops := nofun}
      · rw [if_neg empty]
        exact {kept with
          total := owed
          selects := nofun
          pops := fun next popping => by
            cases popping
            exact ⟨queue, here, fun none => empty (List.isEmpty_iff.mpr none)⟩}
  · cases moved

theorem pop (moved : multiplexer.pop = some after) : after.Kept := by
  unfold Multiplexer.pop at moved
  split at moved
  · rename_i index popping
    obtain ⟨queue, here, taken⟩ := bind_eq_some_iff.mp moved
    obtain ⟨popped, took, rfl⟩ := map_eq_some_iff.mp taken
    unfold ThreadSafeQueue.Pop at took
    split at took
    · cases took
    · rename_i item items front
      cases took
      have total := kept.total
      rw [popping] at total
      have changed := totalItems_set here {queue with
        items_ := items, popped := queue.popped ++ [item]}
      exact
        { total := by
            rw [front, length_cons] at changed
            unfold Consumer.owed at total ⊢
            dsimp only at total changed ⊢
            omega
          faithful := fun other listed => by
            rcases mem_or_eq_of_mem_set listed with old | new
            · exact kept.faithful other old
            · rw [new]
              exact (kept.faithful queue (mem_of_getElem? here)).pop front
          selects := nofun
          pops := nofun
          alive := kept.alive}
  · cases moved

theorem step {event : Event T} (allowed : Allowed multiplexer event)
    (moved : multiplexer.step event = some after) : after.Kept := by
  obtain ⟨-, moved⟩ := ite_none_right_eq_some.mp moved
  cases event with
  | Push producer idx item => exact kept.push allowed moved
  | SemPost producer => exact kept.semPost moved
  | SemWait => exact kept.semWait moved
  | IsEmpty => exact kept.look moved
  | Pop => exact kept.pop moved

end

end Multiplexer.Kept

/-- As long as no item is pushed to a full queue, the queues and the semaphore agree. -/
theorem multiplexer_sound {multiplexer : Multiplexer T}
    (reached : (machine T).Reaches Allowed multiplexer) : multiplexer.Sound := by
  have kept : multiplexer.Kept :=
    reached.invariant (fun _ fresh => Multiplexer.Kept.registered fresh)
      fun _ _ _ known allowed moved => known.step allowed moved
  refine ⟨fun quiet idle => ?_, kept.faithful, kept.alive⟩
  have total := kept.total
  rw [quiet, idle] at total
  exact total.symm

def hostQueues : Multiplexer Nat :=
  (RegisterQueue (RegisterQueue {} {max_elements_ := 20}).2 {max_elements_ := 20}).2

theorem registered_hostQueues : Registered hostQueues :=
  ⟨[{max_elements_ := 20}, {max_elements_ := 20}], by decide, rfl⟩

/-- Two producers at two queues, and the consumer in between. -/
theorem multiplexer_sound_shared :
    Multiplexer.Sound
      (((machine Nat).runAllowed Allowed hostQueues
        [.Push 0 1 7, .Push 1 0 8, .SemPost 0, .SemWait, .IsEmpty, .SemPost 1, .Pop, .Push 0 1 9,
          .SemWait, .IsEmpty, .IsEmpty, .Pop, .SemPost 0]).getD hostQueues) :=
  multiplexer_sound (Machine.Reaches.getD_runAllowed _ (.start registered_hostQueues)
    (by decide +kernel))

def flood : List (Event Nat) :=
  (List.range 21).flatMap fun item => [.Push 0 0 item, .SemPost 0]

def drain : List (Event Nat) :=
  (List.range 20).flatMap fun _ => [.SemWait, .IsEmpty, .Pop]

/-- After a queue was flooded the consumer finds no item, and the process dies. -/
theorem full_queue_kills :
    (∃ multiplexer, (machine Nat).run hostQueues flood = some multiplexer ∧
      multiplexer.posting = [] ∧ multiplexer.consumer = .idle ∧
      multiplexer.sem_items_ = 21 ∧ totalItems multiplexer.queues_ = 20 ∧ ¬multiplexer.Sound) ∧
    ∃ multiplexer,
      (machine Nat).run hostQueues (flood ++ drain ++ [.SemWait, .IsEmpty, .IsEmpty, .IsEmpty]) =
        some multiplexer ∧
      multiplexer.dead = some .Pop ∧ ¬multiplexer.Sound := by
  refine ⟨⟨_, (some_get (by decide +kernel)).symm, by decide +kernel, by decide +kernel,
      by decide +kernel, by decide +kernel, fun sound => ?_⟩,
    ⟨_, (some_get (by decide +kernel)).symm, by decide +kernel, fun sound => ?_⟩⟩
  · exact absurd (sound.counted (by decide +kernel) (by decide +kernel)) (by decide +kernel)
  · exact sound.alive (by decide +kernel)

end Ika.Concurrency
