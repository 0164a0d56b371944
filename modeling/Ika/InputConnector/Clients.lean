import Mathlib.Data.FinEnum
import Ika.InputConnector.Contacts

/-! Clients whose contacts do not meet: what the guest sees of them. -/

set_option autoImplicit false

namespace Ika.InputConnector

open List

def Lifts (down : Bool) (slots : List MultitouchSlot) : Prop := down = false ∧ slots ≠ []
  deriving Decidable

def Apart (state : State) : Event → Prop
  | .createSink _ => True
  | .send sink slots down =>
    if Lifts down slots then
      -- nothing else runs, and every contact there is comes up
      state.calls = [] ∧
        ∀ contact ∈ state.live, contact.1.1 = sink ∧ contact.1.2 ∈ slots.map MultitouchSlot.id
    else
      (∀ call ∈ state.calls, ¬Lifts call.down call.slots ∧
        ∀ id ∈ slots.map MultitouchSlot.id, id ∉ call.ids) ∧
      ∀ contact ∈ state.live, contact.1.2 ∈ slots.map MultitouchSlot.id → contact.1.1 = sink
  | .advance _ => state.device.active_slots_.length < 2 ^ 31 ∧ state.device.tracking_id_ + 1 ≠ -1
  | .write _ => True
  | .destroySink sink => ∀ contact ∈ state.live, contact.1.1 ≠ sink

instance (state : State) (event : Event) : Decidable (Apart state event) := by
  cases event <;> unfold Apart <;> infer_instance

def TouchDevice.slotAt (device : TouchDevice) (id : Int32) : Option Nat := device.find .device id

structure Sound (device : TouchDevice) : Prop where
  wf : device.WellFormed
  bound : device.active_slots_.length ≤ 2 ^ 31
  sources : ∀ entry ∈ device.slots_by_source_and_id_, entry.1.1 = .device

variable {device : TouchDevice}

theorem Sound.separate (sound : Sound device) : Separate device.slotAt := by
  intro one two slot other found found' same
  have below := Nat.lt_of_lt_of_le (sound.wf.lt_length found) sound.bound
  have below' := Nat.lt_of_lt_of_le (sound.wf.lt_length found') sound.bound
  have equal : slot = other := by
    have value := congrArg Int32.toInt same
    rw [Int32.toInt_ofNat_of_lt below, Int32.toInt_ofNat_of_lt below'] at value
    omega
  subst equal
  exact (sound.wf.find_inj found found').2

def Call.acquired (call : Call) : List Int32 :=
  call.done.map MultitouchSlot.id ++
    match call.stage, call.rest with
    | .assigned _ _, f :: _ => [f.id]
    | _, _ => []

def Call.Knows (slotAt : Int32 → Option Nat) (call : Call) (known : Int32 → Prop) : Prop :=
  match call.stage, call.rest with
  | .found new, f :: _ => new = true ↔ ¬known f.id
  | .assigned new slot, f :: _ => (new = true ↔ ¬known f.id) ∧ slotAt f.id = some slot
  | _, _ => True

/-- A call that puts contacts down: what its buffer holds. -/
structure Downward (slotAt : Int32 → Option Nat) (live : Live) (call : Call) : Prop where
  buffer : ∃ placed : List Placed, placed.map Prod.fst = call.done ∧
    call.buffer = events placed ∧ Fits slotAt (· ∈ live.ids) placed
  own : ∀ id ∈ call.ids, OwnedBy call.sink live id
  knows : call.Knows slotAt fun id => id ∈ live.ids ∨ id ∈ call.done.map MultitouchSlot.id

/-- Calls run that put contacts down, under ids of their own. -/
structure Landing (state : State) : Prop where
  once : state.live.ids.Nodup
  mirrors : Mirrors state.screen state.device.slotAt state.live
  touch : state.screen.touch = true ↔ state.live ≠ []
  kind : ∀ (index : Nat) (call : Call), state.calls[index]? = some call → ¬Lifts call.down call.slots
  apart : ∀ (index other : Nat) (one two : Call), state.calls[index]? = some one →
    state.calls[other]? = some two → index ≠ other → ∀ id ∈ one.ids, id ∉ two.ids
  covered : ∀ id slot, state.device.slotAt id = some slot → id ∈ state.live.ids ∨
    ∃ (index : Nat) (call : Call), state.calls[index]? = some call ∧ id ∈ call.acquired
  each : ∀ (index : Nat) (call : Call), state.calls[index]? = some call →
    Downward state.device.slotAt state.live call

/-- One call runs, and lifts all contacts there are. -/
structure Lifting (state : State) (call : Call) : Prop where
  alone : state.calls = [call]
  lifts : Lifts call.down call.slots
  shows : Shows state.screen state.live
  own : ∀ contact ∈ state.live, contact.1.1 = call.sink ∧ contact.1.2 ∈ call.ids
  mirrors : Mirrors (state.screen.replay call.buffer) state.device.slotAt
    (state.live.reportAll call.sink false call.done)
  covered : ∀ id slot, state.device.slotAt id = some slot →
    id ∈ (state.live.reportAll call.sink false call.done).ids ∨
      match call.stage, call.rest with
      | .assigned _ _, f :: _ => id = f.id
      | _, _ => False
  assigned : match call.stage, call.rest with
    | .assigned _ slot, f :: _ => state.device.slotAt f.id = some slot
    | _, _ => True
  touch : call.done ≠ [] → (state.screen.replay call.buffer).touch = false

structure Kept (state : State) : Prop where
  sound : Sound state.device
  mode : Landing state ∨ ∃ call, Lifting state call

theorem Kept.shows {state : State} (kept : Kept state) : Shows state.screen state.live := by
  rcases kept.mode with landing | ⟨call, lifting⟩
  · exact landing.mirrors.shows kept.sound.separate landing.once landing.touch
  · exact lifting.shows

section Advance

variable {device after : TouchDevice} {call moved : Call}

theorem advance_cases (step : SendMultiTouchEvent device call = some (after, moved)) :
    ∃ f rest, call.rest = f :: rest ∧
      ((call.stage = .next ∧ after = device ∧
          moved = {call with stage := .found !device.HasSlot .device f.id}) ∨
        (∃ new, call.stage = .found new ∧ after = (device.GetOrAcquireSlot .device f.id).1 ∧
          moved = {call with
            stage := .assigned new (device.GetOrAcquireSlot .device f.id).2}) ∨
        (∃ slot, call.stage = .assigned true slot ∧ call.down = true ∧
          after = device.NewTrackingId.1 ∧
          moved = call.emit f rest slot (some device.NewTrackingId.2)) ∨
        (∃ slot, call.stage = .assigned false slot ∧ call.down = true ∧ after = device ∧
          moved = call.emit f rest slot none) ∨
        ∃ new slot, call.stage = .assigned new slot ∧ call.down = false ∧
          after = device.ReleaseSlot .device f.id ∧ moved = call.emit f rest slot none) := by
  unfold SendMultiTouchEvent at step
  cases left : call.rest with
  | nil => simp [left] at step
  | cons f rest =>
    refine ⟨f, rest, rfl, ?_⟩
    simp only [left] at step
    cases stage : call.stage with
    | next =>
      simp only [stage] at step
      cases step
      exact .inl ⟨rfl, rfl, rfl⟩
    | found new =>
      simp only [stage] at step
      cases step
      exact .inr (.inl ⟨new, rfl, rfl, rfl⟩)
    | assigned new slot =>
      simp only [stage] at step
      cases down : call.down <;> cases new <;> simp only [down, Bool.false_eq_true, if_true,
        if_false] at step <;> cases step
      · exact .inr (.inr (.inr (.inr ⟨false, slot, rfl, rfl, rfl, rfl⟩)))
      · exact .inr (.inr (.inr (.inr ⟨true, slot, rfl, rfl, rfl, rfl⟩)))
      · exact .inr (.inr (.inr (.inl ⟨slot, rfl, rfl, rfl, rfl⟩)))
      · exact .inr (.inr (.inl ⟨slot, rfl, rfl, rfl, rfl⟩))

@[simp] theorem Call.emit_slots {f : MultitouchSlot} {rest : List MultitouchSlot} {slot : Nat}
    {tracking : Option Int32} (left : call.rest = f :: rest) :
    (call.emit f rest slot tracking).slots = call.slots := by
  simp [Call.emit, Call.slots, left]

theorem Sound.advance (sound : Sound device) (room : device.active_slots_.length < 2 ^ 31)
    (step : SendMultiTouchEvent device call = some (after, moved)) : Sound after := by
  have acquired : ∀ id, Sound (device.GetOrAcquireSlot .device id).1 := by
    intro id
    obtain ⟨wf, _, _, _, longer⟩ := sound.wf.getOrAcquire .device id
    refine ⟨wf, by omega, ?_⟩
    unfold TouchDevice.GetOrAcquireSlot
    cases device.find .device id with
    | some slot => exact sound.sources
    | none =>
      have entries := sound.wf.useNewSlot.2.1
      intro entry mem
      rcases mem_cons.mp mem with rfl | mem
      · rfl
      · exact sound.sources entry (entries ▸ mem)
  have released : ∀ id, Sound (device.ReleaseSlot .device id) := by
    intro id
    obtain ⟨wf, _, _, length⟩ := sound.wf.release .device id
    refine ⟨wf, length ▸ sound.bound, ?_⟩
    unfold TouchDevice.ReleaseSlot
    cases device.find .device id with
    | none => exact sound.sources
    | some slot => exact fun entry mem => sound.sources entry (mem_filter.mp mem).1
  obtain ⟨f, rest, _, ⟨_, rfl, _⟩ | ⟨_, _, rfl, _⟩ | ⟨_, _, _, rfl, _⟩ | ⟨_, _, _, rfl, _⟩ |
    ⟨_, _, _, _, rfl, _⟩⟩ := advance_cases step
  · exact sound
  · exact acquired f.id
  · exact ⟨⟨sound.wf.keys, sound.wf.slots, sound.wf.active⟩, sound.bound, sound.sources⟩
  · exact sound
  · exact released f.id

end Advance

theorem slotAt_acquire (sound : Sound device) (id other : Int32) :
    (device.GetOrAcquireSlot .device id).1.slotAt other =
      if other = id then some (device.GetOrAcquireSlot .device id).2 else device.slotAt other := by
  obtain ⟨_, here, elsewhere, _⟩ := sound.wf.getOrAcquire .device id
  by_cases same : other = id
  · rw [if_pos same, same]
    exact here
  · rw [if_neg same]
    exact elsewhere _ _ (by simp [same])

theorem slotAt_release (sound : Sound device) (id other : Int32) :
    (device.ReleaseSlot .device id).slotAt other =
      if other = id then none else device.slotAt other := by
  obtain ⟨_, here, elsewhere, _⟩ := sound.wf.release .device id
  by_cases same : other = id
  · rw [if_pos same, same]
    exact here
  · rw [if_neg same]
    exact elsewhere _ _ (by simp [same])

theorem acquire_grows (sound : Sound device) (id other : Int32) (slot : Nat)
    (found : device.slotAt other = some slot) :
    (device.GetOrAcquireSlot .device id).1.slotAt other = some slot := by
  rw [slotAt_acquire sound]
  split
  · rename_i same
    subst same
    rw [(sound.wf.getOrAcquire .device other).2.2.2.1 slot found]
  · exact found

theorem Call.acquired_ids {call : Call} {id : Int32} (mem : id ∈ call.acquired) :
    id ∈ call.ids := by
  unfold Call.acquired at mem
  rw [Call.ids, Call.slots, map_append]
  rcases mem_append.mp mem with mem | mem
  · exact mem_append_left _ mem
  · refine mem_append_right _ ?_
    split at mem
    · rename_i left
      rw [left]
      rw [mem_singleton.mp mem]
      exact mem_cons_self
    · cases mem

theorem Downward.mono {slotAt slotAt' : Int32 → Option Nat} {live live' : Live} {call : Call}
    (downward : Downward slotAt live call)
    (grows : ∀ id slot, slotAt id = some slot → slotAt' id = some slot)
    (same : ∀ id ∈ call.ids, (id ∈ live'.ids ↔ id ∈ live.ids))
    (own : ∀ id ∈ call.ids, OwnedBy call.sink live' id) : Downward slotAt' live' call := by
  obtain ⟨placed, done, buffer, fits⟩ := downward.buffer
  have inDone : ∀ one ∈ placed, one.1.id ∈ call.ids := by
    intro one mem
    rw [Call.ids, Call.slots, map_append, ← done]
    exact mem_append_left _ (mem_map_of_mem (mem_map_of_mem mem))
  refine ⟨⟨placed, done, buffer, fits.mono grows fun one mem => same _ (inDone one mem)⟩, own, ?_⟩
  have knows := downward.knows
  unfold Call.Knows at knows ⊢
  cases left : call.rest with
  | nil => cases call.stage <;> trivial
  | cons f rest =>
    have known : f.id ∈ live'.ids ↔ f.id ∈ live.ids := by
      refine same f.id ?_
      simp [Call.ids, Call.slots, left]
    rw [left] at knows
    cases stage : call.stage with
    | next => trivial
    | found new =>
      rw [stage] at knows
      simpa only [known] using knows
    | assigned new slot =>
      rw [stage] at knows
      exact ⟨by simpa only [known] using knows.1, grows _ _ knows.2⟩

end Ika.InputConnector
