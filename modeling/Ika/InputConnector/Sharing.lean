import Ika.InputConnector.Clients

/-! Each step of the clients keeps what the guest sees. -/

set_option autoImplicit false

namespace Ika.InputConnector

open List Option

variable {state after : State} {call moved : Call} {device : TouchDevice} {index : Nat}

/-! ## Calls that put contacts down -/

namespace Landing

theorem hasSlot (landing : Landing state) (at_call : state.calls[index]? = some call)
    {id : Int32} (mine : id ∈ call.ids) (next : call.stage = .next) :
    state.device.HasSlot .device id = true ↔
      id ∈ state.live.ids ∨ id ∈ call.done.map MultitouchSlot.id := by
  have downward := landing.each index call at_call
  obtain ⟨placed, done, _, fits⟩ := downward.buffer
  constructor
  · intro has
    obtain ⟨slot, found⟩ := isSome_iff_exists.mp has
    rcases landing.covered id slot found with known | ⟨other, there, at_there, acquired⟩
    · exact .inl known
    · -- no other call has this id
      by_cases same : other = index
      · subst same
        cases at_call.symm.trans at_there
        simp only [Call.acquired, next, append_nil] at acquired
        exact .inr acquired
      · exact absurd (Call.acquired_ids acquired)
          (landing.apart index other call there at_call at_there (Ne.symm same) id mine)
  · rintro (known | mem)
    · obtain ⟨contact, mem, rfl⟩ := List.mem_map.mp known
      obtain ⟨slot, found, _⟩ := landing.mirrors.held contact mem
      exact isSome_iff_exists.mpr ⟨slot, found⟩
    · rw [← done, List.map_map] at mem
      exact isSome_iff_exists.mpr (fits.found mem)

theorem replace (landing : Landing state) (at_call : state.calls[index]? = some call)
    (down : moved.down = call.down) (slots : moved.slots = call.slots)
    (grows : ∀ id slot, state.device.slotAt id = some slot → device.slotAt id = some slot)
    (taken : ∀ id slot, device.slotAt id = some slot →
      state.device.slotAt id = some slot ∨ id ∈ moved.acquired)
    (keeps : ∀ id ∈ call.acquired, id ∈ moved.acquired)
    (downward : Downward device.slotAt state.live moved) :
    Landing {state with device, calls := state.calls.set index moved} := by
  have bound := (List.getElem?_eq_some_iff.mp at_call).1
  have ids : moved.ids = call.ids := by rw [Call.ids, Call.ids, slots]
  -- a call of the new state is the moved one or an old one at another place
  have old : ∀ (place : Nat) (one : Call), (state.calls.set index moved)[place]? = some one →
      (place = index ∧ one = moved) ∨ (place ≠ index ∧ state.calls[place]? = some one) := by
    intro place one there
    rw [getElem?_set] at there
    by_cases same : index = place
    · subst same
      simp only [if_true, bound, Option.some.injEq] at there
      exact .inl ⟨rfl, there.symm⟩
    · rw [if_neg same] at there
      exact .inr ⟨Ne.symm same, there⟩
  refine ⟨landing.once, landing.mirrors.mono grows, landing.touch, ?_, ?_, ?_, ?_⟩
  · intro place one there
    rcases old place one there with ⟨_, rfl⟩ | ⟨_, there⟩
    · rw [down, slots]
      exact landing.kind index call at_call
    · exact landing.kind place one there
  · intro place other one two first second apart id
    rcases old place one first with ⟨rfl, rfl⟩ | ⟨_, before⟩ <;>
      rcases old other two second with ⟨rfl, rfl⟩ | ⟨_, before'⟩
    · exact absurd rfl apart
    · rw [ids]
      exact landing.apart _ _ _ _ at_call before' apart id
    · rw [ids]
      exact landing.apart _ _ _ _ before at_call apart id
    · exact landing.apart _ _ _ _ before before' apart id
  · intro id slot found
    have here : (state.calls.set index moved)[index]? = some moved := by simp [bound]
    rcases taken id slot found with found | mine
    · rcases landing.covered id slot found with known | ⟨place, one, there, acquired⟩
      · exact .inl known
      · by_cases same : place = index
        · subst same
          cases at_call.symm.trans there
          exact .inr ⟨_, moved, here, keeps id acquired⟩
        · refine .inr ⟨place, one, ?_, acquired⟩
          rw [getElem?_set, if_neg (Ne.symm same)]
          exact there
    · exact .inr ⟨index, moved, here, mine⟩
  · intro place one there
    rcases old place one there with ⟨_, rfl⟩ | ⟨_, there⟩
    · exact downward
    · have before := landing.each place one there
      exact before.mono grows (fun _ _ => Iff.rfl) before.own

theorem advance (landing : Landing state) (sound : Sound state.device)
    (at_call : state.calls[index]? = some call) (valid : state.device.tracking_id_ + 1 ≠ -1)
    (step : SendMultiTouchEvent state.device call = some (device, moved)) :
    Landing {state with device, calls := state.calls.set index moved} := by
  have downward := landing.each index call at_call
  have same : ∀ id slot, state.device.slotAt id = some slot → state.device.slotAt id = some slot :=
    fun _ _ found => found
  obtain ⟨f, rest, left, cases⟩ := advance_cases step
  have mine : f.id ∈ call.ids := by simp [Call.ids, Call.slots, left]
  -- what the buffer holds once the events of the contact are in it
  have placed : ∀ (slot : Nat) (tracking : Option Int32), call.down = true →
      state.device.slotAt f.id = some slot →
      (tracking.isSome = true ↔
        ¬(f.id ∈ state.live.ids ∨ f.id ∈ call.done.map MultitouchSlot.id)) →
      tracking ≠ some (-1) →
      Downward state.device.slotAt state.live (call.emit f rest slot tracking) := by
    intro slot tracking down found new valid
    obtain ⟨placed, done, buffer, fits⟩ := downward.buffer
    refine ⟨⟨placed ++ [(f, slot, tracking)], ?_, ?_, ?_⟩, ?_, trivial⟩
    · simp [Call.emit, done]
    · simp [Call.emit, events, buffer, down]
    · refine fits.snoc found ?_ valid
      rw [new, ← done, List.map_map]
      rfl
    · intro id mem
      rw [Call.ids, Call.emit_slots left] at mem
      exact downward.own id mem
  have emitted : ∀ (slot : Nat) (tracking : Option Int32) (new : Bool),
      call.stage = .assigned new slot → ∀ id ∈ call.acquired,
      id ∈ (call.emit f rest slot tracking).acquired := by
    intro slot tracking new stage id mem
    simpa [Call.acquired, Call.emit, stage, left] using mem
  rcases cases with ⟨next, rfl, rfl⟩ | ⟨new, stage, rfl, rfl⟩ | ⟨slot, stage, down, rfl, rfl⟩ |
    ⟨slot, stage, down, rfl, rfl⟩ | ⟨new, slot, stage, down, _, _⟩
  · refine landing.replace at_call rfl rfl same (fun _ _ found => .inl found) ?_ ?_
    · intro id mem
      simpa [Call.acquired, next] using mem
    · refine ⟨downward.buffer, downward.own, ?_⟩
      have has := landing.hasSlot at_call mine next
      simp only [Call.Knows, left, Bool.not_eq_true', ← has, Bool.not_eq_true]
  · have knows := downward.knows
    simp only [Call.Knows, stage, left] at knows
    refine landing.replace at_call rfl rfl (acquire_grows sound f.id) ?_ ?_ ?_
    · intro id slot found
      rw [slotAt_acquire sound] at found
      by_cases here : id = f.id
      · exact .inr (by simp [Call.acquired, left, here])
      · rw [if_neg here] at found
        exact .inl found
    · intro id mem
      simp only [Call.acquired, stage, append_nil] at mem
      exact mem_append_left _ mem
    · have grown := downward.mono (acquire_grows sound f.id) (fun _ _ => Iff.rfl) downward.own
      refine ⟨grown.buffer, downward.own, ?_⟩
      simp only [Call.Knows, left]
      exact ⟨knows, by rw [slotAt_acquire sound, if_pos rfl]⟩
  · have knows := downward.knows
    simp only [Call.Knows, stage, left, true_iff] at knows
    refine landing.replace at_call rfl (Call.emit_slots left) (fun _ _ found => found)
      (fun _ _ found => .inl found) (emitted slot _ _ stage) ?_
    exact placed slot _ down knows.2 (by simpa using knows.1) (by
      simpa [TouchDevice.NewTrackingId] using valid)
  · have knows := downward.knows
    simp only [Call.Knows, stage, left] at knows
    refine landing.replace at_call rfl (Call.emit_slots left) same (fun _ _ found => .inl found)
      (emitted slot _ _ stage) ?_
    exact placed slot none down knows.2 (by simpa using knows.1) (by simp)
  · -- such a call does not lift
    exact absurd ⟨down, by simp [Call.slots, left]⟩ (landing.kind index call at_call)

theorem write (landing : Landing state) (sound : Sound state.device)
    (at_call : state.calls[index]? = some call) (finished : call.rest = []) :
    Landing {state with
      calls := state.calls.eraseIdx index
      written := state.written ++ (call.buffer ++ [⟨EV_SYN, SYN_REPORT, 0⟩])
      live := state.live.reportAll call.sink call.down call.slots} := by
  have downward := landing.each index call at_call
  obtain ⟨placed, done, buffer, fits⟩ := downward.buffer
  have slots : call.slots = placed.map Prod.fst := by rw [Call.slots, finished, done, append_nil]
  have inIds : ∀ one ∈ placed, one.1.id ∈ call.ids := by
    intro one mem
    rw [Call.ids, slots]
    exact List.mem_map_of_mem (List.mem_map_of_mem mem)
  obtain ⟨mirrors, once, touch, ids⟩ := landing.mirrors.downs sound.separate landing.once
    landing.touch (fun one mem => downward.own _ (inIds one mem)) fits
  -- a call that does not lift and has contacts puts them down
  have reported : state.live.reportAll call.sink call.down call.slots =
      state.live.reportAll call.sink true (placed.map Prod.fst) := by
    rw [slots]
    cases down : call.down with
    | true => rfl
    | false =>
      have empty : call.slots = [] := by
        by_contra some
        exact landing.kind index call at_call ⟨down, some⟩
      rw [← slots, empty]
      rfl
  have screen : State.screen {state with
      calls := state.calls.eraseIdx index
      written := state.written ++ (call.buffer ++ [⟨EV_SYN, SYN_REPORT, 0⟩])
      live := state.live.reportAll call.sink call.down call.slots} =
      state.screen.replay (events placed) := by
    simp only [State.screen, Screen.replay_append, buffer]
    simp
  -- what is left of the calls is what was there, at other places
  have old : ∀ (place : Nat) (one : Call), (state.calls.eraseIdx index)[place]? = some one →
      ∃ before, (place < index ∧ before = place ∨ index ≤ place ∧ before = place + 1) ∧
        state.calls[before]? = some one := by
    intro place one there
    rw [getElem?_eraseIdx] at there
    split at there
    · exact ⟨place, by omega, there⟩
    · exact ⟨place + 1, by omega, there⟩
  refine ⟨?_, ?_, ?_, ?_, ?_, ?_, ?_⟩
  · rw [reported]
    exact once
  · rw [screen, reported]
    exact mirrors
  · rw [screen, reported]
    exact touch
  · intro place one there
    obtain ⟨before, _, there⟩ := old place one there
    exact landing.kind before one there
  · intro place other one two first second apart
    obtain ⟨before, near, first⟩ := old place one first
    obtain ⟨before', near', second⟩ := old other two second
    refine landing.apart before before' one two first second ?_
    omega
  · intro id slot found
    have mem : ∀ id, id ∈ (state.live.reportAll call.sink call.down call.slots).ids ↔
        id ∈ state.live.ids ∨ id ∈ placed.map fun one => one.1.id := by
      rw [reported]
      exact ids
    rcases landing.covered id slot found with known | ⟨place, one, there, acquired⟩
    · exact .inl ((mem id).mpr (.inl known))
    · by_cases same : place = index
      · subst same
        cases at_call.symm.trans there
        refine .inl ((mem id).mpr (.inr ?_))
        have done' := Call.acquired_ids acquired
        rwa [Call.ids, slots, List.map_map] at done'
      · by_cases below : place < index
        · refine .inr ⟨place, one, ?_, acquired⟩
          rw [getElem?_eraseIdx, if_pos below]
          exact there
        · refine .inr ⟨place - 1, one, ?_, acquired⟩
          have shifted : place - 1 + 1 = place := by omega
          rw [getElem?_eraseIdx, if_neg (by omega), shifted]
          exact there
  · intro place one there
    obtain ⟨before, near, there⟩ := old place one there
    have apart : before ≠ index := by omega
    have others := landing.each before one there
    have disjoint : ∀ id ∈ one.ids, id ∉ call.ids :=
      landing.apart before index one call there at_call apart
    have unplaced : ∀ id ∈ one.ids, id ∉ placed.map fun one => one.1.id := by
      intro id mem mine
      obtain ⟨which, mem', rfl⟩ := List.mem_map.mp mine
      exact disjoint _ mem (inIds which mem')
    refine others.mono (fun _ _ found => found) (fun id mem => ?_) fun id mem contact held same => ?_
    · rw [reported, ids]
      simp [unplaced id mem]
    · rw [reported] at held
      refine others.own id mem contact ?_ same
      -- a contact the call reported is under one of its own ids
      have kept : ∀ (done : List MultitouchSlot) (live : Live),
          contact ∈ live.reportAll call.sink true done →
          contact ∈ live ∨ contact.1.2 ∈ done.map MultitouchSlot.id := by
        intro done
        induction done with
        | nil => exact fun live mem => .inl mem
        | cons f rest ih =>
          intro live mem
          rcases ih _ mem with mem | mem
          · rcases Live.mem_report_down.mp mem with rfl | ⟨mem, _⟩
            · exact .inr mem_cons_self
            · exact .inl mem
          · exact .inr (mem_cons_of_mem _ mem)
      refine (kept _ _ held).resolve_right fun mine => unplaced id mem ?_
      rw [List.map_map] at mine
      rw [← same]
      exact mine

end Landing

/-! ## A call that lifts -/

variable {sink : Sink} {slots : List MultitouchSlot}

theorem Live.mem_reportAll_up {live : Live} {contact : (Sink × Int32) × Int32 × Int32} :
    contact ∈ live.reportAll sink false slots ↔
      contact ∈ live ∧ ∀ f ∈ slots, contact.1 ≠ (sink, f.id) := by
  induction slots generalizing live with
  | nil => simp [Live.reportAll]
  | cons f rest ih =>
    have split : live.reportAll sink false (f :: rest) =
        (live.report sink false f).reportAll sink false rest := rfl
    rw [split, ih, Live.mem_report_up, forall_mem_cons, and_assoc]

namespace Lifting

theorem empty (lifting : Lifting state call) :
    state.live.reportAll call.sink call.down call.slots = [] := by
  rw [lifting.lifts.1, eq_nil_iff_forall_not_mem]
  intro contact mem
  obtain ⟨mem, apart⟩ := Live.mem_reportAll_up.mp mem
  obtain ⟨sink, id⟩ := lifting.own contact mem
  obtain ⟨f, listed, same⟩ := List.mem_map.mp id
  exact apart f listed (Prod.ext sink same.symm)

theorem write (lifting : Lifting state call) (finished : call.rest = []) :
    Landing {state with
      calls := []
      written := state.written ++ (call.buffer ++ [⟨EV_SYN, SYN_REPORT, 0⟩])
      live := state.live.reportAll call.sink call.down call.slots} := by
  have slots : call.slots = call.done := by rw [Call.slots, finished, append_nil]
  have gone := lifting.empty
  have reported : state.live.reportAll call.sink false call.done = [] := by
    rw [← slots, ← lifting.lifts.1]
    exact gone
  have mirrors := lifting.mirrors
  have covered := lifting.covered
  rw [reported] at mirrors covered
  have screen : State.screen {state with
      calls := []
      written := state.written ++ (call.buffer ++ [⟨EV_SYN, SYN_REPORT, 0⟩])
      live := state.live.reportAll call.sink call.down call.slots} =
      state.screen.replay call.buffer := by
    simp only [State.screen, Screen.replay_append]
    simp
  refine ⟨?_, ?_, ?_, by simp, by simp, fun id slot found => ?_, by simp⟩
  · rw [gone]
    exact .nil
  · rw [screen, gone]
    exact mirrors
  · rw [screen, gone, lifting.touch (slots ▸ lifting.lifts.2)]
    simp
  · rcases covered id slot found with known | current
    · cases known
    · rw [finished] at current
      cases stage : call.stage <;> rw [stage] at current <;> exact current.elim

theorem advance (lifting : Lifting state call) (sound : Sound state.device)
    (step : SendMultiTouchEvent state.device call = some (device, moved)) :
    Lifting {state with device, calls := [moved]} moved := by
  obtain ⟨f, rest, left, cases⟩ := advance_cases step
  have down := lifting.lifts.1
  have covered := lifting.covered
  have assigned := lifting.assigned
  rcases cases with ⟨stage, rfl, rfl⟩ | ⟨new, stage, rfl, rfl⟩ | ⟨_, _, up, _, _⟩ |
    ⟨_, _, up, _, _⟩ | ⟨new, slot, stage, _, rfl, rfl⟩
  · refine ⟨rfl, lifting.lifts, lifting.shows, lifting.own, lifting.mirrors, ?_, trivial,
      lifting.touch⟩
    intro id slot found
    simpa only [stage, or_false] using covered id slot found
  · refine ⟨rfl, lifting.lifts, lifting.shows, lifting.own,
      lifting.mirrors.mono (acquire_grows sound f.id), ?_, ?_, lifting.touch⟩
    · intro id slot found
      rw [slotAt_acquire sound] at found
      simp only [left]
      by_cases here : id = f.id
      · exact .inr here
      · rw [if_neg here] at found
        simpa only [stage, or_false, here] using covered id slot found
    · simp only [left]
      rw [slotAt_acquire sound, if_pos rfl]
  · simp [down] at up
  · simp [down] at up
  · simp only [stage, left] at assigned covered
    have replayed : (call.emit f rest slot none).buffer =
        call.buffer ++ contactEvents f false slot none := by simp [Call.emit, down]
    have reported : state.live.reportAll call.sink false (call.emit f rest slot none).done =
        (state.live.reportAll call.sink false call.done).report call.sink false f :=
      foldl_append ..
    have own : OwnedBy call.sink (state.live.reportAll call.sink false call.done) f.id :=
      fun contact mem _ => (lifting.own contact (Live.mem_reportAll_up.mp mem).1).1
    have ids : (call.emit f rest slot none).ids = call.ids := by
      rw [Call.ids, Call.ids, Call.emit_slots left]
    refine ⟨rfl, ⟨down, ?_⟩, lifting.shows, ?_, ?_, ?_, trivial, fun _ => ?_⟩
    · rw [Call.emit_slots left]
      exact lifting.lifts.2
    · rw [ids]
      exact lifting.own
    · rw [replayed, Screen.replay_append]
      exact reported ▸ lifting.mirrors.up sound.separate own assigned fun id apart => by
        rw [slotAt_release sound, if_neg apart]
    · intro id other found
      rw [slotAt_release sound] at found
      by_cases here : id = f.id
      · rw [if_pos here] at found
        cases found
      · rw [if_neg here] at found
        refine .inl ?_
        have known := (covered id other found).resolve_right here
        exact reported ▸ (Live.mem_ids_report own).mpr (.inr ⟨here, known⟩)
    · rw [replayed, Screen.replay_append]
      exact (Screen.replay_up ..).2

end Lifting

/-! ## The steps of the machine -/

theorem Kept.start : Kept {} where
  sound := ⟨.start, by simp, by simp⟩
  mode := .inl ⟨.nil, ⟨by simp, fun slot => by simp [State.screen, Contact.Occupied]⟩,
    by simp [State.screen], by simp, by simp, by simp [TouchDevice.slotAt, TouchDevice.find], by simp⟩

theorem Kept.send {down : Bool} (kept : Kept state) (apart : Apart state (.send sink slots down))
    (moved : state.send sink slots down = some after) : Kept after := by
  unfold State.send at moved
  split at moved
  · cases moved
    refine ⟨kept.sound, ?_⟩
    simp only [Apart] at apart
    by_cases lifts : Lifts down slots
    · rw [if_pos lifts] at apart
      obtain ⟨idle, all⟩ := apart
      rcases kept.mode with landing | ⟨call, lifting⟩
      · refine .inr ⟨{sink, down, rest := slots}, by rw [idle], lifts, kept.shows, all,
          landing.mirrors, fun id slot found => ?_, trivial, fun none => absurd rfl none⟩
        refine (landing.covered id slot found).imp_right ?_
        simp [idle]
      · exact absurd (idle.symm.trans lifting.alone) (by simp)
    · rw [if_neg lifts] at apart
      obtain ⟨others, own⟩ := apart
      rcases kept.mode with landing | ⟨call, lifting⟩
      · refine .inl ⟨landing.once, landing.mirrors, landing.touch, ?_, ?_, ?_, ?_⟩
        · intro place one there
          cases place with
          | zero =>
            cases there
            exact lifts
          | succ place => exact landing.kind place one there
        · intro place other one two first second differ
          cases place with
          | zero =>
            cases first
            cases other with
            | zero => exact absurd rfl differ
            | succ other => exact (others two (mem_of_getElem? second)).2
          | succ place =>
            cases other with
            | zero =>
              cases second
              intro id mem mine
              exact (others one (mem_of_getElem? first)).2 id mine mem
            | succ other =>
              exact landing.apart place other one two first second (by omega)
        · intro id slot found
          refine (landing.covered id slot found).imp_right ?_
          rintro ⟨place, one, there, acquired⟩
          exact ⟨place + 1, one, there, acquired⟩
        · intro place one there
          cases place with
          | zero =>
            cases there
            exact ⟨⟨[], rfl, rfl, trivial⟩, fun id mem contact held same =>
              own contact held (same ▸ mem), by unfold Call.Knows; split <;> trivial⟩
          | succ place => exact landing.each place one there
      · have running : call ∈ state.calls := by rw [lifting.alone]; exact mem_cons_self
        exact absurd lifting.lifts (others call running).1
  · cases moved

theorem Kept.advance (kept : Kept state) (apart : Apart state (.advance index))
    (step : state.advance index = some after) : Kept after := by
  obtain ⟨call, at_call, step⟩ := bind_eq_some_iff.mp step
  obtain ⟨⟨device, moved⟩, sent, step⟩ := bind_eq_some_iff.mp step
  cases step
  refine ⟨kept.sound.advance apart.1 sent, ?_⟩
  rcases kept.mode with landing | ⟨other, lifting⟩
  · exact .inl (landing.advance kept.sound at_call apart.2 sent)
  · rw [lifting.alone] at at_call ⊢
    cases index with
    | zero =>
      cases at_call
      exact .inr ⟨moved, lifting.advance kept.sound sent⟩
    | succ index => simp at at_call

theorem Kept.write (kept : Kept state) (step : state.write index = some after) : Kept after := by
  obtain ⟨call, at_call, step⟩ := bind_eq_some_iff.mp step
  split at step
  · rename_i finished
    cases step
    refine ⟨kept.sound, .inl ?_⟩
    rcases kept.mode with landing | ⟨other, lifting⟩
    · exact landing.write kept.sound at_call finished
    · rw [lifting.alone] at at_call ⊢
      cases index with
      | zero =>
        cases at_call
        exact lifting.write finished
      | succ index => simp at at_call
  · cases step

theorem Sound.onDisconnectedSource (sound : Sound device) (sink : Sink) :
    device.OnDisconnectedSource (.sink sink) = device := by
  have none : device.slots_by_source_and_id_.filter (·.1.1 = .sink sink) = [] := by
    rw [filter_eq_nil_iff]
    intro entry mem
    simp [sound.sources entry mem]
  have all : device.slots_by_source_and_id_.filter (·.1.1 ≠ .sink sink) =
      device.slots_by_source_and_id_ := by
    rw [filter_eq_self]
    intro entry mem
    simp [sound.sources entry mem]
  simp only [TouchDevice.OnDisconnectedSource, none, all, foldl_nil]

theorem Kept.same {other : State} (kept : Kept state) (device : other.device = state.device)
    (calls : other.calls = state.calls) (written : other.written = state.written)
    (live : other.live = state.live) : Kept other := by
  obtain ⟨_, _, _, _, _⟩ := other
  cases device
  cases calls
  cases written
  cases live
  refine ⟨kept.sound, kept.mode.imp (fun landing => ?_) fun ⟨call, lifting⟩ => ⟨call, ?_⟩⟩
  · exact ⟨landing.once, landing.mirrors, landing.touch, landing.kind, landing.apart,
      landing.covered, landing.each⟩
  · exact ⟨lifting.alone, lifting.lifts, lifting.shows, lifting.own, lifting.mirrors,
      lifting.covered, lifting.assigned, lifting.touch⟩

theorem Kept.step {event : Event} (kept : Kept state) (apart : Apart state event)
    (moved : state.step event = some after) : Kept after := by
  cases event with
  | createSink sink =>
    simp only [State.step, State.createSink] at moved
    split at moved
    · cases moved
    · cases moved
      exact kept.same rfl rfl rfl rfl
  | send sink slots down => exact kept.send apart moved
  | advance index => exact kept.advance apart moved
  | write index => exact kept.write moved
  | destroySink sink =>
    simp only [State.step, State.destroySink] at moved
    split at moved
    · cases moved
      refine kept.same (kept.sound.onDisconnectedSource sink) rfl rfl ?_
      rw [Live.forget, filter_eq_self]
      exact fun contact mem => by simpa using apart contact mem
    · cases moved

theorem kept (reached : machine.Reaches Apart state) : Kept state :=
  reached.invariant (fun _ first => first ▸ .start)
    fun _ _ _ kept apart moved => kept.step apart moved

/-! ## The clients together -/

def LiftsNothing (state : State) (call : Call) : Prop :=
  call.down = false ∧ ∀ f ∈ call.slots, ∀ contact ∈ state.live, contact.1 ≠ (call.sink, f.id)

theorem Kept.lifts_nothing (kept : Kept state) (at_call : state.calls[index]? = some call)
    (nothing : LiftsNothing state call) (written : state.write index = some after) :
    after.live = state.live ∧ (after.screen.touch = state.screen.touch) ∧
      ∀ slot, (after.screen.slots slot).Occupied ↔ (state.screen.slots slot).Occupied := by
  have kept' := kept.write written
  obtain ⟨call', at_call', moved⟩ := bind_eq_some_iff.mp written
  cases at_call.symm.trans at_call'
  split at moved
  · rename_i finished
    cases moved
    rcases kept.mode with landing | ⟨other, lifting⟩
    · -- the call has no contacts and writes a report alone
      have empty : call.slots = [] := by
        by_contra some
        exact landing.kind index call at_call ⟨nothing.1, some⟩
      obtain ⟨placed, done, buffer, _⟩ := (landing.each index call at_call).buffer
      have none : placed = [] := by
        have parts := append_eq_nil_iff.mp empty
        rw [← done] at parts
        exact map_eq_nil_iff.mp parts.1
      have screen : state.screen = Screen.replay {} state.written := rfl
      simp [empty, Live.reportAll, State.screen, buffer, none, events]
    · have same : other = call := by
        rw [lifting.alone] at at_call
        cases index with
        | zero => exact Option.some.inj at_call
        | succ index => simp at at_call
      subst same
      have empty : state.live = [] := by
        refine eq_nil_iff_forall_not_mem.mpr fun contact mem => ?_
        obtain ⟨sink, id⟩ := lifting.own contact mem
        obtain ⟨f, listed, same⟩ := List.mem_map.mp id
        exact nothing.2 f listed contact mem (Prod.ext sink same.symm)
      have gone := lifting.empty
      have shows := kept.shows
      have shows' := kept'.shows
      simp only [gone] at shows'
      rw [empty] at shows
      have vacant : ∀ {screen : Screen} {live : Live}, live = [] → Shows screen live →
          screen.touch = false ∧ ∀ slot, ¬(screen.slots slot).Occupied := by
        rintro screen live rfl ⟨⟨_, _, _, only⟩, touch⟩
        refine ⟨by simpa using touch, fun slot taken => ?_⟩
        obtain ⟨contact, mem, _⟩ := only slot taken
        cases mem
      obtain ⟨touch, slots⟩ := vacant rfl shows
      obtain ⟨touch', slots'⟩ := vacant rfl shows'
      refine ⟨gone.trans empty.symm, touch'.trans touch.symm, fun slot => ?_⟩
      exact iff_of_false (slots' slot) (slots slot)
  · cases moved

/-- While the clients' contacts do not meet, the guest sees each in a slot of its own, and an up for
what is not down changes nothing. -/
theorem contacts_apart (reached : machine.Reaches Apart state) :
    Shows state.screen state.live ∧
      ∀ index call after, state.calls[index]? = some call → LiftsNothing state call →
        state.write index = some after →
        after.live = state.live ∧ (after.screen.touch = state.screen.touch) ∧
          ∀ slot, (after.screen.slots slot).Occupied ↔ (state.screen.slots slot).Occupied :=
  ⟨(kept reached).shows, fun _ _ _ at_call nothing written =>
    (kept reached).lifts_nothing at_call nothing written⟩

def twoClients : List Event :=
  let whole (sink : Sink) (slots : List MultitouchSlot) (down : Bool) : List Event :=
    .send sink slots down :: (List.replicate (3 * slots.length) (.advance 0) ++ [.write 0])
  .createSink 1 :: .createSink 2 :: whole 1 [⟨0, 10, 20⟩] true ++ whole 2 [⟨1, 30, 40⟩] true

theorem contacts_apart_two : let state := (machine.runAllowed Apart {} twoClients).getD {}
    state.live.length = 2 ∧ Shows state.screen state.live := by
  refine ⟨by decide +kernel, (contacts_apart ?_).1⟩
  exact (Transition.Machine.Reaches.start rfl).getD_runAllowed _ (by decide +kernel)

def sameId : List Event :=
  let whole (sink : Sink) (down : Bool) : List Event :=
    [.send sink [⟨0, 10, 20⟩] down, .advance 0, .advance 0, .advance 0, .write 0]
  .createSink 1 :: .createSink 2 :: whole 1 true ++ whole 2 true ++ whole 1 false

/-- The other client's contact is gone with it. -/
theorem contact_lost : ∃ state, machine.Reachable state ∧
    state.live = [((2, 0), 10, 20)] ∧ ¬Shows state.screen state.live := by
  refine ⟨(machine.run {} sameId).getD {}, ?_, by decide +kernel, fun shows => ?_⟩
  · exact Transition.Machine.Reachable.getD_run sameId (.start rfl) (by decide +kernel)
  · have lifted : ((machine.run {} sameId).getD {}).screen.touch = false := by decide +kernel
    have held : ((machine.run {} sameId).getD {}).live ≠ [] := by decide +kernel
    exact absurd (shows.2.mpr held) (by rw [lifted]; exact Bool.false_ne_true)

end Ika.InputConnector
