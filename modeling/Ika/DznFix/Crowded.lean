import Ika.DznFix.PushConstants

/-! What becomes of a command buffer for which the table has no place. -/

set_option autoImplicit false

namespace Ika.DznFix

open OpenAddressing Transition Nat List

section

variable {objects : Objects} {state : State} {cb : Nat} {buffer : Buffer} {draws : List Draw}

/-- The state with another buffer for `cb`, and no change in the tables. -/
def State.aside (state : State) (cb : Nat) (buffer : Buffer) (draws : List Draw) : State :=
  {state.setBuffer cb buffer with draws}

theorem aside_idle (idle : buffer.doing = .passing []) :
    (state.aside cb buffer draws).idle cb = some buffer := by
  unfold State.idle State.aside State.setBuffer
  dsimp only
  rw [Function.update_self, idle]

theorem aside_pc_cmdbufs : (state.aside cb buffer draws).pc_cmdbufs = state.pc_cmdbufs := rfl

theorem aside_aside (other : Buffer) (more : List Draw) :
    (state.aside cb buffer draws).aside cb other more = state.aside cb other more := by
  unfold State.aside State.setBuffer
  dsimp only
  rw [Function.update_idem]

theorem aside_setBuffer (other : Buffer) :
    (state.aside cb buffer draws).setBuffer cb other = state.aside cb other draws := by
  unfold State.aside State.setBuffer
  dsimp only
  rw [Function.update_idem]

variable (absent : pc_slot PC_CMDBUFS state.pc_cmdbufs cb false = none)
  (full : pc_slot PC_CMDBUFS state.pc_cmdbufs cb true = none)

include full in
theorem aside_begin (idle : buffer.doing = .passing []) :
    State.step objects (state.aside cb buffer draws) (.begin cb) =
      some (state.aside cb
        {buffer with doing := .passing [.begin], recording := true, last := fun _ => none}
        draws) := by
  have same : (state.aside cb buffer draws).layer_BeginCommandBuffer cb =
      state.aside cb buffer draws := by
    unfold State.layer_BeginCommandBuffer
    rw [aside_pc_cmdbufs, full]
  unfold State.step
  dsimp only
  rw [aside_idle idle]
  change some (((state.aside cb buffer draws).layer_BeginCommandBuffer cb).setBuffer cb _) = _
  rw [same, aside_setBuffer]

theorem aside_bind (idle : buffer.doing = .passing []) (point : BindPoint) (pipeline : Nat) :
    State.step objects (state.aside cb buffer draws) (.bind cb point pipeline) =
      some (state.aside cb
        {buffer with
          doing := .locking point pipeline
          roots := Function.update buffer.roots point
            ((buffer.roots point).bind (objects.driver.layoutOf pipeline))} draws) := by
  unfold State.step
  dsimp only
  rw [aside_idle idle]
  change some ((state.aside cb buffer draws).setBuffer cb _) = _
  rw [aside_setBuffer]

include absent in
theorem aside_lock {point : BindPoint} {pipeline : Nat}
    (locking : buffer.doing = .locking point pipeline) :
    State.step objects (state.aside cb buffer draws) (.lock cb) =
      some (state.aside cb {buffer with doing := .passing []} draws) := by
  have same : (state.aside cb buffer draws).layer_CmdBindPipeline objects cb point pipeline =
      (state.aside cb buffer draws, []) := by
    unfold State.layer_CmdBindPipeline
    rw [aside_pc_cmdbufs, absent]
    cases pc_slot PC_PIPELINES objects.pc_pipelines pipeline false <;> rfl
  have here : (state.aside cb buffer draws).buffers cb = buffer := Function.update_self ..
  change State.lock objects (state.aside cb buffer draws) cb = _
  unfold State.lock
  rw [here, locking]
  dsimp only
  rw [same, aside_setBuffer]

include absent in
theorem aside_push (idle : buffer.doing = .passing []) (stages : UInt32) (offset : Nat)
    (values : List UInt8) :
    State.step objects (state.aside cb buffer draws) (.push cb stages offset values) =
      some (state.aside cb
        {buffer with
          doing := .passing [.push stages offset values]
          last := fun byte =>
            if offset ≤ byte ∧ byte < offset + values.length then values[byte - offset]?
            else buffer.last byte} draws) := by
  have same : (state.aside cb buffer draws).layer_CmdPushConstants cb offset values =
      state.aside cb buffer draws := by
    unfold State.layer_CmdPushConstants
    split_ifs
    · rw [aside_pc_cmdbufs, absent]
    · rfl
  unfold State.step
  dsimp only
  rw [aside_idle idle]
  change some (((state.aside cb buffer draws).layer_CmdPushConstants cb offset values).setBuffer
    cb _) = _
  rw [same, aside_setBuffer]

theorem aside_pass {call : Pass} {calls : List Pass}
    (passing : buffer.doing = .passing (call :: calls)) :
    State.step objects (state.aside cb buffer draws) (.pass cb) =
      some (state.aside cb
        {buffer with
          doing := .passing calls, roots := objects.driver.pass buffer.roots call} draws) := by
  have here : (state.aside cb buffer draws).buffers cb = buffer := Function.update_self ..
  change State.pass objects (state.aside cb buffer draws) cb = _
  unfold State.pass
  rw [here, passing]
  dsimp only
  rw [aside_setBuffer]

theorem aside_draw (idle : buffer.doing = .passing []) {point : BindPoint}
    (used : (buffer.roots point).layout ≠ 0) :
    State.step objects (state.aside cb buffer draws) (.draw cb point) =
      some (state.aside cb
        {buffer with roots := Function.update buffer.roots point (buffer.roots point).upload}
        (draws ++ [{ point, layout := (buffer.roots point).layout
                     seen := (buffer.roots point).seen, last := buffer.last}])) := by
  unfold State.step
  dsimp only
  rw [aside_idle idle]
  change (if (buffer.roots point).layout = 0 then none else some _) = _
  rw [if_neg used]
  exact congrArg some (aside_aside _ _)

end

def others (i : Nat) : Nat := 8 * (i + 1)

variable {objects : Objects} {ranges : List VkPushConstantRange}

variable (objects ranges) in
/-- As many command buffers as `filled` have begun. -/
structure Crowded (filled : Nat) (state : State) : Prop where
  reached : (machine objects).Reaches (Proper objects ranges) state
  placed : Placed home PC_CMDBUFS state.pc_cmdbufs
  counted : count PC_CMDBUFS state.pc_cmdbufs = filled
  absent : ∀ cb, 1 < cb → (∀ i < filled, cb ≠ others i) →
    lookup home PC_CMDBUFS state.pc_cmdbufs cb = none
  idle : ∀ cb, (∀ i < filled, cb ≠ others i) → (state.buffers cb).doing = .passing []
  noDraws : state.draws = []

theorem taken {state after : State} {event : Event}
    (reached : (machine objects).Reaches (Proper objects ranges) state)
    (moved : State.step objects state event = some after)
    (proper : Proper objects ranges state event) :
    (machine objects).Reaches (Proper objects ranges) after :=
  .next reached proper moved

theorem others_injective {first second : Nat} (same : others first = others second) :
    first = second := by
  unfold others at same
  omega

theorem crowded {filled : Nat} (room : filled ≤ PC_CMDBUFS) :
    ∃ state, Crowded objects ranges filled state := by
  induction filled with
  | zero =>
    refine ⟨State.zero, ?_⟩
    exact
      { reached := .start (State.zero_init objects)
        placed := placed_empty _
        counted := count_empty fun _ => rfl
        absent := fun cb used _ => lookup_empty _ used
        idle := fun _ _ => rfl
        noDraws := rfl}
  | succ filled ih =>
    obtain ⟨state, before⟩ := ih (by omega)
    have handle : 1 < others filled := by
      unfold others
      omega
    have fresh : ∀ i < filled, others filled ≠ others i := fun i below same => by
      have := others_injective same
      omega
    obtain ⟨slot, found⟩ := slot_isSome before.placed handle
      (.inl (before.counted.trans_lt room))
    have fits := fits_slot before.placed handle found
    have unused : (state.pc_cmdbufs slot).key ≤ 1 := by
      rcases fits.own with own | free
      · have nowhere := (lookup_eq_none_iff before.placed handle).mp (before.absent _ handle fresh)
        exact absurd own (nowhere slot fits.within)
      · exact free.1
    have idle : state.idle (others filled) = some (state.buffers (others filled)) := by
      unfold State.idle
      rw [before.idle _ fresh]
    let after := (state.setSlot slot (others filled)
      {bound := fun _ => 0, «end» := 0, bytes := (state.pc_cmdbufs slot).value.bytes}).setBuffer
        (others filled)
        { state.buffers (others filled) with
          doing := .passing [.begin], recording := true, last := fun _ => none}
    have moved : State.step objects state (.begin (others filled)) = some after := by
      unfold State.step
      dsimp only
      rw [idle]
      change some ((state.layer_BeginCommandBuffer (others filled)).setBuffer _ _) = _
      unfold State.layer_BeginCommandBuffer
      rw [found]
    refine ⟨after, ?_⟩
    exact
      { reached := taken before.reached moved handle
        placed := fits.placed before.placed handle _
        counted := (count_write handle fits.within unused _).trans
          (congrArg (· + 1) before.counted)
        absent := fun cb used new => by
          change lookup home PC_CMDBUFS (write state.pc_cmdbufs slot (others filled) _) cb = none
          rw [lookup_written before.placed handle found _ used,
            if_neg (new filled (lt_succ_self filled))]
          exact before.absent cb used fun i below => new i (lt_succ_of_lt below)
        idle := fun cb new => by
          change (Function.update state.buffers (others filled) _ cb).doing = _
          rw [Function.update_of_ne (new filled (lt_succ_self filled))]
          exact before.idle cb fun i below => new i (lt_succ_of_lt below)
        noDraws := before.noDraws}

def late : Nat := 8 * 4097

/-- A command buffer that begins when the table is full loses its push constants. -/
theorem crowded_out :
    ∃ state, (machine twoLayouts).Reaches (Proper twoLayouts [sharedRange]) state ∧
      ¬state.Sound twoLayouts := by
  obtain ⟨state, full⟩ := @crowded twoLayouts [sharedRange] PC_CMDBUFS le_rfl
  have new : ∀ i < PC_CMDBUFS, late ≠ others i := fun i below same => by
    have size : PC_CMDBUFS = 4096 := rfl
    unfold late others at same
    omega
  have handle : 1 < late := by decide
  have nothing := full.absent late handle new
  have absent := lookup_eq_none nothing
  have noPlace := slot_eq_none full.placed handle full.counted nothing
  have idle := full.idle late new
  have first : (machine twoLayouts).Reaches (Proper twoLayouts [sharedRange])
      (state.aside late (state.buffers late) []) := by
    have same : state.aside late (state.buffers late) [] = state := by
      unfold State.aside State.setBuffer
      rw [Function.update_eq_self, ← full.noDraws]
    rw [same]
    exact full.reached
  have recording : ∀ buffer draws, buffer.recording = true →
      ((state.aside late buffer draws).buffers late).recording = true := fun buffer draws on => by
    change (Function.update state.buffers late buffer late).recording = true
    rw [Function.update_self]
    exact on
  have begun := taken first (aside_begin noPlace idle) handle
  have ready := taken begun (aside_pass rfl) trivial
  have bound := taken ready (aside_bind rfl .graphics 80)
    ⟨recording _ _ rfl, twoLayouts_tracked (.inl rfl)⟩
  have told := taken bound (aside_lock absent rfl) trivial
  have pushed := taken told (aside_push absent rfl 0x21 0 [1, 2, 3, 4])
    ⟨recording _ _ rfl, by decide, by decide⟩
  have passed := taken pushed (aside_pass rfl) trivial
  have drawn := taken passed (@aside_draw _ _ _ _ _ rfl .graphics (succ_ne_zero _)) (recording _ _ rfl)
  have changed := taken drawn (aside_bind rfl .graphics 88)
    ⟨recording _ _ rfl, twoLayouts_tracked (.inr rfl)⟩
  have untold := taken changed (aside_lock absent rfl) trivial
  have last := taken untold (@aside_draw _ _ _ _ _ rfl .graphics (succ_ne_zero _)) (recording _ _ rfl)
  have reached : stagesReach sharedRange.stageFlags .graphics = true := by decide
  refine ⟨_, last, fun sound => ?_⟩
  have draw := sound _ (mem_append_right _ (mem_singleton_self _)) sharedRange
    (mem_singleton_self _)
  dsimp only at draw
  have seen := draw reached 0 le_rfl (by decide) 1 rfl
  cases seen

end Ika.DznFix
