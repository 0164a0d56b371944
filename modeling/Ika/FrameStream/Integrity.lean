import Ika.FrameStream.Shape

/-! The pixels sent with a header are those of the call that brought the header.

Each slot has one user: a copy into it, or the frames whose pixels are in it.
This is lost where a slot is handed out that the latest frame still points to.
-/

set_option autoImplicit false

namespace Ika.FrameStream

open Transition List

/-! ## One user a slot -/

def ClientPc.copies (pc : ClientPc) (slot : Nat) : Nat :=
  match pc with
  | .copying _ target _ => if target = slot then 1 else 0
  | _ => 0

def ClientPc.sends : ClientPc → Option Nat
  | .taken frame | .sending frame => frame.slot
  | _ => none

def State.frames (state : State) (slot : Nat) : Nat :=
  if state.display.latestFrame.slot = some slot ∨ state.pc.sends = some slot then 1 else 0

def State.users (state : State) (slot : Nat) : Nat :=
  state.calls.countP (·.targets state.display.shm.mapping slot) + state.pc.copies slot +
    state.frames slot

def State.handedOut (state : State) (displayNumber : UInt32) : Event → Option Nat
  | .onFrame width height fourcc strideBytes pixels _ =>
    if state.display.suppressNextRaw then none
    else (onFrameHeader displayNumber width height fourcc strideBytes pixels).bind fun header =>
      (reserveSlotLocked state.display header.payloadSize.toNat).map (·.1)
  | .acquireSlot => match state.pc with
    | .acquiring _ => if state.display.shm.generation = 0 then none else state.display.shm.freeSlot
    | _ => none
  | _ => none

def HandsOutUnused (displayNumber : UInt32) (state : State) (event : Event) : Prop :=
  ∀ slot ∈ state.handedOut displayNumber event, state.users slot = 0

instance (displayNumber : UInt32) (state : State) (event : Event) :
    Decidable (HandsOutUnused displayNumber state event) := by
  unfold HandsOutUnused
  infer_instance

def SingleUser (state : State) : Prop :=
  state.display.shm.mapping.isSome → ∀ slot, state.users slot ≤ 1

namespace SingleUser

variable {displayNumber : UInt32} {state after : State} {event : Event}

theorem changed (single : SingleUser state)
    (mapping : after.display.shm.mapping = state.display.shm.mapping)
    (users : state.display.shm.mapping.isSome → ∀ slot, state.users slot ≤ 1 →
      after.users slot ≤ 1) : SingleUser after := by
  intro mapped slot
  rw [mapping] at mapped
  exact users mapped slot (single mapped slot)

theorem frames_mono {slot : Nat}
    (frames : after.display.latestFrame.slot = some slot ∨ after.pc.sends = some slot →
      state.display.latestFrame.slot = some slot ∨ state.pc.sends = some slot) :
    after.frames slot ≤ state.frames slot := by
  unfold State.frames
  split
  · exact Nat.le_of_eq (if_pos (frames ‹_›)).symm
  · exact Nat.zero_le _

theorem fewer (single : SingleUser state)
    (mapping : after.display.shm.mapping = state.display.shm.mapping)
    (calls : after.calls = state.calls)
    (copies : ∀ slot, after.pc.copies slot ≤ state.pc.copies slot)
    (frames : ∀ slot,
      after.display.latestFrame.slot = some slot ∨ after.pc.sends = some slot →
      state.display.latestFrame.slot = some slot ∨ state.pc.sends = some slot) :
    SingleUser after := by
  refine single.changed mapping fun _ slot before => ?_
  have copied := copies slot
  have shown := frames_mono (frames slot)
  simp only [State.users, mapping, calls] at before ⊢
  omega

theorem unused_copied (shape : state.Shape) (copies : state.display.shm.generation = 0)
    (mapped : state.display.shm.mapping.isSome) (slot : Nat) :
    state.calls.countP (·.targets state.display.shm.mapping slot) = 0 ∧
      state.display.latestFrame.slot ≠ some slot := by
  obtain ⟨mapping, mapped⟩ := Option.isSome_iff_exists.mp mapped
  refine ⟨List.countP_eq_zero.mpr fun call member targets => ?_, fun slotted => ?_⟩
  · simp only [OnFrameCall.targets, mapped, Option.map_some, decide_eq_true_eq] at targets
    exact ((shape.flights call member).reserved mapping slot targets mapped).1 copies
  · exact (shape.latest.slotted slot slotted).2.1 copies

theorem published (single : SingleUser state) {index : Nat} {call : OnFrameCall}
    (found : state.calls[index]? = some call)
    (current : ∀ mapping slot, call.target = some (mapping, slot) →
      state.display.shm.mapping = some mapping)
    (mapping : after.display.shm.mapping = state.display.shm.mapping)
    (calls : after.calls = state.calls.eraseIdx index) (pc : after.pc = state.pc)
    (latest : after.display.latestFrame = call.frame) : SingleUser after := by
  refine single.changed mapping fun mapped slot before => ?_
  have counted := ListCount.countP_eraseIdx (·.targets state.display.shm.mapping slot) found
  simp only [State.users, mapping, calls, pc] at before ⊢
  obtain ⟨here, mapped⟩ := Option.isSome_iff_exists.mp mapped
  by_cases targets : call.targets state.display.shm.mapping slot = true
  · have one : after.frames slot ≤ 1 := by
      unfold State.frames
      split <;> omega
    rw [if_pos targets] at counted
    omega
  · have shown : after.frames slot ≤ state.frames slot := by
      refine frames_mono fun shown => ?_
      rw [latest, pc] at shown
      refine shown.imp (fun slotted => absurd ?_ targets) id
      obtain ⟨⟨other, _⟩, target, rfl⟩ := Option.map_eq_some_iff.mp slotted
      simp [OnFrameCall.targets, current other _ target, target]
    rw [if_neg targets] at counted
    omega

theorem moves (single : SingleUser state) (shape : state.Shape)
    (unused : HandsOutUnused displayNumber state event)
    (moved : State.Moves displayNumber state event after) : SingleUser after := by
  cases moved with
  | stays | swallowed | stopped | clientSent => exact single
  | @reserved _ _ _ _ _ _ header mapping index built length unsuppressed mapped releases room free =>
    have free : state.users index = 0 := by
      refine unused index ?_
      simp [State.handedOut, unsuppressed, built, reserveSlotLocked, mapped, releases, room, free]
    refine single.changed rfl fun _ slot before => ?_
    simp only [State.users, State.frames, ClientShm.takeSlot, countP_append,
      countP_singleton, OnFrameCall.targets, mapped, Option.map_some, Option.some.injEq,
      Prod.mk.injEq, true_and, decide_eq_true_eq] at before free ⊢
    by_cases same : index = slot
    · subst same
      rw [if_pos rfl]
      omega
    · rw [if_neg same]
      omega
  | unslotted =>
    refine single.changed rfl fun mapped slot before => ?_
    obtain ⟨mapping, mapped⟩ := Option.isSome_iff_exists.mp mapped
    simp only [State.users, State.frames, countP_append,
      countP_singleton, OnFrameCall.targets, mapped, Option.map_some, reduceCtorEq,
      decide_false, Bool.false_eq_true, if_false] at before ⊢
    exact before
  | copied found target =>
    refine single.changed rfl fun _ slot before => ?_
    simp only [State.users] at before ⊢
    rwa [ListCount.countP_set_same _ found (by rfl)]
  | dropped found =>
    refine single.changed rfl fun _ slot before => ?_
    have counted := ListCount.countP_eraseIdx (·.targets state.display.shm.mapping slot) found
    simp only [State.users, State.frames] at before ⊢
    omega
  | published found complete current => exact single.published found current rfl rfl rfl rfl
  | dmabuf =>
    exact single.fewer rfl rfl (fun _ => Nat.le_refl _)
      fun _ shown => .inr (shown.resolve_left (by rintro ⟨⟩))
  | connected =>
    intro mapped
    rw [(helloShm_spec _).1.mapping] at mapped
    cases mapped
  | read =>
    exact single.fewer (applyClientMessage_mapping _ _).mapping rfl (fun _ => Nat.le_refl _)
      fun _ shown => shown
  | gaveUp | nothingNew | woke | timestampsFailed | notified | slotNotified | inlineSent | held
  | dmabufFailed | readyForSlot | inlineInstead | initialised | tookNone =>
    exact single.fewer rfl rfl (fun _ => Nat.zero_le _)
      fun _ shown => .inl (shown.resolve_right (by rintro ⟨⟩))
  | took =>
    exact single.fewer rfl rfl (fun _ => Nat.zero_le _) fun _ shown => .inl (shown.elim id id)
  | timestampsSkipped taken | timestampsSent taken =>
    exact single.fewer rfl rfl (fun _ => by rw [taken]; exact Nat.le_refl _)
      fun _ shown => by rw [taken]; exact shown
  | @dmabufSent frame =>
    refine single.fewer rfl rfl (fun slot => ?_) fun slot shown => .inl (shown.resolve_right ?_) <;>
      rcases ite_eq_or_eq (frame.holdId ≠ 0) (ClientPc.holding frame) .reading with next | next <;>
      simp only [next, ClientPc.copies, ClientPc.sends] <;> first | exact Nat.zero_le _ | rintro ⟨⟩
  | @installed _ _ _ _ installing pc next =>
    intro _ slot
    have calls := State.targets_installing shape installing slot
    have copies : pc.copies slot = 0 := by
      rcases next with rfl | rfl <;> rfl
    have sends : pc.sends = none := by
      rcases next with rfl | rfl <;> rfl
    simp only [State.users, State.frames, calls, copies, sends, detachedFrame_slot, reduceCtorEq,
      or_self, if_false]
    omega
  | slotInTurn acquiring copies =>
    refine single.changed rfl fun mapped slot before => ?_
    obtain ⟨calls, latest⟩ := unused_copied shape copies mapped slot
    simp only [State.users, State.frames, calls, latest, ClientPc.copies, ClientPc.sends,
      reduceCtorEq, or_self, if_false]
    split <;> omega
  | @slotAcquired frame index acquiring releases free =>
    have free : state.users index = 0 :=
      unused index (by simp [State.handedOut, acquiring, releases, free])
    refine single.changed rfl fun _ slot before => ?_
    simp only [State.users, State.frames, acquiring, ClientShm.takeSlot, ClientPc.copies,
      ClientPc.sends, reduceCtorEq, or_false] at before free ⊢
    by_cases same : index = slot
    · subst same
      rw [if_pos rfl]
      omega
    · rw [if_neg same]
      omega
  | copiedToSlot copying =>
    exact single.fewer rfl rfl (fun _ => by rw [copying]; exact Nat.le_refl _)
      fun _ shown => .inl (shown.resolve_right (by rintro ⟨⟩))
  | ended =>
    intro mapped
    cases mapped

theorem of_reaches
    (reached : (displayMachine displayNumber).Reaches (HandsOutUnused displayNumber) state) :
    SingleUser state := by
  refine reached.invariant_with State.Shape (fun _ => State.Shape.of_reaches) ?_ ?_
  · rintro _ rfl mapped
    cases mapped
  · exact fun state event after shape single unused moved =>
      single.moves shape unused (State.step_moves moved)

end SingleUser

/-! ## What the pixels are -/

def State.FrameIntact (state : State) (frame : Frame) : Prop :=
  frame.type = .raw → ∃ pixels, ⟨frame.call, frame.header, pixels⟩ ∈ state.history.submitted ∧
    pixels.length = frame.header.payloadSize.toNat ∧
    (frame.slot = none → frame.pixels = some pixels) ∧
    ∀ mapping slot, frame.slot = some slot → state.display.shm.mapping = some mapping →
      state.memory.Holds mapping.id (state.display.shm.slotAddress slot) pixels

structure State.CallIntact (state : State) (call : OnFrameCall) : Prop where
  submitted : ⟨call.call, call.header, call.pixels⟩ ∈ state.history.submitted
  copied : ∀ mapping slot, call.target = some (mapping, slot) →
    state.display.shm.mapping = some mapping →
    state.memory.Holds mapping.id (state.display.shm.slotAddress slot)
      (call.pixels.take call.copied)

def State.ThreadIntact (state : State) : ClientPc → Prop
  | .idle | .reading | .waiting | .holding _ | .ending => True
  | .taken frame | .sending frame | .installing frame .. | .sendingInline frame
  | .acquiring frame => state.FrameIntact frame
  | .copying frame slot copied => state.FrameIntact frame ∧
      ∀ mapping, state.display.shm.mapping = some mapping →
        state.memory.Holds mapping.id (state.display.shm.slotAddress slot)
          ((frame.pixels.getD []).take copied)

structure Intact (state : State) : Prop where
  calls : ∀ call ∈ state.calls, state.CallIntact call
  latest : state.FrameIntact state.display.latestFrame
  thread : state.ThreadIntact state.pc
  delivered : ∀ delivery ∈ state.history.delivered, delivery ∈ state.history.submitted

structure Sees (state after : State) : Prop where
  memory : after.memory = state.memory
  mapping : SameMapping state.display.shm after.display.shm
  submitted : ∀ entry ∈ state.history.submitted, entry ∈ after.history.submitted

namespace Sees

variable {state after : State}

theorem frame (sees : Sees state after) {frame : Frame} (intact : state.FrameIntact frame) :
    after.FrameIntact frame := by
  intro raw
  obtain ⟨pixels, submitted, length, buffered, slotted⟩ := intact raw
  refine ⟨pixels, sees.submitted _ submitted, length, buffered, ?_⟩
  rw [sees.memory, sees.mapping.mapping]
  simpa only [ClientShm.slotAddress, sees.mapping.slotSize] using slotted

theorem call (sees : Sees state after) {call : OnFrameCall} (intact : state.CallIntact call) :
    after.CallIntact call := by
  refine ⟨sees.submitted _ intact.submitted, ?_⟩
  rw [sees.memory, sees.mapping.mapping]
  simpa only [ClientShm.slotAddress, sees.mapping.slotSize] using intact.copied

theorem thread (sees : Sees state after) {pc : ClientPc} (intact : state.ThreadIntact pc) :
    after.ThreadIntact pc := by
  cases pc with
  | idle | reading | waiting | holding | ending => trivial
  | taken | sending | installing | sendingInline | acquiring => exact sees.frame intact
  | copying frame slot copied =>
    refine ⟨sees.frame intact.1, ?_⟩
    rw [sees.memory, sees.mapping.mapping]
    simpa only [ClientShm.slotAddress, sees.mapping.slotSize] using intact.2

end Sees

/-- The parts of a frame that say what its pixels are. -/
structure SamePixels (frame other : Frame) : Prop where
  type : other.type = frame.type
  header : other.header = frame.header
  pixels : other.pixels = frame.pixels
  slot : other.slot = frame.slot
  call : other.call = frame.call

theorem State.FrameIntact.same {state : State} {frame other : Frame}
    (intact : state.FrameIntact frame) (same : SamePixels frame other) :
    state.FrameIntact other := by
  unfold State.FrameIntact
  rw [same.type, same.header, same.pixels, same.slot, same.call]
  exact intact

theorem State.FrameIntact.detached {state after : State} (shape : state.Shape)
    (intact : state.FrameIntact state.display.latestFrame)
    (submitted : ∀ entry ∈ state.history.submitted, entry ∈ after.history.submitted) :
    after.FrameIntact (detachedFrame state.memory state.display) := by
  intro raw
  rw [shape.latest.detached_type shape.shm] at raw
  obtain ⟨pixels, member, length, buffered, slotted⟩ := intact raw
  unfold detachedFrame
  split
  · rename_i unslotted
    exact ⟨pixels, submitted _ member, length, buffered, fun _ slot held => by
      rw [unslotted] at held; cases held⟩
  · rename_i slot held
    split
    · rename_i mapping mapped
      refine ⟨pixels, submitted _ member, length, fun _ => ?_, nofun⟩
      rw [← length, (slotted mapping slot held mapped).read]
    · rename_i unmapped
      exact absurd (shape.shm.unmapped unmapped).2 (shape.latest.slotted slot held).2.1

theorem State.FrameIntact.unslotted {state after : State} {frame : Frame}
    (intact : state.FrameIntact frame)
    (submitted : ∀ entry ∈ state.history.submitted, entry ∈ after.history.submitted)
    (none : frame.slot = none ∨ after.display.shm.mapping = none) : after.FrameIntact frame := by
  intro raw
  obtain ⟨pixels, member, length, buffered, _⟩ := intact raw
  refine ⟨pixels, submitted _ member, length, buffered, fun mapping slot held mapped => ?_⟩
  rcases none with unslotted | unmapped
  · rw [unslotted] at held
    cases held
  · rw [unmapped] at mapped
    cases mapped

namespace Intact

variable {displayNumber : UInt32} {state after : State} {event : Event}

theorem repositioned (intact : Intact state) (display : after.display = state.display)
    (memory : after.memory = state.memory) (calls : after.calls = state.calls)
    (submitted : after.history.submitted = state.history.submitted)
    (thread : after.ThreadIntact after.pc)
    (delivered : ∀ delivery ∈ after.history.delivered, delivery ∈ state.history.delivered ∨
      delivery ∈ state.history.submitted) : Intact after := by
  have sees : Sees state after := ⟨memory, display ▸ .refl _, fun _ member => submitted ▸ member⟩
  refine ⟨fun call member => sees.call (intact.calls call (calls ▸ member)), ?_, thread,
    fun delivery member => ?_⟩
  · rw [display]
    exact sees.frame intact.latest
  · rw [submitted]
    exact (delivered delivery member).elim (intact.delivered delivery) id

variable {slot : Nat} {mapping : ShmMapping} {pixels : List UInt8}

theorem notified (intact : Intact state) {frame : Frame}
    (mapped : state.display.shm.mapping = some mapping)
    (submitted : ⟨frame.call, frame.header, pixels⟩ ∈ state.history.submitted)
    (length : pixels.length = frame.header.payloadSize.toNat)
    (held : state.memory.Holds mapping.id (state.display.shm.slotAddress slot) pixels) :
    Intact {state with pc := .reading, history := state.noteNotify frame slot} := by
  refine intact.repositioned rfl rfl rfl rfl trivial fun delivery member => ?_
  rcases mem_append.mp member with old | new
  · exact .inl old
  · rw [mem_singleton.mp new]
    simp only [mapped, Option.map_some, Option.getD_some, ← length, held.read]
    exact .inr submitted

theorem alone (single : SingleUser state) {writer : Writer}
    (mapped : state.display.shm.mapping = some mapping)
    (reserved : state.reserved writer = some (mapping, slot)) :
    state.frames slot = 0 ∧ ∀ other, state.reserved other = some (mapping, slot) →
      other = writer := by
  have one := single (by rw [mapped]; rfl) slot
  unfold State.users at one
  have writes : ∀ other, state.reserved other = some (mapping, slot) →
      (∃ index, other = .call index ∧
        0 < state.calls.countP (·.targets state.display.shm.mapping slot)) ∨
      (other = .client ∧ state.pc.copies slot = 1) := by
    intro other held
    cases other with
    | call index =>
      obtain ⟨call, found, target⟩ := State.reserved_call held
      exact .inl ⟨index, rfl, State.targets_reserved mapped found target⟩
    | client =>
      obtain ⟨⟨frame, copied, copying⟩, _⟩ := State.reserved_client held
      exact .inr ⟨rfl, by simp [copying, ClientPc.copies]⟩
  refine ⟨?_, fun other held => ?_⟩
  · rcases writes writer reserved with ⟨_, _, called⟩ | ⟨_, copying⟩ <;> omega
  · rcases writes other held with ⟨index, rfl, called⟩ | ⟨rfl, copying⟩ <;>
      rcases writes writer reserved with ⟨index', rfl, called'⟩ | ⟨rfl, copying'⟩
    · obtain ⟨call, found, target⟩ := State.reserved_call held
      obtain ⟨call', found', target'⟩ := State.reserved_call reserved
      have same := ListCount.unique_of_countP_le_one
        (·.targets state.display.shm.mapping slot) (by omega) found found'
        (by simp [OnFrameCall.targets, mapped, target])
        (by simp [OnFrameCall.targets, mapped, target'])
      rw [same]
    · omega
    · omega
    · rfl

theorem frame_kept (single : SingleUser state) (shape : state.Shape)
    (moved : State.Moves displayNumber state event after) (display : after.display = state.display)
    (submitted : after.history.submitted = state.history.submitted) {frame : Frame}
    (frameShape : FrameShape state.display.shm frame)
    (shown : ∀ slot, frame.slot = some slot → state.frames slot = 1)
    (intact : state.FrameIntact frame) : after.FrameIntact frame := by
  intro raw
  obtain ⟨pixels, member, length, buffered, slotted⟩ := intact raw
  refine ⟨pixels, submitted ▸ member, length, buffered, fun mapping slot held mapped => ?_⟩
  rw [display] at mapped ⊢
  have room := (frameShape.slotted slot held).2.2.2
  refine State.holds_slot shape mapped moved (fun writer _ reserved => ?_) (length ▸ room)
    (slotted mapping slot held mapped)
  have unread := (alone single mapped reserved).1
  rw [shown slot held] at unread
  exact absurd unread Nat.one_ne_zero

section

variable (intact : Intact state)
include intact

theorem copied (single : SingleUser state) (shape : state.Shape)
    {index slot count : Nat} {call : OnFrameCall} {mapping : ShmMapping}
    (found : state.calls[index]? = some call) (target : call.target = some (mapping, slot))
    (moved : State.Moves displayNumber state (.onFrameCopy index count) after)
    (step : after = {state with
      memory := state.memory.write mapping.id (call.slotData + call.copied)
        ((call.pixels.drop call.copied).take count)
      calls := state.calls.set index {call with
        copied := call.copied + ((call.pixels.drop call.copied).take count).length}}) :
    Intact after := by
  have reserved : state.reserved (.call index) = some (mapping, slot) := by
    simp [State.reserved, found, target]
  have foreign : ∀ {other : Writer} {current : ShmMapping} {held : Nat},
      state.display.shm.mapping = some current → state.reserved other = some (current, held) →
      other ≠ .call index → ∀ writer, Event.writer (.onFrameCopy index count) = some writer →
        state.reserved writer ≠ some (current, held) := by
    rintro other current held mapped mine differs _ ⟨⟩ same
    exact differs ((alone single mapped same).2 other mine)
  have display : after.display = state.display := by rw [step]
  have submitted : after.history.submitted = state.history.submitted := by rw [step]
  have thread : ∀ pc, state.pc = pc → after.ThreadIntact pc := by
    intro pc here
    have thread := intact.thread
    have current := shape.pc
    rw [here] at thread current
    cases pc with
    | idle | reading | waiting | holding | ending => trivial
    | taken frame | sending frame =>
      refine frame_kept single shape moved display submitted current.2 (fun held slotted => ?_)
        thread
      exact if_pos (.inr (by rw [here]; exact slotted))
    | installing frame | sendingInline frame | acquiring frame =>
      exact State.FrameIntact.unslotted thread (fun _ member => submitted ▸ member) (.inl (by
        first | exact current.2.2.1 | exact current.2.1.2.1))
    | copying frame held copied =>
      obtain ⟨_, buffered, _, room, _, progress⟩ := current
      refine ⟨thread.1.unslotted (fun _ member => submitted ▸ member) (.inl buffered.2.1),
        fun current mapped => ?_⟩
      rw [display] at mapped ⊢
      have mine : state.reserved .client = some (current, held) := by
        simp [State.reserved, here, mapped]
      refine State.holds_slot shape mapped moved (foreign mapped mine (by rintro ⟨⟩)) ?_
        (thread.2 current mapped)
      simp only [length_take]
      omega
  have latest : after.FrameIntact after.display.latestFrame := by
    rw [display]
    refine frame_kept single shape moved display submitted shape.latest (fun held slotted => ?_)
      intact.latest
    exact if_pos (.inl slotted)
  subst step
  refine ⟨fun other member => ?_, latest, thread _ rfl, intact.delivered⟩
  obtain ⟨position, found'⟩ := getElem?_of_mem member
  by_cases same : index = position
  · subst same
    have known := intact.calls call (mem_of_getElem? found)
    have shaped := shape.flights call (mem_of_getElem? found)
    rw [getElem?_set_self (List.getElem?_eq_some_iff.mp found).1] at found'
    cases found'
    refine ⟨known.submitted, fun current held aimed mapped => ?_⟩
    cases target.symm.trans aimed
    obtain ⟨_, _, data, _⟩ := shaped.reserved mapping slot target mapped
    have next := (known.copied mapping slot target mapped).write_next shaped.copied count
    rw [data]
    exact next
  · rw [getElem?_set_ne same] at found'
    have known := intact.calls other (mem_of_getElem? found')
    have shaped := shape.flights other (mem_of_getElem? found')
    refine ⟨known.submitted, fun current held aimed mapped => ?_⟩
    have mine : state.reserved (.call position) = some (current, held) := by
      simp [State.reserved, found', aimed]
    obtain ⟨_, _, _, room⟩ := shaped.reserved current held aimed mapped
    refine State.holds_slot shape mapped moved (foreign mapped mine fun other => ?_) ?_
      (known.copied current held aimed mapped)
    · exact same (by cases other; rfl)
    · simp only [length_take]
      omega

theorem copiedToSlot (single : SingleUser state) (shape : state.Shape)
    {frame : Frame} {slot copied count : Nat} (copying : state.pc = .copying frame slot copied)
    (moved : State.Moves displayNumber state (.copyToSlot count) after)
    (step : after = {state with
      memory := state.memory.write ((state.display.shm.mapping.map (·.id)).getD 0)
        (state.display.shm.slotAddress slot + copied)
        (((frame.pixels.getD []).drop copied).take count)
      pc := .copying frame slot
        (copied + (((frame.pixels.getD []).drop copied).take count).length)}) :
    Intact after := by
  subst step
  have thread := intact.thread
  have current := shape.pc
  rw [copying] at thread current
  obtain ⟨_, buffered, _, room, _, progress⟩ := current
  obtain ⟨pixels, stored, length⟩ := buffered.2.2.buffered buffered.1 buffered.2.1
  have mine : ∀ {current : ShmMapping}, state.display.shm.mapping = some current →
      state.reserved .client = some (current, slot) := fun mapped => by
    simp [State.reserved, copying, mapped]
  refine ⟨fun call member => ?_, ?_, ⟨?_, fun current mapped => ?_⟩, intact.delivered⟩
  · have known := intact.calls call member
    refine ⟨known.submitted, fun current held aimed mapped => ?_⟩
    obtain ⟨index, found⟩ := getElem?_of_mem member
    obtain ⟨_, _, _, fits⟩ := (shape.flights call member).reserved current held aimed mapped
    refine State.holds_slot shape mapped moved ?_ ?_ (known.copied current held aimed mapped)
    · rintro _ ⟨⟩ same
      have called : state.reserved (.call index) = some (current, held) := by
        simp [State.reserved, found, aimed]
      cases (alone single mapped same).2 _ called
    · simp only [length_take]
      omega
  · refine frame_kept single shape moved rfl rfl shape.latest (fun held slotted => ?_) intact.latest
    exact if_pos (.inl slotted)
  · exact thread.1.unslotted (fun _ member => member) (.inl buffered.2.1)
  · have next := (thread.2 current mapped).write_next
      (by rw [stored, Option.getD_some, length]; exact progress) count
    have same : (state.display.shm.mapping.map (·.id)).getD 0 = current.id := by
      rw [show state.display.shm.mapping = some current from mapped]
      rfl
    dsimp only
    rw [same]
    exact next

theorem changed (sees : Sees state after)
    (calls : ∀ call ∈ after.calls, call ∈ state.calls ∨ after.CallIntact call)
    (latest : state.FrameIntact after.display.latestFrame) (thread : state.ThreadIntact after.pc)
    (delivered : after.history.delivered = state.history.delivered) : Intact after := by
  refine ⟨fun call member => ?_, sees.frame latest, sees.thread thread, fun delivery member => ?_⟩
  · rcases calls call member with old | new
    · exact sees.call (intact.calls call old)
    · exact new
  · exact sees.submitted _ (intact.delivered delivery (delivered ▸ member))

theorem called {header : RawFrameHeader} {call : OnFrameCall}
    (shown : call.call = state.history.calls ∧ call.header = header ∧
      call.pixels = pixels ∧ call.copied = 0)
    (mapping : SameMapping state.display.shm after.display.shm)
    (memory : after.memory = state.memory)
    (submitted : after.history.submitted = state.history.submitted ++
      [⟨state.history.calls, header, pixels⟩]) (calls : after.calls = state.calls ++ [call])
    (pc : after.pc = state.pc) (latest : after.display.latestFrame = state.display.latestFrame)
    (delivered : after.history.delivered = state.history.delivered) : Intact after := by
  obtain ⟨number, rfl, rfl, copied⟩ := shown
  have sees : Sees state after :=
    ⟨memory, mapping, fun entry member => by rw [submitted]; exact mem_append_left _ member⟩
  refine intact.changed sees (fun other member => ?_) (latest ▸ intact.latest)
    (pc ▸ intact.thread) delivered
  rw [calls] at member
  rcases mem_append.mp member with old | new
  · exact .inl old
  · rw [mem_singleton.mp new]
    refine .inr ⟨?_, fun mapping slot _ _ => ?_⟩
    · rw [submitted, number]
      exact mem_append_right _ (mem_singleton_self _)
    · rw [copied]
      exact Memory.Holds.nil

theorem frame_of_call (shape : state.Shape) {call : OnFrameCall} (member : call ∈ state.calls)
    (complete : call.target.isSome → call.copied = call.pixels.length)
    (current : ∀ mapping slot, call.target = some (mapping, slot) →
      state.display.shm.mapping = some mapping) : state.FrameIntact call.frame := by
  have known := intact.calls call member
  refine fun _ => ⟨call.pixels, known.submitted, (shape.flights call member).payload,
    fun unslotted => ?_, fun mapping slot slotted mapped => ?_⟩
  · simp only [OnFrameCall.frame, Option.map_eq_none_iff] at unslotted
    simp [OnFrameCall.frame, unslotted]
  · obtain ⟨⟨other, _⟩, target, rfl⟩ := Option.map_eq_some_iff.mp slotted
    cases mapped.symm.trans (current other _ target)
    have copied := known.copied mapping _ target mapped
    rw [complete (by simp [target]), take_length] at copied
    exact copied

theorem remapped (shape : state.Shape)
    (unaimed : ∀ call ∈ state.calls, ∀ mapping slot, call.target = some (mapping, slot) →
      after.display.shm.mapping ≠ some mapping)
    (submitted : after.history.submitted = state.history.submitted)
    (delivered : after.history.delivered = state.history.delivered)
    (calls : after.calls = state.calls)
    (latest : SamePixels (detachedFrame state.memory state.display) after.display.latestFrame)
    (thread : after.ThreadIntact after.pc) : Intact after := by
  refine ⟨fun call member => ?_, ?_, thread, fun delivery member => ?_⟩
  · rw [calls] at member
    refine ⟨submitted ▸ (intact.calls call member).submitted, fun mapping slot target mapped => ?_⟩
    exact absurd mapped (unaimed call member mapping slot target)
  · refine State.FrameIntact.same ?_ latest
    exact intact.latest.detached shape fun _ member => submitted ▸ member
  · rw [submitted]
    exact intact.delivered delivery (delivered ▸ member)

theorem moves (single : SingleUser state) (shape : state.Shape)
    (moved : State.Moves displayNumber state event after) : Intact after := by
  have thread := intact.thread
  have place := shape.pc
  cases moved with
  | stays => exact intact
  | stopped | clientSent =>
    exact intact.repositioned rfl rfl rfl rfl thread fun _ member => .inl member
  | swallowed =>
    exact intact.changed ⟨rfl, .refl _, fun _ member => member⟩ (fun _ member => .inl member)
      intact.latest thread rfl
  | reserved | unslotted =>
    exact intact.called ⟨rfl, rfl, rfl, rfl⟩ ⟨rfl, rfl, rfl, rfl, rfl⟩ rfl rfl rfl rfl rfl rfl
  | @copied index count _ _ _ found target =>
    have moves : State.Moves displayNumber state (.onFrameCopy index count) _ :=
      .copied found target
    exact intact.copied single shape found target moves rfl
  | dropped found =>
    exact intact.changed ⟨rfl, .refl _, fun _ member => member⟩
      (fun call member => .inl (mem_of_mem_eraseIdx member)) intact.latest thread rfl
  | published found complete current =>
    exact intact.changed ⟨rfl, ⟨rfl, rfl, rfl, rfl, rfl⟩, fun _ member => member⟩
      (fun call member => .inl (mem_of_mem_eraseIdx member))
      (intact.frame_of_call shape (mem_of_getElem? found) complete current) thread rfl
  | dmabuf =>
    exact intact.changed ⟨rfl, ⟨rfl, rfl, rfl, rfl, rfl⟩, fun _ member => member⟩
      (fun _ member => .inl member) nofun thread rfl
  | read =>
    exact intact.changed ⟨rfl, applyClientMessage_mapping _ _, fun _ member => member⟩
      (fun _ member => .inl member) intact.latest thread rfl
  | gaveUp | nothingNew | woke | timestampsFailed | dmabufFailed =>
    exact intact.repositioned rfl rfl rfl rfl trivial fun _ member => .inl member
  | tookNone =>
    exact intact.changed ⟨rfl, .refl _, fun _ member => member⟩ (fun _ member => .inl member)
      (intact.latest.same ⟨rfl, rfl, rfl, rfl, rfl⟩) trivial rfl
  | took =>
    exact intact.changed ⟨rfl, .refl _, fun _ member => member⟩ (fun _ member => .inl member)
      (intact.latest.same ⟨rfl, rfl, rfl, rfl, rfl⟩)
      (intact.latest.same ⟨rfl, rfl, rfl, rfl, rfl⟩) rfl
  | timestampsSkipped here | timestampsSent here | readyForSlot here | inlineInstead here
  | initialised here =>
    rw [here] at thread
    exact intact.repositioned rfl rfl rfl rfl thread fun _ member => .inl member
  | notified sending raw slotted =>
    rw [sending] at thread place
    obtain ⟨pixels, submitted, length, _, held⟩ := thread raw
    have mapped := shape.shm.isSome_mapping (place.2.slotted _ slotted).2.1
    obtain ⟨mapping, mapped⟩ := Option.isSome_iff_exists.mp mapped
    exact intact.notified mapped submitted length (held mapping _ slotted mapped)
  | slotNotified copying complete =>
    rw [copying] at thread place
    obtain ⟨_, ⟨raw, unslotted, _⟩, mapped, _⟩ := place
    obtain ⟨pixels, submitted, length, stored, _⟩ := thread.1 raw
    obtain ⟨mapping, mapped⟩ := Option.isSome_iff_exists.mp mapped
    have held := thread.2 mapping mapped
    rw [stored unslotted, Option.getD_some] at complete held
    rw [complete, take_length] at held
    exact intact.notified mapped submitted length held
  | inlineSent inline =>
    rw [inline] at thread place
    obtain ⟨_, raw, unslotted, _⟩ := place
    obtain ⟨pixels, submitted, _, stored, _⟩ := thread raw
    refine intact.repositioned rfl rfl rfl rfl trivial fun delivery member => ?_
    rcases mem_append.mp member with old | new
    · exact .inl old
    · rw [mem_singleton.mp new, stored unslotted]
      exact .inr submitted
  | @dmabufSent frame =>
    refine intact.repositioned rfl rfl rfl rfl ?_ fun _ member => .inl member
    rcases ite_eq_or_eq (frame.holdId ≠ 0) (ClientPc.holding frame) .reading with next | next
    · rw [next]
      trivial
    · rw [next]
      trivial
  | held =>
    exact intact.changed ⟨rfl, ⟨rfl, rfl, rfl, rfl, rfl⟩, fun _ member => member⟩
      (fun _ member => .inl member) intact.latest trivial rfl
  | slotInTurn acquiring | slotAcquired acquiring =>
    rw [acquiring] at thread
    exact intact.changed ⟨rfl, ⟨rfl, rfl, rfl, rfl, rfl⟩, fun _ member => member⟩
      (fun _ member => .inl member) intact.latest ⟨thread, fun _ _ => Memory.Holds.nil⟩ rfl
  | @copiedToSlot _ _ _ count copying =>
    have moves : State.Moves displayNumber state (.copyToSlot count) _ := .copiedToSlot copying
    exact intact.copiedToSlot single shape copying moves rfl
  | installed installing next =>
    rw [installing] at thread place
    obtain ⟨_, ⟨_, unslotted, _⟩, _, _, _, _, _, _, unused⟩ := place
    refine intact.remapped shape (fun call member mapping slot target mapped => ?_) rfl rfl rfl
      ⟨rfl, rfl, rfl, rfl, rfl⟩ ?_
    · exact unused call member (by rw [target]; exact mapped.symm)
    · rcases next with rfl | rfl
      · trivial
      · exact State.FrameIntact.unslotted thread (fun _ member => member) (.inl unslotted)
  | connected idle =>
    refine intact.remapped shape (fun call member mapping slot target mapped => ?_) rfl rfl rfl ?_
      trivial
    · rw [(helloShm_spec _).1.mapping] at mapped
      cases mapped
    · simp only [detachedFrame, shape.slot_of_idle idle]
      exact ⟨rfl, rfl, rfl, rfl, rfl⟩
  | ended =>
    exact intact.remapped shape (fun _ _ _ _ _ => nofun) rfl rfl rfl ⟨rfl, rfl, rfl, rfl, rfl⟩
      trivial

end

theorem of_reaches
    (reached : (displayMachine displayNumber).Reaches (HandsOutUnused displayNumber) state) :
    Intact state := by
  refine reached.invariant_with (fun state => state.Shape ∧ SingleUser state)
    (fun _ before => ⟨.of_reaches before, .of_reaches before⟩) ?_ ?_
  · rintro _ rfl
    exact ⟨nofun, nofun, trivial, nofun⟩
  · exact fun state event after known intact _ moved =>
      intact.moves known.2 known.1 (State.step_moves moved)

end Intact

/-- Clients are shown frames as they were submitted, and so is the latest frame. -/
structure FramesIntact (state : State) : Prop where
  delivered : ∀ delivery ∈ state.history.delivered, delivery ∈ state.history.submitted
  latest : state.display.latestFrame.type = .raw → state.display.latestFrame.slot = none →
    ∃ pixels, state.display.latestFrame.pixels = some pixels ∧
      ⟨state.display.latestFrame.call, state.display.latestFrame.header, pixels⟩ ∈
        state.history.submitted

/-- While slots are handed out only when nobody uses them, header and pixels stay together. -/
theorem frames_intact {states : UInt32 → State}
    (reached : streamer.Reaches (Machine.each HandsOutUnused) states) (displayNumber : UInt32) :
    FramesIntact (states displayNumber) := by
  have intact := Intact.of_reaches (reached.component displayNumber)
  refine ⟨intact.delivered, fun raw unslotted => ?_⟩
  obtain ⟨pixels, submitted, _, stored, _⟩ := intact.latest raw
  exact ⟨pixels, stored unslotted, submitted⟩

def slottedFrameEvents (pixel : UInt8) : List Event :=
  [.onFrame 1 1 0 4 (some [pixel, pixel, pixel, pixel]) 0, .onFrameCopy 0 4, .onFramePublish 0,
    .takeFrame true, .sendTimestamps true 0, .sendNotify true]

def intactStates : UInt32 → State :=
  (streamer.runAllowed (Machine.each HandsOutUnused) (fun _ => {})
    (onFirstDisplay (firstFrameEvents.take 10 ++ slottedFrameEvents 5 ++
      [.connectionLost, .endClient]))).getD fun _ => {}

theorem frames_intact_leave :
    (intactStates 0).display.latestFrame.pixels = some [5, 5, 5, 5] ∧
      (intactStates 0).history.delivered.length = 2 ∧ FramesIntact (intactStates 0) := by
  refine ⟨by decide +kernel, by decide +kernel, frames_intact (.getD_runAllowed _ ?_ ?_) 0⟩
  · exact .start fun _ => rfl
  · decide +kernel

/-- The client releases the slot of the latest frame, and leaves while the next is copied there. -/
def tornFrameEvents : List Event :=
  firstFrameEvents.take 10 ++ [1, 2, 3, 4, 5].flatMap slottedFrameEvents ++
    [.clientSends ⟨kSlotReleaseMagic, kShmReleaseVersion, 1, 5⟩, .readMessage,
      .onFrame 1 1 0 4 (some [6, 6, 6, 6]) 0, .onFrameCopy 0 2, .connectionLost, .endClient]

def tornStates : UInt32 → State :=
  (streamer.run (fun _ => {}) (onFirstDisplay tornFrameEvents)).getD fun _ => {}

theorem frame_torn : streamer.Reachable tornStates ∧ (tornStates 0).display.latestFrame.call = 5 ∧
    (tornStates 0).display.latestFrame.pixels = some [6, 6, 5, 5] ∧
    ¬ FramesIntact (tornStates 0) := by
  have torn : (tornStates 0).display.latestFrame.pixels = some [6, 6, 5, 5] := by decide +kernel
  refine ⟨.getD_run _ (.start fun _ => rfl) (by decide +kernel), by decide +kernel, torn,
    fun intact => ?_⟩
  obtain ⟨pixels, stored, submitted⟩ := intact.latest (by decide +kernel) (by decide +kernel)
  rw [torn] at stored
  cases stored
  exact absurd submitted (by decide +kernel)

end Ika.FrameStream
