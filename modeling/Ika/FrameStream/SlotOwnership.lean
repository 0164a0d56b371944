import Ika.FrameStream.Shape

/-! A busy slot has one owner: a call, the latest frame, the client's thread or the client.

The owners of a slot are counted and compared with its busy bit, which is set
and cleared in five places. A writer holds the bit, so nobody else can.
-/

set_option autoImplicit false

namespace Ika.FrameStream

open Transition List Option

def ClientMessage.releases (message : ClientMessage) (generation : UInt32) (slot : Nat) : Bool :=
  message.magic = kSlotReleaseMagic ∧ message.version = kShmReleaseVersion ∧
    message.arg0 = generation ∧ message.arg1.toNat = slot

def Frame.ownsUnsent (latest : Frame) (slot : Nat) : Nat :=
  if latest.slot = some slot ∧ latest.slotSent = false then 1 else 0

def ClientPc.owns (pc : ClientPc) (slot : Nat) : Nat :=
  match pc with
  | .taken frame | .sending frame => if frame.slot = some slot then 1 else 0
  | .copying _ target _ => if target = slot then 1 else 0
  | _ => 0

def State.owners (state : State) (slot : Nat) : Nat :=
  state.calls.countP (·.targets state.display.shm.mapping slot) +
    state.display.latestFrame.ownsUnsent slot + state.pc.owns slot +
    state.history.unreleased.count (state.display.shm.generation, slot) +
    state.toServer.countP (·.releases state.display.shm.generation slot)

/-- The client releases a slot only for a notice of it not released before. -/
def ReleasesOnce (state : State) : Event → Prop
  | .clientSends message => message.isSlotRelease →
    (message.arg0, message.arg1.toNat) ∈ state.history.unreleased
  | _ => True

instance (state : State) (event : Event) : Decidable (ReleasesOnce state event) := by
  refine Event.casesOn event ?_ ?_ ?_ ?_ ?_ (fun message => ?_) ?_ ?_ ?_ ?_ ?_ ?_ ?_ ?_ ?_ ?_ ?_ ?_
    ?_ ?_ ?_ ?_
  case refine_6 =>
    exact inferInstanceAs (Decidable (message.isSlotRelease →
      (message.arg0, message.arg1.toNat) ∈ state.history.unreleased))
  all_goals
    intros
    exact isTrue trivial

structure Owned (state : State) : Prop where
  exclusive : state.display.shm.generation ≠ 0 → ∀ slot < state.display.shm.slotCount,
    state.owners slot ≤ SlotMask.busy state.display.shm.busySlots slot
  noticed : ∀ entry ∈ state.history.unreleased,
    entry.1.toNat ≤ state.display.shm.lastGeneration.toNat
  queued : ∀ message ∈ state.toServer, message.isSlotRelease →
    message.arg0.toNat ≤ state.display.shm.lastGeneration.toNat

namespace Owned

variable {displayNumber : UInt32} {state : State}

variable {shm : ClientShm} {mappings slot : Nat} {frame : Frame}

theorem slot_lt_width (shape : ShmShape shm mappings) (releases : shm.generation ≠ 0)
    (bound : slot < shm.slotCount) : slot < 32 := by
  rw [shape.mapped (shape.isSome_mapping releases), kSlotCount] at bound
  omega

theorem busy_takeSlot {index : Nat} (shape : ShmShape shm mappings)
    (releases : shm.generation ≠ 0) (free : shm.freeSlot = some index)
    (bound : slot < shm.slotCount) :
    SlotMask.busy (shm.takeSlot index).busySlots slot =
      SlotMask.busy shm.busySlots slot + if slot = index then 1 else 0 := by
  rw [ClientShm.takeSlot, SlotMask.busy_mark (slot_lt_width shape releases bound)]
  split
  · rename_i same
    subst same
    simp [SlotMask.busy, (freeSlot_spec free).2]
  · omega

theorem busy_replaced {display : DisplayStream} (shape : ShmShape display.shm mappings)
    (releases : display.shm.generation ≠ 0) (bound : slot < display.shm.slotCount) :
    SlotMask.busy (replacedBusy display frame) slot =
      if display.latestFrame.ownsUnsent slot = 1 ∧ frame.slot ≠ some slot then 0
      else SlotMask.busy display.shm.busySlots slot := by
  unfold replacedBusy Frame.ownsUnsent
  cases held : display.latestFrame.slot with
  | none => simp
  | some old =>
    dsimp only
    by_cases same : old = slot
    · subst same
      cases sent : display.latestFrame.slotSent
      · by_cases again : frame.slot = some old
        · simp [again]
        · simp [again, SlotMask.busy_clear (slot_lt_width shape releases bound)]
      · simp
    · have other : slot ≠ old := Ne.symm same
      split <;> simp [same, other, SlotMask.busy_clear (slot_lt_width shape releases bound)]

theorem ownsUnsent_markTaken (latest : Frame) (slot : Nat) :
    (markTaken latest).ownsUnsent slot = 0 := by
  unfold Frame.ownsUnsent markTaken
  rw [if_neg]
  rintro ⟨slotted, unsent⟩
  obtain ⟨_, unslotted⟩ := Bool.or_eq_false_iff.mp unsent
  rw [isSome_eq_false_iff, isNone_iff_eq_none] at unslotted
  exact absurd (unslotted.symm.trans slotted) nofun

theorem busy_applied (shape : ShmShape shm mappings) (releases : shm.generation ≠ 0)
    (bound : slot < shm.slotCount) (message : ClientMessage) :
    SlotMask.busy (applyClientMessage shm message).1.busySlots slot =
      if message.releases shm.generation slot then 0 else SlotMask.busy shm.busySlots slot := by
  rw [applyClientMessage_busy]
  unfold appliedBusy ClientMessage.releases
  by_cases release : message.magic = kSlotReleaseMagic ∧ message.version = kShmReleaseVersion ∧
      message.arg0 = shm.generation
  · obtain ⟨magic, version, generation⟩ := release
    by_cases inside : message.arg1.toNat < shm.slotCount
    · simp [magic, version, generation, releases, inside,
        SlotMask.busy_clear (slot_lt_width shape releases bound), eq_comm]
    · have apart : message.arg1.toNat ≠ slot := by omega
      simp [inside, apart]
  · have foreign : ¬ (message.magic = kSlotReleaseMagic ∧ message.version = kShmReleaseVersion ∧
        shm.generation ≠ 0 ∧ message.arg0 = shm.generation ∧
        message.arg1.toNat < shm.slotCount) := fun ⟨magic, version, _, generation, _⟩ =>
      release ⟨magic, version, generation⟩
    rw [if_neg foreign, if_neg]
    simp only [decide_eq_true_eq]
    exact fun ⟨magic, version, generation, _⟩ => release ⟨magic, version, generation⟩

section

variable (owned : Owned state)
include owned

section

variable (shape : state.Shape)
include shape

variable {after : State}

theorem changed (same : SameMapping state.display.shm after.display.shm)
    (exclusive : state.display.shm.generation ≠ 0 → ∀ slot < state.display.shm.slotCount,
      state.owners slot ≤ SlotMask.busy state.display.shm.busySlots slot →
      after.owners slot ≤ SlotMask.busy after.display.shm.busySlots slot)
    (noticed : ∀ entry ∈ after.history.unreleased, entry ∈ state.history.unreleased ∨
      entry.1 = state.display.shm.generation ∧ state.display.shm.generation ≠ 0)
    (queued : ∀ message ∈ after.toServer, message ∈ state.toServer ∨
      (message.isSlotRelease → (message.arg0, message.arg1.toNat) ∈ state.history.unreleased)) :
    Owned after := by
  refine ⟨fun releases slot bound => ?_, fun entry member => ?_, fun message member release => ?_⟩
  · rw [same.generation] at releases
    rw [same.slotCount] at bound
    exact exclusive releases slot bound (owned.exclusive releases slot bound)
  · rw [same.lastGeneration]
    rcases noticed entry member with old | ⟨new, releases⟩
    · exact owned.noticed entry old
    · exact Nat.le_of_eq (by rw [new, shape.shm.current releases])
  · rw [same.lastGeneration]
    rcases queued message member with old | new
    · exact owned.queued message old release
    · exact owned.noticed _ (new release)

theorem unheard (same : SameMapping state.display.shm after.display.shm)
    (unreleased : after.history.unreleased = state.history.unreleased)
    (toServer : after.toServer = state.toServer)
    (exclusive : state.display.shm.generation ≠ 0 → ∀ slot < state.display.shm.slotCount,
      state.owners slot ≤ SlotMask.busy state.display.shm.busySlots slot →
      after.owners slot ≤ SlotMask.busy after.display.shm.busySlots slot) : Owned after :=
  owned.changed shape same exclusive (fun _ member => .inl (unreleased ▸ member))
    (fun _ member => .inl (toServer ▸ member))

theorem repositioned (display : after.display = state.display) (calls : after.calls = state.calls)
    (unreleased : after.history.unreleased = state.history.unreleased)
    (toServer : after.toServer = state.toServer)
    (fewer : ∀ slot, after.pc.owns slot ≤ state.pc.owns slot) : Owned after := by
  refine owned.unheard shape (display ▸ .refl _) unreleased toServer (fun _ slot _ before => ?_)
  have := fewer slot
  simp only [State.owners, display, calls, unreleased, toServer] at before ⊢
  omega

theorem notified (holds : ∀ other, state.pc.owns other = if slot = other then 1 else 0) :
    Owned {state with pc := .reading, history := state.noteNotify frame slot} := by
  refine owned.changed shape (.refl _) (fun releases other _ before => ?_)
    (fun entry member => ?_) (fun _ member => .inl member)
  · have held := holds other
    have left : ClientPc.reading.owns other = 0 := rfl
    simp only [State.owners, State.noteNotify, releases, ne_eq, not_false_eq_true, if_true,
      count_append, count_singleton, Prod.mk.injEq, true_and, beq_iff_eq] at before ⊢
    omega
  · simp only [State.noteNotify] at member
    split at member
    · rename_i releases
      rcases mem_append.mp member with old | new
      · exact .inl old
      · rw [mem_singleton] at new
        exact .inr ⟨congrArg Prod.fst new, releases⟩
    · exact .inl member

theorem clientSent {message : ClientMessage}
    (polite : message.isSlotRelease →
      (message.arg0, message.arg1.toNat) ∈ state.history.unreleased) {history : History}
    (unreleased : history.unreleased = if message.isSlotRelease then
        state.history.unreleased.erase (message.arg0, message.arg1.toNat)
      else state.history.unreleased) :
    Owned {state with toServer := state.toServer ++ [message], history := history} := by
  refine owned.changed shape (.refl _) (fun _ slot _ before => ?_) (fun entry member => .inl ?_)
    (fun other member => ?_)
  · simp only [State.owners, unreleased, countP_append, countP_singleton] at before ⊢
    by_cases release : message.isSlotRelease
    · rw [if_pos release, count_erase]
      by_cases mine : message.releases state.display.shm.generation slot = true
      · have pair : (message.arg0, message.arg1.toNat) = (state.display.shm.generation, slot) := by
          simp only [ClientMessage.releases, decide_eq_true_eq] at mine
          rw [mine.2.2.1, mine.2.2.2]
        have held := count_pos_iff.mpr (polite release)
        rw [pair] at held ⊢
        rw [if_pos mine, if_pos (by simp)]
        omega
      · rw [if_neg mine]
        omega
    · have other : ¬ message.releases state.display.shm.generation slot = true := by
        simp only [ClientMessage.releases, decide_eq_true_eq]
        exact fun mine => release ⟨mine.1, mine.2.1⟩
      rw [if_neg release, if_neg other]
      omega
  · rw [unreleased] at member
    split at member
    · exact mem_of_mem_erase member
    · exact member
  · rcases mem_append.mp member with old | new
    · exact .inl old
    · rw [mem_singleton] at new
      exact .inr (new ▸ polite)

theorem read {message : ClientMessage}
    {rest : List ClientMessage} (queued : state.toServer = message :: rest) {history : History}
    (unreleased : history.unreleased = state.history.unreleased) :
    Owned {state with
      display := {state.display with shm := (applyClientMessage state.display.shm message).1}
      toServer := rest
      history := history} := by
  have same := applyClientMessage_mapping state.display.shm message
  refine owned.changed shape same (fun releases slot bound before => ?_)
    (fun _ member => .inl (unreleased ▸ member))
    (fun _ member => .inl (queued ▸ mem_cons_of_mem message member))
  dsimp only
  rw [busy_applied shape.shm releases bound]
  simp only [State.owners, same.generation, same.mapping, unreleased, queued,
    countP_cons] at before ⊢
  have one := SlotMask.busy_le_one state.display.shm.busySlots slot
  by_cases mine : message.releases state.display.shm.generation slot = true
  · rw [if_pos mine] at before ⊢
    omega
  · rw [if_neg mine] at before ⊢
    omega

theorem replaced (frame : Frame) (mapping : SameMapping state.display.shm after.display.shm)
    (latest : ∀ slot, after.display.latestFrame.ownsUnsent slot = frame.ownsUnsent slot)
    (busy : after.display.shm.busySlots = replacedBusy state.display frame)
    (pc : after.pc = state.pc) (unreleased : after.history.unreleased = state.history.unreleased)
    (toServer : after.toServer = state.toServer)
    (passed : state.display.shm.generation ≠ 0 → ∀ slot,
      after.calls.countP (·.targets state.display.shm.mapping slot) + frame.ownsUnsent slot =
        state.calls.countP (·.targets state.display.shm.mapping slot)) : Owned after := by
  refine owned.unheard shape mapping unreleased toServer (fun releases slot bound before => ?_)
  have one := SlotMask.busy_le_one state.display.shm.busySlots slot
  have counted := passed releases slot
  simp only [State.owners, mapping.mapping, mapping.generation, latest, busy, pc, unreleased,
    toServer] at before ⊢
  rw [busy_replaced shape.shm releases bound]
  split <;> omega

end

end

theorem ownsUnsent_frame {call : OnFrameCall} {current : Option ShmMapping}
    (same : ∀ mapping slot, call.target = some (mapping, slot) → current = some mapping)
    (slot : Nat) (mapped : current.isSome) :
    call.frame.ownsUnsent slot = if call.targets current slot then 1 else 0 := by
  obtain ⟨mapping, rfl⟩ := isSome_iff_exists.mp mapped
  cases target : call.target with
  | none => simp [Frame.ownsUnsent, OnFrameCall.frame, OnFrameCall.targets, target]
  | some pair =>
    obtain ⟨other, index⟩ := pair
    have : mapping = other := by simpa using same other index target
    simp [Frame.ownsUnsent, OnFrameCall.frame, OnFrameCall.targets, target, this]

theorem installed (owned : Owned state) (shape : state.Shape) {frame : Frame}
    {mapping : ShmMapping} {slotSize : Nat} {generation : UInt32}
    (installing : state.pc = .installing frame mapping slotSize generation)
    {pc : ClientPc} (next : pc = .ending ∨ pc = .acquiring frame) :
    Owned {state with
      display := {state.display with
        latestFrame := detachedFrame state.memory state.display
        shm := {state.display.shm with
          mapping := some mapping, slotSize := slotSize, slotCount := kSlotCount
          nextSlot := 0, generation := generation, busySlots := 0#32
          lastGeneration :=
            if generation ≠ 0 then generation else state.display.shm.lastGeneration}}
      pc := pc} := by
  have current := shape.pc
  rw [installing] at current
  obtain ⟨_, _, _, _, _, following, _⟩ := current
  have grown : generation ≠ 0 → generation.toNat = state.display.shm.lastGeneration.toNat + 1 :=
    fun releases => following.resolve_left releases
  have kept : state.display.shm.lastGeneration.toNat ≤
      (if generation ≠ 0 then generation else state.display.shm.lastGeneration).toNat := by
    split
    · rename_i releases
      have := grown releases
      omega
    · exact Nat.le_refl _
  refine ⟨fun releases slot _ => ?_, fun entry member => ?_, fun message member release => ?_⟩
  · have grown := grown releases
    have calls := State.targets_installing shape installing slot
    have latest : (detachedFrame state.memory state.display).ownsUnsent slot = 0 := by
      simp [Frame.ownsUnsent, detachedFrame_slot]
    have thread : pc.owns slot = 0 := by
      rcases next with rfl | rfl <;> rfl
    have noticed : state.history.unreleased.count (generation, slot) = 0 := by
      refine count_eq_zero.mpr fun member => ?_
      have : generation.toNat ≤ _ := owned.noticed _ member
      omega
    have queued : state.toServer.countP (·.releases generation slot) = 0 := by
      refine countP_eq_zero.mpr fun message member targets => ?_
      simp only [ClientMessage.releases, decide_eq_true_eq] at targets
      have := owned.queued message member ⟨targets.1, targets.2.1⟩
      rw [targets.2.2.1] at this
      omega
    simp only [State.owners, calls, latest, thread, noticed, queued]
    omega
  · exact Nat.le_trans (owned.noticed entry member) kept
  · exact Nat.le_trans (owned.queued message member release) kept

theorem moves {event : Event} {after : State} (owned : Owned state) (shape : state.Shape)
    (polite : ReleasesOnce state event)
    (moved : State.Moves displayNumber state event after) : Owned after := by
  cases moved with
  | stays => exact owned
  | stopped => exact owned.repositioned shape rfl rfl rfl rfl fun _ => Nat.le_refl _
  | swallowed => exact owned.unheard shape (.refl _) rfl rfl fun _ _ _ before => before
  | reserved built length unsuppressed mapped releases room free =>
    refine owned.unheard shape ⟨rfl, rfl, rfl, rfl, rfl⟩ rfl rfl (fun releases slot bound before => ?_)
    dsimp only
    rw [busy_takeSlot shape.shm releases free bound]
    simp only [State.owners, ClientShm.takeSlot, State.noteSubmitted, countP_append,
      countP_singleton, OnFrameCall.targets, mapped, map_some, Option.some.injEq,
      Prod.mk.injEq, true_and, decide_eq_true_eq, eq_comm (a := slot)] at before ⊢
    omega
  | unslotted =>
    refine owned.unheard shape (.refl _) rfl rfl (fun releases slot _ before => ?_)
    have mapped := shape.shm.isSome_mapping releases
    obtain ⟨mapping, mapped⟩ := isSome_iff_exists.mp mapped
    simp only [State.owners, State.noteSubmitted, countP_append, countP_singleton,
      OnFrameCall.targets, mapped, map_some, reduceCtorEq, decide_false, if_false] at before ⊢
    omega
  | copied found target =>
    refine owned.unheard shape (.refl _) rfl rfl (fun _ slot _ before => ?_)
    simp only [State.owners] at before ⊢
    rwa [ListCount.countP_set_same _ found (by rfl)]
  | dropped found =>
    refine owned.unheard shape (.refl _) rfl rfl (fun _ slot _ before => ?_)
    have counted := ListCount.countP_eraseIdx (·.targets state.display.shm.mapping slot) found
    simp only [State.owners] at before ⊢
    omega
  | published found complete current =>
    refine owned.replaced shape _ ⟨rfl, rfl, rfl, rfl, rfl⟩ (fun _ => rfl) rfl rfl rfl rfl
      fun releases slot => ?_
    rw [ownsUnsent_frame current slot (shape.shm.isSome_mapping releases)]
    exact ListCount.countP_eraseIdx _ found
  | dmabuf =>
    exact owned.replaced shape _ ⟨rfl, rfl, rfl, rfl, rfl⟩ (fun _ => rfl) rfl rfl rfl rfl
      fun _ slot => rfl
  | connected idle =>
    exact ⟨fun releases => absurd (helloShm_spec _).1.generation releases, (by rintro _ ⟨⟩),
      (by rintro _ ⟨⟩)⟩
  | clientSent => exact owned.clientSent shape polite rfl
  | read reads queued => exact owned.read shape queued rfl
  | gaveUp | nothingNew | woke | timestampsFailed | dmabufFailed | inlineSent | inlineInstead
  | initialised | readyForSlot =>
    exact owned.repositioned shape rfl rfl rfl rfl fun _ => Nat.zero_le _
  | took reading filled new =>
    refine owned.unheard shape (.refl _) rfl rfl (fun _ slot _ before => ?_)
    have unsent : state.display.latestFrame.slotSent = false := by
      rw [← Bool.not_eq_true]
      exact fun sent => new (shape.taken sent).2.symm
    have before_owner : state.display.latestFrame.ownsUnsent slot =
        if state.display.latestFrame.slot = some slot then 1 else 0 := by
      simp [Frame.ownsUnsent, unsent]
    have after_owner (duplicated : Bool) :
        (ClientPc.taken (takenFrame state.display.latestFrame duplicated)).owns slot =
          if state.display.latestFrame.slot = some slot then 1 else 0 := rfl
    simp only [State.owners, before_owner, after_owner, ownsUnsent_markTaken] at before ⊢
    omega
  | tookNone reading =>
    refine owned.unheard shape (.refl _) rfl rfl (fun _ slot _ before => ?_)
    simp only [State.owners, reading, ClientPc.owns, ownsUnsent_markTaken] at before ⊢
    omega
  | timestampsSkipped taken | timestampsSent taken =>
    exact owned.repositioned shape rfl rfl rfl rfl fun slot => by rw [taken]; exact Nat.le_refl _
  | notified sending raw slotted =>
    exact owned.notified shape fun slot => by simp [sending, ClientPc.owns, slotted]
  | slotNotified copying =>
    exact owned.notified shape fun slot => by rw [copying]; rfl
  | dmabufSent =>
    refine owned.repositioned shape rfl rfl rfl rfl fun slot => ?_
    dsimp only
    split <;> exact Nat.zero_le _
  | held holding =>
    refine owned.unheard shape ⟨rfl, rfl, rfl, rfl, rfl⟩ rfl rfl (fun _ slot _ before => ?_)
    simp only [State.owners, holding, ClientPc.owns] at before ⊢
    exact before
  | installed installing next => exact owned.installed shape installing next
  | slotInTurn acquiring copies =>
    exact owned.unheard shape ⟨rfl, rfl, rfl, rfl, rfl⟩ rfl rfl
      fun releases => absurd copies releases
  | slotAcquired acquiring releases free =>
    refine owned.unheard shape ⟨rfl, rfl, rfl, rfl, rfl⟩ rfl rfl (fun releases slot bound before => ?_)
    dsimp only
    rw [busy_takeSlot shape.shm releases free bound]
    simp only [State.owners, acquiring, ClientShm.takeSlot, ClientPc.owns,
      eq_comm (a := slot)] at before ⊢
    omega
  | copiedToSlot copying =>
    exact owned.repositioned shape rfl rfl rfl rfl fun slot => by rw [copying]; exact Nat.le_refl _
  | ended =>
    exact ⟨fun releases => absurd rfl releases, owned.noticed, (by rintro _ ⟨⟩)⟩

theorem of_reaches {state : State}
    (reached : (displayMachine displayNumber).Reaches ReleasesOnce state) : Owned state := by
  refine reached.invariant_with State.Shape (fun _ => State.Shape.of_reaches) ?_ ?_
  · rintro _ rfl
    exact ⟨fun releases => absurd rfl releases, nofun, nofun⟩
  · exact fun state event after shape owned polite moved =>
      owned.moves shape polite (State.step_moves moved)

end Owned

/-! ## Writing to a slot -/

/-- Nobody but the writer has a use for the slot. -/
structure Exclusive (state : State) (writer : Writer) (slot : Nat) : Prop where
  unheld : (state.display.shm.generation, slot) ∉ state.history.unreleased
  unannounced : ∀ frame, state.pc = .taken frame ∨ state.pc = .sending frame →
    frame.slot ≠ some slot
  unpublished : state.display.latestFrame.slot = some slot →
    state.display.latestFrame.slotSent = true
  alone : ∀ other mapping, state.display.shm.mapping = some mapping →
    state.reserved other = some (mapping, slot) → other = writer

/-- What a step may do to the slots of a client that releases them. -/
structure SlotStep (state : State) (event : Event) (after : State) : Prop where
  exclusive : ∀ mapping writer slot, state.display.shm.mapping = some mapping →
    state.display.shm.generation ≠ 0 → event.writer = some writer →
    state.reserved writer = some (mapping, slot) → Exclusive state writer slot
  written : ∀ mapping address, state.display.shm.mapping = some mapping →
    state.display.shm.generation ≠ 0 →
    after.memory mapping.id address ≠ state.memory mapping.id address →
    ∃ writer slot, event.writer = some writer ∧ state.reserved writer = some (mapping, slot) ∧
      state.display.shm.slotAddress slot ≤ address ∧
      address < state.display.shm.slotAddress (slot + 1)
  /-- A release of another generation frees no slot. -/
  stale : ∀ message rest, event = .readMessage → state.toServer = message :: rest →
    message.isSlotRelease → message.arg0 ≠ state.display.shm.generation →
    after.display.shm.busySlots = state.display.shm.busySlots
  /-- Releases still to come, of slots remade by this step, are of another generation. -/
  renewed : after.display.shm.mapping ≠ state.display.shm.mapping →
    after.display.shm.generation ≠ 0 →
    (∀ entry ∈ after.history.unreleased, entry.1 ≠ after.display.shm.generation) ∧
    ∀ message ∈ after.toServer, message.isSlotRelease →
      message.arg0 ≠ after.display.shm.generation

namespace Owned

variable {displayNumber : UInt32} {state after : State} {event : Event}

theorem exclusive_writer (owned : Owned state) (shape : state.Shape) {mapping : ShmMapping}
    {writer : Writer} {slot : Nat} (mapped : state.display.shm.mapping = some mapping)
    (releases : state.display.shm.generation ≠ 0)
    (reserved : state.reserved writer = some (mapping, slot)) : Exclusive state writer slot := by
  have single := owned.exclusive releases slot (State.reserved_bound shape mapped reserved)
  have one := SlotMask.busy_le_one state.display.shm.busySlots slot
  have owns : ∀ other, state.reserved other = some (mapping, slot) →
      (∃ index, other = .call index ∧
        0 < state.calls.countP (·.targets state.display.shm.mapping slot)) ∨
      (other = .client ∧ state.pc.owns slot = 1 ∧ ∃ frame copied,
        state.pc = .copying frame slot copied) := by
    intro other held
    cases other with
    | call index =>
      obtain ⟨call, found, target⟩ := State.reserved_call held
      exact .inl ⟨index, rfl, State.targets_reserved mapped found target⟩
    | client =>
      obtain ⟨⟨frame, copied, copying⟩, _⟩ := State.reserved_client held
      exact .inr ⟨rfl, by simp [copying, ClientPc.owns], frame, copied, copying⟩
  have mine : 1 ≤ state.calls.countP (·.targets state.display.shm.mapping slot) +
      state.pc.owns slot := by
    rcases owns writer reserved with ⟨_, _, called⟩ | ⟨_, copying, _⟩ <;> omega
  unfold State.owners at single
  refine ⟨fun member => ?_, fun frame sending slotted => ?_, fun slotted => ?_,
    fun other current mapped' held => ?_⟩
  · have := count_pos_iff.mpr member
    omega
  · have announces : state.pc.owns slot = 1 := by
      rcases sending with here | here <;> simp [here, ClientPc.owns, slotted]
    rcases owns writer reserved with ⟨_, _, called⟩ | ⟨_, _, frame', copied, copying⟩
    · omega
    · rcases sending with here | here <;> rw [copying] at here <;> cases here
  · by_contra unsent
    rw [Bool.not_eq_true] at unsent
    have : state.display.latestFrame.ownsUnsent slot = 1 := by
      simp [Frame.ownsUnsent, slotted, unsent]
    omega
  · obtain rfl : mapping = current := Option.some.inj (mapped.symm.trans mapped')
    rcases owns other held with ⟨index, rfl, called⟩ | ⟨rfl, copying, _⟩ <;>
      rcases owns writer reserved with ⟨index', rfl, called'⟩ | ⟨rfl, copying', _⟩
    · obtain ⟨call, found, target⟩ := State.reserved_call held
      obtain ⟨call', found', target'⟩ := State.reserved_call reserved
      have same := ListCount.unique_of_countP_le_one
        (·.targets state.display.shm.mapping slot) (by omega) found found'
        (by simp [OnFrameCall.targets, mapped, target])
        (by simp [OnFrameCall.targets, mapped, target'])
      rw [same]
    · omega
    · omega
    · rfl

theorem renewed_slots (owned : Owned state) (shape : state.Shape)
    (moved : State.Moves displayNumber state event after)
    (remade : after.display.shm.mapping ≠ state.display.shm.mapping)
    (releases : after.display.shm.generation ≠ 0) :
    (∀ entry ∈ after.history.unreleased, entry.1 ≠ after.display.shm.generation) ∧
      ∀ message ∈ after.toServer, message.isSlotRelease →
        message.arg0 ≠ after.display.shm.generation := by
  cases moved with
  | connected => exact absurd (helloShm_spec _).1.generation releases
  | read => exact absurd (applyClientMessage_mapping _ _).mapping remade
  | ended => exact absurd rfl releases
  | installed installing =>
    have current := shape.pc
    rw [installing] at current
    obtain ⟨_, _, _, _, _, following, _⟩ := current
    have grown := following.resolve_left releases
    refine ⟨fun entry member same => ?_, fun message member release same => ?_⟩
    · have := owned.noticed entry member
      rw [same] at this
      exact absurd this (by simp only [grown]; omega)
    · have := owned.queued message member release
      rw [same] at this
      exact absurd this (by simp only [grown]; omega)
  | _ => exact absurd rfl remade

end Owned

/-- No slot is written while the client, a frame to be announced or another writer needs it. -/
theorem slots_exclusive {states : UInt32 → State} {displayNumber : UInt32} {event : Event}
    {after : State} (reached : streamer.Reaches (Machine.each fun _ => ReleasesOnce) states)
    (moved : (states displayNumber).step displayNumber event = some after) :
    SlotStep (states displayNumber) event after := by
  have component := reached.component displayNumber
  have owned := Owned.of_reaches component
  have shape := State.Shape.of_reaches component
  have moves := State.step_moves moved
  refine ⟨fun mapping writer slot mapped releases _ reserved =>
      owned.exclusive_writer shape mapped releases reserved,
    fun mapping address mapped _ changed => State.written_slot shape mapped moves changed,
    fun message rest reading queued release other => ?_,
    fun remade releases => owned.renewed_slots shape moves remade releases⟩
  subst reading
  cases moves with
  | stays | gaveUp => rfl
  | read reads queued' =>
    cases queued.symm.trans queued'
    rw [applyClientMessage_busy]
    exact if_neg fun ⟨_, _, _, same, _⟩ => other same

def slotEvents : List (UInt32 × Event) :=
  onFirstDisplay (firstFrameEvents ++ [.onFrame 1 1 0 4 (some [5, 6, 7, 8]) 0])

def slotStates : UInt32 → State :=
  (streamer.runAllowed (Machine.each fun _ => ReleasesOnce) (fun _ => {}) slotEvents).getD fun _ => {}

theorem slots_exclusive_copy :
    ∃ after, (slotStates 0).history.unreleased = [(1, 0)] ∧
      (slotStates 0).reserved (.call 0) = some (⟨0⟩, 1) ∧
      (slotStates 0).step 0 (.onFrameCopy 0 2) = some after ∧
      SlotStep (slotStates 0) (.onFrameCopy 0 2) after := by
  have moved : ((slotStates 0).step 0 (.onFrameCopy 0 2)).isSome := by decide +kernel
  obtain ⟨after, moved⟩ := isSome_iff_exists.mp moved
  refine ⟨after, by decide +kernel, by decide +kernel, moved, slots_exclusive ?_ moved⟩
  exact .getD_runAllowed slotEvents (.start fun _ => rfl) (by decide +kernel)

end Ika.FrameStream
