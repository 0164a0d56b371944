import Ika.FrameStream.Streamer

/-! What each critical section of the streamer does; later modules do not unfold them again. -/

set_option autoImplicit false

namespace Ika.FrameStream

open Option List

variable {shm : ClientShm} {index payloadSize : Nat} {frame : Frame} (memory : Memory)
  (display : DisplayStream)

theorem freeSlot_spec (found : shm.freeSlot = some index) :
    index < shm.slotCount ∧ shm.busySlots.getLsbD index = false := by
  unfold ClientShm.freeSlot at found
  have free := find?_some found
  obtain ⟨i, range, rfl⟩ := List.mem_map.mp (mem_of_find?_eq_some found)
  rw [mem_range] at range
  exact ⟨Nat.mod_lt _ (by omega), by simpa using free⟩

theorem reserveSlotLocked_spec {display after : DisplayStream}
    (reserved : reserveSlotLocked display payloadSize = some (index, after)) :
    display.shm.mapping.isSome ∧ display.shm.generation ≠ 0 ∧
      payloadSize ≤ display.shm.slotSize ∧ display.shm.freeSlot = some index ∧
      after = {display with shm := display.shm.takeSlot index} := by
  unfold reserveSlotLocked at reserved
  split at reserved
  · cases reserved
  · rename_i possible
    obtain ⟨found, same, pair⟩ := map_eq_some_iff.mp reserved
    simp only [Prod.mk.injEq] at pair
    obtain ⟨rfl, rfl⟩ := pair
    simp only [not_or, isNone_iff_eq_none, Nat.not_lt] at possible
    exact ⟨isSome_iff_ne_none.mpr possible.1, possible.2.1, possible.2.2, same, rfl⟩

/-- The busy bits after a new latest frame: a slot never sent to the client is free again. -/
def replacedBusy (display : DisplayStream) (frame : Frame) : BitVec 32 :=
  match display.latestFrame.slot with
  | some slot =>
    if display.latestFrame.slotSent = false ∧ frame.slot ≠ some slot then
      SlotMask.clear display.shm.busySlots slot
    else display.shm.busySlots
  | none => display.shm.busySlots

def Frame.untakenHold (latest : Frame) : List UInt32 :=
  if latest.holdId ≠ 0 ∧ latest.holdTaken = false then [latest.holdId] else []

theorem releaseLatestHoldLocked_eq :
    releaseLatestHoldLocked display =
      ({display with latestFrame :=
          {display.latestFrame with holdId := 0, holdTaken := false}},
            display.latestFrame.untakenHold) := by
  unfold releaseLatestHoldLocked Frame.untakenHold releaseDmabufHold
  by_cases held : display.latestFrame.holdId = 0 <;> simp [held]

theorem replaceLatestFrameLocked_eq (frame : Frame) :
    replaceLatestFrameLocked display frame =
      ({display with
          latestFrame := frame
          shm := {display.shm with busySlots := replacedBusy display frame}},
        display.latestFrame.untakenHold) := by
  simp only [replaceLatestFrameLocked, releaseLatestHoldLocked_eq, replacedBusy, Frame.untakenHold]
  cases slot : display.latestFrame.slot with
  | none => rfl
  | some index =>
    by_cases free : display.latestFrame.slotSent = false ∧ frame.slot ≠ some index <;> simp [free]

theorem onDmabufFrameLocked_eq (displayNumber : UInt32) (call : Nat) (arrival : DmabufArrival) :
    onDmabufFrameLocked display displayNumber call arrival =
      ({display with
          latestFrame := { arrival.frame displayNumber call with
            holdId := if arrival.isHeld display then arrival.frameId else 0}
          shm := {display.shm with
            busySlots := replacedBusy display (arrival.frame displayNumber call)}
          suppressNextRaw := true
          generation := display.generation + 1},
        if arrival.isHeld display then .held else .delivered, display.latestFrame.untakenHold) := by
  simp only [onDmabufFrameLocked, frameChangedLocked, replaceLatestFrameLocked_eq]
  cases held : arrival.isHeld display <;> simp [DmabufArrival.frame, replacedBusy]

def detachedFrame (memory : Memory) (display : DisplayStream) : Frame :=
  match display.latestFrame.slot with
  | none => display.latestFrame
  | some slot =>
    match display.shm.mapping with
    | some mapping => {display.latestFrame with
        pixels := some (memory.read mapping.id (display.shm.slotAddress slot)
          display.latestFrame.header.payloadSize.toNat)
        slot := none, slotSent := false}
    | none => {display.latestFrame with type := .none, slot := none, slotSent := false}

theorem detachLatestFrameFromShmLocked_eq :
    detachLatestFrameFromShmLocked memory display =
      {display with latestFrame := detachedFrame memory display} := by
  unfold detachLatestFrameFromShmLocked detachedFrame
  cases display.latestFrame.slot with
  | none => rfl
  | some slot => cases display.shm.mapping <;> rfl

theorem detachedFrame_slot : (detachedFrame memory display).slot = none := by
  unfold detachedFrame
  split
  · assumption
  · split <;> rfl

theorem detachedFrame_hold :
    (detachedFrame memory display).holdId = display.latestFrame.holdId ∧
      (detachedFrame memory display).holdTaken = display.latestFrame.holdTaken := by
  unfold detachedFrame
  split
  · exact ⟨rfl, rfl⟩
  · split <;> exact ⟨rfl, rfl⟩

theorem detachedFrame_call : (detachedFrame memory display).call = display.latestFrame.call := by
  unfold detachedFrame
  split
  · rfl
  · split <;> rfl

theorem endClientLocked_eq :
    endClientLocked memory display =
      ({display with
          latestFrame := {detachedFrame memory display with holdId := 0, holdTaken := false}
          shm := closeClientShm {display.shm with heldDmabufs := []}},
        display.shm.heldDmabufs.flatMap releaseDmabufHold ++ display.latestFrame.untakenHold) := by
  obtain ⟨holdId, holdTaken⟩ := detachedFrame_hold memory display
  simp only [endClientLocked, detachLatestFrameFromShmLocked_eq, releaseLatestHoldLocked_eq,
    Frame.untakenHold, holdId, holdTaken]

theorem installShmLocked_eq (mapping : ShmMapping) (slotSize : Nat) (generation : UInt32) :
    installShmLocked memory display mapping slotSize generation =
      {display with
          latestFrame := detachedFrame memory display
          shm := {display.shm with
            mapping := some mapping, slotSize := slotSize, slotCount := kSlotCount
            nextSlot := 0, generation := generation, busySlots := 0#32
            lastGeneration :=
              if generation ≠ 0 then generation else display.shm.lastGeneration}} := by
  simp only [installShmLocked, detachLatestFrameFromShmLocked_eq, closeClientShm]

/-- Only a release of a slot of the current mapping clears a busy bit. -/
def appliedBusy (shm : ClientShm) (message : ClientMessage) : BitVec 32 :=
  if message.magic = kSlotReleaseMagic ∧ message.version = kShmReleaseVersion ∧
      shm.generation ≠ 0 ∧ message.arg0 = shm.generation ∧ message.arg1.toNat < shm.slotCount then
    SlotMask.clear shm.busySlots message.arg1.toNat
  else shm.busySlots

/-- A client message leaves the mapping and its layout alone. -/
structure SameMapping (shm after : ClientShm) : Prop where
  mapping : after.mapping = shm.mapping
  slotSize : after.slotSize = shm.slotSize
  slotCount : after.slotCount = shm.slotCount
  generation : after.generation = shm.generation
  lastGeneration : after.lastGeneration = shm.lastGeneration

theorem SameMapping.refl (shm : ClientShm) : SameMapping shm shm := ⟨rfl, rfl, rfl, rfl, rfl⟩

theorem applyClientMessage_mapping (shm : ClientShm) (message : ClientMessage) :
    SameMapping shm (applyClientMessage shm message).1 := by
  unfold applyClientMessage
  dsimp only
  split
  · exact ⟨rfl, rfl, rfl, rfl, rfl⟩
  split
  · exact ⟨rfl, rfl, rfl, rfl, rfl⟩
  split
  · exact ⟨rfl, rfl, rfl, rfl, rfl⟩
  split
  · split <;> exact ⟨rfl, rfl, rfl, rfl, rfl⟩
  split
  · exact ⟨rfl, rfl, rfl, rfl, rfl⟩
  split <;> exact ⟨rfl, rfl, rfl, rfl, rfl⟩

theorem applyClientMessage_busy (shm : ClientShm) (message : ClientMessage) :
    (applyClientMessage shm message).1.busySlots = appliedBusy shm message := by
  unfold applyClientMessage appliedBusy
  by_cases version : message.version = kShmReleaseVersion
  · by_cases hello : message.magic = kClientHelloMagic
    · simp [version, hello, kShmReleaseVersion, kClientHelloFlagsVersion, kClientHelloMagic,
        kSlotReleaseMagic]
    · by_cases release : message.magic = kDmabufReleaseMagic
      · by_cases held : message.arg0 ∈ shm.heldDmabufs <;>
          simp [version, release, held, kClientHelloMagic, kDmabufReleaseMagic, kSlotReleaseMagic]
      · by_cases pause : message.magic = kClientPauseMagic
        · simp [version, pause, kClientHelloMagic, kDmabufReleaseMagic, kClientPauseMagic,
            kSlotReleaseMagic]
        · simp only [version, hello, release, pause, false_and, decide_false, ne_eq,
            not_true_eq_false, Bool.false_eq_true, if_false, true_and]
          split <;> simp_all
  · by_cases hello : message.magic = kClientHelloMagic ∧ message.version = kClientHelloFlagsVersion
    · simp [hello.1, hello.2, kClientHelloMagic, kSlotReleaseMagic]
    · simp [version, hello]

theorem applyClientMessage_holds (shm : ClientShm) (message : ClientMessage) :
    (message.isDmabufRelease ∧ message.arg0 ∈ shm.heldDmabufs ∧
      (applyClientMessage shm message).1.heldDmabufs = shm.heldDmabufs.erase message.arg0 ∧
      (applyClientMessage shm message).2 = releaseDmabufHold message.arg0) ∨
    ((applyClientMessage shm message).1.heldDmabufs = shm.heldDmabufs ∧
      (applyClientMessage shm message).2 = []) := by
  unfold applyClientMessage
  dsimp only
  split
  · exact .inr ⟨rfl, rfl⟩
  rename_i known
  split
  · exact .inr ⟨rfl, rfl⟩
  rename_i flags
  split
  · exact .inr ⟨rfl, rfl⟩
  split
  · rename_i release
    split
    · rename_i held
      refine .inl ⟨⟨release, ?_⟩, held, rfl, rfl⟩
      by_contra version
      exact known ⟨version, by simpa using flags⟩
    · exact .inr ⟨rfl, rfl⟩
  split
  · exact .inr ⟨rfl, rfl⟩
  split <;> exact .inr ⟨rfl, rfl⟩

theorem helloShm_spec (hello : List ClientMessage) :
    SameMapping {} (helloShm hello) ∧ (helloShm hello).heldDmabufs = [] := by
  have fold : ∀ shm : ClientShm, shm.heldDmabufs = [] →
      let after := hello.foldl (fun shm message => (applyClientMessage shm message).1) shm
      SameMapping shm after ∧ after.heldDmabufs = [] := by
    induction hello with
    | nil => exact fun shm empty => ⟨.refl shm, empty⟩
    | cons message rest ih =>
      intro shm empty
      have still : (applyClientMessage shm message).1.heldDmabufs = [] := by
        rcases applyClientMessage_holds shm message with ⟨_, member, _⟩ | ⟨same, _⟩
        · simp [empty] at member
        · rw [same, empty]
      obtain ⟨mapping, size, count, generation, last⟩ := applyClientMessage_mapping shm message
      obtain ⟨⟨mapping', size', count', generation', last'⟩, none⟩ := ih _ still
      exact ⟨⟨mapping'.trans mapping, size'.trans size, count'.trans count,
        generation'.trans generation, last'.trans last⟩, none⟩
  exact fold {} rfl

/-- The copy of the latest frame a client thread works on; it takes the hold over. -/
def takenFrame (latest : Frame) (duplicated : Bool) : Frame where
  type := latest.type
  header := latest.header
  pixels := latest.pixels
  dmabufFd := if duplicated then latest.dmabufFd else none
  offset := latest.offset
  modifierHi := latest.modifierHi
  modifierLo := latest.modifierLo
  slot := latest.slot
  holdId := if latest.holdId ≠ 0 ∧ latest.holdTaken = false then latest.holdId else 0
  arrivalNs := latest.arrivalNs
  call := latest.call

def markTaken (latest : Frame) : Frame :=
  {latest with
    slotSent := latest.slotSent || latest.slot.isSome
    holdTaken := latest.holdTaken || decide (latest.holdId ≠ 0 ∧ latest.holdTaken = false)}

theorem copyLatestFrameLocked_eq (duplicated : Bool) :
    copyLatestFrameLocked display duplicated =
      (takenFrame display.latestFrame duplicated,
        {display with latestFrame := markTaken display.latestFrame}) := by
  simp only [copyLatestFrameLocked, takenFrame, markTaken, decide_eq_true_eq]

theorem acquireShmSlot_spec {after : ClientShm}
    (acquired : acquireShmSlot shm = some (index, after)) :
    (shm.generation = 0 ∧ index = shm.nextSlot % shm.slotCount ∧
      after = {shm with nextSlot := (shm.nextSlot + 1) % 2 ^ 32}) ∨
    (shm.generation ≠ 0 ∧ shm.freeSlot = some index ∧ after = shm.takeSlot index) := by
  unfold acquireShmSlot at acquired
  split at acquired
  · rename_i copies
    cases acquired
    exact .inl ⟨copies, rfl, rfl⟩
  · rename_i releases
    obtain ⟨found, free, pair⟩ := map_eq_some_iff.mp acquired
    simp only [Prod.mk.injEq] at pair
    obtain ⟨rfl, rfl⟩ := pair
    exact .inr ⟨releases, free, rfl⟩

theorem rawPath_fits (path : rawPath shm frame = .initialises payloadSize) :
    ∃ pixels, frame.pixels = some pixels ∧ payloadSize = pixels.length ∧
      payloadSize ≤ uint32Max ∧ (shm.mapping = none ∨ shm.slotSize < payloadSize) := by
  unfold rawPath at path
  split at path
  · cases path
  rename_i pixels stored
  split at path
  · cases path
  split at path
  · cases path
  rename_i fits
  split at path
  · rename_i unfit
    cases path
    exact ⟨pixels, stored, rfl, by omega, unfit.imp isNone_iff_eq_none.mp id⟩
  · cases path

theorem shmSlotSize_spec {slotSize : Nat} (sized : shmSlotSize payloadSize = some slotSize) :
    slotSize = max payloadSize 1 ∧ slotSize ≤ uint32Max := by
  unfold shmSlotSize at sized
  dsimp only at sized
  split at sized
  · cases sized
  rename_i small
  split at sized <;> cases sized
  exact ⟨rfl, by omega⟩

theorem shmReady_spec (ready : shmReady shm frame = true) :
    shm.mapping.isSome ∧ (frame.pixels.getD []).length ≤ shm.slotSize := by
  simp only [shmReady, Bool.and_eq_true, decide_eq_true_eq] at ready
  exact ready.1

end Ika.FrameStream
