import Ika.FrameStream.Steps

/-! What holds of the slots and the frames of a display in every state, whatever the client does. -/

set_option autoImplicit false

namespace Ika.FrameStream

open Transition List Option Nat

structure FrameShape (shm : ClientShm) (frame : Frame) : Prop where
  buffered : frame.type = .raw → frame.slot = none →
    ∃ pixels, frame.pixels = some pixels ∧ pixels.length = frame.header.payloadSize.toNat
  slotted : ∀ slot, frame.slot = some slot → frame.type = .raw ∧ shm.generation ≠ 0 ∧
    slot < shm.slotCount ∧ frame.header.payloadSize.toNat ≤ shm.slotSize
  unheld : frame.type ≠ .dmabuf → frame.holdId = 0

structure ShmShape (shm : ClientShm) (mappings : Nat) : Prop where
  mapped : shm.mapping.isSome → shm.slotCount = kSlotCount
  unmapped : shm.mapping = none → shm.slotSize = 0 ∧ shm.generation = 0
  bound : shm.slotSize ≤ uint32Max
  current : shm.generation ≠ 0 → shm.generation = shm.lastGeneration
  made : ∀ mapping, shm.mapping = some mapping → mapping.id < mappings

structure CallShape (shm : ClientShm) (mappings : Nat) (call : OnFrameCall) : Prop where
  payload : call.pixels.length = call.header.payloadSize.toNat
  copied : call.copied ≤ call.pixels.length
  made : ∀ mapping slot, call.target = some (mapping, slot) → mapping.id < mappings
  reserved : ∀ mapping slot, call.target = some (mapping, slot) → shm.mapping = some mapping →
    shm.generation ≠ 0 ∧ slot < shm.slotCount ∧ call.slotData = shm.slotAddress slot ∧
      call.pixels.length ≤ shm.slotSize

def Buffered (shm : ClientShm) (frame : Frame) : Prop :=
  frame.type = .raw ∧ frame.slot = none ∧ FrameShape shm frame

def PcShape (display : DisplayStream) (calls : List OnFrameCall) (mappings : Nat) :
    ClientPc → Prop
  | .idle => display.clientFd = none ∧ display.shm.mapping = none
  | .reading | .waiting | .ending | .holding _ => display.clientFd.isSome
  | .taken frame | .sending frame => display.clientFd.isSome ∧ FrameShape display.shm frame
  | .installing frame mapping slotSize generation =>
    display.clientFd.isSome ∧ Buffered display.shm frame ∧
      frame.header.payloadSize.toNat ≤ slotSize ∧
      display.shm.slotSize < slotSize ∧ slotSize ≤ uint32Max ∧
      (generation = 0 ∨ generation.toNat = display.shm.lastGeneration.toNat + 1) ∧
      mapping.id < mappings ∧ display.shm.mapping ≠ some mapping ∧
      ∀ call ∈ calls, call.target.map (·.1) ≠ some mapping
  | .sendingInline frame => display.clientFd.isSome ∧ Buffered display.shm frame
  | .acquiring frame => display.clientFd.isSome ∧ Buffered display.shm frame ∧
      display.shm.mapping.isSome ∧ frame.header.payloadSize.toNat ≤ display.shm.slotSize
  | .copying frame slot copied => display.clientFd.isSome ∧ Buffered display.shm frame ∧
      display.shm.mapping.isSome ∧ frame.header.payloadSize.toNat ≤ display.shm.slotSize ∧
      slot < display.shm.slotCount ∧ copied ≤ frame.header.payloadSize.toNat

structure Shape (display : DisplayStream) (calls : List OnFrameCall) (pc : ClientPc)
    (sentGeneration mappings : Nat) : Prop where
  shm : ShmShape display.shm mappings
  latest : FrameShape display.shm display.latestFrame
  taken : display.latestFrame.slotSent = true → display.latestFrame.slot.isSome ∧
    sentGeneration = display.generation
  behind : sentGeneration ≤ display.generation
  /-- Each remake grows the slots, so the generation never wraps around. -/
  remakes : display.clientFd.isSome → display.shm.lastGeneration.toNat ≤ display.shm.slotSize
  flights : ∀ call ∈ calls, CallShape display.shm mappings call
  pc : PcShape display calls mappings pc

/-- The shape looks at no other part of a state. -/
abbrev State.Shape (state : State) : Prop :=
  FrameStream.Shape state.display state.calls state.pc state.sentGeneration state.mappings

variable {shm : ClientShm} {mappings : Nat} {call : OnFrameCall} {display : DisplayStream}
  {calls : List OnFrameCall} {pc : ClientPc}

variable {after : ClientShm}

theorem FrameShape.same {frame : Frame} (shape : FrameShape shm frame)
    (same : SameMapping shm after) : FrameShape after frame :=
  ⟨shape.buffered, fun slot found => (by
    rw [same.generation, same.slotCount, same.slotSize]
    exact shape.slotted slot found), shape.unheld⟩

theorem FrameShape.without_slot {frame : Frame} (shape : FrameShape shm frame)
    (slot : frame.slot = none) : FrameShape after frame :=
  ⟨shape.buffered, fun other found => (by rw [slot] at found; cases found), shape.unheld⟩

theorem Buffered.same {frame : Frame} (shape : Buffered shm frame) : Buffered after frame :=
  ⟨shape.1, shape.2.1, shape.2.2.without_slot shape.2.1⟩

theorem ShmShape.same (shape : ShmShape shm mappings)
    (same : SameMapping shm after) : ShmShape after mappings := by
  constructor
  · rw [same.mapping, same.slotCount]; exact shape.mapped
  · rw [same.mapping, same.slotSize, same.generation]; exact shape.unmapped
  · rw [same.slotSize]; exact shape.bound
  · rw [same.generation, same.lastGeneration]; exact shape.current
  · rw [same.mapping]; exact shape.made

theorem ShmShape.isSome_mapping (shape : ShmShape shm mappings) (releases : shm.generation ≠ 0) :
    shm.mapping.isSome := by
  cases mapping : shm.mapping with
  | none => exact absurd (shape.unmapped mapping).2 releases
  | some _ => rfl

theorem CallShape.same (shape : CallShape shm mappings call)
    (same : SameMapping shm after) : CallShape after mappings call := by
  refine ⟨shape.payload, shape.copied, shape.made, fun mapping slot target current => ?_⟩
  rw [same.mapping] at current
  simp only [ClientShm.slotAddress, same.generation, same.slotCount, same.slotSize]
  exact shape.reserved mapping slot target current

theorem PcShape.same {after : DisplayStream} (shape : PcShape display calls mappings pc)
    (fd : after.clientFd = display.clientFd) (same : SameMapping display.shm after.shm) :
    PcShape after calls mappings pc := by
  cases pc with
  | idle => exact ⟨fd.trans shape.1, same.mapping.trans shape.2⟩
  | reading | waiting | ending | holding frame => exact (congrArg Option.isSome fd).trans shape
  | taken frame | sending frame => exact ⟨fd ▸ shape.1, shape.2.same same⟩
  | installing frame mapping slotSize generation =>
    obtain ⟨connected, frame, size, larger, bound, next, made, fresh, unused⟩ := shape
    refine ⟨fd ▸ connected, frame.same, size, same.slotSize ▸ larger, bound, ?_, made, ?_, unused⟩
    · rw [same.lastGeneration]; exact next
    · rw [same.mapping]; exact fresh
  | sendingInline frame => exact ⟨fd ▸ shape.1, shape.2.same⟩
  | acquiring frame =>
    obtain ⟨connected, frame, mapped, size⟩ := shape
    exact ⟨fd ▸ connected, frame.same, same.mapping ▸ mapped, same.slotSize ▸ size⟩
  | copying frame slot copied =>
    obtain ⟨connected, frame, mapped, size, bound, progress⟩ := shape
    exact ⟨fd ▸ connected, frame.same, same.mapping ▸ mapped, same.slotSize ▸ size,
      same.slotCount ▸ bound, progress⟩

theorem PcShape.connected {display : DisplayStream} {calls : List OnFrameCall} {mappings : Nat}
    {pc : ClientPc} (shape : PcShape display calls mappings pc) :
    display.clientFd = none ↔ pc = .idle := by
  cases pc <;> simp_all [PcShape, isSome_iff_ne_none]

/-! ## Where frames come from -/

theorem ShmShape.empty (same : SameMapping {} shm) (mappings : Nat) : ShmShape shm mappings :=
  ShmShape.same ⟨fun mapped => (by cases mapped), fun _ => ⟨rfl, rfl⟩, Nat.zero_le _,
    fun generation => absurd rfl generation, fun _ mapped => (by cases mapped)⟩ same

theorem FrameShape.detached
    (shape : FrameShape display.shm display.latestFrame) (shm : ShmShape display.shm mappings)
    (memory : Memory) : FrameShape after (detachedFrame memory display) := by
  unfold detachedFrame
  split
  · exact shape.without_slot ‹_›
  · rename_i slot slotted
    obtain ⟨raw, generation, _⟩ := shape.slotted slot slotted
    split
    · exact ⟨fun _ _ => ⟨_, rfl, Memory.length_read _ _ _ _⟩, nofun, shape.unheld⟩
    · rename_i unmapped
      exact absurd (shm.unmapped unmapped).2 generation

theorem FrameShape.detached_type (shape : FrameShape display.shm display.latestFrame)
    (shm : ShmShape display.shm mappings) (memory : Memory) :
    (detachedFrame memory display).type = display.latestFrame.type := by
  unfold detachedFrame
  split
  · rfl
  · rename_i slot slotted
    split
    · rfl
    · rename_i unmapped
      exact absurd (shm.unmapped unmapped).2 (shape.slotted slot slotted).2.1

theorem CallShape.frame (shape : CallShape shm mappings call)
    (current : ∀ mapping slot, call.target = some (mapping, slot) → shm.mapping = some mapping) :
    FrameShape shm call.frame := by
  refine ⟨fun _ unslotted => ?_, fun slot slotted => ?_, fun _ => rfl⟩
  · simp only [OnFrameCall.frame, map_eq_none_iff] at unslotted
    exact ⟨call.pixels, by simp [OnFrameCall.frame, unslotted], shape.payload⟩
  · obtain ⟨⟨mapping, _⟩, target, rfl⟩ := map_eq_some_iff.mp slotted
    obtain ⟨generation, bound, _, room⟩ :=
      shape.reserved mapping _ target (current mapping _ target)
    exact ⟨rfl, generation, bound, shape.payload ▸ room⟩

theorem FrameShape.dmabuf {shm : ClientShm} (arrival : DmabufArrival) (displayNumber : UInt32)
    (call : Nat) (holdId : UInt32) :
    FrameShape shm {arrival.frame displayNumber call with holdId := holdId} :=
  ⟨nofun, nofun, fun other => absurd rfl other⟩

theorem FrameShape.takenFrame {latest : Frame} (shape : FrameShape shm latest) (duplicated : Bool) :
    FrameShape shm (takenFrame latest duplicated) :=
  ⟨shape.buffered, shape.slotted, fun other => by simp [FrameStream.takenFrame, shape.unheld other]⟩

/-! ## Every step keeps the shape -/

theorem Shape.detachedFrame_sent {state : State} (shape : state.Shape) :
    (detachedFrame state.memory state.display).slotSent = false := by
  unfold detachedFrame
  split
  · rename_i unslotted
    cases sent : state.display.latestFrame.slotSent with
    | false => rfl
    | true => simpa [unslotted] using (shape.taken sent).1
  · split <;> rfl

theorem PcShape.recall {others : List OnFrameCall} (shape : PcShape display calls mappings pc)
    (targets : ∀ call ∈ others, (∃ old ∈ calls, call.target = old.target) ∨
      call.target = none ∨ call.target.map (·.1) = display.shm.mapping) :
    PcShape display others mappings pc := by
  cases pc with
  | installing frame mapping slotSize generation =>
    obtain ⟨connected, frame, size, larger, bound, next, made, fresh, unused⟩ := shape
    refine ⟨connected, frame, size, larger, bound, next, made, fresh, fun call member => ?_⟩
    rcases targets call member with ⟨old, known, same⟩ | missing | current
    · rw [same]; exact unused old known
    · simp [missing]
    · rw [current]; exact fresh
  | _ => exact shape

namespace Shape

variable {displayNumber : UInt32} {state : State}

theorem isSome_clientFd (shape : state.Shape) (busy : state.pc ≠ .idle) :
    state.display.clientFd.isSome :=
  isSome_iff_ne_none.mpr fun missing => busy (shape.pc.connected.mp missing)

variable {pc : ClientPc} {shm : ClientShm}

section

variable (shape : state.Shape)
include shape

theorem repositioned (next : PcShape state.display state.calls state.mappings pc) :
    Shape state.display state.calls pc state.sentGeneration state.mappings :=
  ⟨shape.shm, shape.latest, shape.taken, shape.behind, shape.remakes, shape.flights, next⟩

theorem reshaped (same : SameMapping state.display.shm shm)
    (next : PcShape {state.display with shm := shm} state.calls state.mappings pc) :
    Shape {state.display with shm := shm} state.calls pc state.sentGeneration
      state.mappings :=
  ⟨shape.shm.same same, shape.latest.same same, shape.taken, shape.behind,
    fun connected => by rw [same.lastGeneration, same.slotSize]; exact shape.remakes connected,
    fun call member => (shape.flights call member).same same, next⟩

theorem called {call : OnFrameCall}
    (same : SameMapping state.display.shm shm) (new : CallShape shm state.mappings call)
    (target : call.target = none ∨ call.target.map (·.1) = shm.mapping) :
    Shape {state.display with shm := shm} (state.calls ++ [call]) state.pc
      state.sentGeneration state.mappings := by
  refine ⟨shape.shm.same same, shape.latest.same same, shape.taken, shape.behind, ?_, ?_, ?_⟩
  · rw [same.lastGeneration, same.slotSize]; exact shape.remakes
  · intro other member
    rcases mem_append.mp member with old | added
    · exact (shape.flights other old).same same
    · rw [mem_singleton] at added
      exact added ▸ new
  · have pc : PcShape {state.display with shm := shm} state.calls state.mappings state.pc :=
      shape.pc.same rfl same
    refine pc.recall ?_
    intro other member
    rcases mem_append.mp member with old | added
    · exact .inl ⟨other, old, rfl⟩
    · rw [mem_singleton] at added
      exact .inr (added ▸ target)

theorem replaced {frame : Frame} {calls : List OnFrameCall}
    (kept : ∀ call ∈ calls, call ∈ state.calls) (new : FrameShape state.display.shm frame)
    (unsent : frame.slotSent = false) {display : DisplayStream}
    (fd : display.clientFd = state.display.clientFd)
    (mapping : SameMapping state.display.shm display.shm) (latest : display.latestFrame = frame)
    (generation : display.generation = state.display.generation + 1) :
    Shape display calls state.pc state.sentGeneration state.mappings := by
  refine ⟨shape.shm.same mapping, latest ▸ new.same mapping, ?_, ?_, ?_, ?_, ?_⟩
  · rw [latest, unsent]; nofun
  · have := shape.behind
    omega
  · rw [fd, mapping.lastGeneration, mapping.slotSize]; exact shape.remakes
  · exact fun call member => (shape.flights call (kept call member)).same mapping
  · exact (shape.pc.same fd mapping).recall fun call member => .inl ⟨call, kept call member, rfl⟩

theorem marked (next : PcShape state.display state.calls state.mappings pc) :
    Shape {state.display with latestFrame := markTaken state.display.latestFrame}
      state.calls pc state.display.generation state.mappings := by
  refine ⟨shape.shm, ⟨shape.latest.buffered, shape.latest.slotted, shape.latest.unheld⟩, ?_,
    Nat.le_refl _, shape.remakes, shape.flights, next.same rfl ⟨rfl, rfl, rfl, rfl, rfl⟩⟩
  intro sent
  refine ⟨?_, rfl⟩
  rcases Bool.or_eq_true_iff.mp sent with before | slotted
  · exact (shape.taken before).1
  · exact slotted

theorem copied {index : Nat} {call : OnFrameCall} {copied : Nat}
    (found : state.calls[index]? = some call) (bound : copied ≤ call.pixels.length) :
    FrameStream.Shape state.display (state.calls.set index {call with copied := copied})
      state.pc state.sentGeneration state.mappings := by
  have member := mem_of_getElem? found
  have known := shape.flights call member
  refine ⟨shape.shm, shape.latest, shape.taken, shape.behind, shape.remakes, ?_,
    shape.pc.recall ?_⟩
  · intro other held
    rcases mem_or_eq_of_mem_set held with old | rfl
    · exact shape.flights other old
    · exact ⟨known.payload, bound, known.made, known.reserved⟩
  · intro other held
    rcases mem_or_eq_of_mem_set held with old | rfl
    · exact .inl ⟨other, old, rfl⟩
    · exact .inl ⟨call, member, rfl⟩

theorem initialised {frame : Frame} {payloadSize slotSize : Nat}
    (sending : state.pc = .sending frame) (raw : frame.type = .raw) (unslotted : frame.slot = none)
    (path : rawPath state.display.shm frame = .initialises payloadSize)
    (sized : shmSlotSize payloadSize = some slotSize) :
    FrameStream.Shape state.display state.calls
      (.installing frame ⟨state.mappings⟩ slotSize
        (shmInitGeneration state.display.shm)) state.sentGeneration (state.mappings + 1) := by
  have current := shape.pc
  rw [sending] at current
  obtain ⟨connected, frameShape⟩ := current
  obtain ⟨pixels, stored, rfl, _, unfit⟩ := rawPath_fits path
  obtain ⟨rfl, bound⟩ := shmSlotSize_spec sized
  obtain ⟨other, stored', length⟩ := frameShape.buffered raw unslotted
  obtain rfl : pixels = other := Option.some.inj (stored.symm.trans stored')
  have larger : state.display.shm.slotSize < max pixels.length 1 := by
    rcases unfit with unmapped | small
    · have := (shape.shm.unmapped unmapped).1
      omega
    · omega
  have old : ∀ {mapping : ShmMapping}, mapping.id < state.mappings →
      mapping ≠ ⟨state.mappings⟩ := by
    rintro _ made rfl
    exact Nat.lt_irrefl _ made
  have shm : ShmShape state.display.shm (state.mappings + 1) :=
    ⟨shape.shm.mapped, shape.shm.unmapped, shape.shm.bound, shape.shm.current,
      fun mapping mapped => lt_succ_of_lt (shape.shm.made mapping mapped)⟩
  refine ⟨shm, shape.latest, shape.taken, shape.behind, shape.remakes, fun call member => ?_, ?_⟩
  · have known := shape.flights call member
    exact ⟨known.payload, known.copied,
      fun mapping slot target => lt_succ_of_lt (known.made mapping slot target),
      known.reserved⟩
  · refine ⟨connected, ⟨raw, unslotted, frameShape⟩, by omega, larger, bound, ?_,
      lt_succ_self _, fun mapped => old (shape.shm.made _ mapped) rfl, ?_⟩
    · unfold shmInitGeneration
      split
      · right
        have := shape.remakes connected
        rw [UInt32.toNat_add]
        simp only [uint32Max] at bound
        have one : (1 : UInt32).toNat = 1 := rfl
        omega
      · exact .inl rfl
    · intro call member target
      obtain ⟨⟨mapping, slot⟩, aimed, rfl⟩ := map_eq_some_iff.mp target
      exact old ((shape.flights call member).made _ slot aimed) rfl

theorem installed {frame : Frame} {mapping : ShmMapping} {slotSize : Nat}
    {generation : UInt32} (installing : state.pc = .installing frame mapping slotSize generation)
    {pc : ClientPc} (next : pc = .ending ∨ pc = .acquiring frame) :
    Shape
      {state.display with
        latestFrame := detachedFrame state.memory state.display
        shm := {state.display.shm with
          mapping := some mapping, slotSize := slotSize, slotCount := kSlotCount
          nextSlot := 0, generation := generation, busySlots := 0#32
          lastGeneration :=
            if generation ≠ 0 then generation else state.display.shm.lastGeneration}}
      state.calls pc state.sentGeneration state.mappings := by
  have current := shape.pc
  rw [installing] at current
  obtain ⟨connected, buffered, size, larger, bound, following, made, fresh, unused⟩ := current
  refine ⟨⟨fun _ => rfl, nofun, bound, ?_, ?_⟩, shape.latest.detached shape.shm _, ?_,
    shape.behind, fun connected => ?_, fun call member => ?_, ?_⟩
  · exact fun releases => (if_pos releases).symm
  · rintro _ ⟨⟩
    exact made
  · exact fun sent => absurd sent (by simp [shape.detachedFrame_sent])
  · have remakes := shape.remakes connected
    dsimp only
    split
    · rcases following with copies | following
      · simp [copies]
      · omega
    · omega
  · have known := shape.flights call member
    refine ⟨known.payload, known.copied, known.made, fun other slot target mapped => ?_⟩
    cases mapped
    exact absurd (by simp [target]) (unused call member)
  · rcases next with rfl | rfl
    · exact connected
    · exact ⟨connected, buffered.same, rfl, size⟩

theorem ended :
    Shape
      {state.display with
        latestFrame := { detachedFrame state.memory state.display with
          holdId := 0, holdTaken := false}
        shm := closeClientShm {state.display.shm with heldDmabufs := []}
        clientFd := none}
      state.calls .idle state.sentGeneration state.mappings := by
  have latest : FrameShape (closeClientShm state.display.shm) _ :=
    shape.latest.detached shape.shm state.memory
  refine ⟨⟨nofun, fun _ => ⟨rfl, rfl⟩, Nat.zero_le _, nofun, nofun⟩,
    ⟨latest.buffered, fun slot slotted => ?_, fun _ => rfl⟩, fun sent => ?_, shape.behind, nofun,
    fun call member => ?_, rfl, rfl⟩
  · have := detachedFrame_slot state.memory state.display
    exact absurd slotted (by simp [this])
  · exact absurd sent (by simp [shape.detachedFrame_sent])
  · have known := shape.flights call member
    exact ⟨known.payload, known.copied, known.made, nofun⟩

theorem slot_of_idle (idle : state.pc = .idle) : state.display.latestFrame.slot = none := by
  have current := shape.pc
  rw [idle] at current
  cases slot : state.display.latestFrame.slot with
  | none => rfl
  | some _ =>
    exact absurd (shape.shm.unmapped current.2).2 (shape.latest.slotted _ slot).2.1

theorem connected (idle : state.pc = .idle) (clientFd : Nat) (hello : List ClientMessage) :
    FrameStream.Shape {state.display with clientFd := some clientFd, shm := helloShm hello}
      state.calls .reading 0 state.mappings := by
  have same := (helloShm_spec hello).1
  have unslotted := shape.slot_of_idle idle
  refine ⟨.empty same _, shape.latest.without_slot unslotted, fun sent => ?_, Nat.zero_le _,
    fun _ => ?_, fun call member => ?_, rfl⟩
  · have := (shape.taken sent).1
    simp [unslotted] at this
  · simp [same.lastGeneration]
  · have known := shape.flights call member
    refine ⟨known.payload, known.copied, known.made, fun mapping slot _ mapped => ?_⟩
    simp [same.mapping] at mapped

theorem moves {event : Event} {after : State}
    (moved : State.Moves displayNumber state event after) : after.Shape := by
  cases moved with
  | stays | clientSent | stopped => exact shape
  | swallowed =>
    exact ⟨shape.shm, shape.latest, shape.taken, shape.behind, shape.remakes, shape.flights,
      shape.pc.same rfl ⟨rfl, rfl, rfl, rfl, rfl⟩⟩
  | reserved built length unsuppressed mapped releases room free =>
    refine shape.called ⟨rfl, rfl, rfl, rfl, rfl⟩ ⟨length, Nat.zero_le _, ?_, ?_⟩ (.inr mapped.symm)
    · rintro _ slot ⟨⟩
      exact shape.shm.made _ mapped
    · rintro _ slot ⟨⟩ _
      exact ⟨releases, (freeSlot_spec free).1, rfl, length ▸ room⟩
  | unslotted built length =>
    exact shape.called ⟨rfl, rfl, rfl, rfl, rfl⟩ ⟨length, Nat.zero_le _, nofun, nofun⟩ (.inl rfl)
  | copied found target =>
    have progress := (shape.flights _ (mem_of_getElem? found)).copied
    refine shape.copied found ?_
    simp only [length_take, length_drop]
    omega
  | dropped found target remade =>
    exact ⟨shape.shm, shape.latest, shape.taken, shape.behind, shape.remakes,
      fun other member => shape.flights other (mem_of_mem_eraseIdx member),
      shape.pc.recall fun other member => .inl ⟨other, mem_of_mem_eraseIdx member, rfl⟩⟩
  | published found complete current =>
    exact shape.replaced (fun other member => mem_of_mem_eraseIdx member)
      ((shape.flights _ (mem_of_getElem? found)).frame current) rfl rfl
      ⟨rfl, rfl, rfl, rfl, rfl⟩ rfl rfl
  | dmabuf =>
    exact shape.replaced (fun _ member => member) (.dmabuf _ _ _ _) rfl rfl
      ⟨rfl, rfl, rfl, rfl, rfl⟩ rfl rfl
  | connected idle free => exact shape.connected idle _ _
  | read reads queued =>
    have same := applyClientMessage_mapping state.display.shm
    exact shape.reshaped (same _) (shape.pc.same rfl (same _))
  | gaveUp gives =>
    refine shape.repositioned (shape.isSome_clientFd fun idle => ?_)
    rw [idle] at gives
    exact gives
  | nothingNew reading | timestampsFailed reading | dmabufFailed reading =>
    exact shape.repositioned (shape.isSome_clientFd (by rw [reading]; nofun))
  | woke waiting => exact shape.repositioned (shape.isSome_clientFd (by rw [waiting]; nofun))
  | tookNone reading => exact shape.marked (shape.isSome_clientFd (by rw [reading]; nofun))
  | took reading =>
    exact shape.marked
      ⟨shape.isSome_clientFd (by rw [reading]; nofun), shape.latest.takenFrame _⟩
  | timestampsSkipped taken | timestampsSent taken =>
    have current := shape.pc
    rw [taken] at current
    exact shape.repositioned current
  | notified sending | inlineSent sending | slotNotified sending =>
    exact shape.repositioned (shape.isSome_clientFd (by rw [sending]; nofun))
  | dmabufSent sending =>
    refine shape.repositioned ?_
    split <;> exact shape.isSome_clientFd (by rw [sending]; nofun)
  | held holding =>
    exact shape.reshaped ⟨rfl, rfl, rfl, rfl, rfl⟩ (shape.isSome_clientFd (by rw [holding]; nofun))
  | readyForSlot sending raw unslotted ready =>
    have current := shape.pc
    rw [sending] at current
    obtain ⟨mapped, room⟩ := shmReady_spec ready
    obtain ⟨pixels, stored, length⟩ := current.2.buffered raw unslotted
    refine shape.repositioned ⟨current.1, ⟨raw, unslotted, current.2⟩, mapped, ?_⟩
    rwa [stored, getD_some, length] at room
  | inlineInstead sending raw unslotted =>
    have current := shape.pc
    rw [sending] at current
    exact shape.repositioned ⟨current.1, raw, unslotted, current.2⟩
  | initialised sending raw unslotted path sized =>
    exact shape.initialised sending raw unslotted path sized
  | installed installing next => exact shape.installed installing next
  | slotInTurn acquiring =>
    have current := shape.pc
    rw [acquiring] at current
    obtain ⟨connected, buffered, mapped, room⟩ := current
    refine shape.reshaped ⟨rfl, rfl, rfl, rfl, rfl⟩
      ⟨connected, buffered.same, mapped, room, mod_lt _ ?_, Nat.zero_le _⟩
    rw [shape.shm.mapped mapped]
    decide
  | slotAcquired acquiring releases free =>
    have current := shape.pc
    rw [acquiring] at current
    obtain ⟨connected, buffered, mapped, room⟩ := current
    exact shape.reshaped ⟨rfl, rfl, rfl, rfl, rfl⟩
      ⟨connected, buffered.same, mapped, room, (freeSlot_spec free).1, Nat.zero_le _⟩
  | copiedToSlot copying =>
    have current := shape.pc
    rw [copying] at current
    obtain ⟨connected, buffered, mapped, room, bound, progress⟩ := current
    obtain ⟨pixels, stored, length⟩ := buffered.2.2.buffered buffered.1 buffered.2.1
    refine shape.repositioned ⟨connected, buffered, mapped, room, bound, ?_⟩
    simp only [stored, getD_some, length_take, length_drop]
    omega
  | ended ending => exact shape.ended

end

end Shape

theorem State.Shape.of_reaches {displayNumber : UInt32} {allowed : State → Event → Prop}
    {state : State} (reached : (displayMachine displayNumber).Reaches allowed state) :
    state.Shape := by
  refine reached.invariant ?_ ?_
  · rintro _ rfl
    exact ⟨.empty ⟨rfl, rfl, rfl, rfl, rfl⟩ _, ⟨nofun, nofun, fun _ => rfl⟩, nofun, Nat.le_refl _,
      nofun, nofun, rfl, rfl⟩
  · exact fun state event after shape _ moved => shape.moves (State.step_moves moved)

end Ika.FrameStream

/-! Who copies pixels into the slots, and where: a writer stays in the slot reserved for it. -/

namespace Ika.FrameStream

open List

/-- Who copies pixels: a call of `OnFrame`, by its place, or the client's thread. -/
inductive Writer where
  | call (index : Nat)
  | client

def Event.writer : Event → Option Writer
  | .onFrameCopy index _ => some (.call index)
  | .copyToSlot _ => some .client
  | _ => none

def State.reserved (state : State) : Writer → Option (ShmMapping × Nat)
  | .call index => state.calls[index]?.bind (·.target)
  | .client => match state.pc with
    | .copying _ slot _ => state.display.shm.mapping.map fun mapping => (mapping, slot)
    | _ => none

def OnFrameCall.targets (call : OnFrameCall) (mapping : Option ShmMapping) (slot : Nat) : Bool :=
  call.target = mapping.map fun mapping => (mapping, slot)

namespace State

variable {displayNumber : UInt32} {state after : State} {event : Event}

variable {index slot : Nat} {mapping : ShmMapping}

theorem reserved_call (reserved : state.reserved (.call index) = some (mapping, slot)) :
    ∃ call, state.calls[index]? = some call ∧ call.target = some (mapping, slot) :=
  Option.bind_eq_some_iff.mp reserved

theorem reserved_client (reserved : state.reserved .client = some (mapping, slot)) :
    (∃ frame copied, state.pc = .copying frame slot copied) ∧
      state.display.shm.mapping = some mapping := by
  unfold State.reserved at reserved
  cases here : state.pc <;> simp only [here] at reserved <;> try cases reserved
  obtain ⟨_, mapped, same⟩ := Option.map_eq_some_iff.mp reserved
  cases same
  exact ⟨⟨_, _, rfl⟩, mapped⟩

theorem reserved_bound (shape : state.Shape) {writer : Writer}
    (mapped : state.display.shm.mapping = some mapping)
    (reserved : state.reserved writer = some (mapping, slot)) :
    slot < state.display.shm.slotCount := by
  cases writer with
  | call index =>
    obtain ⟨call, found, target⟩ := reserved_call reserved
    exact ((shape.flights call (mem_of_getElem? found)).reserved _ _ target mapped).2.1
  | client =>
    obtain ⟨⟨frame, copied, copying⟩, _⟩ := reserved_client reserved
    have current := shape.pc
    rw [copying] at current
    obtain ⟨_, _, _, _, bound, _⟩ := current
    exact bound

theorem targets_reserved {call : OnFrameCall} (mapped : state.display.shm.mapping = some mapping)
    (found : state.calls[index]? = some call) (target : call.target = some (mapping, slot)) :
    0 < state.calls.countP (·.targets state.display.shm.mapping slot) :=
  countP_pos_iff.mpr
    ⟨call, mem_of_getElem? found, by simp [OnFrameCall.targets, mapped, target]⟩

theorem targets_installing (shape : state.Shape) {frame : Frame} {slotSize : Nat}
    {generation : UInt32} (installing : state.pc = .installing frame mapping slotSize generation)
    (slot : Nat) : state.calls.countP (·.targets (some mapping) slot) = 0 := by
  have current := shape.pc
  rw [installing] at current
  obtain ⟨_, _, _, _, _, _, _, _, unused⟩ := current
  refine countP_eq_zero.mpr fun call member targets => unused call member ?_
  simp only [OnFrameCall.targets, decide_eq_true_eq] at targets
  simp [targets]

theorem written_slot (shape : state.Shape) {address : Nat}
    (mapped : state.display.shm.mapping = some mapping)
    (moved : Moves displayNumber state event after)
    (changed : after.memory mapping.id address ≠ state.memory mapping.id address) :
    ∃ writer slot, event.writer = some writer ∧ state.reserved writer = some (mapping, slot) ∧
      state.display.shm.slotAddress slot ≤ address ∧
      address < state.display.shm.slotAddress (slot + 1) := by
  cases moved with
  | @copied index count slot call target found aimed =>
    obtain ⟨same, low, high⟩ := Memory.write_outside changed
    obtain rfl : mapping = target := by cases mapping; cases target; exact congrArg _ same
    have known := shape.flights call (mem_of_getElem? found)
    obtain ⟨_, _, data, room⟩ := known.reserved mapping slot aimed mapped
    refine ⟨.call index, slot, rfl, by simp [State.reserved, found, aimed], ?_, ?_⟩
    · omega
    · have progress := known.copied
      simp only [length_take, length_drop] at high
      simp only [ClientShm.slotAddress, Nat.add_mul, Nat.one_mul] at data ⊢
      omega
  | @copiedToSlot frame slot copied count copying =>
    obtain ⟨same, low, high⟩ := Memory.write_outside changed
    have current := shape.pc
    rw [copying] at current
    obtain ⟨_, buffered, _, room, _, progress⟩ := current
    obtain ⟨pixels, stored, length⟩ := buffered.2.2.buffered buffered.1 buffered.2.1
    refine ⟨.client, slot, rfl, by simp [reserved, copying, mapped], ?_, ?_⟩
    · omega
    · simp only [stored, Option.getD_some, length_take, length_drop] at high
      simp only [ClientShm.slotAddress, Nat.add_mul, Nat.one_mul] at high low ⊢
      omega
  | _ => exact absurd rfl changed

theorem holds_slot (shape : state.Shape) {bytes : List UInt8}
    (mapped : state.display.shm.mapping = some mapping)
    (moved : Moves displayNumber state event after)
    (apart : ∀ writer, event.writer = some writer →
      state.reserved writer ≠ some (mapping, slot))
    (fits : bytes.length ≤ state.display.shm.slotSize)
    (held : state.memory.Holds mapping.id (state.display.shm.slotAddress slot) bytes) :
    after.memory.Holds mapping.id (state.display.shm.slotAddress slot) bytes := by
  intro k bound
  rw [← held k bound]
  by_contra changed
  obtain ⟨writer, other, writes, reserved, low, high⟩ := written_slot shape mapped moved changed
  have same : slot = other := by
    simp only [ClientShm.slotAddress, Nat.add_mul, Nat.one_mul] at low high
    rcases Nat.lt_trichotomy slot other with below | same | above
    · have := Nat.mul_le_mul_right state.display.shm.slotSize (Nat.succ_le_of_lt below)
      rw [Nat.succ_mul] at this
      omega
    · exact same
    · have := Nat.mul_le_mul_right state.display.shm.slotSize (Nat.succ_le_of_lt above)
      rw [Nat.succ_mul] at this
      omega
  exact apart writer writes (same ▸ reserved)

end State

end Ika.FrameStream
