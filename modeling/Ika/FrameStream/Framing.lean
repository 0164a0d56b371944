import Ika.FrameStream.Decoding
import Ika.FrameStream.Shape

/-! Both ends of the frame socket agree on the framing: the streamer only sends what a client can
make sense of, and no message of the client depends on how it is cut.
-/

set_option autoImplicit false

namespace Ika.FrameStream

open Transition List Nat

def ValidFrames (_displayNumber : UInt32) (_state : State) : Event → Prop
  | .onFrame width height _ strideBytes _ _ => ValidSize width height strideBytes
  | .onDmabufFrame arrival _ => ValidSize arrival.width arrival.height arrival.strideBytes
  | _ => True

structure ValidHeader (header : RawFrameHeader) : Prop where
  magic : header.magic = kRawFrameMagic
  version : header.version = kRawFrameVersion
  size : ValidSize header.width header.height header.strideBytes
  payload : header.payloadSize.toNat = header.strideBytes.toNat * header.height.toNat

structure ValidFrame (frame : Frame) : Prop where
  raw : frame.type = .raw → ValidHeader frame.header
  dmabuf : frame.type = .dmabuf →
    ValidSize frame.header.width frame.header.height frame.header.strideBytes

theorem onFrameHeader_valid {displayNumber width height fourcc strideBytes : UInt32}
    {pixels : Option (List UInt8)} {header : RawFrameHeader}
    (valid : ValidSize width height strideBytes)
    (built : onFrameHeader displayNumber width height fourcc strideBytes pixels = some header) :
    ValidHeader header := by
  unfold onFrameHeader at built
  split at built
  · cases built
  dsimp only at built
  split at built
  · cases built
  rename_i small
  cases built
  refine ⟨rfl, rfl, valid, ?_⟩
  rw [UInt32.toNat_ofNat', mod_eq_of_lt, Nat.mul_comm]
  simp only [uint32Max] at small
  omega

def TakenValid : ClientPc → Prop
  | .taken frame | .sending frame | .installing frame .. | .sendingInline frame
  | .acquiring frame | .copying frame .. | .holding frame => ValidFrame frame
  | .idle | .reading | .waiting | .ending => True

def Told (slotSize : Nat) (current : Slots) : Prop :=
  ∃ init, current = some init ∧ init.slotSize.toNat = slotSize ∧
    init.slotCount.toNat = kSlotCount

def SlotsTold (shm : ClientShm) (current : Slots) : ClientPc → Prop
  | .idle | .ending => True
  | .installing _ _ slotSize _ => Told slotSize current
  | _ => shm.mapping.isSome → Told shm.slotSize current

structure Framing (display : DisplayStream) (calls : List OnFrameCall) (pc : ClientPc)
    (sent : List ServerMessage) : Prop where
  latest : ValidFrame display.latestFrame
  calls : ∀ call ∈ calls, ValidHeader call.header
  taken : TakenValid pc
  sent : ∃ current, Framed sent current ∧ SlotsTold display.shm current pc

abbrev State.Framing (state : State) : Prop :=
  FrameStream.Framing state.display state.calls state.pc state.history.sent

variable {shm : ClientShm} {current : Slots}

theorem SlotsTold.same {after : ClientShm} {pc : ClientPc} (told : SlotsTold shm current pc)
    (same : SameMapping shm after) : SlotsTold after current pc := by
  cases pc with
  | idle | ending | installing => exact told
  | _ =>
    intro mapped
    rw [same.mapping] at mapped
    rw [same.slotSize]
    exact told mapped

theorem ValidFrame.takenFrame {latest : Frame} (valid : ValidFrame latest) (duplicated : Bool) :
    ValidFrame (takenFrame latest duplicated) :=
  ⟨valid.raw, valid.dmabuf⟩

theorem ValidFrame.detached {display : DisplayStream} (valid : ValidFrame display.latestFrame)
    (memory : Memory) : ValidFrame (detachedFrame memory display) := by
  unfold detachedFrame
  split
  · exact valid
  · split
    · exact ⟨valid.raw, valid.dmabuf⟩
    · exact ⟨nofun, nofun⟩

theorem ValidHeader.frame {call : OnFrameCall} (valid : ValidHeader call.header) :
    ValidFrame call.frame :=
  ⟨fun _ => valid, nofun⟩

theorem Sendable.notify {frame : Frame} {slot : Nat} (valid : ValidHeader frame.header)
    (told : Told shm.slotSize current) (count : shm.slotCount = kSlotCount)
    (bound : slot < shm.slotCount) (room : frame.header.payloadSize.toNat ≤ shm.slotSize) :
    Sendable current (.shmNotify (shmNotifyHeader frame slot)) := by
  obtain ⟨init, known, size, slots⟩ := told
  rw [count] at bound
  have index : (UInt32.ofNat slot).toNat = slot := by
    rw [UInt32.toNat_ofNat', mod_eq_of_lt]
    simp only [kSlotCount] at bound
    omega
  refine ⟨rfl, rfl, valid.size, valid.payload, init, known, ?_, ?_⟩
  · simpa only [shmNotifyHeader, index, slots] using bound
  · simpa only [shmNotifyHeader, size] using room

theorem Sendable.init {slotSize : Nat} (positive : 1 ≤ slotSize)
    (small : slotSize ≤ 256 * 1024 * 1024) (generation : UInt32) (fd : Descriptor)
    (current : Slots) :
    Sendable current (.shmInit (shmInitHeader slotSize generation) fd) ∧
      Told slotSize (some (shmInitHeader slotSize generation)) := by
  have size : (UInt32.ofNat slotSize).toNat = slotSize := by
    rw [UInt32.toNat_ofNat', mod_eq_of_lt]
    omega
  refine ⟨⟨rfl, rfl, rfl, ?_, ?_⟩, _, rfl, size, rfl⟩
  · simpa only [shmInitHeader, size] using positive
  · simpa only [shmInitHeader, size] using small

namespace Framing

variable {displayNumber : UInt32} {state : State}

variable {pc : ClientPc}

theorem repositioned (framing : state.Framing) (taken : TakenValid pc)
    (told : ∀ current, SlotsTold state.display.shm current state.pc →
      SlotsTold state.display.shm current pc) :
    FrameStream.Framing state.display state.calls pc state.history.sent := by
  obtain ⟨current, framed, known⟩ := framing.sent
  exact ⟨framing.latest, framing.calls, taken, current, framed, told current known⟩

theorem sending (framing : state.Framing) {message : ServerMessage} (taken : TakenValid pc)
    (told : ∀ current, SlotsTold state.display.shm current state.pc →
      Sendable current message ∧ SlotsTold state.display.shm (message.slots current) pc) :
    FrameStream.Framing state.display state.calls pc (state.history.sent ++ [message]) := by
  obtain ⟨current, framed, known⟩ := framing.sent
  obtain ⟨sendable, next⟩ := told current known
  exact ⟨framing.latest, framing.calls, taken, _, .snoc framed sendable, next⟩

theorem reshaped (framing : state.Framing) {shm : ClientShm}
    (same : SameMapping state.display.shm shm) :
    FrameStream.Framing {state.display with shm := shm} state.calls state.pc
      state.history.sent := by
  obtain ⟨current, framed, known⟩ := framing.sent
  exact ⟨framing.latest, framing.calls, framing.taken, current, framed, known.same same⟩

theorem taken_at (framing : state.Framing) (stands : state.pc = pc) : TakenValid pc :=
  stands ▸ framing.taken

theorem moves {event : Event} {after : State} (shape : state.Shape) (framing : state.Framing)
    (allowed : ValidFrames displayNumber state event)
    (moved : State.Moves displayNumber state event after) : after.Framing := by
  cases moved with
  | stays | clientSent | stopped => exact framing
  | swallowed => exact ⟨framing.latest, framing.calls, framing.taken, framing.sent⟩
  | reserved built length unsuppressed mapped releases room free =>
    obtain ⟨current, framed, told⟩ := framing.sent
    refine ⟨framing.latest, fun call member => ?_, framing.taken, current, framed,
      told.same ⟨rfl, rfl, rfl, rfl, rfl⟩⟩
    rcases mem_append.mp member with old | new
    · exact framing.calls call old
    · rw [mem_singleton.mp new]
      exact onFrameHeader_valid allowed built
  | unslotted built length =>
    refine ⟨framing.latest, fun call member => ?_, framing.taken, framing.sent⟩
    rcases mem_append.mp member with old | new
    · exact framing.calls call old
    · rw [mem_singleton.mp new]
      exact onFrameHeader_valid allowed built
  | copied found target =>
    refine ⟨framing.latest, fun call member => ?_, framing.taken, framing.sent⟩
    rcases mem_or_eq_of_mem_set member with old | rfl
    · exact framing.calls call old
    · have valid := framing.calls _ (mem_of_getElem? found)
      exact valid
  | dropped found target remade =>
    exact ⟨framing.latest, fun call member => framing.calls call (mem_of_mem_eraseIdx member),
      framing.taken, framing.sent⟩
  | published found complete current =>
    obtain ⟨current, framed, told⟩ := framing.sent
    exact ⟨(framing.calls _ (mem_of_getElem? found)).frame,
      fun call member => framing.calls call (mem_of_mem_eraseIdx member),
      framing.taken, current, framed, told.same ⟨rfl, rfl, rfl, rfl, rfl⟩⟩
  | dmabuf =>
    obtain ⟨current, framed, told⟩ := framing.sent
    exact ⟨⟨nofun, fun _ => allowed⟩, framing.calls, framing.taken, current, framed,
      told.same ⟨rfl, rfl, rfl, rfl, rfl⟩⟩
  | @connected _ hello idle free =>
    refine ⟨framing.latest, framing.calls, trivial, none, .nil, fun mapped => ?_⟩
    have unmapped := (helloShm_spec hello).1.mapping
    simp [unmapped] at mapped
  | read reads queued => exact framing.reshaped (applyClientMessage_mapping _ _)
  | gaveUp gives => exact framing.repositioned trivial fun _ _ => trivial
  | nothingNew reading | woke reading =>
    refine framing.repositioned trivial fun _ told => ?_
    rwa [reading] at told
  | timestampsFailed taken | dmabufFailed taken =>
    exact framing.repositioned trivial fun _ _ => trivial
  | tookNone reading =>
    obtain ⟨current, framed, told⟩ := framing.sent
    rw [reading] at told
    exact ⟨⟨framing.latest.raw, framing.latest.dmabuf⟩, framing.calls, trivial, current, framed, told⟩
  | took reading =>
    obtain ⟨current, framed, told⟩ := framing.sent
    rw [reading] at told
    refine ⟨⟨framing.latest.raw, framing.latest.dmabuf⟩, framing.calls, ?_, current, framed, told⟩
    exact framing.latest.takenFrame _
  | timestampsSkipped taken =>
    refine framing.repositioned ?_ fun _ told => ?_
    · have valid := framing.taken_at taken
      exact valid
    · rwa [taken] at told
  | timestampsSent taken =>
    refine framing.sending ?_ fun _ told => ?_
    · have valid := framing.taken_at taken
      exact valid
    · rw [taken] at told
      exact ⟨⟨rfl, rfl⟩, told⟩
  | notified sending raw slotted =>
    have current := shape.pc
    rw [sending] at current
    obtain ⟨_, releases, bound, room⟩ := current.2.slotted _ slotted
    have mapped := shape.shm.isSome_mapping releases
    refine framing.sending trivial fun _ told => ?_
    rw [sending] at told
    exact ⟨.notify ((framing.taken_at sending).raw raw) (told mapped)
      (shape.shm.mapped mapped) bound room, told⟩
  | inlineSent inline =>
    have current := shape.pc
    rw [inline] at current
    obtain ⟨_, raw, unslotted, frame⟩ := current
    obtain ⟨pixels, stored, length⟩ := frame.buffered raw unslotted
    have valid := (framing.taken_at inline).raw raw
    refine framing.sending trivial fun _ told => ?_
    rw [inline] at told
    refine ⟨⟨valid.magic, valid.version, valid.size, valid.payload, ?_⟩, told⟩
    rw [stored, Option.getD_some, length]
  | slotNotified copying =>
    have current := shape.pc
    rw [copying] at current
    obtain ⟨_, ⟨raw, _⟩, mapped, room, bound, _⟩ := current
    refine framing.sending trivial fun _ told => ?_
    rw [copying] at told
    exact ⟨.notify ((framing.taken_at copying).raw raw) (told mapped)
      (shape.shm.mapped mapped) bound room, told⟩
  | dmabufSent sending dmabuf =>
    have valid := framing.taken_at sending
    refine framing.sending ?_ fun _ told => ?_
    · split
      · exact valid
      · trivial
    · rw [sending] at told
      refine ⟨⟨rfl, rfl, valid.dmabuf dmabuf⟩, ?_⟩
      split <;> exact told
  | held holding =>
    obtain ⟨current, framed, told⟩ := framing.sent
    rw [holding] at told
    exact ⟨framing.latest, framing.calls, trivial, current, framed, told⟩
  | readyForSlot sending | inlineInstead sending =>
    refine framing.repositioned ?_ fun _ told => ?_
    · have valid := framing.taken_at sending
      exact valid
    · rwa [sending] at told
  | initialised sending raw unslotted path sized =>
    have current := shape.pc
    rw [sending] at current
    have valid := (framing.taken_at sending).raw raw
    obtain ⟨pixels, stored, length⟩ := current.2.buffered raw unslotted
    obtain ⟨other, stored', rfl, _⟩ := rawPath_fits path
    obtain rfl : pixels = other := Option.some.inj (stored.symm.trans stored')
    obtain ⟨rfl, _⟩ := shmSlotSize_spec sized
    have small : max pixels.length 1 ≤ 256 * 1024 * 1024 := by
      have := valid.size.payload
      rw [length, valid.payload]
      omega
    have positive : 1 ≤ max pixels.length 1 := Nat.le_max_right _ _
    refine framing.sending ?_ fun current _ => ?_
    · have valid := framing.taken_at sending
      exact valid
    · have new := Sendable.init positive small (shmInitGeneration state.display.shm)
        (.slots state.mappings) current
      exact ⟨new.1, new.2⟩
  | installed installing next =>
    obtain ⟨current, framed, told⟩ := framing.sent
    rw [installing] at told
    rcases next with rfl | rfl
    · exact ⟨framing.latest.detached _, framing.calls, trivial, current, framed, trivial⟩
    · refine ⟨framing.latest.detached _, framing.calls, ?_, current, framed, fun _ => told⟩
      have valid := framing.taken_at installing
      exact valid
  | slotInTurn acquiring | slotAcquired acquiring =>
    obtain ⟨current, framed, told⟩ := framing.sent
    rw [acquiring] at told
    refine ⟨framing.latest, framing.calls, ?_, current, framed, told⟩
    have valid := framing.taken_at acquiring
    exact valid
  | copiedToSlot copying =>
    refine framing.repositioned ?_ fun _ told => ?_
    · have valid := framing.taken_at copying
      exact valid
    · rwa [copying] at told
  | ended ending =>
    obtain ⟨current, framed, _⟩ := framing.sent
    have latest := framing.latest.detached state.memory
    exact ⟨⟨latest.raw, latest.dmabuf⟩, framing.calls, trivial, current, framed, trivial⟩

end Framing

theorem Framing.of_reaches {displayNumber : UInt32} {state : State}
    (reached : (displayMachine displayNumber).Reaches (ValidFrames displayNumber) state) :
    state.Framing := by
  apply reached.invariant_with State.Shape
  · exact fun _ => State.Shape.of_reaches
  · rintro _ rfl
    exact ⟨⟨nofun, nofun⟩, fun _ => nofun, trivial, none, .nil, trivial⟩
  · exact fun state event after shape framing allowed moved =>
      framing.moves shape allowed (State.step_moves moved)

/-- However the bytes are cut, the messages they make up are applied one by one. -/
def CutsAgree : Prop :=
  ∀ (shm : ClientShm) (calls : List ReadCall) (messages : List ClientMessage) (tail : List UInt8),
    shm.message.length < clientMessageSize →
    Fits shm.message.length (calls.flatMap (·.received)) → tail.length < clientMessageSize →
    shm.message ++ (calls.flatMap (·.received)).flatMap (fun result => result.getD []) =
      messages.flatMap ClientMessage.bytes ++ tail →
    readCalls shm calls =
      ({(applyClientMessages {shm with message := []} messages).1 with message := tail},
        (applyClientMessages {shm with message := []} messages).2)

/-- In both directions what is read is what was sent, message by message. -/
theorem framing_agrees {states : UInt32 → State}
    (reached : streamer.Reaches (Machine.each ValidFrames) states) (displayNumber : UInt32)
    {host : CfHost} (works : host.Works) :
    StreamDecodes host (states displayNumber).history.sent ∧ CutsAgree := by
  constructor
  · obtain ⟨current, framed, _⟩ := (Framing.of_reaches (reached.component displayNumber)).sent
    exact framed.decodes works
  · exact fun _ _ _ _ begun fits incomplete stream =>
      readCalls_messages begun fits incomplete stream

instance (width height strideBytes : UInt32) : Decidable (ValidSize width height strideBytes) :=
  decidable_of_iff (1 ≤ width.toNat ∧ width.toNat ≤ 0xffff ∧ 1 ≤ height.toNat ∧
      height.toNat ≤ 0xffff ∧ 4 * width.toNat ≤ strideBytes.toNat ∧
      strideBytes.toNat * height.toNat ≤ 256 * 1024 * 1024)
    ⟨fun ⟨a, b, c, d, e, f⟩ => ⟨a, b, c, d, e, f⟩, fun ⟨a, b, c, d, e, f⟩ => ⟨a, b, c, d, e, f⟩⟩

instance (displayNumber : UInt32) (state : State) (event : Event) :
    Decidable (ValidFrames displayNumber state event) := by
  unfold ValidFrames
  split <;> infer_instance

def workingHost : CfHost where
  mapsSlots _ := true
  allocates _ := true
  referencesSlot _ := true
  describesDmaBuf _ := true
  opensSinks _ _ := true
  takesFrame _ := true
  attachesStamps _ := true
  now := 0

def framedStates : UInt32 → State :=
  (streamer.runAllowed (Machine.each ValidFrames) (fun _ => {})
    (onFirstDisplay firstFrameEvents)).getD fun _ => {}

theorem framing_agrees_slots :
    (framedStates 0).history.sent.map ServerMessage.decoded =
      [.shmInit ⟨6, 4⟩ 1 (.slots 0), .shmFrame ⟨0, 1, 1, 0, 4, 4, 0⟩] ∧
    StreamDecodes workingHost (framedStates 0).history.sent ∧ CutsAgree := by
  refine ⟨by decide +kernel, framing_agrees (.getD_runAllowed _ ?_ ?_) 0 ?_⟩
  · exact .start fun _ => rfl
  · decide +kernel
  · constructor <;> intros <;> rfl

end Ika.FrameStream
