import Ika.FrameStream.CfSource

/-! A client reads each message the streamer may send to its last byte, and not further. -/

set_option autoImplicit false

namespace Ika.FrameStream

open ByteStream List Option Bool

/-- The frames in question: no side over 65535, rows of at least four bytes a pixel, 256 MiB. -/
structure ValidSize (width height strideBytes : UInt32) : Prop where
  width_pos : 1 ≤ width.toNat
  width_le : width.toNat ≤ 0xffff
  height_pos : 1 ≤ height.toNat
  height_le : height.toNat ≤ 0xffff
  stride : 4 * width.toNat ≤ strideBytes.toNat
  payload : strideBytes.toNat * height.toNat ≤ 256 * 1024 * 1024

abbrev Slots := Option ShmInitReleaseHeader

def ServerMessage.slots (current : Slots) : ServerMessage → Slots
  | .shmInit header _ => some header
  | _ => current

def Sendable (current : Slots) : ServerMessage → Prop
  | .shmInit header _ => header.magic = kShmInitMagic ∧
      header.version = (if header.generation ≠ 0 then kShmReleaseVersion else kShmFrameVersion) ∧
      header.slotCount = UInt32.ofNat kSlotCount ∧ 1 ≤ header.slotSize.toNat ∧
      header.slotSize.toNat ≤ 256 * 1024 * 1024
  | .shmNotify header => header.magic = kShmNotifyMagic ∧ header.version = kShmFrameVersion ∧
      ValidSize header.width header.height header.strideBytes ∧
      header.payloadSize.toNat = header.strideBytes.toNat * header.height.toNat ∧
      ∃ init, current = some init ∧ header.slotIndex.toNat < init.slotCount.toNat ∧
        header.payloadSize.toNat ≤ init.slotSize.toNat
  | .rawFrame header pixels => header.magic = kRawFrameMagic ∧ header.version = kRawFrameVersion ∧
      ValidSize header.width header.height header.strideBytes ∧
      header.payloadSize.toNat = header.strideBytes.toNat * header.height.toNat ∧
      pixels.length = header.payloadSize.toNat
  | .dmabufFrame header withFrameId _ => header.frame.magic = kDmabufFrameMagic ∧
      header.frame.version = (if withFrameId then kDmabufFrameIdVersion else kDmabufFrameVersion) ∧
      ValidSize header.frame.width header.frame.height header.frame.strideBytes
  | .timestamps header => header.magic = kTimestampsMagic ∧ header.version = kTimestampsVersion

/-- Messages each of which makes sense after those before it, and the slots they end with. -/
inductive Framed : List ServerMessage → Slots → Prop where
  | nil : Framed [] none
  | snoc {sent : List ServerMessage} {current : Slots} {message : ServerMessage} :
      Framed sent current → Sendable current message →
        Framed (sent ++ [message]) (message.slots current)

def ServerMessage.decoded : ServerMessage → CfMessage
  | .shmInit header fd => .shmInit ⟨header.slotCount, header.slotSize⟩ header.generation fd
  | .shmNotify header => .shmFrame ⟨header.displayNumber, header.width, header.height,
      header.fourcc, header.strideBytes, header.payloadSize, header.slotIndex⟩
  | .rawFrame header _ => .raw ⟨header.displayNumber, header.width, header.height, header.fourcc,
      header.strideBytes, header.payloadSize⟩
  | .dmabufFrame header withFrameId fd => .dmaBuf ⟨header.frame.displayNumber, header.frame.width,
      header.frame.height, header.frame.fourcc, header.frame.offset, header.frame.strideBytes,
      header.frame.modifierHi, header.frame.modifierLo,
      if withFrameId then header.frameId else 0⟩ fd
  | .timestamps header => .timestamps ⟨header.displayNumber, header.reserved, header.arrivalNs,
      header.sendNs⟩

def Knows (current : Slots) (source : CfSource) : Prop :=
  ∀ init, current = some init →
    ∃ shm, source.shm = some shm ∧ shm.slotCount = init.slotCount ∧ shm.slotSize = init.slotSize

structure Reads (client : CfClient) (message : CfMessage) (rest : List (Cell Descriptor))
    (after : CfClient) : Prop where
  socket : after.socket = rest
  decoded : after.decoded = client.decoded ++ [message]

theorem receiveHeader_plain (magic version : UInt32) (body : List UInt8)
    (rest : List (Cell Descriptor)) :
    receiveAll (plain (word magic ++ (word version ++ body)) ++ rest) 8 =
      some (word magic ++ word version, none, plain body ++ rest) := by
  rw [← append_assoc, plain_append, append_assoc, receiveAll_plain]
  simp

theorem receiveHeader_withDescriptor (fd : Descriptor) (magic version : UInt32)
    (body : List UInt8) (rest : List (Cell Descriptor)) :
    receiveAll (withDescriptor fd (word magic ++ (word version ++ body)) ++ rest) 8 =
      some (word magic ++ word version, some fd, plain body ++ rest) := by
  obtain ⟨byte, more, split⟩ : ∃ byte more, word magic = byte :: more := ⟨_, _, rfl⟩
  have length : (more ++ word version).length + 1 = 8 := by
    have size := congrArg List.length split
    simp only [length_word, length_cons] at size
    simp only [length_append, length_word]
    omega
  rw [← append_assoc, split, cons_append, withDescriptor_append, append_assoc,
    receiveAll_withDescriptor fd byte _ length]

@[simp] theorem CfHeader.ofBytes_words (magic version : UInt32) :
    CfHeader.ofBytes (word magic ++ word version) = ⟨magic, version⟩ := by
  simp [CfHeader.ofBytes]

theorem cfCheckSize_valid {width height strideBytes : UInt32}
    (valid : ValidSize width height strideBytes) :
    cfCheckSize width height strideBytes = true := by
  obtain ⟨width_pos, width_le, height_pos, height_le, stride, _⟩ := valid
  have scaled : (width * 4).toNat = 4 * width.toNat := by
    rw [UInt32.toNat_mul, Nat.mul_comm]
    exact Nat.mod_eq_of_lt (by simp; omega)
  have width_ne : width ≠ 0 := by
    rintro rfl
    cases width_pos
  have height_ne : height ≠ 0 := by
    rintro rfl
    cases height_pos
  simp only [cfCheckSize, and_eq_true, bne_iff_ne, decide_eq_true_eq, UInt32.le_iff_toNat_le,
    scaled]
  exact ⟨⟨⟨⟨width_ne, width_le⟩, height_ne⟩, height_le⟩, stride⟩

variable {host : CfHost}

theorem CfClient.push_spec (works : host.Works) (client : CfClient) (frame : CfFrame) :
    ∃ after, client.push host frame = some after ∧ after.socket = client.socket ∧
      after.decoded = client.decoded ∧ after.source.shm = client.source.shm := by
  simp only [CfClient.push, works.opensSinks, works.takesFrame, Bool.not_true, Bool.and_false,
    false_eq_true, if_true, if_false]
  exact ⟨_, rfl, rfl, rfl, rfl⟩

variable {shown : CfClient} {message : CfMessage} {sent : List ServerMessage}

theorem Reads.push (works : host.Works) {client : CfClient} {rest : List (Cell Descriptor)}
    (reads : Reads client message rest shown) (frame : CfFrame) :
    ∃ after, shown.push host frame = some after ∧ Reads client message rest after ∧
      after.source.shm = shown.source.shm := by
  obtain ⟨after, pushed, socket, decoded, shm⟩ := shown.push_spec works frame
  exact ⟨after, pushed, ⟨socket.trans reads.socket, decoded.trans reads.decoded⟩, shm⟩

theorem CfClient.noteDecoded_reads (client : CfClient) (rest : List (Cell Descriptor))
    (message : CfMessage) : Reads client message rest (client.noteDecoded rest message) :=
  ⟨rfl, rfl⟩

theorem Reads.reply {client : CfClient} {rest : List (Cell Descriptor)}
    (reads : Reads client message rest shown) (held : Prop) [Decidable held]
    (magic arg0 arg1 : UInt32) :
    Reads client message rest (if held then shown.sendMsg magic arg0 arg1 else shown) ∧
      (if held then shown.sendMsg magic arg0 arg1 else shown).source.shm = shown.source.shm := by
  split
  · exact ⟨⟨reads.socket, reads.decoded⟩, rfl⟩
  · exact ⟨reads, rfl⟩

namespace CfClient

variable {current : Slots}

theorem processRaw_reads (works : host.Works) (client : CfClient) (rest : List (Cell Descriptor))
    {header : RawFrameHeader} {pixels : List UInt8}
    (sendable : Sendable current (.rawFrame header pixels)) :
    ∃ after, processRaw host {client with
        socket := plain (words [header.displayNumber, header.width, header.height, header.fourcc,
          header.strideBytes, header.payloadSize] ++ pixels) ++ rest} = some after ∧
      Reads client (ServerMessage.rawFrame header pixels).decoded rest after ∧
      after.source.shm = client.source.shm := by
  obtain ⟨_, _, valid, payload, length⟩ := sendable
  have size : header.payloadSize.toNat ≤ 256 * 1024 * 1024 := payload ▸ valid.payload
  have small : ¬ cfMaxPayload < header.payloadSize := by
    rw [UInt32.lt_iff_toNat_lt]
    exact Nat.not_lt.mpr size
  have whole : ¬ header.payloadSize.toNat < header.strideBytes.toNat * header.height.toNat := by
    rw [payload]
    exact Nat.lt_irrefl _
  have parsed : CfRawHeader.ofBytes (words [header.displayNumber, header.width, header.height,
      header.fourcc, header.strideBytes, header.payloadSize]) = ⟨header.displayNumber,
      header.width, header.height, header.fourcc, header.strideBytes, header.payloadSize⟩ := by
    simp [CfRawHeader.ofBytes]
  have reads := client.noteDecoded_reads rest (ServerMessage.rawFrame header pixels).decoded
  rw [plain_append, append_assoc]
  unfold processRaw
  dsimp only
  rw [readAll_plain _ (by simp)]
  simp only [bind_eq_bind, bind_some, parsed, cfCheckSize_valid valid, small, whole,
    readAll_plain pixels length, Bool.not_true, decide_false, Bool.or_false, false_eq_true,
    if_false, works.allocates, if_true]
  split
  · exact ⟨_, rfl, reads, rfl⟩
  · exact reads.push works _

variable {fd : Descriptor}

theorem processShmInit_reads (works : host.Works) (client : CfClient)
    (rest : List (Cell Descriptor)) {header : ShmInitReleaseHeader}
    (sendable : Sendable current (.shmInit header fd)) {release : Bool}
    (versioned : release = (header.generation != 0)) :
    ∃ after, processShmInit host {client with
        socket := plain (words [header.slotCount, header.slotSize] ++
          if release then word header.generation else []) ++ rest} release (some fd) =
        some after ∧
      Reads client (ServerMessage.shmInit header fd).decoded rest after ∧
      Knows (some header) after.source := by
  obtain ⟨_, _, count, size_pos, size_le⟩ := sendable
  have parsed : CfShmInitHeader.ofBytes (words [header.slotCount, header.slotSize]) =
      ⟨header.slotCount, header.slotSize⟩ := by
    simp [CfShmInitHeader.ofBytes]
  have generation : readGeneration (plain (if release then word header.generation else []) ++ rest)
      release = some (header.generation, rest) := by
    cases release with
    | false =>
      have zero : header.generation = 0 := by simpa using versioned.symm
      simp [readGeneration, zero, plain]
    | true => simp [readGeneration, readAll_plain (word header.generation) (length_word _)]
  have named : (release && header.generation == 0) = false := by
    rw [versioned]
    cases zero : header.generation == 0 <;> simp [bne, zero]
  have slots : header.slotCount ≠ 0 ∧ ¬ cfMaxSlots < header.slotCount := by
    rw [count]
    exact ⟨by decide, by decide⟩
  have sized : header.slotSize ≠ 0 := by
    rintro zero
    rw [zero] at size_pos
    cases size_pos
  have small : ¬ cfMaxPayload < header.slotSize := by
    rw [UInt32.lt_iff_toNat_lt]
    exact Nat.not_lt.mpr size_le
  rw [plain_append, append_assoc]
  unfold processShmInit
  simp only [bind_eq_bind, bind_some]
  rw [readAll_plain _ (by simp)]
  simp only [bind_some, parsed, generation, named, beq_eq_false_iff_ne.mpr slots.1,
    slots.2, beq_eq_false_iff_ne.mpr sized, small, decide_false, Bool.or_false,
    false_eq_true, if_false, works.mapsSlots, if_true]
  refine ⟨_, rfl, ⟨rfl, rfl⟩, ?_⟩
  rintro init ⟨⟩
  exact ⟨_, rfl, rfl, rfl⟩

theorem processShmFrame_reads (works : host.Works) (client : CfClient)
    (rest : List (Cell Descriptor)) {header : ShmFrameHeader}
    (sendable : Sendable current (.shmNotify header)) (knows : Knows current client.source) :
    ∃ after, processShmFrame host {client with
        socket := plain (words [header.displayNumber, header.width, header.height, header.fourcc,
          header.strideBytes, header.payloadSize, header.slotIndex]) ++ rest} = some after ∧
      Reads client (ServerMessage.shmNotify header).decoded rest after ∧
      after.source.shm = client.source.shm := by
  obtain ⟨_, _, valid, payload, init, told, index, fits⟩ := sendable
  obtain ⟨shm, mapped, count, size⟩ := knows init told
  have present : ¬ shm.slotCount ≤ header.slotIndex := by
    rw [UInt32.le_iff_toNat_le, count]
    exact Nat.not_le.mpr index
  have room : ¬ shm.slotSize < header.payloadSize := by
    rw [UInt32.lt_iff_toNat_lt, size]
    exact Nat.not_lt.mpr fits
  have whole : ¬ header.payloadSize.toNat < header.strideBytes.toNat * header.height.toNat := by
    rw [payload]
    exact Nat.lt_irrefl _
  have parsed : CfShmFrameHeader.ofBytes (words [header.displayNumber, header.width,
      header.height, header.fourcc, header.strideBytes, header.payloadSize, header.slotIndex]) =
      ⟨header.displayNumber, header.width, header.height, header.fourcc, header.strideBytes,
        header.payloadSize, header.slotIndex⟩ := by
    simp [CfShmFrameHeader.ofBytes]
  have reads := client.noteDecoded_reads rest (ServerMessage.shmNotify header).decoded
  unfold processShmFrame
  dsimp only
  rw [readAll_plain _ (by simp)]
  simp only [bind_eq_bind, bind_some, parsed, mapped, present, room, whole,
    cfCheckSize_valid valid, Bool.not_true, decide_false, Bool.or_false, false_eq_true,
    if_false, works.allocates, works.referencesSlot, if_true]
  rw [← mapped]
  split
  · exact ⟨_, rfl, reads.reply _ _ _ _⟩
  · split
    · exact reads.push works _
    · exact reads.push works _

theorem processTimestamps_reads (host : CfHost) (client : CfClient) (rest : List (Cell Descriptor))
    (header : TimestampsHeader) :
    ∃ after, processTimestamps host {client with
        socket := plain (words [header.displayNumber, header.reserved] ++
          (doubleWord header.arrivalNs ++ doubleWord header.sendNs)) ++ rest} = some after ∧
      Reads client (ServerMessage.timestamps header).decoded rest after ∧
      after.source.shm = client.source.shm := by
  have parsed : CfTimestampsHeader.ofBytes (words [header.displayNumber, header.reserved] ++
      (doubleWord header.arrivalNs ++ doubleWord header.sendNs)) =
      ⟨header.displayNumber, header.reserved, header.arrivalNs, header.sendNs⟩ := by
    simp [CfTimestampsHeader.ofBytes]
  unfold processTimestamps
  dsimp only
  rw [readAll_plain _ (by simp)]
  simp only [bind_eq_bind, bind_some, parsed]
  split
  · exact ⟨_, rfl, ⟨rfl, rfl⟩, rfl⟩
  · exact ⟨_, rfl, ⟨rfl, rfl⟩, rfl⟩

theorem processDmaBuf_reads (works : host.Works) (client : CfClient)
    (rest : List (Cell Descriptor)) {header : DmabufFrameIdHeader} {withFrameId : Bool}
    (sendable : Sendable current (.dmabufFrame header withFrameId fd)) :
    ∃ after, processDmaBuf host {client with
        socket := plain (words [header.frame.displayNumber, header.frame.width,
          header.frame.height, header.frame.fourcc, header.frame.offset,
          header.frame.strideBytes, header.frame.modifierHi, header.frame.modifierLo] ++
          if withFrameId then word header.frameId else []) ++ rest} withFrameId (some fd) =
        some after ∧
      Reads client (ServerMessage.dmabufFrame header withFrameId fd).decoded rest after ∧
      after.source.shm = client.source.shm := by
  obtain ⟨_, _, valid⟩ := sendable
  have parsed : CfDmaBufHeader.ofBytes (words [header.frame.displayNumber, header.frame.width,
      header.frame.height, header.frame.fourcc, header.frame.offset, header.frame.strideBytes,
      header.frame.modifierHi, header.frame.modifierLo] ++
        if withFrameId then word header.frameId else []) =
      ⟨header.frame.displayNumber, header.frame.width, header.frame.height, header.frame.fourcc,
        header.frame.offset, header.frame.strideBytes, header.frame.modifierHi,
        header.frame.modifierLo, if withFrameId then header.frameId else 0⟩ := by
    cases withFrameId <;> simp [CfDmaBufHeader.ofBytes]
  have reads := client.noteDecoded_reads rest
    (ServerMessage.dmabufFrame header withFrameId fd).decoded
  unfold processDmaBuf
  simp only [bind_eq_bind, bind_some]
  rw [readAll_plain _ (by cases withFrameId <;> simp)]
  simp only [bind_some, parsed, cfCheckSize_valid valid, Bool.not_true,
    false_eq_true, if_false, works.describesDmaBuf, if_true]
  split
  · exact ⟨_, rfl, reads.reply _ _ _ _⟩
  · exact reads.push works _

theorem processMsg_reads (works : host.Works) {client : CfClient}
    {rest : List (Cell Descriptor)} {message : ServerMessage}
    (sendable : Sendable current message) (knows : Knows current client.source)
    (socket : client.socket = message.sent ++ rest) :
    ∃ after, client.processMsg host = some after ∧ Reads client message.decoded rest after ∧
      Knows (message.slots current) after.source := by
  have keeps : ∀ {after : CfClient}, after.source.shm = client.source.shm →
      Knows current after.source := by
    intro after same init told
    rw [same]
    exact knows init told
  unfold processMsg
  rw [socket]
  cases message with
  | rawFrame header pixels =>
    obtain ⟨after, processed, reads, same⟩ := processRaw_reads works client rest sendable
    obtain ⟨magic, version, _⟩ := sendable
    refine ⟨after, ?_, reads, keeps same⟩
    simp only [ServerMessage.sent, RawFrameHeader.bytes, words_cons, append_assoc, magic,
      version, receiveHeader_plain]
    simpa [kRawFrameMagic, kRawFrameVersion, cfMagicRaw, cfVersion] using processed
  | shmInit header fd =>
    have ⟨magic, version, _, _⟩ := sendable
    by_cases copied : header.generation = 0
    · have unversioned : false = (header.generation != 0) := by simp [copied]
      obtain ⟨after, processed, reads, same⟩ :=
        processShmInit_reads works client rest sendable unversioned
      have cut : header.bytes.take shmInitHeaderSize =
          words [header.magic, header.version, header.slotCount, header.slotSize] := by
        have size : (words [header.magic, header.version, header.slotCount,
            header.slotSize]).length = shmInitHeaderSize := by
          simp [shmInitHeaderSize]
        rw [← size]
        exact take_left
      refine ⟨after, ?_, reads, same⟩
      rw [if_neg (not_not.mpr copied)] at version
      simp only [ServerMessage.sent, copied, ne_eq, not_true_eq_false, if_false, cut, words_cons,
        words_nil, magic, version, receiveHeader_withDescriptor]
      simpa [kShmInitMagic, kShmFrameVersion, cfMagicShmInit, cfMagicRaw, cfMagicDmaBuf,
        cfVersion, cfVersionShmRelease, copied] using processed
    · have versioned : true = (header.generation != 0) := by simp [copied]
      obtain ⟨after, processed, reads, same⟩ :=
        processShmInit_reads works client rest sendable versioned
      refine ⟨after, ?_, reads, same⟩
      rw [if_pos copied] at version
      simp only [ServerMessage.sent, ne_eq, copied, not_false_eq_true, if_true,
        ShmInitReleaseHeader.bytes, words_cons, words_nil, magic, version,
        receiveHeader_withDescriptor]
      simpa [kShmInitMagic, kShmReleaseVersion, cfMagicShmInit, cfMagicRaw, cfMagicDmaBuf,
        cfVersion, cfVersionShmRelease, copied] using processed
  | shmNotify header =>
    obtain ⟨after, processed, reads, same⟩ :=
      processShmFrame_reads works client rest sendable knows
    obtain ⟨magic, version, _⟩ := sendable
    refine ⟨after, ?_, reads, keeps same⟩
    simp only [ServerMessage.sent, ShmFrameHeader.bytes, words_cons, words_nil, magic, version,
      receiveHeader_plain]
    simpa [kShmNotifyMagic, kShmFrameVersion, cfMagicShmFrame, cfMagicShmInit, cfMagicRaw,
      cfVersion] using processed
  | dmabufFrame header withFrameId fd =>
    obtain ⟨after, processed, reads, same⟩ := processDmaBuf_reads works client rest sendable
    obtain ⟨magic, version, _⟩ := sendable
    refine ⟨after, ?_, reads, keeps same⟩
    cases withFrameId with
    | false =>
      simp only [ServerMessage.sent, false_eq_true, if_false, DmabufFrameHeader.bytes,
        words_cons, words_nil, magic, version, receiveHeader_withDescriptor]
      simpa [kDmabufFrameMagic, kDmabufFrameVersion, cfMagicDmaBuf, cfMagicTimestamps,
        cfMagicShmFrame, cfMagicShmInit, cfMagicRaw, cfVersion, cfVersionDmaBufRelease]
        using processed
    | true =>
      simp only [ServerMessage.sent, if_true, DmabufFrameIdHeader.bytes, DmabufFrameHeader.bytes,
        words_cons, words_nil, magic, version, append_assoc, receiveHeader_withDescriptor]
      simpa [kDmabufFrameMagic, kDmabufFrameIdVersion, cfMagicDmaBuf, cfMagicTimestamps,
        cfMagicShmFrame, cfMagicShmInit, cfMagicRaw, cfVersion, cfVersionDmaBufRelease]
        using processed
  | timestamps header =>
    obtain ⟨after, processed, reads, same⟩ := processTimestamps_reads host client rest header
    obtain ⟨magic, version⟩ := sendable
    refine ⟨after, ?_, reads, keeps same⟩
    simp only [ServerMessage.sent, TimestampsHeader.bytes, words_cons, words_nil, magic, version,
      append_assoc, receiveHeader_plain]
    simpa [kTimestampsMagic, kTimestampsVersion, cfMagicTimestamps, cfMagicShmFrame,
      cfMagicShmInit, cfMagicRaw, cfVersion] using processed

theorem processMsgs_reads (works : host.Works) (client : CfClient)
    {rest : List (Cell Descriptor)} {sent : List ServerMessage} (framed : Framed sent current)
    (undecoded : client.decoded = [])
    (socket : client.socket = sent.flatMap ServerMessage.sent ++ rest) :
    ∃ after, client.processMsgs host sent.length = some after ∧ after.socket = rest ∧
      after.decoded = sent.map ServerMessage.decoded ∧ Knows current after.source := by
  induction framed generalizing rest with
  | nil => exact ⟨client, rfl, socket, undecoded, nofun⟩
  | @snoc sent current message _ sendable ih =>
    rw [flatMap_append, flatMap_singleton, append_assoc] at socket
    obtain ⟨before, ran, left, decoded, knows⟩ := ih socket
    obtain ⟨after, moved, reads, known⟩ := processMsg_reads works sendable knows left
    refine ⟨after, ?_, reads.socket, ?_, known⟩
    · rw [length_append, length_singleton, processMsgs, ran, bind_some, moved]
    · rw [reads.decoded, decoded, map_append, map_singleton]

end CfClient

theorem Framed.take {current : Slots} (framed : Framed sent current) (count : Nat) :
    ∃ slots, Framed (sent.take count) slots := by
  induction framed with
  | nil => exact ⟨none, by simpa using Framed.nil⟩
  | @snoc sent current message framed sendable ih =>
    by_cases all : sent.length < count
    · refine ⟨message.slots current, ?_⟩
      have length : (sent ++ [message]).length ≤ count := by
        rw [length_append, length_singleton]
        exact all
      rw [take_of_length_le length]
      exact .snoc framed sendable
    · rw [take_append_of_le_length (Nat.not_lt.mp all)]
      exact ih

/-- The client decodes every message sent to it, whatever else it is to be sent. -/
def StreamDecodes (host : CfHost) (sent : List ServerMessage) : Prop :=
  ∀ (source : CfSource) (rest : List (Cell Descriptor)), ∀ count ≤ sent.length,
    ∃ after, CfClient.processMsgs host
        {source, socket := sent.flatMap ServerMessage.sent ++ rest} count = some after ∧
      after.socket = (sent.drop count).flatMap ServerMessage.sent ++ rest ∧
      after.decoded = (sent.take count).map ServerMessage.decoded

theorem Framed.decodes {host : CfHost} (works : host.Works) {current : Slots}
    (framed : Framed sent current) : StreamDecodes host sent := by
  intro source rest count bound
  obtain ⟨slots, framed⟩ := framed.take count
  have split : sent.flatMap ServerMessage.sent ++ rest =
      (sent.take count).flatMap ServerMessage.sent ++
        ((sent.drop count).flatMap ServerMessage.sent ++ rest) := by
    rw [← append_assoc, ← flatMap_append, take_append_drop]
  obtain ⟨after, ran, left, decoded, _⟩ := CfClient.processMsgs_reads works
    {source, socket := sent.flatMap ServerMessage.sent ++ rest} framed rfl split
  rw [length_take, Nat.min_eq_left bound] at ran
  exact ⟨after, ran, left, decoded⟩

end Ika.FrameStream
