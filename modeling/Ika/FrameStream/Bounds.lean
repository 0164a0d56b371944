import Ika.FrameStream.Framing

/-! Whatever a server sends, the rows of the frames that are shown lie in the memory they are
read from.
-/

set_option autoImplicit false

namespace Ika.FrameStream

open ByteStream Option Nat List

def CfShm.size (shm : CfShm) : Nat := shm.slotCount.toNat * shm.slotSize.toNat

def CfFrame.rows (frame : CfFrame) : Nat := frame.height.toNat * frame.stride.toNat

/-- The rows, from so far on, lie in the slot and in the mapping. -/
structure CfShm.Holds (shm : CfShm) (index : UInt32) (address : Nat) (width stride : UInt32)
    (rows : Nat) : Prop where
  counted : index.toNat < shm.slotCount.toNat
  start : address = index.toNat * shm.slotSize.toNat
  row : 4 * width.toNat ≤ stride.toNat
  slot : rows ≤ shm.slotSize.toNat
  mapping : address + rows ≤ shm.size

/-- A dma-buf frame has no rows in memory, nor a linesize: its stride is zero here. -/
def CfFrame.RowsInside (mapped : Option CfShm) (frame : CfFrame) : Prop :=
  match frame.data with
  | .pixels bytes => frame.rows ≤ bytes.length
  | .copied data address payloadSize => frame.rows ≤ payloadSize ∧
      ∃ shm, mapped = some shm ∧ shm.data = data ∧ address + payloadSize ≤ shm.size
  | .slot data address _ generation index =>
      ∃ shm, mapped = some shm ∧ shm.data = data ∧ shm.generation = generation ∧
        shm.Holds index address frame.width frame.stride frame.rows
  | .dmaBuf .. => True

structure CfFrame.InBounds (mapped : Option CfShm) (frame : CfFrame) : Prop where
  linesize : frame.stride.toNat < 2 ^ 31
  rows : frame.RowsInside mapped

structure ValidRows (width height stride payloadSize : UInt32) : Prop where
  row : 4 * width.toNat ≤ stride.toNat
  high : 1 ≤ height.toNat
  rows : height.toNat * stride.toNat ≤ payloadSize.toNat

theorem ValidRows.of_checks {width height stride payloadSize : UInt32}
    (checked : cfCheckSize width height stride = true)
    (fits : ¬ payloadSize.toNat < stride.toNat * height.toNat) :
    ValidRows width height stride payloadSize := by
  simp only [cfCheckSize, Bool.and_eq_true, bne_iff_ne, decide_eq_true_eq] at checked
  obtain ⟨⟨⟨⟨-, wide⟩, high⟩, -⟩, strides⟩ := checked
  have wide : width.toNat ≤ 65535 := UInt32.le_iff_toNat_le.mp wide
  have strides := UInt32.le_iff_toNat_le.mp strides
  -- four bytes a pixel are counted in 32 bits, which a checked width fits
  rw [UInt32.toNat_mul, mod_eq_of_lt (by simp; omega), Nat.mul_comm] at strides
  refine ⟨strides, ?_, by rw [Nat.mul_comm]; omega⟩
  apply Nat.pos_of_ne_zero
  intro zero
  exact high (UInt32.toNat_inj.mp zero)

theorem ValidRows.linesize {width height stride payloadSize limit : UInt32}
    (valid : ValidRows width height stride payloadSize) (small : payloadSize ≤ limit)
    (bounded : limit ≤ cfMaxPayload) : stride.toNat < 2 ^ 31 := by
  have small := UInt32.le_iff_toNat_le.mp small
  have bounded : limit.toNat ≤ 268435456 := UInt32.le_iff_toNat_le.mp bounded
  have one := Nat.le_mul_of_pos_left stride.toNat valid.high
  have rows := valid.rows
  omega

theorem length_readAll {socket rest : List (Cell Descriptor)} {size : Nat} {bytes : List UInt8}
    (read : readAll socket size = some (bytes, rest)) : bytes.length = size := by
  unfold readAll at read
  split at read
  · cases read
  · cases read
    rw [length_map, length_take]
    omega

/-- The slots of the mapping in use are no larger than the payload of a frame may be. -/
def CfSource.SlotsBounded (source : CfSource) : Prop :=
  ∀ shm, source.shm = some shm → shm.slotSize ≤ cfMaxPayload

structure Shown (source : CfSource) (pushed : List CfFrame) (after : CfClient) : Prop where
  slots : source.SlotsBounded → after.source.SlotsBounded
  pushed : source.SlotsBounded → after.pushed = pushed ∨
    ∃ frame, frame.InBounds source.shm ∧ after.pushed = pushed ++ [frame]

namespace Shown

variable {host : CfHost} {client after : CfClient}

theorem of_same (shm : after.source.shm = client.source.shm)
    (pushed : after.pushed = client.pushed) : Shown client.source client.pushed after where
  slots bounded _ mapped := bounded _ (shm ▸ mapped)
  pushed _ := .inl pushed

theorem push {frame : CfFrame} (ran : client.push host frame = some after)
    (inside : client.source.SlotsBounded → frame.InBounds client.source.shm) :
    Shown client.source client.pushed after := by
  -- time stamps are all that is added to the frame
  have stamped (bounded : client.source.SlotsBounded) :
      (client.attachStamps host frame).InBounds client.source.shm := by
    unfold CfClient.attachStamps
    split
    · exact ⟨(inside bounded).linesize, (inside bounded).rows⟩
    · exact inside bounded
  unfold CfClient.push at ran
  dsimp only at ran
  split at ran
  · cases ran
  split at ran
  · cases ran
    exact ⟨id, fun bounded => .inr ⟨_, stamped bounded, rfl⟩⟩
  · cases ran

theorem processRaw (ran : client.processRaw host = some after) :
    Shown client.source client.pushed after := by
  unfold CfClient.processRaw at ran
  obtain ⟨⟨stored, socket⟩, -, ran⟩ := bind_eq_some_iff.mp ran
  dsimp only at ran
  split at ran
  · cases ran
  rename_i checks
  simp only [Bool.or_eq_true, Bool.not_eq_true', decide_eq_true_eq, not_or, Bool.not_eq_false,
    UInt32.not_lt] at checks
  obtain ⟨⟨size, small⟩, fits⟩ := checks
  have valid := ValidRows.of_checks size fits
  obtain ⟨⟨pixels, rest⟩, read, ran⟩ := bind_eq_some_iff.mp ran
  dsimp only at ran
  split at ran
  · cases ran
    exact of_same rfl rfl
  · split at ran
    · have inside := valid.rows.trans (length_readAll read).ge
      exact (push ran fun _ => ⟨valid.linesize small (UInt32.le_refl _), inside⟩ :)
    · cases ran

theorem processShmInit {release : Bool} {attached : Option Descriptor}
    (ran : client.processShmInit host release attached = some after) :
    Shown client.source client.pushed after := by
  unfold CfClient.processShmInit at ran
  obtain ⟨fd, -, ran⟩ := bind_eq_some_iff.mp ran
  obtain ⟨⟨stored, socket⟩, -, ran⟩ := bind_eq_some_iff.mp ran
  obtain ⟨⟨generation, rest⟩, -, ran⟩ := bind_eq_some_iff.mp ran
  dsimp only at ran
  split at ran
  · cases ran
  rename_i checks
  simp only [Bool.or_eq_true, decide_eq_true_eq, not_or, UInt32.not_lt] at checks
  split at ran
  · cases ran
    refine ⟨fun _ shm current => ?_, fun _ => .inl rfl⟩
    cases current
    exact checks.2
  · cases ran

theorem processShmFrame (ran : client.processShmFrame host = some after) :
    Shown client.source client.pushed after := by
  unfold CfClient.processShmFrame at ran
  obtain ⟨⟨stored, socket⟩, -, ran⟩ := bind_eq_some_iff.mp ran
  obtain ⟨shm, mapped, ran⟩ := bind_eq_some_iff.mp ran
  dsimp only at ran
  split at ran
  · cases ran
  rename_i checks
  simp only [Bool.or_eq_true, Bool.not_eq_true', decide_eq_true_eq, not_or, Bool.not_eq_false,
    UInt32.not_lt, UInt32.not_le] at checks
  obtain ⟨⟨⟨index, size⟩, small⟩, fits⟩ := checks
  have valid := ValidRows.of_checks size fits
  have slot := UInt32.le_iff_toNat_le.mp small
  have index := UInt32.lt_iff_toNat_lt.mp index
  -- the slot of an index that was checked ends where the mapping does, or before
  have last := Nat.mul_le_mul_right shm.slotSize.toNat (succ_le_of_lt index)
  rw [succ_mul] at last
  split at ran
  · cases ran
    unfold CfClient.releaseSlot
    split
    · exact of_same rfl rfl
    · exact of_same rfl rfl
  · split at ran
    · split at ran
      · have rows := valid.rows.trans slot
        exact (push ran fun bounded => ⟨valid.linesize small (bounded shm mapped), shm, mapped,
          rfl, rfl, index, rfl, valid.row, rows, (Nat.add_le_add_left rows _).trans last⟩ :)
      · cases ran
    · split at ran
      · exact (push ran fun bounded => ⟨valid.linesize small (bounded shm mapped), valid.rows,
          shm, mapped, rfl, (Nat.add_le_add_left slot _).trans last⟩ :)
      · cases ran

theorem processTimestamps (ran : client.processTimestamps host = some after) :
    Shown client.source client.pushed after := by
  unfold CfClient.processTimestamps at ran
  obtain ⟨⟨stored, socket⟩, -, ran⟩ := bind_eq_some_iff.mp ran
  dsimp only at ran
  split at ran
  · cases ran
    exact of_same rfl rfl
  · cases ran
    exact of_same rfl rfl

theorem processDmaBuf {release : Bool} {attached : Option Descriptor}
    (ran : client.processDmaBuf host release attached = some after) :
    Shown client.source client.pushed after := by
  unfold CfClient.processDmaBuf at ran
  obtain ⟨fd, -, ran⟩ := bind_eq_some_iff.mp ran
  obtain ⟨⟨stored, socket⟩, -, ran⟩ := bind_eq_some_iff.mp ran
  dsimp only at ran
  split at ran
  · cases ran
  split at ran
  · cases ran
    split
    · exact of_same rfl rfl
    · exact of_same rfl rfl
  · split at ran
    · exact (push ran fun _ => ⟨Nat.two_pow_pos 31, trivial⟩ :)
    · cases ran

theorem processMsg (ran : client.processMsg host = some after) :
    Shown client.source client.pushed after := by
  unfold CfClient.processMsg at ran
  obtain ⟨⟨stored, attached, socket⟩, -, ran⟩ := bind_eq_some_iff.mp ran
  dsimp only at ran
  split at ran
  · cases ran
  split at ran
  · exact (processRaw ran :)
  split at ran
  · exact (processShmInit ran :)
  split at ran
  · exact (processShmFrame ran :)
  split at ran
  · exact (processTimestamps ran :)
  split at ran
  · exact (processDmaBuf ran :)
  · cases ran

end Shown

/-- A connection: what the one before mapped is given up. -/
def CfClient.start (source : CfSource) (socket : List (Cell Descriptor)) : CfClient :=
  {source := {source with shm := none}, socket}

theorem slots_bounded {host : CfHost} {source : CfSource} {socket : List (Cell Descriptor)}
    {count : Nat} {after : CfClient}
    (ran : (CfClient.start source socket).processMsgs host count = some after) :
    after.source.SlotsBounded := by
  induction count generalizing after with
  | zero =>
    cases ran
    intro shm mapped
    cases mapped
  | succ count ih =>
    obtain ⟨before, earlier, now⟩ := bind_eq_some_iff.mp ran
    exact (Shown.processMsg now).slots (ih earlier)

/-- The bytes and descriptors received are any. -/
theorem frames_in_bounds (host : CfHost) (source : CfSource) (socket : List (Cell Descriptor))
    (count : Nat) (after : CfClient)
    (ran : (CfClient.start source socket).processMsgs host count = some after)
    (place : Nat) (frame : CfFrame) (shown : after.pushed[place]? = some frame) :
    ∃ call before, call < count ∧
      (CfClient.start source socket).processMsgs host call = some before ∧
      before.pushed.length = place ∧ frame.InBounds before.source.shm := by
  induction count generalizing after with
  | zero =>
    cases ran
    cases shown
  | succ count ih =>
    obtain ⟨before, earlier, now⟩ := bind_eq_some_iff.mp ran
    obtain same | ⟨last, inside, one⟩ := (Shown.processMsg now).pushed (slots_bounded earlier)
    · obtain ⟨call, then_, sooner, rest⟩ := ih before earlier (same ▸ shown)
      exact ⟨call, then_, sooner.trans (lt_succ_self count), rest⟩
    · rw [one] at shown
      by_cases old : place < before.pushed.length
      · rw [getElem?_append_left old] at shown
        obtain ⟨call, then_, sooner, rest⟩ := ih before earlier shown
        exact ⟨call, then_, sooner.trans (lt_succ_self count), rest⟩
      · rw [getElem?_append_right (Nat.le_of_not_lt old)] at shown
        obtain ⟨zero, found⟩ := List.getElem?_eq_some_iff.mp shown
        rw [length_singleton] at zero
        refine ⟨count, before, lt_succ_self count, earlier, by omega, ?_⟩
        rw [getElem_singleton] at found
        exact found ▸ inside

/-- A server maps four slots of 16 bytes, and shows the last. -/
def slotMessages : List (Cell Descriptor) :=
  withDescriptor (.slots 0) (words [cfMagicShmInit, cfVersionShmRelease, 4, 16, 1]) ++
    plain (words [cfMagicShmFrame, cfVersion, 0, 2, 2, scFourcc 'X' 'R' '2' '4', 8, 16, 3])

theorem frames_in_bounds_last_slot :
    ∃ after frame, (CfClient.start ⟨0, none, {}, false, false⟩ slotMessages).processMsgs
        workingHost 2 = some after ∧ after.pushed[0]? = some frame ∧
      frame.data = .slot (.slots 0) 48 16 1 3 ∧
      ∃ call before, call < 2 ∧ (CfClient.start ⟨0, none, {}, false, false⟩ slotMessages).processMsgs
        workingHost call = some before ∧ before.pushed.length = 0 ∧
        frame.InBounds before.source.shm := by
  obtain ⟨after, ran, frame, shown, data⟩ : ∃ after, (CfClient.start ⟨0, none, {}, false, false⟩
      slotMessages).processMsgs workingHost 2 = some after ∧ ∃ frame, after.pushed[0]? = some frame ∧
        frame.data = .slot (.slots 0) 48 16 1 3 := ⟨_, rfl, _, rfl, rfl⟩
  exact ⟨after, frame, ran, shown, data, frames_in_bounds _ _ _ _ _ ran _ _ shown⟩

end Ika.FrameStream
