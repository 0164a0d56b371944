import Ika.Foundation.Machine

/-!
The ring buffers through which displays are shared: three frames after a header in shared memory,
mapped by every process with the size it thinks the display has.

Copying a frame takes two steps, so that others may read in between.
-/

set_option autoImplicit false

namespace Ika.ScreenConnector

open Transition List Function Option Nat

def INT_MAX : Nat := 2 ^ 31 - 1

def kNumberOfRingBufferFrames : Nat := 3

def headerSize : Nat := 16

/-- A size as it comes to the manager; both are positive. -/
structure FrameSize where
  width : Nat
  height : Nat
  positive : 0 < width ∧ 0 < height

def FrameSize.area (size : FrameSize) : Nat := size.width * size.height

/-- Nothing where the arithmetic of `int` overflows. -/
def RingBufferMemorySize (size : FrameSize) : Option Nat :=
  let frames := size.width * size.height * 4 * kNumberOfRingBufferFrames
  if headerSize + frames ≤ INT_MAX then some (headerSize + frames) else none

structure DisplayRingBufferHeader where
  display_width_ : Nat
  display_height_ : Nat
  bpp_ : Nat
  last_valid_frame_index_ : Nat

namespace DisplayRingBufferHeader

variable (header : DisplayRingBufferHeader)

/-- The product, in the arithmetic of `uint32_t`. -/
def frameOffset (index : Nat) : Nat :=
  index * (header.display_width_ * header.display_height_ * header.bpp_)

/-- The address in the mapping, with the product made an `int`. -/
def ComputeFrameAddressForIndex (index : Nat) : Int :=
  headerSize + (header.frameOffset index : Int).bmod (2 ^ 32)

def new_frame_index : Nat :=
  (header.last_valid_frame_index_ + 1) % kNumberOfRingBufferFrames

end DisplayRingBufferHeader

/-- A frame that is read or written in a mapping. -/
structure FrameAccess where
  mapped : Nat
  address : Int
  length : Nat
  exact : Bool
  deriving DecidableEq, Repr

def FrameAccess.Inside (access : FrameAccess) : Prop :=
  0 ≤ access.address ∧ access.address + access.length ≤ access.mapped ∧ access.exact
  deriving Decidable

structure RingBuffer where
  /-- There once the display was created. -/
  header : Option DisplayRingBufferHeader := none
  /-- The sizes with which the processes have mapped the buffer. -/
  display_buffer_cache_ : Nat → Option FrameSize := fun _ => none
  current : Option FrameSize := none
  copying : Option Nat := none
  accesses : List FrameAccess := []
  reads : List (Nat × Option Nat) := []
  overflowed : Bool := false

namespace RingBuffer

variable (owner : Nat) (buffer : RingBuffer)

def cache (process : Nat) (size : FrameSize) : Nat → Option FrameSize :=
  update buffer.display_buffer_cache_ process (some size)

def access (header : DisplayRingBufferHeader) (mapped : FrameSize) (index length : Nat) :
    FrameAccess :=
  ⟨(RingBufferMemorySize mapped).getD 0, header.ComputeFrameAddressForIndex index, length,
    header.frameOffset index ≤ INT_MAX⟩

def CreateLocalDisplayBuffer (size : FrameSize) : RingBuffer :=
  let buffer := {buffer with current := some size}
  match buffer.display_buffer_cache_ owner with
  -- The buffer keeps the size that the display had first.
  | some _ => buffer
  | none =>
    match RingBufferMemorySize size with
    | none => {buffer with overflowed := true}
    | some _ =>
      {buffer with
        header := some ⟨size.width, size.height, 4, 0⟩
        display_buffer_cache_ := buffer.cache owner size}

/-- `WriteFrame` with a frame of the current size, as far as into the copying. -/
def WriteFrame : Option RingBuffer :=
  match buffer.header, buffer.display_buffer_cache_ owner, buffer.current with
  | some header, some mapped, some size =>
    if buffer.copying = none then
      some {buffer with
        copying := some header.new_frame_index
        accesses := buffer.accesses ++
          [access header mapped header.new_frame_index (size.width * size.height * 4)]}
    else none
  | _, _, _ => none

def publish : Option RingBuffer :=
  match buffer.header, buffer.copying with
  | some header, some index =>
    some {buffer with
      header := some {header with last_valid_frame_index_ := index}, copying := none}
  | _, _ => none

/-- `CurrentFrame`, of which the caller reads as much as it thinks a frame has. -/
def CurrentFrame (header : DisplayRingBufferHeader) (mapped size : FrameSize) : RingBuffer :=
  {buffer with
    accesses := buffer.accesses ++
      [access header mapped header.last_valid_frame_index_ (size.width * size.height * 4)]
    reads := buffer.reads ++ [(header.last_valid_frame_index_, buffer.copying)]}

def ReadFrame (process : Nat) (size : FrameSize) : RingBuffer :=
  match buffer.display_buffer_cache_ process with
  | some mapped =>
    match buffer.header with
    | some header => buffer.CurrentFrame header mapped size
    | none => buffer
  | none =>
    match RingBufferMemorySize size with
    | none => {buffer with overflowed := true}
    | some _ =>
      match buffer.header with
      | none => buffer
      | some header =>
        {buffer with display_buffer_cache_ := buffer.cache process size}.CurrentFrame header size
          size

end RingBuffer

inductive RingBufferCall where
  | CreateLocalDisplayBuffer (size : FrameSize)
  | WriteFrame
  | publish
  | ReadFrame (process : Nat) (size : FrameSize)

namespace RingBuffer

def step (owner : Nat) (buffer : RingBuffer) : RingBufferCall → Option RingBuffer
  | .CreateLocalDisplayBuffer size => some (buffer.CreateLocalDisplayBuffer owner size)
  | .WriteFrame => buffer.WriteFrame owner
  | .publish => buffer.publish
  | .ReadFrame process size => some (buffer.ReadFrame process size)

/-- The buffer of a display of the process `owner`. -/
def machine (owner : Nat) : Machine RingBuffer RingBufferCall where
  init buffer := buffer = {}
  step := step owner

/-- Nothing overflows, accesses stay in the mapping, and no copy meets a read. -/
structure Safe (buffer : RingBuffer) : Prop where
  overflowed : buffer.overflowed = false
  inside : ∀ access ∈ buffer.accesses, access.Inside
  apart : ∀ read ∈ buffer.reads, read.2 ≠ some read.1

/-- A frame of the size in the last slot ends with the mapping or before. -/
def Fits (buffer : RingBuffer) (process : Nat) (size : FrameSize) : Prop :=
  match buffer.display_buffer_cache_ process with
  | some mapped => ∀ header, buffer.header = some header →
    2 * (header.display_width_ * header.display_height_) + size.area ≤ 3 * mapped.area
  | none => headerSize + 12 * size.area ≤ INT_MAX ∧
    ∀ header, buffer.header = some header →
      header.display_width_ * header.display_height_ ≤ size.area

def Agrees (owner : Nat) (buffer : RingBuffer) : RingBufferCall → Prop
  | .CreateLocalDisplayBuffer size => buffer.Fits owner size
  | .ReadFrame process size => buffer.Fits process size
  | _ => True

end RingBuffer

namespace DisplayRingBufferHeader

structure WellFormed (header : DisplayRingBufferHeader) : Prop where
  bpp_ : header.bpp_ = 4
  indexed : header.last_valid_frame_index_ < kNumberOfRingBufferFrames
  sized : headerSize + 12 * (header.display_width_ * header.display_height_) ≤ INT_MAX

theorem new_frame_index_lt (header : DisplayRingBufferHeader) :
    header.new_frame_index < kNumberOfRingBufferFrames :=
  mod_lt _ (by decide)

variable {header : DisplayRingBufferHeader}

theorem WellFormed.new_frame_index_ne (formed : header.WellFormed) :
    header.new_frame_index ≠ header.last_valid_frame_index_ := by
  have := formed.indexed
  unfold new_frame_index kNumberOfRingBufferFrames at *
  omega

theorem WellFormed.address (formed : header.WellFormed) {index : Nat}
    (bound : index < kNumberOfRingBufferFrames) :
    header.frameOffset index ≤ 8 * (header.display_width_ * header.display_height_) ∧
      header.frameOffset index ≤ INT_MAX ∧
      header.ComputeFrameAddressForIndex index = headerSize + header.frameOffset index := by
  have two : index ≤ 2 := le_of_lt_succ bound
  have offset : header.frameOffset index ≤
      8 * (header.display_width_ * header.display_height_) := by
    unfold frameOffset
    rw [formed.bpp_]
    calc index * (header.display_width_ * header.display_height_ * 4)
        ≤ 2 * (header.display_width_ * header.display_height_ * 4) := Nat.mul_le_mul_right _ two
      _ = 8 * (header.display_width_ * header.display_height_) := by omega
  have sized := formed.sized
  unfold headerSize INT_MAX at sized
  refine ⟨offset, by unfold INT_MAX; omega, ?_⟩
  unfold ComputeFrameAddressForIndex
  rw [Int.bmod_eq_of_le (by omega) (by omega)]

end DisplayRingBufferHeader

theorem RingBufferMemorySize_of_le {size : FrameSize}
    (bound : headerSize + 12 * size.area ≤ INT_MAX) :
    RingBufferMemorySize size = some (headerSize + 12 * size.area) := by
  have frames : size.width * size.height * 4 * kNumberOfRingBufferFrames = 12 * size.area := by
    unfold kNumberOfRingBufferFrames FrameSize.area
    omega
  unfold RingBufferMemorySize
  rw [frames]
  exact if_pos bound

namespace RingBuffer

variable {owner : Nat} {buffer : RingBuffer} {header : DisplayRingBufferHeader}

variable {mapped size : FrameSize} {process : Nat} {after : RingBuffer}

theorem inside_of_fits {index : Nat} (formed : header.WellFormed)
    (bound : index < kNumberOfRingBufferFrames) (sized : headerSize + 12 * mapped.area ≤ INT_MAX)
    (fits : 2 * (header.display_width_ * header.display_height_) + size.area ≤ 3 * mapped.area) :
    (access header mapped index (size.width * size.height * 4)).Inside := by
  obtain ⟨offset, exact_, address⟩ := formed.address bound
  unfold FrameSize.area at fits
  refine ⟨?_, ?_, decide_eq_true exact_⟩
  · simp only [access, address]
    omega
  · simp only [access, address, RingBufferMemorySize_of_le sized, getD_some]
    unfold FrameSize.area
    omega

/-- The invariant of the runs in which every size goes with its mapping. -/
structure Kept (owner : Nat) (buffer : RingBuffer) : Prop where
  safe : buffer.Safe
  formed : ∀ header, buffer.header = some header → header.WellFormed
  owned : buffer.header.isSome → (buffer.display_buffer_cache_ owner).isSome
  mapped : ∀ process mapped, buffer.display_buffer_cache_ process = some mapped →
    headerSize + 12 * mapped.area ≤ INT_MAX ∧ buffer.header.isSome
  current : ∀ size mapped header, buffer.current = some size →
    buffer.display_buffer_cache_ owner = some mapped → buffer.header = some header →
    2 * (header.display_width_ * header.display_height_) + size.area ≤ 3 * mapped.area
  copying : ∀ index, buffer.copying = some index →
    ∃ header, buffer.header = some header ∧ index = header.new_frame_index

section

variable (kept : buffer.Kept owner)
include kept

theorem Kept.CurrentFrame (found : buffer.header = some header)
    (sized : headerSize + 12 * mapped.area ≤ INT_MAX)
    (fits : 2 * (header.display_width_ * header.display_height_) + size.area ≤ 3 * mapped.area) :
    (buffer.CurrentFrame header mapped size).Kept owner := by
  have formed := kept.formed header found
  refine ⟨⟨kept.safe.overflowed, ?_, ?_⟩, kept.formed, kept.owned, kept.mapped, kept.current,
    kept.copying⟩
  · exact forall_mem_append.mpr ⟨kept.safe.inside,
      forall_mem_singleton.mpr (inside_of_fits formed formed.indexed sized fits)⟩
  · refine forall_mem_append.mpr ⟨kept.safe.apart, forall_mem_singleton.mpr ?_⟩
    intro copied
    -- What is copied to is the slot after the one that is read.
    obtain ⟨other, there, same⟩ := kept.copying _ copied
    cases found.symm.trans there
    exact formed.new_frame_index_ne same.symm

theorem Kept.cached
    (unmapped : buffer.display_buffer_cache_ process = none) (there : buffer.header = some header)
    (sized : headerSize + 12 * size.area ≤ INT_MAX) :
    {buffer with display_buffer_cache_ := buffer.cache process size}.Kept owner := by
  have own : owner ≠ process := by
    rintro rfl
    have := kept.owned (by rw [there]; rfl)
    rw [unmapped] at this
    cases this
  have aside : buffer.cache process size owner = buffer.display_buffer_cache_ owner :=
    update_of_ne own _ _
  refine ⟨⟨kept.safe.overflowed, kept.safe.inside, kept.safe.apart⟩, kept.formed,
    fun made => (congrArg Option.isSome aside).trans (kept.owned made),
    fun other mapped found => ?_, fun before mapped header now found =>
      kept.current before mapped header now (aside.symm.trans found), kept.copying⟩
  by_cases same : other = process
  · subst same
    cases (update_self _ _ _).symm.trans found
    exact ⟨sized, by rw [there]; rfl⟩
  · exact kept.mapped other mapped ((update_of_ne same _ _).symm.trans found)

theorem Kept.ReadFrame (fits : buffer.Fits process size) :
    (buffer.ReadFrame process size).Kept owner := by
  unfold RingBuffer.ReadFrame Fits at *
  split
  · rename_i mapped found
    rw [found] at fits
    split
    · rename_i header there
      exact kept.CurrentFrame there (kept.mapped process mapped found).1 (fits header there)
    · exact kept
  · rename_i unmapped
    rw [unmapped] at fits
    rw [RingBufferMemorySize_of_le fits.1]
    dsimp only
    split
    · exact kept
    · rename_i header there
      have covers : 2 * (header.display_width_ * header.display_height_) + size.area ≤
          3 * size.area := by
        have := fits.2 header there
        omega
      exact (kept.cached unmapped there fits.1).CurrentFrame there fits.1 covers

theorem Kept.CreateLocalDisplayBuffer (fits : buffer.Fits owner size) :
    (buffer.CreateLocalDisplayBuffer owner size).Kept owner := by
  unfold RingBuffer.CreateLocalDisplayBuffer Fits at *
  dsimp only
  split
  · rename_i mapped found
    rw [found] at fits
    refine ⟨⟨kept.safe.overflowed, kept.safe.inside, kept.safe.apart⟩, kept.formed, kept.owned,
      kept.mapped, fun later cached header now same there => ?_, kept.copying⟩
    cases now
    cases found.symm.trans same
    exact fits header there
  · rename_i unmapped
    rw [unmapped] at fits
    have fresh : buffer.header = none := by
      by_contra made
      have := kept.owned (isSome_iff_ne_none.mpr made)
      rw [unmapped] at this
      cases this
    rw [RingBufferMemorySize_of_le fits.1]
    dsimp only
    -- Nobody has mapped a buffer that is not there.
    have alone : ∀ process, buffer.display_buffer_cache_ process = none := by
      intro process
      by_contra mapped
      obtain ⟨cached, found⟩ := ne_none_iff_exists'.mp mapped
      have := (kept.mapped process cached found).2
      rw [fresh] at this
      cases this
    have own : ∀ process mapped,
        update buffer.display_buffer_cache_ owner (some size) process = some mapped →
          mapped = size := by
      intro process mapped found
      by_cases same : process = owner
      · subst same
        cases (update_self _ _ _).symm.trans found
        rfl
      · have := (update_of_ne same _ _).symm.trans found
        rw [alone process] at this
        cases this
    refine ⟨⟨kept.safe.overflowed, kept.safe.inside, kept.safe.apart⟩, ?_, fun _ => ?_, ?_, ?_, ?_⟩
    · intro header there
      cases there
      exact ⟨rfl, succ_pos 2, fits.1⟩
    · simp [cache]
    · intro process mapped found
      cases own process mapped found
      exact ⟨fits.1, rfl⟩
    · intro later mapped header now found there
      cases now
      cases there
      cases own owner mapped found
      change 2 * size.area + size.area ≤ 3 * size.area
      omega
    · intro index copied
      obtain ⟨header, there, -⟩ := kept.copying index copied
      cases fresh.symm.trans there

theorem Kept.WriteFrame (moved : buffer.WriteFrame owner = some after) : after.Kept owner := by
  unfold RingBuffer.WriteFrame at moved
  split at moved
  · rename_i header mapped size there found now
    obtain ⟨free, same⟩ := ite_none_right_eq_some.mp moved
    cases same
    have inside := inside_of_fits (kept.formed header there)
      header.new_frame_index_lt (kept.mapped owner mapped found).1
      (kept.current size mapped header now found there)
    refine ⟨⟨kept.safe.overflowed, ?_, kept.safe.apart⟩, kept.formed, kept.owned, kept.mapped,
      kept.current, fun index copied => ?_⟩
    · exact forall_mem_append.mpr ⟨kept.safe.inside, forall_mem_singleton.mpr inside⟩
    · cases copied
      exact ⟨header, there, rfl⟩
  · cases moved

theorem Kept.publish (moved : buffer.publish = some after) : after.Kept owner := by
  unfold RingBuffer.publish at moved
  split at moved
  · rename_i header index there copied
    cases moved
    obtain ⟨other, same, rfl⟩ := kept.copying index copied
    cases there.symm.trans same
    have formed := kept.formed header there
    refine ⟨⟨kept.safe.overflowed, kept.safe.inside, kept.safe.apart⟩, ?_,
      fun _ => kept.owned (by rw [there]; rfl), ?_, ?_, nofun⟩
    · intro later made
      cases made
      exact ⟨formed.bpp_, header.new_frame_index_lt, formed.sized⟩
    · exact fun process mapped found => ⟨(kept.mapped process mapped found).1, rfl⟩
    · intro size mapped later now found made
      cases made
      exact kept.current size mapped header now found there
  · cases moved

end

theorem Kept.of_reaches (reached : (machine owner).Reaches (Agrees owner) buffer) :
    buffer.Kept owner := by
  refine reached.invariant ?_ fun buffer call after kept agrees moved => ?_
  · rintro _ rfl
    exact ⟨⟨rfl, nofun, nofun⟩, nofun, nofun, nofun, nofun, nofun⟩
  · cases call with
    | CreateLocalDisplayBuffer size =>
      cases moved
      exact kept.CreateLocalDisplayBuffer agrees
    | WriteFrame => exact kept.WriteFrame moved
    | publish => exact kept.publish moved
    | ReadFrame process size =>
      cases moved
      exact kept.ReadFrame agrees

end RingBuffer

def ringBuffers : Machine (Nat × Nat → RingBuffer) ((Nat × Nat) × RingBufferCall) :=
  Machine.product fun display => RingBuffer.machine display.1

/-- Where the sizes agree every access of every display is safe. -/
theorem ring_buffers_safe {buffers : Nat × Nat → RingBuffer}
    (reached : ringBuffers.Reaches (Machine.each fun display => RingBuffer.Agrees display.1) buffers)
    (display : Nat × Nat) : (buffers display).Safe :=
  (RingBuffer.Kept.of_reaches (reached.component display)).safe

def pixel : FrameSize := ⟨1, 1, by decide⟩

def fourPixels : FrameSize := ⟨2, 2, by decide⟩

def first (buffers : List RingBuffer) : Nat × Nat → RingBuffer :=
  buffers.foldl (fun before after => update before (0, 0) after) fun _ => {}

def created : RingBuffer := RingBuffer.CreateLocalDisplayBuffer 0 {} fourPixels

def wrote : RingBuffer := (created.WriteFrame 0).getD {}

def published : RingBuffer := wrote.publish.getD {}

def wroteAgain : RingBuffer := (published.WriteFrame 0).getD {}

/-- Another process reads the frame that was published while the next one is copied. -/
theorem ring_buffers_safe_shared :
    (first [created, wrote, published, wroteAgain, wroteAgain.ReadFrame 1 fourPixels]
      (0, 0)).Safe := by
  have reached : ringBuffers.Reaches (Machine.each fun display => RingBuffer.Agrees display.1)
      (first [created, wrote, published, wroteAgain, wroteAgain.ReadFrame 1 fourPixels]) := by
    refine .take ((0, 0), .ReadFrame 1 fourPixels) (.take ((0, 0), .WriteFrame)
      (.take ((0, 0), .publish) (.take ((0, 0), .WriteFrame)
        (.take ((0, 0), .CreateLocalDisplayBuffer fourPixels) (.start fun _ => rfl) ?_ rfl)
        trivial rfl) trivial rfl) trivial rfl) ?_ rfl
    · exact ⟨by decide, nofun⟩
    · refine ⟨by decide, fun header there => ?_⟩
      cases there
      decide
  exact ring_buffers_safe reached _

def small : RingBuffer := RingBuffer.CreateLocalDisplayBuffer 0 {} pixel

def recreated : RingBuffer := small.CreateLocalDisplayBuffer 0 fourPixels

def written : RingBuffer := (recreated.WriteFrame 0).getD {}

/-- A display of one pixel that is created again with four. -/
theorem ring_buffer_overrun : ¬∀ buffers, ringBuffers.Reachable buffers →
    ∀ display, (buffers display).Safe := by
  intro safe
  have reached : ringBuffers.Reachable (first [small, recreated, written]) :=
    .take ((0, 0), .WriteFrame) (.take ((0, 0), .CreateLocalDisplayBuffer fourPixels)
      (.take ((0, 0), .CreateLocalDisplayBuffer pixel) (.start fun _ => rfl) trivial rfl)
      trivial rfl) trivial rfl
  have inside := (safe _ reached (0, 0)).inside
  rw [first, foldl_cons, foldl_cons, foldl_cons, foldl_nil,
    update_self] at inside
  have accesses : written.accesses = [⟨28, 20, 16, true⟩] := by decide
  exact absurd (inside _ (accesses ▸ mem_singleton_self _)) (by decide)

end Ika.ScreenConnector
