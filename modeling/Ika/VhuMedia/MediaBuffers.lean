import Ika.Foundation.Machine
import Mathlib.Data.List.Basic

/-!
The buffers of the sessions of the two V4L2 devices, and the offsets registered for them.

Both devices make the buffers of a session one by one and keep the vector they had when one of them
cannot be made.
-/

set_option autoImplicit false

namespace Ika.VhuMedia

open Transition List Function Option

inductive BufferErrno where
  | EINVAL
  | EBUSY
  | ENOMEM
  | Eio

inductive BufferState where
  | New
  | Incoming
  | Outgoing (sequence : UInt32)
  deriving DecidableEq, Repr

structure MediaPlane where
  length : Nat
  offset : Nat

structure MediaBuffer where
  state : BufferState
  planes : List MediaPlane

structure MediaSession where
  buffers : List MediaBuffer := []
  streaming : Bool := false

def MediaSession.planes (session : MediaSession) : List (List MediaPlane) :=
  session.buffers.map MediaBuffer.planes

def MediaSession.offsets (session : MediaSession) : List Nat :=
  session.planes.flatMap fun planes => planes.map MediaPlane.offset

def MediaSession.reset (session : MediaSession) : MediaSession :=
  {session with buffers := session.buffers.map fun buffer => {buffer with state := .New}}

structure MediaDevice where
  active_session : Option Nat := none
  registered : List Nat := []
  sessions : Nat → Option MediaSession := fun _ => none

inductive MediaKind where
  | EmulatedCamera
  | V4l2Stream
  deriving DecidableEq, Repr

/-- A mapping manager, and the planes that cannot be had or registered. -/
structure Allocating where
  offset : List Nat → Nat
  fresh : ∀ registered, offset registered ∉ registered
  memory : Nat → Nat → Bool
  registers : Nat → Nat → Bool

def plane_sizes (width height : Nat) : List Nat :=
  [width * height, width * height / 4, width * height / 4]

section Allocation

variable (allocating : Allocating)

/-- Makes the planes from the given one on, each with its memory if that is not there yet. -/
def makePlanes (memory : Nat → Bool) (registers : Nat → Bool) (index : Nat) :
    List Nat → List Nat → List Nat × Except BufferErrno (List MediaPlane)
  | [], registered => (registered, .ok [])
  | size :: sizes, registered =>
    if memory index = false then (registered, .error .ENOMEM)
    else if registers index = false then (registered, .error .EINVAL)
    else
      let offset := allocating.offset registered
      let made := makePlanes memory registers (index + 1) sizes (offset :: registered)
      made.map id (Except.map (⟨size, offset⟩ :: ·))

/-- The emulated camera has the memory of all planes before it registers the first of them. -/
def newPlanes (kind : MediaKind) (sizes : List Nat) (buffer : Nat) (registered : List Nat) :
    List Nat × Except BufferErrno (List MediaPlane) :=
  match kind with
  | .EmulatedCamera =>
    if (List.range sizes.length).all (allocating.memory buffer) then
      makePlanes allocating (fun _ => true) (allocating.registers buffer) 0 sizes registered
    else (registered, .error .ENOMEM)
  | .V4l2Stream =>
    makePlanes allocating (allocating.memory buffer) (allocating.registers buffer) 0 sizes registered

def newBuffers (kind : MediaKind) (sizes : List Nat) (registered : List Nat) :
    List Nat → List Nat × Except BufferErrno (List MediaBuffer)
  | [] => (registered, .ok [])
  | index :: rest =>
    match newPlanes allocating kind sizes index registered with
    | (registered, .error e) => (registered, .error e)
    | (registered, .ok planes) =>
      (newBuffers kind sizes registered rest).map id (Except.map (⟨.New, planes⟩ :: ·))

end Allocation

namespace MediaDevice

variable (kind : MediaKind) (device : MediaDevice)

def set (session_id : Nat) (session : MediaSession) : Nat → Option MediaSession :=
  update device.sessions session_id (some session)

def unregister (offsets : List Nat) : List Nat :=
  device.registered.filter fun offset => ¬offset ∈ offsets

/-- `expected` tells that the queue and the memory type are the device's. -/
def reqbufs (width height : Nat) (session_id : Nat) (session : MediaSession) (expected : Bool)
    (count : Nat) (allocating : Allocating) : MediaDevice × Except BufferErrno Nat :=
  if expected = false then (device, .error .EINVAL)
  else if session.streaming then (device, .error .EBUSY)
  else if device.active_session.any (· ≠ session_id) then (device, .error .EBUSY)
  else
    let active_session := if count = 0 then none else some session_id
    -- `reqbufs(0)` of the emulated camera leaves the states of what it drops
    let dropped :=
      if count = 0 ∧ kind = .EmulatedCamera then {session with streaming := false}
      else session.reset
    let made := newBuffers allocating kind (plane_sizes width height)
      (device.unregister session.offsets) (List.range (min count 32))
    match made with
    | (registered, .error e) =>
      ({active_session, registered, sessions := device.set session_id dropped}, .error e)
    | (registered, .ok buffers) =>
      ({active_session, registered, sessions := device.set session_id {dropped with buffers}},
        .ok (min count 32))

/-- The emulated camera duplicates the files of the planes and sends them to its channel. -/
def qbuf (session_id : Nat) (session : MediaSession) (buffer_idx : Nat) (cloned queued : Bool) :
    MediaDevice × Except BufferErrno Unit :=
  match session.buffers[buffer_idx]? with
  | none => (device, .error .EINVAL)
  | some host_buffer =>
    if host_buffer.state = .Incoming then (device, .error .EINVAL)
    else
      let buffers := session.buffers.set buffer_idx {host_buffer with state := .Incoming}
      let incoming := {device with sessions := device.set session_id {session with buffers}}
      if kind = .EmulatedCamera ∧ (cloned && queued) = false then (incoming, .error .Eio)
      else (incoming, .ok ())

/-- `spawned` tells whether the threads of the emulated camera could be made. -/
def new_session (session_id : Nat) (spawned : Bool) : MediaDevice × Except BufferErrno Unit :=
  if kind = .EmulatedCamera ∧ spawned = false then (device, .error .Eio)
  else ({device with sessions := device.set session_id {}}, .ok ())

def close_session (session_id : Nat) (session : MediaSession) : MediaDevice :=
  let sessions := update device.sessions session_id none
  match kind with
  | .EmulatedCamera =>
    if device.active_session ≠ some session_id then {device with sessions}
    else {active_session := none, registered := device.unregister session.offsets, sessions}
  | .V4l2Stream =>
    let active_session :=
      if device.active_session = some session_id then none else device.active_session
    if session.buffers = [] then {device with active_session, sessions}
    else {active_session, registered := device.unregister session.offsets, sessions}

end MediaDevice

/-! ## Calls in any order -/

inductive MediaCall where
  | new_session (session_id : Nat) (spawned : Bool)
  | reqbufs (session_id : Nat) (expected : Bool) (count : Nat) (allocating : Allocating)
  | qbuf (session_id : Nat) (buffer_idx : Nat) (cloned queued : Bool)
  | close_session (session_id : Nat)

namespace MediaDevice

section Calls

variable (kind : MediaKind) (width height : Nat)

/-- The device after a call; sessions are opened under ids of their own and asked while open. -/
def called (device : MediaDevice) : MediaCall → Option (MediaDevice × Bool)
  | .new_session session_id spawned =>
    if (device.sessions session_id).isNone then
      some ((device.new_session kind session_id spawned).map id Except.isOk)
    else none
  | .reqbufs session_id expected count allocating =>
    (device.sessions session_id).map fun session => Prod.map id Except.isOk
      (device.reqbufs kind width height session_id session expected count allocating)
  | .qbuf session_id buffer_idx cloned queued =>
    (device.sessions session_id).map fun session => Prod.map id Except.isOk
      (device.qbuf kind session_id session buffer_idx cloned queued)
  | .close_session session_id => (device.sessions session_id).map fun session =>
      (device.close_session kind session_id session, true)

def machine : Machine MediaDevice MediaCall where
  init device := device = {}
  step device call := (device.called kind width height call).map Prod.fst

/-- No plane that is asked for fails, and no buffer that is queued. -/
def Succeeds (device : MediaDevice) : MediaCall → Prop
  | .reqbufs session_id expected count allocating =>
    expected → device.active_session.any (· ≠ session_id) = false →
      ∀ buffer < min count 32, ∀ plane < 3,
        allocating.memory buffer plane ∧ allocating.registers buffer plane
  | .qbuf _ _ cloned queued => kind = .EmulatedCamera → cloned && queued
  | _ => True

end Calls

/-- The registered offsets are those of the open sessions' buffers, and only the active one has any.
-/
structure Consistent (device : MediaDevice) : Prop where
  registered : ∀ offset, offset ∈ device.registered ↔
    ∃ session_id session, device.sessions session_id = some session ∧ offset ∈ session.offsets
  active : ∀ session_id session, device.sessions session_id = some session →
    session.buffers ≠ [] → device.active_session = some session_id

/-- A failed call leaves the buffers, their states and the active session as they were. -/
def Atomic (device : MediaDevice) (result : MediaDevice × Bool) : Prop :=
  result.2 = false →
    result.1.sessions = device.sessions ∧ result.1.active_session = device.active_session

end MediaDevice

/-! ## Planes and buffers that are made -/

section Made

variable {allocating : Allocating}

theorem makePlanes_ok {memory registers : Nat → Bool} (sizes : List Nat) (index : Nat)
    (registered : List Nat)
    (made : ∀ plane < index + sizes.length, memory plane ∧ registers plane) :
    ∃ planes, makePlanes allocating memory registers index sizes registered =
      ((planes.map MediaPlane.offset).reverse ++ registered, .ok planes) := by
  induction sizes generalizing index registered with
  | nil => exact ⟨[], rfl⟩
  | cons size sizes ih =>
    have here := made index (by simp)
    obtain ⟨planes, rest⟩ := ih (index + 1) (allocating.offset registered :: registered)
      fun plane bound => made plane (by simp only [length_cons]; omega)
    refine ⟨⟨size, allocating.offset registered⟩ :: planes, ?_⟩
    simp [makePlanes, here.1, here.2, rest, Except.map]

theorem newPlanes_ok (kind : MediaKind) {sizes : List Nat} {buffer : Nat} (registered : List Nat)
    (made : ∀ plane < sizes.length,
      allocating.memory buffer plane ∧ allocating.registers buffer plane) :
    ∃ planes, newPlanes allocating kind sizes buffer registered =
      ((planes.map MediaPlane.offset).reverse ++ registered, .ok planes) := by
  cases kind with
  | EmulatedCamera =>
    have memory : (List.range sizes.length).all (allocating.memory buffer) :=
      List.all_eq_true.mpr fun plane member => (made plane (mem_range.mp member)).1
    rw [newPlanes, if_pos memory]
    exact makePlanes_ok sizes 0 registered fun plane bound =>
      ⟨rfl, (made plane (by omega)).2⟩
  | V4l2Stream =>
    exact makePlanes_ok sizes 0 registered fun plane bound => made plane (by omega)

theorem newBuffers_ok (kind : MediaKind) {sizes : List Nat} (indices registered : List Nat)
    (made : ∀ buffer ∈ indices, ∀ plane < sizes.length,
      allocating.memory buffer plane ∧ allocating.registers buffer plane) :
    ∃ session : MediaSession,
      newBuffers allocating kind sizes registered indices =
        (session.offsets.reverse ++ registered, .ok session.buffers) ∧
      session.buffers.length = indices.length := by
  induction indices generalizing registered with
  | nil => exact ⟨{}, rfl, rfl⟩
  | cons index rest ih =>
    obtain ⟨planes, first⟩ := newPlanes_ok kind registered (made index mem_cons_self)
    obtain ⟨session, others, count⟩ := ih ((planes.map MediaPlane.offset).reverse ++ registered)
      fun buffer member => made buffer (mem_cons_of_mem _ member)
    refine ⟨{buffers := ⟨.New, planes⟩ :: session.buffers}, ?_, congrArg _ count⟩
    simp [newBuffers, first, others, Except.map, MediaSession.offsets, MediaSession.planes]

end Made

namespace MediaDevice

variable {kind : MediaKind} {width height : Nat} {device : MediaDevice}

theorem reqbufs_spec (kind : MediaKind) (width height session_id : Nat) (session : MediaSession)
    (expected : Bool) (count : Nat) (allocating : Allocating) :
    let result := device.reqbufs kind width height session_id session expected count allocating
    result.1 = device ∧ result.2.isOk = false ∨
      session.streaming = false ∧ ∃ active_session registered after, after.streaming = false ∧
        result.1 = ⟨active_session, registered, device.set session_id after⟩ := by
  unfold reqbufs
  by_cases unexpected : expected = false
  · exact .inl (by simp [unexpected, Except.isOk, Except.toBool])
  rw [if_neg unexpected]
  by_cases streaming : session.streaming
  · exact .inl (by simp [streaming, Except.isOk, Except.toBool])
  rw [if_neg streaming]
  by_cases busy : device.active_session.any (· ≠ session_id)
  · rw [if_pos busy]
    exact .inl ⟨rfl, rfl⟩
  rw [if_neg busy]
  refine .inr ⟨Bool.not_eq_true _ ▸ streaming, ?_⟩
  have dropped : (if count = 0 ∧ kind = .EmulatedCamera then {session with streaming := false}
      else session.reset).streaming = false := by
    split
    · rfl
    · exact Bool.not_eq_true _ ▸ streaming
  dsimp only
  split <;>
    · refine ⟨_, _, _, ?_, rfl⟩
      exact dropped

theorem qbuf_spec (kind : MediaKind) (session_id : Nat) (session : MediaSession) (buffer_idx : Nat)
    (cloned queued : Bool) :
    let result := device.qbuf kind session_id session buffer_idx cloned queued
    result.1 = device ∧ result.2.isOk = false ∨
      ∃ host_buffer after, session.buffers[buffer_idx]? = some host_buffer ∧
        after.streaming = session.streaming ∧ after.planes = session.planes ∧
        result.1 = {device with sessions := device.set session_id after} ∧
        (result.2.isOk = false → kind = .EmulatedCamera ∧ (cloned && queued) = false) := by
  unfold qbuf
  split
  · exact .inl ⟨rfl, rfl⟩
  rename_i host_buffer found
  by_cases incoming : host_buffer.state = .Incoming
  · rw [if_pos incoming]
    exact .inl ⟨rfl, rfl⟩
  rw [if_neg incoming]
  refine .inr ⟨host_buffer,
    ⟨session.buffers.set buffer_idx {host_buffer with state := .Incoming}, session.streaming⟩,
    found, rfl, ?_, ?_⟩
  · obtain ⟨bound, rfl⟩ := List.getElem?_eq_some_iff.mp found
    have mapped : buffer_idx < (session.buffers.map MediaBuffer.planes).length := by simpa using bound
    have same := set_getElem_self mapped
    rw [getElem_map] at same
    simp only [MediaSession.planes, map_set, same]
  · split
    · exact ⟨rfl, fun _ => ‹_›⟩
    · exact ⟨rfl, nofun⟩

theorem set_cases {session_id other : Nat} {session owner : MediaSession}
    (found : device.set session_id session other = some owner) :
    other = session_id ∧ owner = session ∨
      other ≠ session_id ∧ device.sessions other = some owner := by
  by_cases same : other = session_id
  · subst same
    rw [set, update_self] at found
    cases found
    exact .inl ⟨rfl, rfl⟩
  · rw [set, update_of_ne same] at found
    exact .inr ⟨same, found⟩

namespace Consistent

variable {session_id : Nat} {session : MediaSession}

section

variable (consistent : device.Consistent)
include consistent

theorem registered_of (opened : device.sessions session_id = some session)
    (active : device.active_session.any (· ≠ session_id) = false) (offset : Nat) :
    offset ∈ device.registered ↔ offset ∈ session.offsets := by
  refine (consistent.registered offset).trans ⟨?_, fun member => ⟨_, _, opened, member⟩⟩
  rintro ⟨other, owner, found, member⟩
  have full : owner.buffers ≠ [] := by
    rintro empty
    simp [MediaSession.offsets, MediaSession.planes, empty] at member
  have held := consistent.active other owner found full
  rw [held] at active
  simp only [any_some, decide_eq_false_iff_not, not_not] at active
  subst active
  cases opened.symm.trans found
  exact member

theorem unregister_of (opened : device.sessions session_id = some session)
    (active : device.active_session.any (· ≠ session_id) = false) :
    device.unregister session.offsets = [] := by
  refine filter_eq_nil_iff.mpr fun offset member => ?_
  simpa using (consistent.registered_of opened active offset).mp member

theorem idle_of {other : Nat} {owner : MediaSession}
    (active : device.active_session.any (· ≠ session_id) = false) (ne : other ≠ session_id)
    (found : device.sessions other = some owner) : owner.buffers = [] := by
  by_contra held
  rw [consistent.active other owner found held] at active
  simp [ne] at active

theorem replaced {active_session : Option Nat} {registered : List Nat}
    (active : device.active_session.any (· ≠ session_id) = false)
    (theirs : ∀ offset, offset ∈ registered ↔ offset ∈ session.offsets)
    (holds : session.buffers ≠ [] → active_session = some session_id) :
    Consistent ⟨active_session, registered, device.set session_id session⟩ := by
  constructor
  · intro offset
    refine (theirs offset).trans ⟨fun member => ⟨session_id, session, ?_, member⟩, ?_⟩
    · exact update_self _ _ _
    · rintro ⟨other, owner, found, member⟩
      rcases set_cases found with ⟨-, rfl⟩ | ⟨ne, found⟩
      · exact member
      · simp [MediaSession.offsets, MediaSession.planes, consistent.idle_of active ne found] at member
  · intro other owner found held
    rcases set_cases found with ⟨rfl, rfl⟩ | ⟨ne, found⟩
    · exact holds held
    · exact absurd (consistent.idle_of active ne found) held

section

variable (opened : device.sessions session_id = some session)
include opened

theorem reqbufs {count : Nat} {expected : Bool} {allocating : Allocating}
    (succeeds : device.Succeeds kind (.reqbufs session_id expected count allocating)) :
    let result := device.reqbufs kind width height session_id session expected count allocating
    result.1.Consistent ∧ (result.2.isOk = false → result.1 = device) := by
  unfold MediaDevice.reqbufs
  by_cases unexpected : expected = false
  · rw [if_pos unexpected]
    exact ⟨consistent, fun _ => rfl⟩
  rw [if_neg unexpected]
  by_cases streaming : session.streaming
  · rw [if_pos streaming]
    exact ⟨consistent, fun _ => rfl⟩
  rw [if_neg streaming]
  by_cases busy : device.active_session.any (· ≠ session_id)
  · rw [if_pos busy]
    exact ⟨consistent, fun _ => rfl⟩
  rw [if_neg busy]
  have active := Bool.not_eq_true _ ▸ busy
  have bounded : ∀ buffer ∈ List.range (min count 32), ∀ plane < (plane_sizes width height).length,
      allocating.memory buffer plane ∧ allocating.registers buffer plane :=
    fun buffer member plane bound =>
      succeeds (Bool.not_eq_false _ ▸ unexpected) active buffer (mem_range.mp member) plane bound
  obtain ⟨fresh, made, length⟩ := newBuffers_ok kind _ [] bounded
  rw [consistent.unregister_of opened active, made]
  refine ⟨consistent.replaced active (fun offset => ?_) fun held => ?_, nofun⟩
  · simp [MediaSession.offsets, MediaSession.planes]
  · have : fresh.buffers.length ≠ 0 := fun none => held (length_eq_zero_iff.mp none)
    rw [length, length_range] at this
    exact if_neg (by omega)

theorem same_offsets {after : MediaSession}
    (offsets : after.offsets = session.offsets) (held : after.buffers ≠ [] → session.buffers ≠ []) :
    Consistent {device with sessions := device.set session_id after} := by
  constructor
  · intro offset
    refine (consistent.registered offset).trans ⟨?_, ?_⟩
    · rintro ⟨other, owner, found, member⟩
      by_cases same : other = session_id
      · subst same
        cases opened.symm.trans found
        exact ⟨other, after, update_self _ _ _, offsets ▸ member⟩
      · exact ⟨other, owner, (update_of_ne same _ _).trans found, member⟩
    · rintro ⟨other, owner, found, member⟩
      rcases set_cases found with ⟨-, rfl⟩ | ⟨-, found⟩
      · exact ⟨session_id, session, opened, offsets ▸ member⟩
      · exact ⟨other, owner, found, member⟩
  · intro other owner found holds
    rcases set_cases found with ⟨rfl, rfl⟩ | ⟨-, found⟩
    · exact consistent.active _ _ opened (held holds)
    · exact consistent.active _ _ found holds

theorem qbuf {buffer_idx : Nat} {cloned queued : Bool}
    (succeeds : device.Succeeds kind (.qbuf session_id buffer_idx cloned queued)) :
    let result := device.qbuf kind session_id session buffer_idx cloned queued
    result.1.Consistent ∧ (result.2.isOk = false → result.1 = device) := by
  rcases device.qbuf_spec kind session_id session buffer_idx cloned queued with
    ⟨same, -⟩ | ⟨_, after, _, -, planes, result, failed⟩
  · refine ⟨?_, fun _ => same⟩
    rw [same]
    exact consistent
  · refine ⟨?_, fun error => ?_⟩
    · rw [result]
      refine consistent.same_offsets opened ?_ ?_
      · rw [MediaSession.offsets, planes, MediaSession.offsets]
      · intro held empty
        rw [MediaSession.planes, MediaSession.planes, empty] at planes
        exact held (List.map_eq_nil_iff.mp planes)
    · obtain ⟨emulated, unhanded⟩ := failed error
      exact absurd (succeeds emulated) (by simp [unhanded])

end

theorem new_session {spawned : Bool} (free : device.sessions session_id = none) :
    let result := device.new_session kind session_id spawned
    result.1.Consistent ∧ (result.2.isOk = false → result.1 = device) := by
  unfold MediaDevice.new_session
  split_ifs
  · exact ⟨consistent, fun _ => rfl⟩
  · refine ⟨⟨fun offset => (consistent.registered offset).trans ⟨?_, ?_⟩, ?_⟩, nofun⟩
    · rintro ⟨other, owner, found, member⟩
      have ne : other ≠ session_id := by
        rintro rfl
        cases free.symm.trans found
      exact ⟨other, owner, (update_of_ne ne _ _).trans found, member⟩
    · rintro ⟨other, owner, found, member⟩
      rcases set_cases found with ⟨-, rfl⟩ | ⟨-, found⟩
      · cases member
      · exact ⟨other, owner, found, member⟩
    · intro other owner found held
      rcases set_cases found with ⟨-, rfl⟩ | ⟨-, found⟩
      · exact absurd rfl held
      · exact consistent.active _ _ found held

theorem close_session_eq (opened : device.sessions session_id = some session) :
    device.close_session kind session_id session =
      { active_session := if device.active_session = some session_id then none
          else device.active_session
        registered := device.unregister session.offsets
        sessions := update device.sessions session_id none} := by
  have unregister_nil : session.buffers = [] →
      device.unregister session.offsets = device.registered := by
    intro empty
    simp [unregister, MediaSession.offsets, MediaSession.planes, empty]
  cases kind with
  | EmulatedCamera =>
    by_cases active : device.active_session = some session_id
    · simp only [close_session, active, ne_eq, not_true, if_false, if_true]
    · have empty : session.buffers = [] := by
        by_contra held
        exact active (consistent.active _ _ opened held)
      simp only [close_session, active, ne_eq, not_false_iff, if_false, if_true,
        unregister_nil empty]
  | V4l2Stream =>
    by_cases empty : session.buffers = []
    · simp only [close_session, if_pos empty, unregister_nil empty]
    · simp only [close_session, if_neg empty]

theorem close_session (opened : device.sessions session_id = some session) :
    (device.close_session kind session_id session).Consistent := by
  have others : ∀ {other : Nat} {owner : MediaSession},
      update device.sessions session_id none other = some owner →
        other ≠ session_id ∧ device.sessions other = some owner := by
    intro other owner found
    by_cases same : other = session_id
    · subst same
      simp at found
    · exact ⟨same, (update_of_ne same _ _).symm.trans found⟩
  have held : ∀ {other : Nat} {owner : MediaSession} {offset : Nat}, offset ∈ owner.offsets →
      device.sessions other = some owner → device.active_session = some other := by
    intro other owner offset member found
    refine consistent.active _ _ found fun empty => ?_
    simp [MediaSession.offsets, MediaSession.planes, empty] at member
  rw [consistent.close_session_eq opened]
  constructor
  · intro offset
    simp only [unregister, mem_filter, decide_eq_true_eq, consistent.registered offset]
    constructor
    · rintro ⟨⟨other, owner, found, member⟩, notTheirs⟩
      have ne : other ≠ session_id := by
        rintro rfl
        cases opened.symm.trans found
        exact notTheirs member
      exact ⟨other, owner, (update_of_ne ne _ _).trans found, member⟩
    · rintro ⟨other, owner, found, member⟩
      obtain ⟨ne, found⟩ := others found
      refine ⟨⟨other, owner, found, member⟩, fun theirs => ne ?_⟩
      exact Option.some.inj ((held member found).symm.trans (held theirs opened))
  · intro other owner found holds
    obtain ⟨ne, found⟩ := others found
    have active := consistent.active _ _ found holds
    simp [active, ne]

end

end Consistent

theorem Consistent.called {call : MediaCall} {result : MediaDevice × Bool}
    (consistent : device.Consistent) (succeeds : device.Succeeds kind call)
    (answered : device.called kind width height call = some result) :
    result.1.Consistent ∧ device.Atomic result := by
  have atomic : ∀ {α : Type} {outcome : MediaDevice × Except BufferErrno α},
      outcome.1.Consistent ∧ (outcome.2.isOk = false → outcome.1 = device) →
        (outcome.map id Except.isOk).1.Consistent ∧ device.Atomic (outcome.map id Except.isOk) :=
    fun kept => ⟨kept.1, fun failed => ⟨congrArg _ (kept.2 failed), congrArg _ (kept.2 failed)⟩⟩
  cases call with
  | new_session session_id spawned =>
    obtain ⟨free, same⟩ := ite_none_right_eq_some.mp answered
    cases same
    exact atomic (consistent.new_session (isNone_iff_eq_none.mp free))
  | reqbufs session_id expected count allocating =>
    obtain ⟨session, opened, rfl⟩ := map_eq_some_iff.mp answered
    exact atomic (consistent.reqbufs opened succeeds)
  | qbuf session_id buffer_idx cloned queued =>
    obtain ⟨session, opened, rfl⟩ := map_eq_some_iff.mp answered
    exact atomic (consistent.qbuf opened succeeds)
  | close_session session_id =>
    obtain ⟨session, opened, rfl⟩ := map_eq_some_iff.mp answered
    exact ⟨consistent.close_session opened, nofun⟩

end MediaDevice

/-- Buffers, registrations and the active session agree as long as no plane and no queued buffer
fails. -/
theorem allocation_consistent {kind : MediaKind} {width height : Nat} {device : MediaDevice}
    (reached : (MediaDevice.machine kind width height).Reaches (MediaDevice.Succeeds kind) device) :
    device.Consistent ∧ ∀ call result, device.Succeeds kind call →
      device.called kind width height call = some result → device.Atomic result := by
  have consistent : device.Consistent := by
    refine reached.invariant ?_ fun state call after consistent succeeds moved => ?_
    · rintro _ rfl
      exact ⟨fun offset => ⟨nofun, nofun⟩, nofun⟩
    · obtain ⟨result, answered, rfl⟩ := map_eq_some_iff.mp moved
      exact (consistent.called succeeds answered).1
  exact ⟨consistent, fun call result succeeds answered =>
    (consistent.called succeeds answered).2⟩

theorem le_highest {offset : Nat} {registered : List Nat} (member : offset ∈ registered) :
    offset ≤ registered.foldr max 0 := by
  induction registered with
  | nil => cases member
  | cons other rest ih =>
    rcases mem_cons.mp member with rfl | later
    · exact Nat.le_max_left _ _
    · exact Nat.le_trans (ih later) (Nat.le_max_right _ _)

/-- A manager that counts on, and memory for all planes but those of one buffer. -/
def lacking (buffer : Nat) : Allocating where
  offset registered := registered.foldr max 0 + 1
  fresh _ member := Nat.not_succ_le_self _ (le_highest member)
  memory other _ := other ≠ buffer
  registers _ _ := true

def opened (kind : MediaKind) (count : Nat) : MediaDevice :=
  ((MediaDevice.machine kind 640 480).run {}
    [.new_session 7 true, .reqbufs 7 true count (lacking 32)]).getD {}

theorem allocation_consistent_one :
    (opened .EmulatedCamera 1).Consistent ∧
      ∀ call result, (opened .EmulatedCamera 1).Succeeds .EmulatedCamera call →
        (opened .EmulatedCamera 1).called .EmulatedCamera 640 480 call = some result →
          (opened .EmulatedCamera 1).Atomic result := by
  refine allocation_consistent (.take (.reqbufs 7 true 1 (lacking 32))
    (.take (.new_session 7 true) (.start rfl) trivial rfl) ?_ rfl)
  intro _ _ buffer bound plane _
  simp only [lacking, and_true, decide_eq_true_eq]
  omega

/-- `reqbufs` without memory for a second buffer leaves the first one registered. -/
def Leaks (kind : MediaKind) : Prop :=
  ∃ result, (opened kind 0).called kind 640 480 (.reqbufs 7 true 2 (lacking 1)) = some result ∧
    ¬(opened kind 0).Atomic result ∧
    result.1.registered = [3, 2, 1] ∧ result.1.sessions 7 = some {}

theorem allocation_leaks : Leaks .EmulatedCamera ∧ Leaks .V4l2Stream :=
  ⟨⟨_, rfl, fun atomic => absurd (atomic rfl).2 (by decide), rfl, rfl⟩,
    ⟨_, rfl, fun atomic => absurd (atomic rfl).2 (by decide), rfl, rfl⟩⟩

end Ika.VhuMedia
