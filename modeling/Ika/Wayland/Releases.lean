import Mathlib.Data.List.Nodup
import Ika.Wayland.Surfaces

/-! Every committed buffer is released once: what is held, what is queued and what a client was
told stay in step.
-/

set_option autoImplicit false

namespace Ika.Wayland

open Loans Transition List Function Option Bool

variable {state : State}

/-! ## The clients, and what they get -/

/-- The client attaches a buffer again only after its release. -/
def Disciplined (state : State) : Event → Prop
  | .attach surface buffer => ∀ named ∈ buffer, Settled named state.history.commits ∧
      ∀ other < state.surfaces.length, other ≠ surface → state.pendingBuffer other ≠ some named
  | _ => True

/-- A commit finds its buffer still there, and the id of a frame to be held is not in use. -/
def Accountable (state : State) : Event → Prop
  | .commit surface answer => ∀ buffer ∈ state.pendingBuffer surface,
      state.bufferAlive buffer = true ∧
      (answer = some .held → state.releaseSource = true → state.shows surface buffer = true →
        ∀ held ∈ ((state.supersede buffer).evictOldest surface).held,
          held.frameId ≠ state.nextFrameId)
  | _ => True

instance (state : State) (event : Event) : Decidable (Disciplined state event) := by
  unfold Disciplined
  split <;> infer_instance

instance (state : State) (event : Event) : Decidable (Accountable state event) := by
  unfold Accountable
  split <;> infer_instance

/-- The releases a client got for its commits, and the bounds on what is held. -/
structure ReleasesAccounted (state : State) : Prop where
  once : ∀ commit ∈ state.history.commits, commit.returns ≤ 1
  alive : state.history.strayReleases = []
  due : ∀ commit ∈ state.history.commits, state.bufferAlive commit.item = true →
    (commit.terms.frameId = none ∨
      (commit.terms.released = true ∧
        ∀ frameId ∈ commit.terms.frameId, frameId ∉ state.releasedFrames) ∨
      state.surfaceAlive commit.terms.surface = false) → commit.returns = 1
  bounded : ∀ surface, (state.heldOfSurface surface).length ≤ kMaxHeldDmabufBuffers
  distinct : (state.held.map (·.buffer)).Nodup

/-! ## The invariant -/

structure StandsFor (held : HeldDmabufBuffer) (commit : Loan Nat Commit) : Prop where
  buffer : commit.item = held.buffer
  surface : commit.terms.surface = held.surface
  frameId : commit.terms.frameId = some held.frameId

/-- `queue` are the ids released by the consumer and not dealt with. -/
structure Accounts (queue : List UInt32) (state : State) : Prop where
  sound : Sound state.history.commits
  stray : state.history.strayReleases = []
  keys : (state.held.map (·.frameId)).Nodup
  buffers : (state.held.map (·.buffer)).Nodup
  listeners : state.listeners.Perm state.held
  bounded : ∀ surface, (state.heldOfSurface surface).length ≤ kMaxHeldDmabufBuffers
  alive : ∀ held ∈ state.held,
    state.bufferAlive held.buffer = true ∧ state.surfaceAlive held.surface = true
  lent : ∀ held ∈ state.held,
    ∃ commit ∈ state.history.commits, StandsFor held commit ∧ commit.returns = 0
  unreturned : ∀ commit ∈ state.history.commits, commit.returns = 0 →
    state.bufferAlive commit.item = true →
    ∃ held ∈ state.held, StandsFor held commit ∧
      (commit.terms.released = true → held.frameId ∈ queue)
  pending : ∀ surface buffer, state.pendingBuffer surface = some buffer →
    state.bufferAlive buffer = true → Settled buffer state.history.commits ∧
      ∀ other, state.pendingBuffer other = some buffer → other = surface
  committed : ∀ commit ∈ state.history.commits, commit.item < state.buffers.length
  attached : ∀ surface buffer, state.pendingBuffer surface = some buffer →
    buffer < state.buffers.length

/-! ## What the operations leave alone -/

/-- Nothing a client or the consumer named has changed. -/
structure SameNames (state after : State) : Prop where
  surfaces : after.surfaces = state.surfaces
  buffers : after.buffers = state.buffers
  releasedFrames : after.releasedFrames = state.releasedFrames
  nextFrameId : after.nextFrameId = state.nextFrameId

variable {after : State} (surface other : Nat) (change : Surface → Surface)

theorem SameNames.bufferAlive (same : SameNames state after) (buffer : Nat) :
    after.bufferAlive buffer = state.bufferAlive buffer := by
  rw [State.bufferAlive, State.bufferAlive, same.buffers]

theorem SameNames.surfaceAlive (same : SameNames state after) (surface : Nat) :
    after.surfaceAlive surface = state.surfaceAlive surface := by
  rw [State.surfaceAlive, State.surfaceAlive, same.surfaces]

theorem SameNames.pendingBuffer (same : SameNames state after) (surface : Nat) :
    after.pendingBuffer surface = state.pendingBuffer surface := by
  rw [State.pendingBuffer, State.pendingBuffer, same.surfaces]

theorem SameNames.trans {middle : State} (first : SameNames state middle)
    (second : SameNames middle after) : SameNames state after :=
  ⟨second.surfaces.trans first.surfaces, second.buffers.trans first.buffers,
    second.releasedFrames.trans first.releasedFrames,
    second.nextFrameId.trans first.nextFrameId⟩

theorem sendRelease_alive {buffer : Nat} (alive : state.bufferAlive buffer = true) :
    state.sendRelease buffer = {state with history := {state.history with
      commits := giveBack buffer state.history.commits}} := by
  rw [State.sendRelease, if_pos alive]

theorem releaseHeldLocked_true {held : HeldDmabufBuffer}
    (alive : state.bufferAlive held.buffer = true) :
    state.releaseHeldLocked held true = {state with
      held := state.held.erase held
      listeners := state.listeners.erase held
      history := {state.history with
        commits := giveBack held.buffer state.history.commits}} := by
  simp only [State.releaseHeldLocked, if_true]
  exact sendRelease_alive alive

theorem surfaceAlive_modify :
    State.surfaceAlive {state with surfaces := state.surfaces.modify surface change} other =
      if surface = other then (state.surfaces[other]?.map change).any fun known => !known.destroyed
      else state.surfaceAlive other := by
  rw [State.surfaceAlive, getElem?_modify]
  split <;> simp [State.surfaceAlive]

theorem pendingBuffer_modify :
    State.pendingBuffer {state with surfaces := state.surfaces.modify surface change} other =
      if surface = other then (state.surfaces[other]?.map change).bind (·.pendingBuffer)
      else state.pendingBuffer other := by
  rw [State.pendingBuffer, getElem?_modify]
  split <;> simp [State.pendingBuffer]

theorem surfaceAlive_keeps {surface : Nat} {change : Surface → Surface}
    (keeps : ∀ known, (change known).destroyed = known.destroyed) (other : Nat) :
    State.surfaceAlive {state with surfaces := state.surfaces.modify surface change} other =
      state.surfaceAlive other := by
  rw [surfaceAlive_modify]
  split
  · simp [State.surfaceAlive, Option.any_map, keeps]
  · rfl

namespace Accounts

variable {queue : List UInt32}

theorem nodup (accounts : Accounts queue state) : state.held.Nodup := accounts.keys.of_map _

variable {first second : HeldDmabufBuffer} {rest : List UInt32} {held : HeldDmabufBuffer}
  {surfaces : List Surface} {surface : Nat} {after : State}

section

variable (accounts : Accounts queue state)
include accounts

theorem same_key (held : first ∈ state.held)
    (other : second ∈ state.held) (same : first.frameId = second.frameId) : first = second :=
  inj_on_of_nodup_map accounts.keys held other same

theorem same_buffer (held : first ∈ state.held)
    (other : second ∈ state.held) (same : first.buffer = second.buffer) : first = second :=
  inj_on_of_nodup_map accounts.buffers held other same

theorem dequeued {released : List UInt32}
    (unreturned : ∀ commit ∈ state.history.commits, commit.returns = 0 →
      state.bufferAlive commit.item = true → ∃ held ∈ state.held, StandsFor held commit ∧
        (commit.terms.released = true → held.frameId ∈ rest)) :
    Accounts rest {state with releasedFrames := released} :=
  ⟨accounts.sound, accounts.stray, accounts.keys, accounts.buffers, accounts.listeners,
    accounts.bounded, accounts.alive, accounts.lent, unreturned, accounts.pending,
    accounts.committed, accounts.attached⟩

theorem release (member : held ∈ state.held)
    (queued : ∀ id ∈ queue, id ≠ held.frameId → id ∈ rest) :
    Accounts rest (state.releaseHeldLocked held true) := by
  obtain ⟨buffer_alive, _⟩ := accounts.alive held member
  obtain ⟨commit, committed, stands, open_⟩ := accounts.lent held member
  have settled := accounts.sound.settled_giveBack committed stands.buffer open_
  have others : ∀ other ∈ state.held.erase held, other ∈ state.held ∧ other.buffer ≠ held.buffer := by
    intro other left
    obtain ⟨different, found⟩ := (accounts.nodup.mem_erase_iff).mp left
    exact ⟨found, fun same => different (accounts.same_buffer found member same)⟩
  rw [releaseHeldLocked_true buffer_alive]
  constructor
  · exact accounts.sound.giveBack committed stands.buffer open_
  · exact accounts.stray
  · exact accounts.keys.sublist ((erase_sublist).map _)
  · exact accounts.buffers.sublist ((erase_sublist).map _)
  · exact accounts.listeners.erase held
  · exact fun surface => Nat.le_trans ((erase_sublist.filter _).length_le)
      (accounts.bounded surface)
  · exact fun other left => accounts.alive other (others other left).1
  · intro other left
    obtain ⟨found, different⟩ := others other left
    obtain ⟨commit, committed, stands, open_⟩ := accounts.lent other found
    refine ⟨commit, (mem_giveBack_other ?_).mpr committed, stands, open_⟩
    exact fun same => different (stands.buffer.symm.trans same)
  · intro commit committed open_ alive
    have different : commit.item ≠ held.buffer := by
      intro same
      have returned := settled commit committed same
      omega
    obtain ⟨other, found, stands, asked⟩ :=
      accounts.unreturned commit ((mem_giveBack_other different).mp committed) open_ alive
    have apart : other ≠ held := fun same => different (same ▸ stands.buffer)
    refine ⟨other, (mem_erase_of_ne apart).mpr found, stands, fun released => ?_⟩
    exact queued _ (asked released) fun same => apart (accounts.same_key found member same)
  · intro surface buffer attached alive
    obtain ⟨returned, alone⟩ := accounts.pending surface buffer attached alive
    refine ⟨fun commit committed same => ?_, alone⟩
    by_cases given : buffer = held.buffer
    · exact settled commit committed (same.trans given)
    · exact returned commit ((mem_giveBack_other (same ▸ given)).mp committed) same
  · intro other found
    by_cases given : other.item = held.buffer
    · rw [given, ← stands.buffer]
      exact accounts.committed commit committed
    · exact accounts.committed other ((mem_giveBack_other given).mp found)
  · exact accounts.attached

theorem sameNames (member : held ∈ state.held) :
    SameNames state (state.releaseHeldLocked held true) := by
  rw [releaseHeldLocked_true (accounts.alive held member).1]
  exact ⟨rfl, rfl, rfl, rfl⟩

end

theorem releaseFrame (frameId : UInt32) (accounts : Accounts (frameId :: queue) state) :
    Accounts queue (state.releaseFrame frameId) ∧ SameNames state (state.releaseFrame frameId) := by
  unfold State.releaseFrame
  split
  · rename_i unknown
    refine ⟨?_, ⟨rfl, rfl, rfl, rfl⟩⟩
    refine accounts.dequeued fun commit committed open_ there => ?_
    obtain ⟨held, member, stands, asked⟩ := accounts.unreturned commit committed open_ there
    refine ⟨held, member, stands, fun released => ?_⟩
    have other : held.frameId ≠ frameId := by simpa using List.find?_eq_none.mp unknown held member
    exact (mem_cons.mp (asked released)).resolve_left other
  · rename_i held found
    have member := mem_of_find?_eq_some found
    have same : held.frameId = frameId := by simpa using find?_some found
    refine ⟨accounts.release member fun id queued different => ?_, accounts.sameNames member⟩
    exact (mem_cons.mp queued).resolve_left (same ▸ different)

theorem releaseFrames (ids : List UInt32) (accounts : Accounts (ids ++ queue) state) :
    Accounts queue (ids.foldl State.releaseFrame state) ∧
      SameNames state (ids.foldl State.releaseFrame state) := by
  induction ids generalizing state with
  | nil => exact ⟨accounts, rfl, rfl, rfl, rfl⟩
  | cons frameId rest ih =>
    obtain ⟨next, same⟩ := accounts.releaseFrame frameId
    obtain ⟨last, still⟩ := ih next
    exact ⟨last, same.trans still⟩

theorem releasePendingFrames (accounts : Accounts state.releasedFrames state) :
    Accounts state.releasePendingFrames.releasedFrames state.releasePendingFrames := by
  have cleared : Accounts (state.releasedFrames ++ []) {state with releasedFrames := []} := by
    rw [append_nil]
    exact accounts.dequeued accounts.unreturned
  obtain ⟨last, same⟩ := cleared.releaseFrames
  have empty : state.releasePendingFrames.releasedFrames = [] := same.releasedFrames
  rw [empty]
  exact last

theorem releaseAll {entries : List HeldDmabufBuffer} (distinct : entries.Nodup)
    (accounts : Accounts queue state) (members : ∀ held ∈ entries, held ∈ state.held) :
    let after := entries.foldl (fun state held => state.releaseHeldLocked held true) state
    Accounts queue after ∧ SameNames state after ∧
      ∀ held ∈ after.held, held ∈ state.held ∧ held ∉ entries := by
  induction entries generalizing state with
  | nil => exact ⟨accounts, ⟨rfl, rfl, rfl, rfl⟩, fun held found => ⟨found, nofun⟩⟩
  | cons first rest ih =>
    obtain ⟨new, distinct⟩ := nodup_cons.mp distinct
    have member := members first mem_cons_self
    have next := accounts.release member fun id queued _ => queued
    have left : (state.releaseHeldLocked first true).held = state.held.erase first := by
      rw [releaseHeldLocked_true (accounts.alive first member).1]
    have still : ∀ held ∈ rest, held ∈ (state.releaseHeldLocked first true).held := by
      intro held found
      rw [left, accounts.nodup.mem_erase_iff]
      exact ⟨fun same => new (same ▸ found), members held (mem_cons_of_mem _ found)⟩
    obtain ⟨last, same, remaining⟩ := ih distinct next still
    refine ⟨last, (accounts.sameNames member).trans same, fun held found => ?_⟩
    obtain ⟨kept, unlisted⟩ := remaining held found
    rw [left, accounts.nodup.mem_erase_iff] at kept
    exact ⟨kept.2, fun listed => (mem_cons.mp listed).elim kept.1 unlisted⟩

/-! ### What clients do -/

section

variable (accounts : Accounts queue state)
include accounts

theorem surfacesChanged (alive : ∀ held ∈ state.held,
      State.surfaceAlive {state with surfaces := surfaces} held.surface = true)
    (pending : ∀ surface buffer,
      State.pendingBuffer {state with surfaces := surfaces} surface = some buffer →
      state.bufferAlive buffer = true → Settled buffer state.history.commits ∧
        ∀ other, State.pendingBuffer {state with surfaces := surfaces} other = some buffer →
          other = surface) (attached : ∀ surface buffer,
      State.pendingBuffer {state with surfaces := surfaces} surface = some buffer →
      buffer < state.buffers.length) : Accounts queue {state with surfaces := surfaces} :=
  ⟨accounts.sound, accounts.stray, accounts.keys, accounts.buffers, accounts.listeners,
    accounts.bounded, fun held found => ⟨(accounts.alive held found).1, alive held found⟩,
    accounts.lent, accounts.unreturned, pending, accounts.committed, attached⟩

theorem detached {change : Surface → Surface}
    (alive : ∀ held ∈ state.held, State.surfaceAlive
      {state with surfaces := state.surfaces.modify surface change} held.surface = true)
    (detaches : ∀ known, (change known).pendingBuffer = none) :
    Accounts queue {state with surfaces := state.surfaces.modify surface change} := by
  have remaining : ∀ known buffer, State.pendingBuffer
      {state with surfaces := state.surfaces.modify surface change} known = some buffer →
      state.pendingBuffer known = some buffer := by
    intro known buffer attached
    rw [pendingBuffer_modify] at attached
    split at attached
    · simp [bind_map, detaches] at attached
    · exact attached
  apply accounts.surfacesChanged alive
  · intro other buffer attached there
    obtain ⟨returned, alone⟩ :=
      accounts.pending other buffer (remaining other buffer attached) there
    exact ⟨returned, fun known found => alone known (remaining known buffer found)⟩
  · exact fun other buffer attached => accounts.attached other buffer (remaining _ _ attached)

theorem sameSurfaces
    (alive : ∀ surface, state.surfaceAlive surface = true →
      State.surfaceAlive {state with surfaces := surfaces} surface = true)
    (same : ∀ surface, State.pendingBuffer {state with surfaces := surfaces} surface =
      state.pendingBuffer surface) : Accounts queue {state with surfaces := surfaces} := by
  apply accounts.surfacesChanged fun held found => alive _ (accounts.alive held found).2
  · intro surface buffer attached there
    obtain ⟨returned, alone⟩ :=
      accounts.pending surface buffer ((same surface).symm.trans attached) there
    exact ⟨returned, fun other found => alone other ((same other).symm.trans found)⟩
  · exact fun surface buffer attached =>
      accounts.attached surface buffer ((same surface).symm.trans attached)

theorem createSurface : Accounts queue state.createSurface := by
  have grown : ∀ surface : Nat, state.createSurface.surfaces[surface]? = state.surfaces[surface]? ∨
      state.surfaces[surface]? = none ∧ ∀ known ∈ state.createSurface.surfaces[surface]?,
        Surface.pendingBuffer known = none := by
    intro surface
    rw [State.createSurface, getElem?_append]
    split
    · exact .inl rfl
    · rename_i beyond
      refine .inr ⟨getElem?_eq_none (Nat.not_lt.mp beyond), ?_⟩
      cases surface - state.surfaces.length <;> simp
  have alive : ∀ surface, state.surfaceAlive surface = true →
      state.createSurface.surfaceAlive surface = true := by
    intro surface alive
    rcases grown surface with same | ⟨missing, _⟩
    · rwa [State.surfaceAlive, same]
    · simp [State.surfaceAlive, missing] at alive
  have same : ∀ surface, state.createSurface.pendingBuffer surface =
      state.pendingBuffer surface := by
    intro surface
    rcases grown surface with same | ⟨missing, new⟩
    · rw [State.pendingBuffer, same, State.pendingBuffer]
    · rw [State.pendingBuffer, State.pendingBuffer, missing]
      exact bind_eq_none_iff.mpr new
  exact accounts.sameSurfaces alive same

theorem setVirtioGpuScanoutId {scanoutId : UInt32}
    (moved : state.setVirtioGpuScanoutId surface scanoutId = some after) :
    Accounts queue after := by
  unfold State.setVirtioGpuScanoutId at moved
  split at moved
  swap
  · cases moved
  cases moved
  apply accounts.sameSurfaces
  · intro other alive
    refine (surfaceAlive_keeps ?_ other).trans alive
    exact fun _ => rfl
  · intro other
    rw [pendingBuffer_modify]
    split
    · simp [State.pendingBuffer, bind_map]
    · rfl

theorem attach {buffer : Option Nat} (disciplined : Disciplined state (.attach surface buffer))
    (moved : state.attach surface buffer = some after) : Accounts queue after := by
  unfold State.attach at moved
  split at moved
  swap
  · cases moved
  rename_i present
  cases moved
  have pending : ∀ other named, State.pendingBuffer {state with
      surfaces := state.surfaces.modify surface fun known =>
        {known with pendingBuffer := buffer}} other = some named →
      (other = surface ∧ buffer = some named) ∨
        (other ≠ surface ∧ state.pendingBuffer other = some named) := by
    intro other named attached
    rw [pendingBuffer_modify] at attached
    split at attached
    · rename_i same
      obtain ⟨known, _, found⟩ := bind_eq_some_iff.mp attached
      obtain ⟨_, _, rfl⟩ := map_eq_some_iff.mp ‹_›
      exact .inl ⟨same.symm, found⟩
    · rename_i different
      exact .inr ⟨fun same => different same.symm, attached⟩
  apply accounts.surfacesChanged
  · intro held found
    refine (surfaceAlive_keeps ?_ _).trans (accounts.alive held found).2
    exact fun _ => rfl
  · intro known named attached there
    -- the buffer attached is pending nowhere else
    have elsewhere : buffer = some named → ∀ other, other ≠ surface →
        state.pendingBuffer other ≠ some named := by
      intro same other different found
      obtain ⟨_, alone⟩ := disciplined named same
      have bound : other < state.surfaces.length := by
        obtain ⟨_, there, _⟩ := bind_eq_some_iff.mp found
        exact (List.getElem?_eq_some_iff.mp there).1
      exact alone other bound different found
    rcases pending known named attached with ⟨rfl, same⟩ | ⟨different, before⟩
    · refine ⟨(disciplined named same).1, fun other found => ?_⟩
      rcases pending other named found with ⟨here, _⟩ | ⟨different, before⟩
      · exact here
      · exact absurd before (elsewhere same other different)
    · obtain ⟨returned, alone⟩ := accounts.pending known named before there
      refine ⟨returned, fun other found => ?_⟩
      rcases pending other named found with ⟨rfl, same⟩ | ⟨_, also⟩
      · exact absurd before (elsewhere same known different)
      · exact alone other also
  · intro other named attached
    rcases pending other named attached with ⟨_, same⟩ | ⟨_, before⟩
    · have alive := present.2 named same
      obtain ⟨_, there, _⟩ := (Option.any_eq_true _ _).mp alive
      exact (List.getElem?_eq_some_iff.mp there).1
    · exact accounts.attached other named before

end

theorem releaseHeldDmabufBuffers (surface : Nat) (accounts : Accounts queue state) :
    let after := state.releaseHeldDmabufBuffers surface
    Accounts queue after ∧ SameNames state after ∧ ∀ held ∈ after.held, held.surface ≠ surface := by
  obtain ⟨released, same, left⟩ := accounts.releaseAll (accounts.nodup.filter _)
    fun held found => (mem_filter.mp found).1
  refine ⟨released, same, fun held found here => ?_⟩
  obtain ⟨kept, unlisted⟩ := left held found
  exact unlisted (mem_filter.mpr ⟨kept, by simpa using here⟩)

theorem destroySurface (accounts : Accounts state.releasedFrames state)
    (moved : state.destroySurface surface = some after) : Accounts after.releasedFrames after := by
  unfold State.destroySurface at moved
  split at moved
  swap
  · cases moved
  cases moved
  obtain ⟨released, same, elsewhere⟩ := accounts.releaseHeldDmabufBuffers surface
  rw [← same.releasedFrames] at released
  apply released.detached
  · intro held found
    refine (surfaceAlive_modify _ _ _).trans ?_
    rw [if_neg (elsewhere held found).symm]
    exact (released.alive held found).2
  · exact fun _ => rfl

theorem buffersChanged (accounts : Accounts queue state) {buffers : List Dmabuf}
    (longer : state.buffers.length ≤ buffers.length)
    (alive : ∀ held ∈ state.held,
      State.bufferAlive {state with buffers := buffers} held.buffer = true)
    (before : ∀ buffer < state.buffers.length,
      State.bufferAlive {state with buffers := buffers} buffer = true →
      state.bufferAlive buffer = true) :
    Accounts queue {state with buffers := buffers} where
  sound := accounts.sound
  stray := accounts.stray
  keys := accounts.keys
  buffers := accounts.buffers
  listeners := accounts.listeners
  bounded := accounts.bounded
  alive held found := ⟨alive held found, (accounts.alive held found).2⟩
  lent := accounts.lent
  unreturned commit committed open_ there :=
    accounts.unreturned commit committed open_
      (before commit.item (accounts.committed commit committed) there)
  pending surface buffer attached there :=
    accounts.pending surface buffer attached
      (before buffer (accounts.attached surface buffer attached) there)
  committed commit found := Nat.lt_of_lt_of_le (accounts.committed commit found) longer
  attached surface buffer found :=
    Nat.lt_of_lt_of_le (accounts.attached surface buffer found) longer

theorem createBuffer (fdOk : Bool) (accounts : Accounts queue state) :
    Accounts queue (state.createBuffer fdOk) := by
  have old : ∀ buffer < state.buffers.length,
      (state.createBuffer fdOk).bufferAlive buffer = state.bufferAlive buffer := by
    intro buffer bound
    rw [State.bufferAlive, State.createBuffer, getElem?_append_left bound, State.bufferAlive]
  apply accounts.buffersChanged
  · simp
  · intro held found
    obtain ⟨commit, committed, stands, _⟩ := accounts.lent held found
    have bound := accounts.committed commit committed
    rw [stands.buffer] at bound
    exact (old held.buffer bound).trans (accounts.alive held found).1
  · exact fun buffer bound there => (old buffer bound).symm.trans there

theorem bufferGone (accounts : Accounts queue state) {buffer : Nat}
    {held listeners : List HeldDmabufBuffer} (fewer : held.Sublist state.held)
    (watched : listeners.Perm held) (gone : ∀ entry ∈ held, entry.buffer ≠ buffer)
    (kept : ∀ entry ∈ state.held, entry.buffer ≠ buffer → entry ∈ held) :
    Accounts queue {state with
      buffers := state.buffers.modify buffer fun dmabuf => {dmabuf with destroyed := true}
      held := held, listeners := listeners} := by
  have alive : ∀ other, State.bufferAlive {state with
      buffers := state.buffers.modify buffer fun dmabuf => {dmabuf with destroyed := true}
      held := held, listeners := listeners} other = true ↔
      other ≠ buffer ∧ state.bufferAlive other = true := by
    intro other
    rw [State.bufferAlive, getElem?_modify, State.bufferAlive]
    split
    · rename_i same
      simp [same, Option.any_map]
    · rename_i different
      simp [Ne.symm different]
  have length : (state.buffers.modify buffer fun dmabuf =>
      {dmabuf with destroyed := true}).length = state.buffers.length := length_modify ..
  constructor
  · exact accounts.sound
  · exact accounts.stray
  · exact accounts.keys.sublist (fewer.map _)
  · exact accounts.buffers.sublist (fewer.map _)
  · exact watched
  · exact fun surface => Nat.le_trans (fewer.filter _).length_le (accounts.bounded surface)
  · intro entry found
    obtain ⟨there, surface⟩ := accounts.alive entry (fewer.subset found)
    exact ⟨(alive entry.buffer).mpr ⟨gone entry found, there⟩, surface⟩
  · exact fun entry found => accounts.lent entry (fewer.subset found)
  · intro commit committed open_ there
    obtain ⟨other, there⟩ := (alive commit.item).mp there
    obtain ⟨entry, found, stands, asked⟩ := accounts.unreturned commit committed open_ there
    exact ⟨entry, kept entry found fun same => other (stands.buffer.trans same), stands, asked⟩
  · intro surface other attached there
    exact accounts.pending surface other attached ((alive other).mp there).2
  · exact fun commit committed => length ▸ accounts.committed commit committed
  · exact fun surface other attached => length ▸ accounts.attached surface other attached

end Accounts

theorem filter_buffer {entries : List HeldDmabufBuffer} (distinct : (entries.map (·.buffer)).Nodup)
    (buffer : Nat) :
    (∀ entry ∈ entries, entry.buffer ≠ buffer) ∧
        entries.filter (fun entry => entry.buffer = buffer) = [] ∨
      ∃ held ∈ entries, held.buffer = buffer ∧
        entries.filter (fun entry => entry.buffer = buffer) = [held] := by
  have nodup := (distinct.of_map _).filter fun entry => decide (entry.buffer = buffer)
  have filtered : ∀ entry, entry ∈ entries.filter (fun entry => entry.buffer = buffer) ↔
      entry ∈ entries ∧ entry.buffer = buffer := by
    intro entry
    simp
  match found : entries.filter (fun entry => entry.buffer = buffer) with
  | [] =>
    refine .inl ⟨fun entry member same => ?_, found⟩
    have := (filtered entry).mpr ⟨member, same⟩
    simp [found] at this
  | [held] =>
    obtain ⟨member, same⟩ := (filtered held).mp (by simp [found])
    exact .inr ⟨held, member, same, found⟩
  | first :: second :: rest =>
    obtain ⟨one, same⟩ := (filtered first).mp (by simp [found])
    obtain ⟨other, also⟩ := (filtered second).mp (by simp [found])
    have equal := inj_on_of_nodup_map distinct one other (same.trans also.symm)
    rw [found, equal] at nodup
    simp at nodup

theorem insertHeld_perm {new : HeldDmabufBuffer} {held : List HeldDmabufBuffer}
    (fresh : ∀ entry ∈ held, entry.frameId ≠ new.frameId) :
    (State.insertHeld new held).Perm (new :: held) := by
  induction held with
  | nil => exact Perm.refl _
  | cons head rest ih =>
    unfold State.insertHeld
    split
    · exact Perm.refl _
    split
    · rename_i same
      exact absurd same.symm (fresh head mem_cons_self)
    · have tail := ih fun entry found => fresh entry (mem_cons_of_mem _ found)
      exact (tail.cons head).trans (List.Perm.swap _ _ _)

namespace Accounts

variable {queue : List UInt32}

variable {buffer : Nat}

theorem destroyBuffer {after : State} (accounts : Accounts state.releasedFrames state)
    (moved : state.destroyBuffer buffer = some after) : Accounts after.releasedFrames after := by
  unfold State.destroyBuffer at moved
  split at moved
  swap
  · cases moved
  cases moved
  have watched : (state.listeners.map (·.buffer)).Nodup :=
    (accounts.listeners.map (·.buffer)).nodup_iff.mpr accounts.buffers
  rcases filter_buffer watched buffer with ⟨unheld, none⟩ | ⟨held, listening, same, one⟩
  · simp only [none, foldl_nil]
    apply accounts.bufferGone (Sublist.refl _) accounts.listeners
    · exact fun entry found => unheld entry (accounts.listeners.mem_iff.mpr found)
    · exact fun entry found _ => found
  · have member := accounts.listeners.mem_iff.mp listening
    -- the listener finds its own entry under its id
    have found : state.held.find? (fun entry => entry.frameId = held.frameId) = some held := by
      cases search : state.held.find? fun entry => entry.frameId = held.frameId with
      | none => exact absurd (List.find?_eq_none.mp search held member) (by simp)
      | some entry =>
        have key : entry.frameId = held.frameId := by simpa using find?_some search
        rw [accounts.same_key (mem_of_find?_eq_some search) member key]
    simp only [one, foldl_cons, foldl_nil, State.onHeldBufferDestroyed, found,
      State.releaseHeldLocked, false_eq_true, if_false]
    apply accounts.bufferGone erase_sublist (accounts.listeners.erase held)
    · intro entry left here
      obtain ⟨different, member'⟩ := (accounts.nodup.mem_erase_iff).mp left
      exact different (accounts.same_buffer member' member (here.trans same.symm))
    · intro entry member' different
      refine (accounts.nodup.mem_erase_iff).mpr ⟨?_, member'⟩
      exact fun equal => different (equal ▸ same)

theorem releaseDmabufFrame (frameId : UInt32) (accounts : Accounts state.releasedFrames state) :
    Accounts (state.releaseDmabufFrame frameId).releasedFrames
      (state.releaseDmabufFrame frameId) := by
  unfold State.releaseDmabufFrame
  split
  swap
  · exact accounts
  set ask : Loan Nat Commit → Loan Nat Commit := fun commit =>
    if commit.terms.frameId = some frameId then
      {commit with terms := {commit.terms with released := true}}
    else commit with asked
  have item : ∀ commit, (ask commit).item = commit.item := by
    intro commit
    simp only [asked]
    split <;> rfl
  have returns : ∀ commit, (ask commit).returns = commit.returns := by
    intro commit
    simp only [asked]
    split <;> rfl
  have stands : ∀ held commit, StandsFor held commit → StandsFor held (ask commit) := by
    intro held commit stands
    simp only [asked]
    split
    · exact ⟨stands.buffer, stands.surface, stands.frameId⟩
    · exact stands
  have settled : ∀ buffer, Settled buffer state.history.commits →
      Settled buffer (state.history.commits.map ask) := by
    intro buffer settled commit committed same
    obtain ⟨old, found, rfl⟩ := List.mem_map.mp committed
    rw [returns]
    exact settled old found ((item old).symm.trans same)
  constructor
  · exact accounts.sound.map item returns
  · exact accounts.stray
  · exact accounts.keys
  · exact accounts.buffers
  · exact accounts.listeners
  · exact accounts.bounded
  · exact accounts.alive
  · intro held found
    obtain ⟨commit, committed, known, open_⟩ := accounts.lent held found
    exact ⟨ask commit, List.mem_map_of_mem committed, stands held commit known,
      (returns commit).trans open_⟩
  · intro commit committed open_ there
    obtain ⟨old, found, rfl⟩ := List.mem_map.mp committed
    rw [returns] at open_
    rw [item] at there
    obtain ⟨held, member, known, queued⟩ := accounts.unreturned old found open_ there
    refine ⟨held, member, stands held old known, fun released => ?_⟩
    simp only [asked] at released
    split at released
    · rename_i named
      rw [known.frameId, Option.some.injEq] at named
      exact mem_append_right _ (mem_singleton.mpr named)
    · exact mem_append_left _ (queued released)
  · intro surface buffer attached there
    obtain ⟨returned, alone⟩ := accounts.pending surface buffer attached there
    exact ⟨settled buffer returned, alone⟩
  · intro commit committed
    obtain ⟨old, found, rfl⟩ := List.mem_map.mp committed
    rw [item]
    exact accounts.committed old found
  · exact accounts.attached

/-! ### Commits -/

theorem supersede_eq (accounts : Accounts queue state)
    (settled : Settled buffer state.history.commits) : state.supersede buffer = state := by
  have none : state.held.filter (fun held => held.buffer = buffer) = [] := by
    rw [filter_eq_nil_iff]
    intro held found same
    obtain ⟨commit, committed, stands, open_⟩ := accounts.lent held found
    have := settled commit committed (stands.buffer.trans (by simpa using same))
    omega
  rw [State.supersede, none, foldl_nil]

theorem settled_release (accounts : Accounts queue state) {held : HeldDmabufBuffer}
    (member : held ∈ state.held) (settled : Settled buffer state.history.commits) :
    Settled buffer (state.releaseHeldLocked held true).history.commits := by
  obtain ⟨commit, committed, stands, open_⟩ := accounts.lent held member
  rw [releaseHeldLocked_true (accounts.alive held member).1]
  by_cases given : buffer = held.buffer
  · rw [given]
    exact accounts.sound.settled_giveBack committed stands.buffer open_
  · intro other found same
    exact settled other ((mem_giveBack_other (same ▸ given)).mp found) same

theorem evictOldest (surface : Nat) (accounts : Accounts queue state) :
    let after := state.evictOldest surface
    Accounts queue after ∧ SameNames state after ∧
      (∀ buffer, Settled buffer state.history.commits → Settled buffer after.history.commits) ∧
      (after.heldOfSurface surface).length < kMaxHeldDmabufBuffers := by
  unfold State.evictOldest
  split
  · rename_i none
    refine ⟨accounts, ⟨rfl, rfl, rfl, rfl⟩, fun _ settled => settled, ?_⟩
    rw [none]
    decide
  · rename_i oldest others some_held
    have bounded := accounts.bounded surface
    rw [some_held] at bounded
    split
    swap
    · rename_i few
      refine ⟨accounts, ⟨rfl, rfl, rfl, rfl⟩, fun _ settled => settled, ?_⟩
      rw [some_held]
      exact Nat.lt_of_not_le few
    have listed : oldest ∈ state.heldOfSurface surface := by simp [some_held]
    have member := (mem_filter.mp listed).1
    refine ⟨accounts.release member fun id queued _ => queued, accounts.sameNames member,
      fun _ settled => accounts.settled_release member settled, ?_⟩
    rw [releaseHeldLocked_true (accounts.alive oldest member).1]
    have left : (state.held.erase oldest).filter (fun held => held.surface = surface) = others := by
      rw [← erase_filter]
      change (state.heldOfSurface surface).erase oldest = others
      rw [some_held, erase_cons_head]
    rw [State.heldOfSurface, left]
    rwa [length_cons] at bounded

section

variable (accounts : Accounts queue state)
include accounts

theorem numbered (frameId : UInt32) : Accounts queue {state with nextFrameId := frameId} :=
  ⟨accounts.sound, accounts.stray, accounts.keys, accounts.buffers, accounts.listeners,
    accounts.bounded, accounts.alive, accounts.lent, accounts.unreturned, accounts.pending,
    accounts.committed, accounts.attached⟩

theorem committing {commits : List (Loan Nat Commit)}
    {held listeners : List HeldDmabufBuffer} (there : state.bufferAlive buffer = true)
    (detached : ∀ surface, state.pendingBuffer surface ≠ some buffer) (sound : Sound commits)
    (mem_commits : ∀ commit, commit.item ≠ buffer →
      (commit ∈ commits ↔ commit ∈ state.history.commits))
    (mem_held : ∀ entry, entry.buffer ≠ buffer → (entry ∈ held ↔ entry ∈ state.held))
    (keys : (held.map (·.frameId)).Nodup) (buffers : (held.map (·.buffer)).Nodup)
    (watched : listeners.Perm held) (bounded : ∀ surface,
      (held.filter fun entry => entry.surface = surface).length ≤ kMaxHeldDmabufBuffers)
    (lent : ∀ entry ∈ held, entry.buffer = buffer → state.surfaceAlive entry.surface = true ∧
      ∃ commit ∈ commits, StandsFor entry commit ∧ commit.returns = 0)
    (unreturned : ∀ commit ∈ commits, commit.item = buffer → commit.returns = 0 →
      ∃ entry ∈ held, StandsFor entry commit ∧
        (commit.terms.released = true → entry.frameId ∈ queue)) :
    Accounts queue {state with
      held := held, listeners := listeners
      history := {state.history with commits := commits}} := by
  constructor
  · exact sound
  · exact accounts.stray
  · exact keys
  · exact buffers
  · exact watched
  · exact bounded
  · intro entry found
    by_cases same : entry.buffer = buffer
    · exact ⟨same ▸ there, (lent entry found same).1⟩
    · exact accounts.alive entry ((mem_held entry same).mp found)
  · intro entry found
    by_cases same : entry.buffer = buffer
    · exact (lent entry found same).2
    · obtain ⟨commit, committed, stands, open_⟩ :=
        accounts.lent entry ((mem_held entry same).mp found)
      refine ⟨commit, (mem_commits commit ?_).mpr committed, stands, open_⟩
      exact fun equal => same (stands.buffer.symm.trans equal)
  · intro commit committed open_ alive
    by_cases same : commit.item = buffer
    · exact unreturned commit committed same open_
    · obtain ⟨entry, found, stands, asked⟩ :=
        accounts.unreturned commit ((mem_commits commit same).mp committed) open_ alive
      refine ⟨entry, (mem_held entry ?_).mpr found, stands, asked⟩
      exact fun equal => same (stands.buffer.trans equal)
  · intro surface other attached alive
    obtain ⟨returned, alone⟩ := accounts.pending surface other attached alive
    have different : other ≠ buffer := fun same => detached surface (same ▸ attached)
    refine ⟨fun commit committed same => ?_, alone⟩
    exact returned commit ((mem_commits commit (same ▸ different)).mp committed) same
  · intro commit committed
    by_cases same : commit.item = buffer
    · rw [same]
      obtain ⟨_, found, _⟩ := (Option.any_eq_true _ _).mp there
      exact (List.getElem?_eq_some_iff.mp found).1
    · exact accounts.committed commit ((mem_commits commit same).mp committed)
  · exact accounts.attached

/-- Nothing is held of a buffer whose commits are settled. -/
theorem unheld (settled : Settled buffer state.history.commits) :
    ∀ entry ∈ state.held, entry.buffer ≠ buffer := by
  intro entry found same
  obtain ⟨commit, committed, stands, open_⟩ := accounts.lent entry found
  have := settled commit committed (stands.buffer.trans same)
  omega

theorem returned (terms : Commit)
    (there : state.bufferAlive buffer = true) (settled : Settled buffer state.history.commits)
    (detached : ∀ surface, state.pendingBuffer surface ≠ some buffer) :
    Accounts queue (State.sendRelease {state with history := {state.history with
      commits := {item := buffer, terms} :: state.history.commits}} buffer) := by
  have sound := accounts.sound.lend settled terms
  have sent := sound.giveBack mem_cons_self rfl rfl
  have alive : State.bufferAlive {state with history := {state.history with
      commits := {item := buffer, terms} :: state.history.commits}} buffer = true := there
  rw [sendRelease_alive alive]
  simp only [giveBack_lend] at sent ⊢
  have unheld := accounts.unheld settled
  apply accounts.committing there detached sent
  · intro commit different
    refine ⟨fun found => (mem_cons.mp found).resolve_left fun equal => ?_,
      mem_cons_of_mem _⟩
    exact different (congrArg (·.item) equal)
  · exact fun _ _ => Iff.rfl
  · exact accounts.keys
  · exact accounts.buffers
  · exact accounts.listeners
  · exact accounts.bounded
  · exact fun entry found same => absurd same (unheld entry found)
  · intro commit found same open_
    rcases mem_cons.mp found with rfl | old
    · cases open_
    · have := settled commit old same
      omega

theorem holding {surface : Nat} {frameId : UInt32}
    {released : Bool} (there : state.bufferAlive buffer = true)
    (alive : state.surfaceAlive surface = true) (settled : Settled buffer state.history.commits)
    (detached : ∀ surface, state.pendingBuffer surface ≠ some buffer)
    (new : ∀ entry ∈ state.held, entry.frameId ≠ frameId)
    (room : (state.heldOfSurface surface).length < kMaxHeldDmabufBuffers)
    (queued : released = true → frameId ∈ queue) :
    Accounts queue {state with
      listeners := state.listeners ++ [⟨surface, frameId, buffer⟩]
      held := State.insertHeld ⟨surface, frameId, buffer⟩ state.held
      history := {state.history with
        commits := {item := buffer, terms := ⟨surface, some frameId, released⟩} ::
          state.history.commits}} := by
  have inserted : (State.insertHeld ⟨surface, frameId, buffer⟩ state.held).Perm
      (⟨surface, frameId, buffer⟩ :: state.held) :=
    insertHeld_perm new
  have unheld := accounts.unheld settled
  apply accounts.committing there detached (accounts.sound.lend settled _)
  · intro commit different
    refine ⟨fun found => (mem_cons.mp found).resolve_left fun equal => ?_,
      mem_cons_of_mem _⟩
    exact different (congrArg (·.item) equal)
  · intro entry different
    rw [inserted.mem_iff, mem_cons]
    refine ⟨fun found => found.resolve_left fun equal => ?_, .inr⟩
    exact different (congrArg (·.buffer) equal)
  · rw [(inserted.map (·.frameId)).nodup_iff, map_cons, nodup_cons]
    refine ⟨fun listed => ?_, accounts.keys⟩
    obtain ⟨entry, found, same⟩ := List.mem_map.mp listed
    exact new entry found same
  · rw [(inserted.map (·.buffer)).nodup_iff, map_cons, nodup_cons]
    refine ⟨fun listed => ?_, accounts.buffers⟩
    obtain ⟨entry, found, same⟩ := List.mem_map.mp listed
    exact unheld entry found same
  · exact ((perm_append_singleton _ _).trans (accounts.listeners.cons _)).trans inserted.symm
  · intro other
    rw [(inserted.filter _).length_eq, filter_cons]
    split
    · rename_i same
      have same : surface = other := by simpa using same
      rw [← same, length_cons]
      exact room
    · exact accounts.bounded other
  · intro entry found same
    rcases mem_cons.mp (inserted.mem_iff.mp found) with rfl | old
    · exact ⟨alive, _, mem_cons_self, ⟨rfl, rfl, rfl⟩, rfl⟩
    · exact absurd same (unheld entry old)
  · intro commit found same open_
    rcases mem_cons.mp found with rfl | old
    · exact ⟨_, inserted.mem_iff.mpr mem_cons_self, ⟨rfl, rfl, rfl⟩, queued⟩
    · have := settled commit old same
      omega

end

end Accounts

/-! ## Every step keeps the accounts -/

theorem showFrame_spec (state : State) (surface buffer : Nat) (answer : Option DmabufFrameResult) :
    (∃ result frameId, result ≠ .held ∧ state.showFrame surface buffer answer =
      (result, {state with nextFrameId := frameId})) ∨
    (answer = some .held ∧ state.releaseSource = true ∧ state.shows surface buffer = true ∧
      state.showFrame surface buffer answer = (.held, State.holdDmabufBuffer
        {state with nextFrameId := State.frameIdAfter state.nextFrameId} surface
        state.nextFrameId buffer)) := by
  unfold State.showFrame
  split
  swap
  · exact .inl ⟨.notDelivered, state.nextFrameId, nofun, rfl⟩
  rename_i shown
  unfold State.handleSurfaceDmabufFrame
  dsimp only
  split
  swap
  · rename_i unheld
    exact .inl ⟨_, _, unheld, rfl⟩
  rename_i held
  have answered : answer = some .held := by
    cases answer with
    | none => cases held
    | some result => rw [show result = .held from held]
  split
  · rename_i source
    subst answered
    exact .inr ⟨rfl, source, shown, rfl⟩
  · exact .inl ⟨.delivered, _, nofun, rfl⟩

@[simp] theorem sendRelease_releasedFrames (state : State) (buffer : Nat) :
    (state.sendRelease buffer).releasedFrames = state.releasedFrames := by
  unfold State.sendRelease
  split <;> rfl

@[simp] theorem sendRelease_held (state : State) (buffer : Nat) :
    (state.sendRelease buffer).held = state.held := by
  unfold State.sendRelease
  split <;> rfl

theorem evictOldest_held (state : State) (surfaces : List Surface) (frameId : UInt32)
    (surface : Nat) :
    (State.evictOldest {state with surfaces := surfaces, nextFrameId := frameId} surface).held =
      (state.evictOldest surface).held := by
  simp only [State.evictOldest, State.heldOfSurface]
  split
  · rfl
  split
  · simp only [State.releaseHeldLocked, if_true, sendRelease_held]
  · rfl

namespace Accounts

theorem shown {surface buffer : Nat} (accounts : Accounts state.releasedFrames state)
    (answer : Option DmabufFrameResult) (there : state.bufferAlive buffer = true)
    (alive : state.surfaceAlive surface = true) (settled : Settled buffer state.history.commits)
    (detached : ∀ surface, state.pendingBuffer surface ≠ some buffer)
    (fresh : answer = some .held → state.releaseSource = true →
      state.shows surface buffer = true →
      ∀ held ∈ (state.evictOldest surface).held, held.frameId ≠ state.nextFrameId) :
    let after := (state.showFrame surface buffer answer).2.releaseUnlessHeld surface buffer
      state.nextFrameId (state.showFrame surface buffer answer).1
    Accounts after.releasedFrames after := by
  rcases showFrame_spec state surface buffer answer with
    ⟨result, frameId, unheld, shown⟩ | ⟨held, source, shows, shown⟩
  · rw [shown]
    simp only [State.releaseUnlessHeld, unheld, decide_false, false_eq_true, if_false,
      Bool.false_and, sendRelease_releasedFrames]
    exact (accounts.numbered frameId).returned _ there settled detached
  · have numbered := accounts.numbered (State.frameIdAfter state.nextFrameId)
    obtain ⟨evicted, same, kept, room⟩ := numbered.evictOldest surface
    have new := fresh held source shows
    rw [← evictOldest_held state state.surfaces (State.frameIdAfter state.nextFrameId)] at new
    have superseded : State.supersede
        {state with nextFrameId := State.frameIdAfter state.nextFrameId} buffer =
        {state with nextFrameId := State.frameIdAfter state.nextFrameId} :=
      numbered.supersede_eq settled
    rw [shown]
    simp only [State.releaseUnlessHeld, State.holdDmabufBuffer, superseded, decide_true, if_true,
      Bool.true_and]
    generalize State.evictOldest {state with
      nextFrameId := State.frameIdAfter state.nextFrameId} surface = next at *
    have queue : next.releasedFrames = state.releasedFrames := same.releasedFrames
    rw [← queue] at evicted
    apply evicted.holding ((same.bufferAlive buffer).trans there)
      ((same.surfaceAlive surface).trans alive) (kept buffer settled) ?_ new room
    · exact fun queued => of_decide_eq_true queued
    · intro other attached
      rw [same.pendingBuffer] at attached
      exact detached other attached

theorem commit {surface : Nat} {answer : Option DmabufFrameResult} {after : State}
    (accounts : Accounts state.releasedFrames state)
    (accountable : Accountable state (.commit surface answer))
    (moved : state.commit surface answer = some after) :
    Accounts after.releasedFrames after := by
  unfold State.commit at moved
  split at moved
  · cases moved
  rename_i present
  rw [not_eq_true, not_eq_false'] at present
  split at moved
  · cases moved
    exact accounts
  rename_i buffer pending
  obtain ⟨there, fresh⟩ := accountable buffer pending
  obtain ⟨settled, alone⟩ := accounts.pending surface buffer pending there
  rw [accounts.supersede_eq settled] at fresh
  rw [Option.some.injEq] at moved
  subst moved
  have alive : ∀ other, (state.clearPending surface).surfaceAlive other =
      state.surfaceAlive other :=
    surfaceAlive_keeps fun _ => rfl
  have still : (state.clearPending surface).bufferAlive buffer = true := there
  have cleared : Accounts (state.clearPending surface).releasedFrames
      (state.clearPending surface) :=
    accounts.detached (fun held found => (alive held.surface).trans (accounts.alive held found).2)
      fun _ => rfl
  apply cleared.shown answer still ((alive surface).trans present) settled
  · intro other attached
    rw [State.clearPending, pendingBuffer_modify] at attached
    split at attached
    · simp [bind_map] at attached
    · rename_i different
      exact different (alone other attached).symm
  · intro held source shows
    have scanout : state.shows surface buffer = true := by
      simpa [State.clearPending, State.shows, Option.any_map] using shows
    have evicted : ((state.clearPending surface).evictOldest surface).held =
        (state.evictOldest surface).held :=
      evictOldest_held state _ state.nextFrameId surface
    rw [evicted]
    exact fresh held source scanout

end Accounts

theorem attach_releasedFrames {surface : Nat} {buffer : Option Nat}
    (moved : state.attach surface buffer = some after) :
    after.releasedFrames = state.releasedFrames := by
  unfold State.attach at moved
  split at moved <;> cases moved
  rfl

theorem setVirtioGpuScanoutId_releasedFrames {surface : Nat} {scanoutId : UInt32}
    (moved : state.setVirtioGpuScanoutId surface scanoutId = some after) :
    after.releasedFrames = state.releasedFrames := by
  unfold State.setVirtioGpuScanoutId at moved
  split at moved <;> cases moved
  rfl

theorem Accounts.of_reaches
    (reached : surfacesMachine.Reaches
      (fun state event => Disciplined state event ∧ Accountable state event) state) :
    Accounts state.releasedFrames state := by
  apply reached.invariant
  · rintro state first
    rw [show state = _ from first]
    exact ⟨.nil, rfl, .nil, .nil, .refl _, fun _ => Nat.zero_le _, nofun, nofun, nofun, nofun,
      nofun, nofun⟩
  · intro state event after accounts ⟨disciplined, accountable⟩ moved
    cases event with
    | createSurface =>
      cases moved
      exact accounts.createSurface
    | createBuffer fdOk =>
      cases moved
      exact accounts.createBuffer fdOk
    | attach surface buffer =>
      have queue := attach_releasedFrames moved
      exact queue ▸ accounts.attach disciplined moved
    | setVirtioGpuScanoutId surface scanoutId =>
      have queue := setVirtioGpuScanoutId_releasedFrames moved
      exact queue ▸ accounts.setVirtioGpuScanoutId moved
    | commit surface answer => exact accounts.commit accountable moved
    | releaseDmabufFrame frameId =>
      cases moved
      exact accounts.releaseDmabufFrame frameId
    | releasePendingFrames =>
      cases moved
      exact accounts.releasePendingFrames
    | destroyBuffer buffer => exact accounts.destroyBuffer moved
    | destroySurface surface => exact accounts.destroySurface moved

/-- A client that attaches released buffers gets one release for each commit, while pending buffers
are not destroyed and ids are not used twice. -/
theorem releases_accounted
    (reached : surfacesMachine.Reaches
      (fun state event => Disciplined state event ∧ Accountable state event) state) :
    ReleasesAccounted state := by
  have accounts := Accounts.of_reaches reached
  refine ⟨accounts.sound.once, accounts.stray, fun commit committed there due => ?_,
    accounts.bounded, accounts.buffers⟩
  have once := accounts.sound.once commit committed
  by_contra unreturned
  have open_ : commit.returns = 0 := by omega
  obtain ⟨held, member, stands, queued⟩ := accounts.unreturned commit committed open_ there
  rcases due with unheld | ⟨released, handled⟩ | gone
  · rw [stands.frameId] at unheld
    cases unheld
  · exact handled held.frameId stands.frameId (queued released)
  · rw [stands.surface, (accounts.alive held member).2] at gone
    cases gone

def heldEvents : List Event :=
  [.createSurface, .setVirtioGpuScanoutId 0 0, .createBuffer true, .createBuffer true,
    .createBuffer true, .createBuffer true, .attach 0 (some 0), .commit 0 (some .held),
    .attach 0 (some 1), .commit 0 (some .held), .attach 0 (some 2), .commit 0 (some .held),
    .releaseDmabufFrame 2, .releasePendingFrames, .attach 0 (some 1), .commit 0 (some .held),
    .attach 0 (some 3), .commit 0 (some .held), .destroyBuffer 2, .destroySurface 0]

def accountedState : State :=
  (surfacesMachine.runAllowed (fun state event => Disciplined state event ∧ Accountable state event)
    {releaseSource := true} heldEvents).getD {releaseSource := true}

theorem releases_accounted_held :
    accountedState.history.commits.map (fun commit => (commit.item, commit.returns)) =
      [(3, 1), (1, 1), (2, 0), (1, 1), (0, 1)] ∧ ReleasesAccounted accountedState := by
  refine ⟨by decide +kernel, releases_accounted (.getD_runAllowed heldEvents ?_ ?_)⟩
  · exact .start rfl
  · decide +kernel

def destroyedPendingEvents : List Event :=
  [.createSurface, .setVirtioGpuScanoutId 0 0, .createBuffer true, .attach 0 (some 0),
    .destroyBuffer 0, .commit 0 (some .delivered)]

def strayState : State :=
  (surfacesMachine.runAllowed Disciplined {releaseSource := true}
    destroyedPendingEvents).getD {releaseSource := true}

theorem stray_release : surfacesMachine.Reaches Disciplined strayState ∧
    strayState.history.strayReleases = [0] ∧ ¬ ReleasesAccounted strayState := by
  have stray : strayState.history.strayReleases = [0] := by decide +kernel
  refine ⟨.getD_runAllowed destroyedPendingEvents (.start rfl) (by decide +kernel), stray,
    fun accounted => ?_⟩
  have none := accounted.alive
  rw [stray] at none
  cases none

end Ika.Wayland
