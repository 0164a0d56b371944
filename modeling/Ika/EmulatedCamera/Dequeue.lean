import Ika.EmulatedCamera.Requests

/-! What is true of an event when it is sent, while stopping and starting do not race the
threads.
-/

set_option autoImplicit false

namespace Ika.EmulatedCamera

open List

structure DequeueBufferEvent.Proper (event : DequeueBufferEvent) : Prop where
  incoming : event.buffer.state = .Incoming
  queued : event.buffer.queued = some event.ticket
  shown : ∀ plane, event.shown plane = some event.ticket

/-- Every event answers a `qbuf` in force, and captures were only written for such. -/
structure Session.Sound (session : Session) : Prop where
  proper : ∀ event ∈ session.events, event.Proper
  once : (session.events.map DequeueBufferEvent.ticket).Nodup
  current : ∀ event ∈ session.events, event.returned ≤ event.ticket
  writes : ∀ write ∈ session.writes, write.returned ≤ write.ticket ∧ write.sent = false

/-! ## The steps that race -/

def Capturing.isWriting : Capturing → Bool
  | .writing _ _ _ => true
  | _ => false

def Completing.isLocking : Completing → Bool
  | .locking _ => true
  | _ => false

def Completing.isReceiving : Completing → Bool
  | .receiving => true
  | _ => false

def Session.Settled (session : Session) : Prop :=
  session.processor.capturing = .waiting ∧ session.completions = [] ∧
    session.completing.isReceiving = true
  deriving Decidable

/-- The next step of an ioctl finds nothing of the capture thread's under way. -/
def Session.Unraced (session : Session) : Prop :=
  match session.progress with
  | .resetting => session.completing.isLocking = false
  | .returning => session.processor.capturing.isWriting = false
  | .requesting count _ => count ≠ 0 → session.left = []
  | .enabling => session.streaming = false → session.Settled
  | _ => True

instance (session : Session) : Decidable session.Unraced := by
  unfold Session.Unraced
  split <;> infer_instance

def Allowed (session : Session) : Event → Prop
  | .proceed => session.Unraced
  | .write ok => ok = true
  | _ => True

/-! ## Requests and what they were made for -/

/-- The request is for a buffer that has been `Incoming` since its `qbuf`. -/
def Current (buffers : List Buffer) (request : CaptureRequest) : Prop :=
  ∃ buffer, buffers[request.buffer_id]? = some buffer ∧ buffer.state = .Incoming ∧
    buffer.queued = some request.ticket ∧ buffer.planes = request.planes

/-- As `Current`, and the capture is in the planes. -/
def Done (buffers : List Buffer) (memory : Memory) (event : CaptureCompletedEvent) : Prop :=
  ∃ buffer, buffers[event.buffer_id]? = some buffer ∧ buffer.state = .Incoming ∧
    buffer.queued = some event.ticket ∧ ∀ plane, memory buffer.planes plane = some event.ticket

section Requests

variable {buffers : List Buffer} {memory : Memory} {request : CaptureRequest}
  {event : CaptureCompletedEvent} {index : Nat} {old new : Buffer}

theorem getElem?_set_other {ticket place : Nat} {buffer : Buffer}
    (found : buffers[index]? = some old)
    (apart : ¬(old.state = .Incoming ∧ old.queued = some ticket))
    (there : buffers[place]? = some buffer) (incoming : buffer.state = .Incoming)
    (queued : buffer.queued = some ticket) : (buffers.set index new)[place]? = some buffer := by
  have differ : index ≠ place := by
    rintro rfl
    cases Option.some.inj (found.symm.trans there)
    exact apart ⟨incoming, queued⟩
  rw [getElem?_set_ne differ, there]

theorem Current.set (current : Current buffers request) (found : buffers[index]? = some old)
    (apart : ¬(old.state = .Incoming ∧ old.queued = some request.ticket)) :
    Current (buffers.set index new) request := by
  obtain ⟨buffer, there, incoming, queued, planes⟩ := current
  exact ⟨buffer, getElem?_set_other found apart there incoming queued, incoming, queued, planes⟩

theorem Done.set (done : Done buffers memory event) (found : buffers[index]? = some old)
    (apart : ¬(old.state = .Incoming ∧ old.queued = some event.ticket)) :
    Done (buffers.set index new) memory event := by
  obtain ⟨buffer, there, incoming, queued, shown⟩ := done
  exact ⟨buffer, getElem?_set_other found apart there incoming queued, incoming, queued, shown⟩

theorem Done.write {allocation : Nat} {plane : Plane} (done : Done buffers memory event)
    (stored : Stored allocation buffers) (current : Current buffers request)
    (differ : event.ticket ≠ request.ticket) :
    Done buffers (memory.write request.planes plane request.ticket) event := by
  obtain ⟨buffer, there, incoming, queued, shown⟩ := done
  obtain ⟨other, at_other, -, queued_other, planes⟩ := current
  refine ⟨buffer, there, incoming, queued, fun which => ?_⟩
  have apart : buffer.planes ≠ request.planes := by
    rw [← planes, stored _ _ there, stored _ _ at_other]
    intro same
    have same : event.buffer_id = request.buffer_id := congrArg CapturePlanes.index same
    rw [same] at there
    cases Option.some.inj (there.symm.trans at_other)
    exact differ (Option.some.inj (queued.symm.trans queued_other))
  rw [Memory.write, if_neg fun both => apart both.1]
  exact shown which

end Requests

theorem Stored.set {allocation index : Nat} {buffers : List Buffer} {old new : Buffer}
    (stored : Stored allocation buffers) (found : buffers[index]? = some old)
    (same : new.planes = old.planes) : Stored allocation (buffers.set index new) := by
  intro place buffer there
  rw [getElem?_set] at there
  split_ifs at there with here bound
  · subst here
    cases there
    rw [same, stored _ _ found]
  · exact stored place buffer there

/-! ## The invariant -/

def Plane.before : Plane → Plane → Bool
  | .y, .u => true
  | .y, .v => true
  | .u, .v => true
  | _, _ => false

def Capturing.Kept (buffers : List Buffer) (memory : Memory) : Capturing → Prop
  | .writing request _ plane => Current buffers request ∧
      ∀ which, which.before plane = true → memory request.planes which = some request.ticket
  | .completing request _ => Current buffers request ∧
      ∀ which, memory request.planes which = some request.ticket
  | _ => True

def Completing.Kept (buffers : List Buffer) (memory : Memory) : Completing → Prop
  | .checking event => Done buffers memory event
  | .locking event => Done buffers memory event
  | .holding event => Done buffers memory event
  | _ => True

/-- The thread has seen the flag set and not yet sent its event. -/
def Completing.isParked : Completing → Bool
  | .locking _ => true
  | .holding _ => true
  | .sending _ => true
  | _ => false

theorem Capturing.Kept.imp {capturing : Capturing} {buffers after : List Buffer} {memory : Memory}
    (kept : capturing.Kept buffers memory)
    (keep : ∀ request, request.ticket ∈ capturing.tickets → Current buffers request →
      Current after request) : capturing.Kept after memory := by
  cases capturing with
  | writing => exact ⟨keep _ (mem_singleton_self _) kept.1, kept.2⟩
  | completing => exact ⟨keep _ (mem_singleton_self _) kept.1, kept.2⟩
  | waiting => trivial
  | ended => trivial

theorem Completing.Kept.imp {completing : Completing} {buffers after : List Buffer}
    {memory written : Memory} (kept : completing.Kept buffers memory)
    (keep : ∀ event : CaptureCompletedEvent, event.ticket ∈ completing.tickets →
      Done buffers memory event → Done after written event) :
    completing.Kept after written := by
  cases completing with
  | checking => exact keep _ (mem_singleton_self _) kept
  | locking => exact keep _ (mem_singleton_self _) kept
  | holding => exact keep _ (mem_singleton_self _) kept
  | receiving => trivial
  | sending => trivial
  | ended => trivial

/-- Everything on its way is for a request in force. -/
structure Way (buffers : List Buffer) (memory : Memory) (capturing : Capturing)
    (completions : List CaptureCompletedEvent) (completing : Completing) : Prop where
  capturing : capturing.Kept buffers memory
  completions : ∀ event ∈ completions, Done buffers memory event
  completing : completing.Kept buffers memory

theorem Way.set {buffers : List Buffer} {memory : Memory} {capturing : Capturing}
    {completions : List CaptureCompletedEvent} {completing : Completing} {index : Nat}
    {old new : Buffer} (way : Way buffers memory capturing completions completing)
    (found : buffers[index]? = some old) (idle : old.state ≠ .Incoming) :
    Way (buffers.set index new) memory capturing completions completing := by
  have apart : ∀ ticket, ¬(old.state = .Incoming ∧ old.queued = some ticket) :=
    fun _ both => idle both.1
  constructor
  · exact way.capturing.imp fun request _ current => current.set found (apart _)
  · exact fun event member => (way.completions event member).set found (apart _)
  · exact way.completing.imp fun event _ done => done.set found (apart _)

namespace Session

variable (session : Session)

def Fits : Prop :=
  match session.progress with
  | .queueing request => Current session.buffers request ∧ session.returned ≤ request.ticket
  | .resetting => session.streaming = false
  | .requesting _ _ => session.streaming = false
  | .stopping => session.streaming = false ∧ ∀ buffer ∈ session.buffers, buffer.queued = none
  | .returning => session.streaming = false ∧ session.left = [] ∧
      ∀ buffer ∈ session.buffers, buffer.queued = none
  | _ => True

structure Kept : Prop where
  stored : Stored session.allocation session.buffers
  bound : session.returned ≤ session.qbufs
  since : ∀ buffer ∈ session.buffers, ∀ ticket, buffer.queued = some ticket →
    session.returned ≤ ticket
  left : session.progress ≠ .stopping → ∀ request ∈ session.left, Current session.buffers request
  leftSince : ∀ request ∈ session.left, session.returned ≤ request.ticket
  fits : session.Fits
  writing : ∀ request sequence plane,
    session.processor.capturing = .writing request sequence plane →
    session.returned ≤ request.ticket
  way : session.streaming = true ∨ session.completing.isParked = true →
    Way session.buffers session.memory session.processor.capturing session.completions
      session.completing
  parked : session.completing.isParked = true →
    session.streaming = true ∨ session.progress = .resetting
  sending : ∀ event, session.completing = .sending event →
    event.Proper ∧ session.returned ≤ event.ticket
  events : ∀ event ∈ session.events, event.Proper ∧ event.returned ≤ event.ticket
  writes : ∀ write ∈ session.writes, write.returned ≤ write.ticket ∧ write.sent = false

variable {session} {after : Session}

@[simp] theorem left_send {cmd : ChannelCmd} {progress : Progress} :
    left {session with cmds := session.cmds ++ [cmd], progress} = cmd.pending session.left := by
  simp [left, foldl_append]

namespace Kept

theorem set {index : Nat} {old : Buffer} (kept : session.Kept) (new : Buffer)
    (ready : session.progress = .ready) (found : session.buffers[index]? = some old)
    (idle : old.state ≠ .Incoming) (planes : new.planes = old.planes)
    (since : ∀ ticket, new.queued = some ticket → session.returned ≤ ticket) :
    Kept {session with buffers := session.buffers.set index new} := by
  have apart : ∀ ticket, ¬(old.state = .Incoming ∧ old.queued = some ticket) :=
    fun _ both => idle both.1
  refine {kept with
    stored := kept.stored.set found planes
    since := ?_
    left := fun running request member => (kept.left running request member).set found (apart _)
    fits := ?_
    way := fun flowing => (kept.way flowing).set found idle}
  · intro buffer member
    rcases mem_or_eq_of_mem_set member with old | rfl
    · exact kept.since buffer old
    · exact since
  · unfold Fits
    simp only [ready]

theorem qbuf {buffer_idx : Nat} {cloned : Bool} (kept : session.Kept)
    (ready : session.progress = .ready) : (session.qbuf buffer_idx cloned).1.Kept := by
  unfold Session.qbuf
  cases found : session.buffers[buffer_idx]? with
  | none => exact kept
  | some host_buffer =>
    dsimp only
    split_ifs with queued duplicated
    · exact kept
    · have kept := kept.set { host_buffer.set_state .Incoming with
        queued := some session.qbufs} ready found queued rfl fun ticket same =>
          Option.some.inj same ▸ kept.bound
      have bound : buffer_idx < session.buffers.length := (List.getElem?_eq_some_iff.mp found).1
      exact {kept with
        bound := Nat.le_succ_of_le kept.bound
        left := fun _ => kept.left (by simp [ready])
        fits := ⟨⟨_, getElem?_set_self bound, rfl, rfl, rfl⟩, kept.bound⟩
        parked := fun parked => .inl ((kept.parked parked).resolve_right (by simp [ready]))}
    · exact kept.set _ ready found queued rfl nofun

variable {expected : Bool} {dropped : UInt64}

section

variable (kept : session.Kept)
include kept

theorem reqbufs {other : Bool} {count : UInt32} {allocated : Except Errno Unit}
    (ready : session.progress = .ready) :
    (session.reqbufs expected other count allocated).1.Kept := by
  unfold Session.reqbufs
  split_ifs with unexpected streaming busy
  · exact kept
  · exact kept
  · exact kept
  · exact {kept with
      left := fun _ => kept.left (by simp [ready])
      fits := Bool.eq_false_iff.mpr streaming
      parked := fun parked => .inl ((kept.parked parked).resolve_right (by simp [ready]))}

theorem streamon (ready : session.progress = .ready) : (session.streamon expected).1.Kept := by
  unfold Session.streamon
  split_ifs with unexpected empty
  · exact kept
  · exact kept
  · exact {kept with
      left := fun _ => kept.left (by simp [ready])
      fits := trivial
      parked := fun parked => .inl ((kept.parked parked).resolve_right (by simp [ready]))}

theorem streamoff (ready : session.progress = .ready) : (session.streamoff expected).1.Kept := by
  unfold Session.streamoff
  split_ifs with unexpected
  · exact kept
  · exact {kept with
      left := fun _ => kept.left (by simp [ready])
      fits := rfl
      way := fun flowing => kept.way (.inr (flowing.resolve_left nofun))
      parked := fun _ => .inr rfl}

theorem close_session (ready : session.progress = .ready) : session.close_session.Kept := by
  have left : session.close_session.left = session.left := left_send
  exact {kept with
    left := fun _ => left ▸ kept.left (by simp [ready])
    leftSince := left ▸ kept.leftSince
    fits := trivial
    parked := fun parked => .inl ((kept.parked parked).resolve_right (by simp [ready]))}

theorem send {cmd : ChannelCmd} {progress : Progress} (resets : session.progress ≠ .resetting)
    (left : ∀ request ∈ cmd.pending session.left,
      Current session.buffers request ∧ session.returned ≤ request.ticket)
    (fits : Fits {session with cmds := session.cmds ++ [cmd], progress}) :
    Kept {session with cmds := session.cmds ++ [cmd], progress} := by
  have same : Session.left {session with cmds := session.cmds ++ [cmd], progress} =
      cmd.pending session.left := left_send
  exact {kept with
    left := fun _ => same ▸ fun request member => (left request member).1
    leftSince := same ▸ fun request member => (left request member).2
    fits
    parked := fun parked => .inl ((kept.parked parked).resolve_right resets)}

end

theorem locked_of_parked (parked : session.completing.isParked = true)
    (awake : session.completing.isLocking = false) : session.locked = true := by
  unfold locked
  cases completing : session.completing with
  | locking => simp [completing, Completing.isLocking] at awake
  | holding => rfl
  | sending => rfl
  | _ => simp [completing, Completing.isParked] at parked

section

variable (kept : session.Kept)
include kept

theorem proceed (unraced : session.Unraced)
    (moved : session.proceed = some after) : after.Kept := by
  have fits := kept.fits
  unfold Fits at fits
  unfold Unraced at unraced
  unfold Session.proceed at moved
  cases progress : session.progress with
  | ready => simp [progress] at moved
  | queueing request =>
    simp only [progress, Option.some.injEq] at moved fits
    subst moved
    have left := kept.left (by simp [progress])
    refine kept.send (by simp [progress]) (fun other member => ?_) trivial
    rcases mem_append.mp member with old | new
    · exact ⟨left other old, kept.leftSince other old⟩
    · rw [mem_singleton.mp new]
      exact fits
  | enabling =>
    simp only [progress, Option.some.injEq] at moved unraced
    subst moved
    refine {kept with
      left := fun _ => kept.left (by simp [progress])
      fits := trivial
      way := fun _ => ?_
      parked := fun _ => .inl rfl}
    cases streaming : session.streaming with
    | true => exact kept.way (.inl streaming)
    | false =>
      obtain ⟨waiting, none, receiving⟩ := unraced streaming
      constructor
      · rw [waiting]
        trivial
      · rw [none]
        nofun
      · cases completing : session.completing with
        | receiving => trivial
        | _ => simp [completing, Completing.isReceiving] at receiving
  | starting =>
    simp only [progress, Option.some.injEq] at moved
    subst moved
    have left := kept.left (by simp [progress])
    exact kept.send (by simp [progress])
      (fun other member => ⟨left other member, kept.leftSince other member⟩) trivial
  | resetting =>
    simp only [progress] at moved unraced fits
    split_ifs at moved with locked
    cases moved
    have free : session.completing.isParked ≠ true :=
      fun parked => locked (locked_of_parked parked unraced)
    exact {kept with
      stored := kept.stored.reset
      since := fun buffer member ticket queued =>
        nomatch (queued_reset buffer member).symm.trans queued
      left := fun running => absurd rfl running
      fits := ⟨fits, queued_reset⟩
      way := fun flowing => flowing.elim (fun on => nomatch fits.symm.trans on) (absurd · free)
      parked := fun parked => absurd parked free}
  | stopping =>
    simp only [progress, Option.some.injEq] at moved fits
    subst moved
    have same : Session.left {session with
        cmds := session.cmds ++ [.StopCapture], progress := .returning} = [] := left_send
    exact {kept with
      left := fun _ => same ▸ nofun
      leftSince := same ▸ nofun
      fits := ⟨fits.1, same, fits.2⟩
      parked := fun parked => .inl ((kept.parked parked).resolve_right (by simp [progress]))}
  | requesting count allocated =>
    simp only [progress] at moved unraced fits
    split_ifs at moved with locked
    cases moved
    obtain ⟨buffers, allocation, streaming, cmds, same, sent, unqueued, stored⟩ :=
      allocate_spec session count allocated
    rw [same]
    have free : session.completing.isParked ≠ true := fun parked =>
      (kept.parked parked).elim (fun on => nomatch fits.symm.trans on) (by simp [progress])
    have off : streaming = false := by
      rcases sent with ⟨-, off, -⟩ | ⟨-, as, -⟩
      · exact off
      · exact as.trans fits
    have left : Session.left {session with
        buffers, allocation, streaming, cmds, progress := .returning} = [] := by
      rcases sent with ⟨-, -, rfl⟩ | ⟨some, -, rfl⟩
      · exact (left_send : Session.left {session with
          cmds := session.cmds ++ [.StopCapture], progress := .returning} = [])
      · exact unraced some
    exact {kept with
      stored := stored kept.stored
      since := fun buffer member ticket queued =>
        nomatch (unqueued buffer member).symm.trans queued
      left := fun _ => left ▸ nofun
      leftSince := left ▸ nofun
      fits := ⟨off, left, unqueued⟩
      way := fun flowing => flowing.elim (fun on => nomatch off.symm.trans on) (absurd · free)
      parked := fun parked => absurd parked free}
  | returning =>
    simp only [progress, Option.some.injEq] at moved unraced fits
    subst moved
    obtain ⟨off, left, unqueued⟩ := fits
    have free : session.completing.isParked ≠ true := fun parked =>
      (kept.parked parked).elim (fun on => nomatch off.symm.trans on) (by simp [progress])
    exact {kept with
      bound := Nat.le_refl _
      since := fun buffer member ticket queued =>
        nomatch (unqueued buffer member).symm.trans queued
      left := fun _ => kept.left (by simp [progress])
      leftSince := fun request member => by
        change request ∈ session.left at member
        rw [left] at member
        cases member
      fits := trivial
      writing := fun request sequence plane writing => by
        change session.processor.capturing = _ at writing
        simp [writing, Capturing.isWriting] at unraced
      parked := fun parked => absurd parked free
      sending := fun event sending => by
        change session.completing = _ at sending
        simp [sending, Completing.isParked] at free}
  | closing =>
    simp only [progress] at moved
    split at moved
    · cases moved
      exact {kept with
        left := fun _ => kept.left (by simp [progress])
        fits := trivial
        parked := fun parked => .inl ((kept.parked parked).resolve_right (by simp [progress]))}
    · cases moved
  | closed => simp [progress] at moved

theorem process {cmds : List ChannelCmd} {processor : CaptureProcessor}
    (part : ∀ request ∈ Session.left {session with cmds, processor}, request ∈ session.left)
    (writing : ∀ request sequence plane, processor.capturing = .writing request sequence plane →
      session.returned ≤ request.ticket)
    (way : session.streaming = true ∨ session.completing.isParked = true →
      processor.capturing.Kept session.buffers session.memory) :
    Kept {session with cmds, processor} := by
  have fits : Fits {session with cmds, processor} := by
    have fits := kept.fits
    unfold Fits at fits ⊢
    dsimp only
    split at fits
    · exact fits
    · exact fits
    · exact fits
    · exact fits
    · obtain ⟨off, left, unqueued⟩ := fits
      refine ⟨off, eq_nil_iff_forall_not_mem.mpr fun request member => ?_, unqueued⟩
      have := part request member
      rw [left] at this
      cases this
    · trivial
  exact {kept with
    left := fun running request member => kept.left running request (part request member)
    leftSince := fun request member => kept.leftSince request (part request member)
    fits
    writing
    way := fun flowing => {kept.way flowing with capturing := way flowing}}

theorem command (moved : session.command = some after) : after.Kept := by
  unfold Session.command at moved
  split at moved
  · rename_i cmd cmds waiting sent
    cases moved
    have idle : (session.processor.handle_cmd cmd).capturing = .waiting ∨
        (session.processor.handle_cmd cmd).capturing = .ended := by
      cases cmd
      · exact .inl waiting
      · exact .inl waiting
      · exact .inl waiting
      · exact .inr rfl
    refine kept.process (fun request member => ?_) (fun request sequence plane writing => ?_)
      fun _ => ?_
    · rw [Session.left, sent, foldl_cons, ← pending_handle_cmd]
      exact member
    · rcases idle with here | here <;> cases here.symm.trans writing
    · rcases idle with here | here <;> rw [here] <;> trivial
  · cases moved

theorem tick (moved : session.tick dropped = some after) : after.Kept := by
  unfold Session.tick at moved
  split at moved
  · rename_i waiting sent
    split_ifs at moved
    cases moved
    have left : session.left = session.processor.pending_requests := by
      simp [Session.left, sent]
    unfold CaptureProcessor.produce_capture
    cases pending : session.processor.pending_requests with
    | nil =>
      refine kept.process (fun request member => ?_) nofun fun _ => trivial
      simp [Session.left, sent, CaptureProcessor.advance] at member
    | cons request rest =>
      have member : request ∈ session.left := by
        rw [left, pending]
        exact mem_cons_self
      refine kept.process (fun other other_left => ?_) (fun _ _ _ same => ?_) fun flowing => ?_
      · have : other ∈ rest := by simpa [Session.left, sent] using other_left
        rw [left, pending]
        exact mem_cons_of_mem _ this
      · cases same
        exact kept.leftSince _ member
      · -- nothing is taken between the reset of the buffers and the stop
        have running : session.progress ≠ .stopping := by
          intro stopping
          have off := kept.fits
          simp only [Fits, stopping] at off
          have on := flowing.elim .inl kept.parked
          rcases on with on | resetting
          · cases off.1.symm.trans on
          · cases stopping.symm.trans resetting
        refine ⟨kept.left running _ member, fun which before => ?_⟩
        cases which <;> cases before
  · cases moved

theorem write {ok : Bool} (ordered : session.Ordered) (whole : ok = true)
    (moved : session.write ok = some after) : after.Kept := by
  unfold Session.write at moved
  split at moved
  · rename_i request sequence plane writing
    subst whole
    simp only [if_true] at moved
    cases moved
    have here : request.ticket ∈ session.processor.capturing.tickets := by
      rw [writing]
      exact mem_singleton_self _
    have unsent : request.ticket ∉ session.events.map DequeueBufferEvent.ticket :=
      ordered.after_sent (mem_append_right _ (mem_append_right _
        (mem_append_left _ here)))
    exact {kept with
      writing := fun other _ _ same => by
        cases plane <;> cases same <;> exact kept.writing _ _ _ writing
      way := fun flowing => by
        have way := kept.way flowing
        have captured := way.capturing
        rw [writing] at captured
        obtain ⟨current, before⟩ := captured
        have shown : ∀ which, which = plane ∨ which.before plane = true →
            session.memory.write request.planes plane request.ticket request.planes which =
              some request.ticket := by
          intro which
          by_cases same : which = plane
          · simp [Memory.write, same]
          · simpa [Memory.write, same] using before which
        constructor
        · cases plane with
          | y =>
            refine ⟨current, fun which first => shown which ?_⟩
            cases which <;> simp_all [Plane.before]
          | u =>
            refine ⟨current, fun which first => shown which ?_⟩
            cases which <;> simp_all [Plane.before]
          | v =>
            refine ⟨current, fun which => shown which ?_⟩
            cases which <;> simp [Plane.before]
        · intro event member
          have older : event.ticket < request.ticket :=
            ordered.after_completed (mem_map_of_mem member) (mem_append_left _ here)
          exact (way.completions event member).write kept.stored current (Nat.ne_of_lt older)
        · refine way.completing.imp fun event member done => ?_
          have older : event.ticket < request.ticket :=
            ordered.after_received member (mem_append_right _ (mem_append_left _ here))
          exact done.write kept.stored current (Nat.ne_of_lt older)
      writes := fun write member => by
        rcases mem_append.mp member with old | new
        · exact kept.writes write old
        · rw [mem_singleton.mp new]
          exact ⟨kept.writing _ _ _ writing, by simpa using unsent⟩}
  · cases moved

theorem finish (moved : session.finish dropped = some after) : after.Kept := by
  unfold Session.finish at moved
  split at moved
  · rename_i request sequence completing
    cases moved
    exact {kept with
      writing := nofun
      way := fun flowing => by
        have way := kept.way flowing
        have done := way.capturing
        rw [completing] at done
        obtain ⟨⟨buffer, there, incoming, queued, planes⟩, shown⟩ := done
        refine ⟨trivial, fun event member => ?_, way.completing⟩
        rcases mem_append.mp member with old | new
        · exact way.completions event old
        · rw [mem_singleton.mp new]
          exact ⟨buffer, there, incoming, queued, fun plane => planes ▸ shown plane⟩}
  · cases moved

theorem completion (ordered : session.Ordered)
    (moved : session.completion = some after) : after.Kept := by
  unfold Session.completion at moved
  cases completing : session.completing with
  | receiving =>
    simp only [completing] at moved
    cases received : session.completions with
    | cons event completions =>
      simp only [received, Option.some.injEq] at moved
      subst moved
      exact {kept with
        way := fun flowing => by
          have way := kept.way (flowing.imp_right (by rintro ⟨⟩))
          rw [received] at way
          exact ⟨way.capturing, fun other member => way.completions other (.tail _ member),
            way.completions event (.head _)⟩
        parked := by rintro ⟨⟩
        sending := by rintro _ ⟨⟩}
    | nil =>
      simp only [received] at moved
      split_ifs at moved
      cases moved
      exact {kept with
        way := fun flowing => by
          have way := kept.way (flowing.imp_right (by rintro ⟨⟩))
          exact ⟨way.capturing, forall_mem_nil _, trivial⟩
        parked := by rintro ⟨⟩
        sending := by rintro _ ⟨⟩}
  | checking event =>
    simp only [completing] at moved
    split_ifs at moved with streaming <;> cases moved
    · have way := kept.way (.inl streaming)
      have done := way.completing
      rw [completing] at done
      exact {kept with
        way := fun _ => {way with completing := done}
        parked := fun _ => .inl streaming
        sending := by rintro _ ⟨⟩}
    · exact {kept with
        way := fun flowing => absurd (flowing.resolve_right (by rintro ⟨⟩)) streaming
        parked := by rintro ⟨⟩
        sending := by rintro _ ⟨⟩}
  | locking event =>
    simp only [completing, Option.some.injEq] at moved
    subst moved
    have parked := kept.parked (by rw [completing]; rfl)
    have way := kept.way (.inr (by rw [completing]; rfl))
    have done := way.completing
    rw [completing] at done
    exact {kept with
      way := fun _ => {way with completing := done}
      parked := fun _ => parked
      sending := by rintro _ ⟨⟩}
  | holding event =>
    have parked := kept.parked (by rw [completing]; rfl)
    have way := kept.way (.inr (by rw [completing]; rfl))
    have done := way.completing
    rw [completing] at done
    obtain ⟨buffer, found, incoming, queued, shown⟩ := done
    simp only [completing, found, Option.some.injEq] at moved
    subst moved
    have here : event.ticket ∈ session.completing.tickets := by
      rw [completing]
      exact mem_singleton_self _
    -- whatever is in force besides this event was queued later
    have apart : ∀ ticket ∈ session.behind,
        ¬(buffer.state = .Incoming ∧ buffer.queued = some ticket) := by
      intro ticket member both
      have := ordered.after_received here member
      cases queued.symm.trans both.2
      omega
    have left : ∀ request ∈ session.left, request.ticket ∈ session.behind := fun _ member =>
      mem_append_right _ (mem_append_right _ (left_waits member))
    exact {kept with
      stored := kept.stored.set found rfl
      since := fun other member => by
        rcases mem_or_eq_of_mem_set member with old | rfl
        · exact kept.since other old
        · rintro ticket ⟨⟩
      left := fun running request member =>
        (kept.left running request member).set found (apart _ (left request member))
      fits := by
        have fits := kept.fits
        unfold Fits at fits ⊢
        cases progress : session.progress with
        | queueing request =>
          simp only [progress] at fits ⊢
          refine ⟨fits.1.set found (apart _ ?_), fits.2⟩
          simp [behind, waiting, progress, Progress.tickets]
        | stopping =>
          rcases parked with on | resetting
          · simp only [progress] at fits
            cases fits.1.symm.trans on
          · cases progress.symm.trans resetting
        | returning =>
          rcases parked with on | resetting
          · simp only [progress] at fits
            cases fits.1.symm.trans on
          · cases progress.symm.trans resetting
        | resetting => simpa only [progress] using fits
        | requesting => simpa only [progress] using fits
        | _ => trivial
      way := fun _ => by
        refine ⟨way.capturing.imp fun request member current => ?_, fun other member => ?_, trivial⟩
        · exact current.set found (apart _ (mem_append_right _
            (mem_append_left _ member)))
        · exact (way.completions other member).set found (apart _
            (mem_append_left _ (mem_map_of_mem member)))
      parked := fun _ => parked
      sending := fun sent same => by
        cases same
        exact ⟨⟨incoming, queued, shown⟩,
          kept.since buffer (mem_of_getElem? found) event.ticket queued⟩}
  | sending event =>
    simp only [completing, Option.some.injEq] at moved
    subst moved
    obtain ⟨proper, since⟩ := kept.sending event completing
    exact {kept with
      way := fun flowing => {kept.way (flowing.imp_right (by rintro ⟨⟩)) with completing := trivial}
      parked := by rintro ⟨⟩
      sending := by rintro _ ⟨⟩
      events := fun other member => by
        rcases mem_append.mp member with old | new
        · exact kept.events other old
        · rw [mem_singleton.mp new]
          exact ⟨⟨proper.incoming, proper.queued, proper.shown⟩, since⟩}
  | ended => simp [completing] at moved

theorem step {event : Event} (ordered : session.Ordered)
    (allowed : Allowed session event) (moved : step session event = some after) :
    after.Kept := by
  cases event with
  | qbuf =>
    simp only [EmulatedCamera.step] at moved
    split_ifs at moved
    obtain ⟨ready, rfl⟩ := begin_spec moved
    exact kept.qbuf ready
  | reqbufs =>
    simp only [EmulatedCamera.step] at moved
    obtain ⟨ready, rfl⟩ := begin_spec moved
    exact kept.reqbufs ready
  | streamon =>
    simp only [EmulatedCamera.step] at moved
    split_ifs at moved
    obtain ⟨ready, rfl⟩ := begin_spec moved
    exact kept.streamon ready
  | streamoff =>
    simp only [EmulatedCamera.step] at moved
    obtain ⟨ready, rfl⟩ := begin_spec moved
    exact kept.streamoff ready
  | close_session =>
    simp only [EmulatedCamera.step] at moved
    obtain ⟨ready, rfl⟩ := begin_spec moved
    exact kept.close_session ready
  | proceed => exact kept.proceed allowed moved
  | command => exact kept.command moved
  | tick => exact kept.tick moved
  | write => exact kept.write ordered allowed moved
  | finish => exact kept.finish moved
  | completion => exact kept.completion ordered moved

end

theorem init : Kept ({} : Session) where
  stored := nofun
  bound := Nat.le_refl _
  since := nofun
  left := fun _ => nofun
  leftSince := nofun
  fits := trivial
  writing := nofun
  way := fun _ => ⟨trivial, nofun, trivial⟩
  parked := nofun
  sending := nofun
  events := nofun
  writes := nofun

end Kept

end Session

/-! ## Every run -/

theorem kept {session : Session} (reached : machine.Reaches Allowed session) : session.Kept := by
  refine reached.invariant_with Session.Ordered (fun _ => ordered) (fun session first => ?_)
    fun session event after ordered kept allowed moved => ?_
  · cases first
    exact .init
  · exact kept.step ordered allowed moved

/-- While no step races, every event answers a `qbuf` of its own that is in force. -/
theorem dequeues_sound {session : Session} (reached : machine.Reaches Allowed session) :
    session.Sound := by
  obtain ⟨ascending, -⟩ := ordered reached
  have kept := kept reached
  refine ⟨fun event member => (kept.events event member).1, ?_,
    fun event member => (kept.events event member).2, kept.writes⟩
  exact (pairwise_append.mp ascending).1.imp Nat.ne_of_lt

instance (session : Session) (event : Event) : Decidable (Allowed session event) := by
  unfold Allowed
  split <;> infer_instance

/-- A buffer is queued, captured and sent back, the stream is stopped and started again. -/
def twoStreams : List Event :=
  [.reqbufs true false 1 (.ok ()), .proceed, .proceed, .qbuf 0 true, .proceed, .command,
    .streamon true, .proceed, .proceed, .command, .tick 0, .write true, .write true, .write true,
    .finish 0, .completion, .completion, .completion, .completion, .completion,
    .qbuf 0 true, .proceed, .streamoff true, .proceed, .proceed, .proceed, .command, .command,
    .streamon true, .proceed, .proceed, .qbuf 0 true, .proceed]

theorem dequeues_sound_twoStreams : ((machine.runAllowed Allowed {} twoStreams).getD {}).Sound := by
  have reached : machine.Reaches Allowed ((machine.runAllowed Allowed {} twoStreams).getD {}) :=
    Transition.Machine.Reaches.getD_runAllowed _ (.start rfl) (by decide +kernel)
  exact dequeues_sound reached

def reallocated : List Event :=
  [.reqbufs true false 1 (.ok ()), .proceed, .proceed, .qbuf 0 true, .proceed,
    .reqbufs true false 1 (.ok ()), .proceed, .proceed, .streamon true, .proceed, .proceed,
    .command, .command, .tick 0, .write true, .write true, .write true, .finish 0,
    .completion, .completion, .completion, .completion, .completion]

theorem reallocated_sends :
    machine.Reachable ((machine.run {} reallocated).getD {}) ∧
      ¬((machine.run {} reallocated).getD {}).Sound := by
  constructor
  · exact Transition.Machine.Reachable.getD_run _ (.start rfl) (by decide +kernel)
  · intro sound
    have current : ∀ event ∈ ((machine.run {} reallocated).getD {}).events,
        event.returned ≤ event.ticket := sound.current
    revert current
    decide +kernel

end Ika.EmulatedCamera
