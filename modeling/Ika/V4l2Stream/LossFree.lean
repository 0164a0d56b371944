import Ika.V4l2Stream.Worker

/-! No buffer of a session is lost while no data of the FIFO is. -/

set_option autoImplicit false

namespace Ika.V4l2Stream

open List Bool

/-- Buffers are in hand once, what is sent back is in order, and the worker wakes. -/
structure Session.LossFree (session : Session) : Prop where
  owned : ∀ index, (session.inHand.map Queued.index).count index =
    if session.buffers[index]? = some .Incoming then 1 else 0
  ordered : (session.events.map DequeueBufferEvent.ticket).Pairwise (· < ·)
  served : ∀ event ∈ session.events, session.qbufs[event.ticket]? = some event.index
  numbered : ∀ frame event, session.events[session.base + frame]? = some event →
    event.sequence = UInt32.ofNat frame
  final : ∀ sent, session.off = some sent → session.events.length = sent
  woken : ∀ worker, session.worker = some worker → worker.state = .Idle →
    session.locked = false → session.progress ≠ .waking →
    session.queued_buffers ≠ [] ∨ .Stop ∈ worker.rx ∨ session.progress = .joining →
    0 < worker.event_fd

def Allowed (_ : Session) : Event → Prop
  | .worker action => action.Harmless
  | _ => True

/-- Each `Incoming` buffer is in hand once, and buffers stand in the order of their `qbuf`s. -/
structure Books (buffers : List BufferState) (qbufs : List Nat)
    (events : List DequeueBufferEvent) (hand : List Queued) : Prop where
  owned : ∀ index, (hand.map Queued.index).count index =
    if buffers[index]? = some .Incoming then 1 else 0
  ordered : (events.map DequeueBufferEvent.ticket ++ hand.map Queued.ticket).Pairwise (· < ·)
  served : ∀ event ∈ events, qbufs[event.ticket]? = some event.index
  queued : ∀ buffer ∈ hand, qbufs[buffer.ticket]? = some buffer.index

/-- The events since the last `streamon` are numbered from 0. -/
structure Numbered (base : Nat) (sequence : UInt32) (events : List DequeueBufferEvent) : Prop where
  within : base ≤ events.length
  next : sequence = UInt32.ofNat (events.length - base)
  numbered : ∀ frame event, events[base + frame]? = some event →
    event.sequence = UInt32.ofNat frame

section Books

variable {buffers : List BufferState} {qbufs : List Nat} {events : List DequeueBufferEvent}
  {hand : List Queued}

theorem Books.reset {fresh : List BufferState} (books : Books buffers qbufs events hand)
    (new : .Incoming ∉ fresh) : Books fresh qbufs events [] := by
  constructor
  · intro index
    rw [if_neg fun found => new (mem_of_getElem? found)]
    rfl
  · exact books.ordered.sublist (sublist_append_of_sublist_left (append_nil _ ▸ .refl _))
  · exact books.served
  · nofun

theorem Books.queue {index : Nat} {state : BufferState} (books : Books buffers qbufs events hand)
    (found : buffers[index]? = some state) (free : state ≠ .Incoming) :
    Books (buffers.set index .Incoming) (qbufs ++ [index]) events
      (hand ++ [⟨index, qbufs.length⟩]) := by
  have bound : index < buffers.length := (List.getElem?_eq_some_iff.mp found).1
  have earlier : ∀ ticket place, qbufs[ticket]? = some place →
      ticket < qbufs.length ∧ (qbufs ++ [index])[ticket]? = some place := by
    intro ticket place old
    have inside : ticket < qbufs.length := (List.getElem?_eq_some_iff.mp old).1
    exact ⟨inside, by rw [getElem?_append_left inside, old]⟩
  constructor
  · intro place
    rw [map_append, count_append, books.owned, getElem?_set]
    by_cases same : index = place
    · subst same
      have idle : ¬buffers[index]? = some .Incoming := by
        rw [found]
        exact fun queued => free (Option.some.inj queued)
      rw [if_neg idle]
      simp [bound]
    · simp [same]
  · rw [map_append, ← append_assoc]
    refine pairwise_append.mpr ⟨books.ordered, pairwise_singleton _ _, ?_⟩
    intro ticket member last isLast
    rw [map_singleton, mem_singleton] at isLast
    subst isLast
    rcases mem_append.mp member with sent | held
    · obtain ⟨event, listed, rfl⟩ := mem_map.mp sent
      exact (earlier _ _ (books.served event listed)).1
    · obtain ⟨buffer, listed, rfl⟩ := mem_map.mp held
      exact (earlier _ _ (books.queued buffer listed)).1
  · intro event member
    exact (earlier _ _ (books.served event member)).2
  · intro buffer member
    rcases mem_append.mp member with old | new
    · exact (earlier _ _ (books.queued buffer old)).2
    · cases mem_singleton.mp new
      exact getElem?_concat_length

variable {sequence : UInt32}

theorem Books.complete {buffer : Queued} (books : Books buffers qbufs events (buffer :: hand)) :
    Books (buffers.set buffer.index (.Outgoing sequence)) qbufs
      (events ++ [⟨buffer.index, buffer.ticket, sequence⟩]) hand := by
  constructor
  · intro index
    have before := books.owned index
    rw [map_cons, count_cons] at before
    rw [getElem?_set]
    by_cases same : buffer.index = index
    · subst same
      simp only [beq_self_eq_true, if_true] at before
      have alone : (hand.map Queued.index).count buffer.index = 0 := by
        split at before <;> omega
      rw [alone]
      split_ifs <;> simp_all
    · simpa [same] using before
  · have ordered := books.ordered
    simpa using ordered
  · intro event member
    rcases mem_append.mp member with old | new
    · exact books.served event old
    · cases mem_singleton.mp new
      exact books.queued buffer mem_cons_self
  · intro other member
    exact books.queued other (mem_cons_of_mem _ member)

theorem Numbered.complete {base : Nat} {event : DequeueBufferEvent}
    (numbers : Numbered base sequence events) (stamped : event.sequence = sequence) :
    Numbered base (sequence + 1) (events ++ [event]) := by
  obtain ⟨within, next, numbered⟩ := numbers
  constructor
  · rw [length_append]
    omega
  · have one : (events ++ [event]).length - base = events.length - base + 1 := by
      rw [length_append, length_singleton]
      omega
    rw [one, UInt32.ofNat_add, ← next]
    rfl
  · intro frame other found
    by_cases old : base + frame < events.length
    · rw [getElem?_append_left old] at found
      exact numbered frame other found
    · rw [getElem?_append_right (by omega)] at found
      have last : base + frame - events.length = 0 := by
        have := (List.getElem?_eq_some_iff.mp found).1
        rw [length_singleton] at this
        omega
      rw [last] at found
      cases found
      rw [stamped, next]
      congr 1
      omega

end Books

structure Session.Kept (plane_sizes : List Nat) (session : Session) : Prop where
  books : Books session.buffers session.qbufs session.events session.inHand
  numbers : Numbered session.base session.sequence session.events
  final : ∀ sent, session.off = some sent → session.events.length = sent ∧
    session.streaming = false ∧ session.worker = none
  quiet : session.streaming = false → session.worker = none ∨ session.progress = .stopping ∨
    session.progress = .waking ∨ session.progress = .joining ∨ session.progress = .resetting
  winding : session.progress = .stopping ∨ session.progress = .waking ∨
    session.progress = .joining ∨ session.progress = .resetting → session.streaming = false
  aware : ∀ worker, session.worker = some worker →
    worker.Aware plane_sizes session.progress session.queued_buffers

variable {plane_sizes : List Nat} {session after : Session} {worker : Worker}

theorem Session.next_buffer_spec (planes : plane_sizes ≠ [])
    (aware : worker.Aware plane_sizes session.progress session.queued_buffers)
    (drained : ∀ caller stop, worker.state ≠ .draining caller stop) (told : ¬worker.state.Told) :
    ∃ worker' queued_buffers,
      session.next_buffer worker = {session with queued_buffers, worker := some worker'} ∧
      worker'.state.held.toList ++ queued_buffers = session.queued_buffers ∧
      worker'.Aware plane_sizes session.progress queued_buffers := by
  unfold next_buffer
  have moved : Worker.Aware plane_sizes session.progress session.queued_buffers
      {worker with state := .taking} := aware.goto nofun drained told trivial
  cases queued : session.queued_buffers with
  | nil =>
    refine ⟨{worker with state := .Idle}, [], ?_, rfl, ?_⟩
    · simp only [queued, goto]
    · refine ⟨fun _ some => absurd rfl some, fun sent => ?_, fun stopping => ?_, trivial⟩
      · exact (moved.signalled sent).imp_right fun waking => waking.imp_right nofun
      · exact (moved.told stopping).imp_right nofun
  | cons buffer rest =>
    refine ⟨{worker with state := .Streaming ⟨buffer, 0, 0⟩}, rest, rfl, rfl, ?_⟩
    refine ⟨nofun, fun sent => ?_, fun stopping => ?_, ?_⟩
    · exact (moved.signalled sent).imp_right fun waking => waking.imp_right nofun
    · exact (moved.told stopping).imp_right nofun
    · exact ⟨length_pos_of_ne_nil planes, Nat.zero_le _⟩

namespace Session.Kept

theorem relocate (kept : session.Kept plane_sizes) (running : session.worker ≠ none)
    {worker' : Worker} {queued_buffers : List Queued}
    (same : worker'.state.held.toList ++ queued_buffers = session.inHand)
    (aware : worker'.Aware plane_sizes session.progress queued_buffers) :
    Kept plane_sizes {session with queued_buffers, worker := some worker'} := by
  constructor
  · change Books _ _ _ (worker'.state.held.toList ++ queued_buffers)
    rw [same]
    exact kept.books
  · exact kept.numbers
  · intro sent off
    exact absurd (kept.final sent off).2.2 running
  · intro off
    exact .inr ((kept.quiet off).resolve_left running)
  · exact kept.winding
  · intro other held
    cases held
    exact aware

theorem acts {action : Action} (kept : session.Kept plane_sizes) (planes : plane_sizes ≠ [])
    (running : session.worker = some worker) (harmless : action.Harmless)
    (acted : session.act plane_sizes worker action = some after) : after.Kept plane_sizes := by
  have some : session.worker ≠ none := by
    rw [running]
    nofun
  have hand : worker.state.held.toList ++ session.queued_buffers = session.inHand := by
    rw [inHand, running]
    rfl
  have aware := kept.aware worker running
  cases act_spec running harmless acted with
  | moved held stays =>
    exact kept.relocate some (held ▸ hand) (stays _ _ aware)
  | took taking unlocked =>
    obtain ⟨worker', queued_buffers, taken, rest, aware⟩ :=
      next_buffer_spec planes aware (by simp [taking]) (by simp [taking, WorkerState.Told])
    rw [taken]
    refine kept.relocate some ?_ aware
    rw [rest, ← hand, taking]
    rfl
  | @completed frame bytes_read writing unlocked =>
    obtain ⟨worker', queued_buffers, taken, rest, aware⟩ :=
      @Session.next_buffer_spec _ (session.complete frame.buffer) _ planes aware
        (by simp [writing]) (by simp [writing, WorkerState.Told])
    rw [taken]
    have held : session.inHand = frame.buffer :: session.queued_buffers := by
      rw [← hand, writing]
      rfl
    constructor
    · change Books _ _ _ (worker'.state.held.toList ++ queued_buffers)
      rw [rest]
      exact (held ▸ kept.books).complete
    · exact kept.numbers.complete rfl
    · intro sent off
      exact absurd (kept.final sent off).2.2 some
    · intro off
      exact .inr ((kept.quiet off).resolve_left some)
    · exact kept.winding
    · intro other found
      cases found
      exact aware

theorem inHand_idle (gone : session.worker = none) : session.inHand = session.queued_buffers := by
  rw [inHand, gone]
  rfl

section

variable (kept : session.Kept plane_sizes)
include kept

theorem gone (ready : session.progress = .ready)
    (off : session.streaming = false) : session.worker = none := by
  have := kept.quiet off
  simpa [ready] using this

theorem alone (ready : session.progress = .ready)
    (nobody : ¬(session.streaming && session.worker.isSome) = true) : session.worker = none := by
  cases streaming : session.streaming with
  | false => exact kept.gone ready streaming
  | true => simpa [streaming] using nobody

theorem fresh {buffers : List BufferState}
    (gone : session.worker = none) (new : .Incoming ∉ buffers) :
    Kept plane_sizes {session with buffers, queued_buffers := []} := by
  obtain ⟨books, numbers, final, quiet, winding, aware⟩ := kept
  refine ⟨?_, numbers, final, quiet, winding, fun worker held => ?_⟩
  · have hand : inHand {session with buffers, queued_buffers := []} = [] := inHand_idle gone
    rw [hand]
    exact books.reset new
  · exact absurd (gone.symm.trans held) nofun

theorem reset (gone : session.worker = none) : session.reset.Kept plane_sizes := by
  refine kept.fresh gone fun member => ?_
  obtain ⟨state, -, new⟩ := mem_map.mp member
  cases new

end

variable {expected : Bool} {cmd : WorkerCmd}

section

variable (kept : session.Kept plane_sizes)
include kept

section

variable (ready : session.progress = .ready)
include ready

theorem reqbufs {other : Bool} {count : UInt32} {allocated : Except Errno Unit}
    :
    (session.reqbufs expected other count allocated).1.Kept plane_sizes := by
  unfold Session.reqbufs
  split_ifs with unexpected streaming busy
  · exact kept
  · exact kept
  · exact kept
  · have gone := kept.gone ready (eq_false_iff.mpr streaming)
    cases allocated with
    | error e => exact kept.reset gone
    | ok => exact kept.fresh gone fun member => nomatch (mem_replicate.mp member).2

theorem qbuf {index : Nat} : (session.qbuf index).1.Kept plane_sizes := by
  unfold Session.qbuf
  cases found : session.buffers[index]? with
  | none => exact kept
  | some state =>
    dsimp only
    split_ifs with incoming told
    · exact kept
    · have books := kept.books.queue found incoming
      rw [inHand, append_assoc] at books
      refine ⟨books, kept.numbers, kept.final, ?_, nofun, ?_⟩
      · intro off
        exact absurd ((and_eq_true_iff.mp told).1.symm.trans off) nofun
      · intro worker held
        have aware := kept.aware worker held
        rw [ready] at aware
        refine ⟨fun _ _ => .inr (.inl rfl), fun sent => ?_, nofun, aware.placed⟩
        exact (aware.signalled sent).imp_right fun waking => waking.imp_left nofun
    · -- there is nobody to tell
      have gone := kept.alone ready told
      have books := kept.books.queue found incoming
      rw [inHand, append_assoc] at books
      refine ⟨books, kept.numbers, kept.final, kept.quiet, kept.winding, fun worker held => ?_⟩
      exact absurd (gone.symm.trans held) nofun

theorem streamon {eventfd : Bool} : (session.streamon expected eventfd).1.Kept plane_sizes := by
  have zero : Numbered session.events.length 0 session.events := by
    refine ⟨Nat.le_refl _, ?_, fun frame event found => ?_⟩
    · rw [Nat.sub_self]
      rfl
    · have := (List.getElem?_eq_some_iff.mp found).1
      omega
  unfold Session.streamon
  split_ifs with unexpected empty streaming made
  · exact kept
  · exact kept
  · exact ⟨kept.books, zero, nofun, kept.quiet, kept.winding, kept.aware⟩
  all_goals
    have gone := kept.gone ready (eq_false_iff.mpr streaming)
    have hand : session.inHand = [] ++ session.queued_buffers := inHand_idle gone
    have books := kept.books
    rw [hand] at books
  · refine ⟨books, zero, nofun, nofun, ?_, ?_⟩
    · simp [ready]
    · intro worker held
      cases held
      exact ⟨nofun, nofun, by simp [ready], trivial⟩
  · refine ⟨kept.books, zero, nofun, nofun, ?_, kept.aware⟩
    simp [ready]

theorem streamoff {closing : Bool} : (session.streamoff expected closing).1.Kept plane_sizes := by
  unfold Session.streamoff
  split_ifs with unexpected working
  · exact kept
  · refine ⟨kept.books, kept.numbers, ?_, fun _ => .inr (.inl rfl), fun _ => rfl, ?_⟩
    · intro sent off
      obtain ⟨same, -, gone⟩ := kept.final sent off
      exact ⟨same, rfl, gone⟩
    · intro worker held
      have aware := kept.aware worker held
      rw [ready] at aware
      refine ⟨fun idle some => ?_, fun sent => ?_, nofun, aware.placed⟩
      · exact (aware.idle idle some).imp_right fun telling => telling.elim nofun nofun
      · exact (aware.signalled sent).imp_right fun waking => waking.imp_left nofun
  · have gone := kept.alone ready working
    refine ⟨kept.books, kept.numbers, ?_, fun _ => .inl gone, fun _ => rfl, ?_⟩
    · intro sent off
      obtain ⟨same, -, gone⟩ := kept.final sent off
      exact ⟨same, rfl, gone⟩
    · intro worker held
      exact absurd (gone.symm.trans held) nofun

theorem close_session : session.close_session.Kept plane_sizes := by
  unfold Session.close_session
  split_ifs with streaming
  · exact kept.streamoff ready
  · have gone := kept.gone ready (eq_false_iff.mpr streaming)
    refine ⟨kept.books, kept.numbers, kept.final, fun _ => .inl gone, nofun, fun worker held => ?_⟩
    exact absurd (gone.symm.trans held) nofun

end

end

@[simp] theorem state_send : (worker.send cmd).state = worker.state := by
  unfold Worker.send
  split <;> rfl

@[simp] theorem event_fd_send : (worker.send cmd).event_fd = worker.event_fd := by
  unfold Worker.send
  split <;> rfl

theorem rx_send (worker : Worker) (cmd : WorkerCmd) :
    (worker.state.Told ∧ (worker.send cmd).rx = worker.rx) ∨
      (worker.send cmd).rx = worker.rx ++ [cmd] := by
  unfold Worker.send
  split
  · rename_i stopped
    exact .inl ⟨by rw [stopped]; trivial, rfl⟩
  · exact .inr rfl

theorem notified : 0 < worker.notify.event_fd := by
  have : 0 < min (worker.event_fd + 1) (2 ^ 64 - 2) := by omega
  exact this

theorem told {tell : Worker → Worker} {progress : Progress} (kept : session.Kept plane_sizes)
    (stays : ∀ worker, (tell worker).state = worker.state)
    (quiet : session.streaming = false → session.worker = none ∨ progress = .stopping ∨
      progress = .waking ∨ progress = .joining ∨ progress = .resetting)
    (winding : progress = .stopping ∨ progress = .waking ∨ progress = .joining ∨
      progress = .resetting → session.streaming = false)
    (aware : ∀ worker, session.worker = some worker →
      (tell worker).Aware plane_sizes progress session.queued_buffers) :
    Kept plane_sizes {session with worker := session.worker.map tell, progress} := by
  have hand : inHand {session with worker := session.worker.map tell, progress} =
      session.inHand := by
    unfold inHand
    cases session.worker with
    | none => rfl
    | some worker => simp [stays]
  refine ⟨hand ▸ kept.books, kept.numbers, ?_, fun off => ?_, winding, ?_⟩
  · intro sent off
    obtain ⟨same, streaming, gone⟩ := kept.final sent off
    exact ⟨same, streaming, by simp [gone]⟩
  · exact (quiet off).imp_left fun gone => by simp [gone]
  · intro other held
    obtain ⟨worker, running, rfl⟩ := Option.map_eq_some_iff.mp held
    exact aware worker running

theorem proceed (kept : session.Kept plane_sizes) (moved : session.proceed = some after) :
    after.Kept plane_sizes := by
  unfold Session.proceed at moved
  cases progress : session.progress with
  | ready => simp [progress] at moved
  | closed => simp [progress] at moved
  | queueing =>
    simp only [progress, Option.some.injEq] at moved
    subst moved
    refine kept.told (fun _ => state_send) (fun off => ?_) nofun fun worker running => ?_
    · exact .inl (by simpa [progress] using kept.quiet off)
    · have aware := kept.aware worker running
      rw [progress] at aware
      have sent : WorkerCmd.Stop ∈ (worker.send .BufferQueued).rx ↔ .Stop ∈ worker.rx := by
        rcases rx_send worker .BufferQueued with ⟨-, same⟩ | more
        · rw [same]
        · simp [more]
      refine ⟨fun _ _ => .inr (.inr rfl), fun stop => ?_, nofun, ?_⟩
      · have := aware.signalled (sent.mp stop)
        simpa using this
      · rw [state_send]
        exact aware.placed
  | notifying =>
    simp only [progress, Option.some.injEq] at moved
    subst moved
    refine kept.told (fun _ => rfl) (fun off => ?_) nofun fun worker running => ?_
    · exact .inl (by simpa [progress] using kept.quiet off)
    · have aware := kept.aware worker running
      exact ⟨fun _ _ => .inl notified, fun _ => .inl notified, nofun, aware.placed⟩
  | stopping =>
    simp only [progress, Option.some.injEq] at moved
    subst moved
    refine kept.told (fun _ => state_send) (fun _ => .inr (.inr (.inl rfl)))
      (fun _ => kept.winding (.inl progress)) fun worker running => ?_
    have aware := kept.aware worker running
    rw [progress] at aware
    refine ⟨fun idle some => ?_, fun _ => .inr (.inl rfl), fun _ => ?_, ?_⟩
    · rw [event_fd_send]
      rw [state_send] at idle
      exact (aware.idle idle some).imp_right fun telling => telling.elim nofun nofun
    · rw [state_send]
      rcases rx_send worker .Stop with ⟨stopped, -⟩ | more
      · exact .inr stopped
      · exact .inl (by simp [more])
    · rw [state_send]
      exact aware.placed
  | waking =>
    simp only [progress, Option.some.injEq] at moved
    subst moved
    refine kept.told (fun _ => rfl) (fun _ => .inr (.inr (.inr (.inl rfl))))
      (fun _ => kept.winding (.inr (.inl progress))) fun worker running => ?_
    have aware := kept.aware worker running
    exact ⟨fun _ _ => .inl notified, fun _ => .inl notified,
      fun _ => aware.told (.inl progress), aware.placed⟩
  | joining =>
    have off := kept.winding (.inr (.inr (.inl progress)))
    simp only [progress] at moved
    split at moved
    · rename_i held rx event_fd running
      cases moved
      refine ⟨kept.books, kept.numbers, kept.final, fun _ => ?_, fun _ => off, ?_⟩
      · exact .inr (.inr (.inr (.inr rfl)))
      · intro worker found
        have aware := kept.aware worker found
        have stopped : worker = ⟨.Stopped held, rx, event_fd⟩ :=
          Option.some.inj (found.symm.trans running)
        subst stopped
        refine ⟨nofun, fun sent => ?_, nofun, trivial⟩
        rcases aware.signalled sent with ready | waking | ⟨_, _, draining⟩
        · exact .inl ready
        · exact absurd (progress.symm.trans waking) nofun
        · cases draining
    · cases moved
  | resetting =>
    have off := kept.winding (.inr (.inr (.inr progress)))
    simp only [progress, Option.some.injEq] at moved
    subst moved
    have gone : ∀ other : List BufferState, .Incoming ∉ other →
        Books other session.qbufs session.events [] :=
      fun _ new => kept.books.reset new
    refine ⟨gone _ fun member => ?_, kept.numbers, ?_, fun _ => .inl rfl, fun _ => off, nofun⟩
    · obtain ⟨state, -, new⟩ := mem_map.mp member
      cases new
    · intro sent same
      exact ⟨Option.some.inj same, off, rfl⟩

theorem step {event : Event} (planes : plane_sizes ≠ []) (kept : session.Kept plane_sizes)
    (allowed : Allowed session event)
    (moved : step plane_sizes session event = some after) : after.Kept plane_sizes := by
  cases event with
  | proceed => exact kept.proceed moved
  | worker action =>
    obtain ⟨worker, running, acted⟩ := Option.bind_eq_some_iff.mp moved
    exact kept.acts planes running allowed acted
  | _ =>
    simp only [V4l2Stream.step, Session.begin] at moved
    split_ifs at moved with ready
    cases moved
    first
      | exact kept.reqbufs ready
      | exact kept.qbuf ready
      | exact kept.streamon ready
      | exact kept.streamoff ready
      | exact kept.close_session ready

theorem init : Kept plane_sizes ({} : Session) := by
  refine ⟨⟨fun _ => rfl, .nil, nofun, nofun⟩, ⟨Nat.le_refl _, rfl, nofun⟩, nofun, ?_, ?_, nofun⟩
  · intro _
    exact .inl rfl
  · intro _
    rfl

theorem lossFree (kept : session.Kept plane_sizes) : session.LossFree := by
  obtain ⟨books, numbers, final, -, -, aware⟩ := kept
  refine ⟨books.owned, books.ordered.sublist (sublist_append_left _ _), books.served,
    numbers.numbered, fun sent off => (final sent off).1, ?_⟩
  intro worker running idle unlocked awake pending
  have aware := aware worker running
  have free : session.progress ≠ .queueing ∧ session.progress ≠ .notifying := by
    simpa [locked] using unlocked
  have signalled : .Stop ∈ worker.rx → 0 < worker.event_fd := by
    intro sent
    rcases aware.signalled sent with ready | waking | ⟨caller, stop, draining⟩
    · exact ready
    · exact absurd waking awake
    · exact absurd (idle.symm.trans draining) nofun
  rcases pending with queued | sent | joining
  · rcases aware.idle idle queued with ready | queueing | notifying
    · exact ready
    · exact absurd queueing free.1
    · exact absurd notifying free.2
  · exact signalled sent
  · rcases aware.told (.inr joining) with sent | told
    · exact signalled sent
    · rw [idle] at told
      cases told

end Session.Kept

section Runs

variable {input_width input_height : UInt32}

theorem kept (reached : (machine input_width input_height).Reaches Allowed session) :
    session.Kept (V4l2Stream.plane_sizes input_width input_height) := by
  refine reached.invariant (fun session first => ?_) fun session event after kept allowed moved => ?_
  · cases first
    exact .init
  · exact kept.step (cons_ne_nil _ _) allowed moved

/-- While no data of the FIFO and no write is lost, no buffer is. -/
theorem buffers_kept (reached : (machine input_width input_height).Reaches Allowed session) :
    session.LossFree :=
  (kept reached).lossFree

end Runs

instance : DecidablePred Action.Harmless
  | .read (.ok bytes_read) => inferInstanceAs (Decidable (bytes_read ≠ 0))
  | .read .error => isFalse nofun
  | .read .would_block => isTrue trivial
  | .write ok => inferInstanceAs (Decidable (ok = true))
  | .open _ => isTrue trivial
  | .poll _ => isTrue trivial
  | .interrupted => isTrue trivial
  | .should_stop => isTrue trivial
  | .lock => isTrue trivial

instance (session : Session) : DecidablePred (Allowed session)
  | .worker action => inferInstanceAs (Decidable action.Harmless)
  | .reqbufs .. => isTrue trivial
  | .qbuf _ => isTrue trivial
  | .streamon .. => isTrue trivial
  | .streamoff _ => isTrue trivial
  | .close_session => isTrue trivial
  | .proceed => isTrue trivial

def opening : List Event :=
  [.reqbufs true false 2 (.ok ()), .qbuf 0, .qbuf 1, .streamon true true,
    .worker (.open true), .worker .lock, .worker (.poll true)]

/-- One frame of six bytes is sent back, and the next one is begun. -/
def oneFrame : List Event :=
  opening ++ [.worker (.read (.ok 4)), .worker (.write true), .worker (.poll true),
    .worker (.read (.ok 1)), .worker (.write true), .worker (.poll true),
    .worker (.read .would_block), .worker (.poll true), .worker (.read (.ok 1)),
    .worker (.write true), .qbuf 0, .proceed, .proceed, .worker (.poll false),
    .worker .should_stop]

theorem buffers_kept_oneFrame :
    (((machine 2 2).runAllowed Allowed {} oneFrame).getD {}).LossFree := by
  have reached : (machine 2 2).Reaches Allowed
      (((machine 2 2).runAllowed Allowed {} oneFrame).getD {}) :=
    Transition.Machine.Reaches.getD_runAllowed _ (.start rfl) (by decide +kernel)
  exact buffers_kept reached

def disconnected : List Event :=
  opening ++ [.worker (.read (.ok 4)), .worker (.write true), .worker (.poll true),
    .worker (.read (.ok 0))]

theorem disconnect_loses :
    (machine 2 2).Reachable (((machine 2 2).run {} disconnected).getD {}) ∧
      ¬(((machine 2 2).run {} disconnected).getD {}).LossFree := by
  constructor
  · exact Transition.Machine.Reachable.getD_run _ (.start rfl) (by decide +kernel)
  · intro free
    have owned := free.owned 0
    revert owned
    decide +kernel

end Ika.V4l2Stream
