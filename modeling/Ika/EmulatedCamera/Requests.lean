import Ika.EmulatedCamera.Session

/-! The requests of a session on their way from a `qbuf` to the guest, and in which order. -/

set_option autoImplicit false

namespace Ika.EmulatedCamera

open List

def Completing.tickets : Completing → List Nat
  | .checking event => [event.ticket]
  | .locking event => [event.ticket]
  | .holding event => [event.ticket]
  | .sending event => [event.ticket]
  | _ => []

def Capturing.tickets : Capturing → List Nat
  | .writing request _ _ => [request.ticket]
  | .completing request _ => [request.ticket]
  | _ => []

def ChannelCmd.ticket : ChannelCmd → Option Nat
  | .Queue request => some request.ticket
  | _ => none

def Progress.tickets : Progress → List Nat
  | .queueing request => [request.ticket]
  | _ => []

def ChannelCmd.pending (pending : List CaptureRequest) : ChannelCmd → List CaptureRequest
  | .StopCapture => []
  | .Queue request => pending ++ [request]
  | _ => pending

@[simp] theorem pending_handle_cmd {processor : CaptureProcessor} {cmd : ChannelCmd} :
    (processor.handle_cmd cmd).pending_requests = cmd.pending processor.pending_requests := by
  cases cmd <;> rfl

def Stored (allocation : Nat) (buffers : List Buffer) : Prop :=
  ∀ index (buffer : Buffer), buffers[index]? = some buffer →
    buffer.planes = ⟨allocation, index⟩

variable {buffers : List Buffer} {state : BufferState}

theorem Stored.reset {allocation : Nat} (stored : Stored allocation buffers) :
    Stored allocation (buffers.map (Buffer.set_state state)) := by
  intro index buffer found
  rw [getElem?_map] at found
  obtain ⟨old, there, rfl⟩ := Option.map_eq_some_iff.mp found
  exact stored index old there

theorem queued_reset : ∀ buffer ∈ buffers.map (Buffer.set_state state), buffer.queued = none := by
  intro buffer member
  obtain ⟨old, -, rfl⟩ := mem_map.mp member
  rfl

theorem Stored.made {allocation count : Nat} :
    Stored allocation ((List.range count).map fun index => ⟨.New, ⟨allocation, index⟩, none⟩) := by
  intro index buffer found
  rw [getElem?_map] at found
  obtain ⟨same, there, rfl⟩ := Option.map_eq_some_iff.mp found
  have := (List.getElem?_eq_some_iff.mp there).2
  simp [← this]

namespace Session

variable (session : Session)

def waiting : List Nat :=
  session.processor.pending_requests.map CaptureRequest.ticket ++
    (session.cmds.filterMap ChannelCmd.ticket ++ session.progress.tickets)

def behind : List Nat :=
  session.completions.map CaptureCompletedEvent.ticket ++
    (session.processor.capturing.tickets ++ session.waiting)

def tickets : List Nat :=
  session.events.map DequeueBufferEvent.ticket ++ (session.completing.tickets ++ session.behind)

def left : List CaptureRequest :=
  session.cmds.foldl ChannelCmd.pending session.processor.pending_requests

/-- The requests on their way are in the order of their `qbuf`s. -/
structure Ordered : Prop where
  ascending : session.tickets.Pairwise (· < ·)
  fresh : ∀ ticket ∈ session.tickets, ticket < session.qbufs

inductive Flows (session after : Session) : Prop
  | on : after.tickets.Sublist session.tickets → after.qbufs = session.qbufs → Flows session after
  | queued : after.tickets = session.tickets ++ [session.qbufs] →
      after.qbufs = session.qbufs + 1 → Flows session after

variable {session} {after : Session}

theorem Ordered.flows (ordered : session.Ordered) (flows : Flows session after) :
    after.Ordered := by
  obtain ⟨ascending, fresh⟩ := ordered
  cases flows with
  | on part same =>
    refine ⟨ascending.sublist part, fun ticket member => ?_⟩
    rw [same]
    exact fresh ticket (part.subset member)
  | queued more next =>
    constructor
    · rw [more]
      refine pairwise_append.mpr ⟨ascending, pairwise_singleton _ _, ?_⟩
      intro ticket member last isLast
      rw [mem_singleton.mp isLast]
      exact fresh ticket member
    · intro ticket member
      rw [more] at member
      rw [next]
      rcases mem_append.mp member with old | new
      · exact Nat.lt_succ_of_lt (fresh ticket old)
      · rw [mem_singleton.mp new]
        exact Nat.lt_succ_self _

section Order

variable (ordered : session.Ordered)
include ordered

theorem Ordered.after_sent {ticket : Nat}
    (member : ticket ∈ session.completing.tickets ++ session.behind) :
    ticket ∉ session.events.map DequeueBufferEvent.ticket := by
  intro sent
  have := (pairwise_append.mp ordered.ascending).2.2 _ sent _ member
  omega

variable {first second : Nat}

theorem Ordered.after_received (received : first ∈ session.completing.tickets)
    (member : second ∈ session.behind) : first < second :=
  (pairwise_append.mp (pairwise_append.mp ordered.ascending).2.1).2.2 _ received _ member

theorem Ordered.after_completed
    (completed : first ∈ session.completions.map CaptureCompletedEvent.ticket)
    (member : second ∈ session.processor.capturing.tickets ++ session.waiting) :
    first < second := by
  have behind := (pairwise_append.mp (pairwise_append.mp ordered.ascending).2.1).2.1
  exact (pairwise_append.mp behind).2.2 _ completed _ member

end Order

theorem left_waits {request : CaptureRequest} (member : request ∈ session.left) :
    request.ticket ∈ session.waiting := by
  have part : ∀ (cmds : List ChannelCmd) (pending : List CaptureRequest),
      request ∈ cmds.foldl ChannelCmd.pending pending →
      request ∈ pending ∨ request.ticket ∈ cmds.filterMap ChannelCmd.ticket := by
    intro cmds
    induction cmds with
    | nil => exact fun pending member => .inl member
    | cons cmd rest ih =>
      intro pending member
      have := ih (cmd.pending pending) member
      cases cmd with
      | StartCapture => exact this
      | StopCapture => exact .inr (this.resolve_left nofun)
      | Queue other =>
        rcases this with waits | sent
        · rcases mem_append.mp waits with old | new
          · exact .inl old
          · rw [mem_singleton.mp new]
            exact .inr mem_cons_self
        · exact .inr (mem_cons_of_mem _ sent)
      | Shutdown => exact this
  unfold waiting
  rcases part _ _ member with pending | sent
  · exact mem_append_left _ (mem_map_of_mem pending)
  · exact mem_append_right _ (mem_append_left _ sent)

theorem Flows.same (tickets : after.tickets = session.tickets) (qbufs : after.qbufs = session.qbufs) :
    Flows session after :=
  .on (tickets ▸ .refl _) qbufs

theorem begin_spec {ioctl : Session → Session} (begun : session.begin ioctl = some after) :
    session.progress = .ready ∧ after = ioctl session := by
  unfold begin at begun
  split at begun
  · rename_i ready
    cases begun
    exact ⟨ready, rfl⟩
  · cases begun

theorem qbuf_flows {buffer_idx : Nat} {cloned : Bool} (ready : session.progress = .ready) :
    Flows session (session.qbuf buffer_idx cloned).1 := by
  unfold qbuf
  split
  · exact .same rfl rfl
  · split_ifs
    · exact .same rfl rfl
    · refine .queued ?_ rfl
      simp [tickets, behind, waiting, Progress.tickets, ready]
    · exact .same rfl rfl

variable {expected : Bool} {dropped : UInt64}

section

variable (ready : session.progress = .ready)
include ready

theorem reqbufs_flows {other : Bool} {count : UInt32} {allocated : Except Errno Unit}
    :
    Flows session (session.reqbufs expected other count allocated).1 := by
  unfold reqbufs
  split_ifs
  · exact .same rfl rfl
  · exact .same rfl rfl
  · exact .same rfl rfl
  · refine .same ?_ rfl
    simp [tickets, behind, waiting, Progress.tickets, ready]

theorem streamon_flows : Flows session (session.streamon expected).1 := by
  unfold streamon
  split_ifs
  · exact .same rfl rfl
  · exact .same rfl rfl
  · refine .same ?_ rfl
    simp [tickets, behind, waiting, Progress.tickets, ready]

theorem streamoff_flows : Flows session (session.streamoff expected).1 := by
  unfold streamoff
  split_ifs
  · exact .same rfl rfl
  · refine .same ?_ rfl
    simp [tickets, behind, waiting, Progress.tickets, ready]

theorem close_flows : Flows session session.close_session := by
  refine .same ?_ rfl
  simp [close_session, tickets, behind, waiting, Progress.tickets, ChannelCmd.ticket, ready]

end

theorem allocate_spec (session : Session) (count : UInt32) (allocated : Except Errno Unit) :
    ∃ buffers allocation streaming cmds, session.allocate count allocated =
        {session with buffers, allocation, streaming, cmds} ∧
      (count = 0 ∧ streaming = false ∧ cmds = session.cmds ++ [.StopCapture] ∨
        count ≠ 0 ∧ streaming = session.streaming ∧ cmds = session.cmds) ∧
      (∀ buffer ∈ buffers, buffer.queued = none) ∧
      (Stored session.allocation session.buffers → Stored allocation buffers) := by
  have unqueued : ∀ allocation count : Nat, ∀ buffer ∈ (List.range count).map fun index =>
      (⟨.New, ⟨allocation, index⟩, none⟩ : Buffer), buffer.queued = none := by
    intro allocation count buffer member
    obtain ⟨index, -, rfl⟩ := mem_map.mp member
    rfl
  unfold allocate
  by_cases zero : count = 0
  · simp only [if_pos zero]
    cases allocated with
    | error e => exact ⟨_, _, _, _, rfl, .inl ⟨zero, rfl, rfl⟩, nofun, fun _ _ _ => nofun⟩
    | ok => exact ⟨_, _, _, _, rfl, .inl ⟨zero, rfl, rfl⟩, unqueued _ _, fun _ => .made⟩
  · simp only [if_neg zero]
    cases allocated with
    | error e => exact ⟨_, _, _, _, rfl, .inr ⟨zero, rfl, rfl⟩, queued_reset, .reset⟩
    | ok => exact ⟨_, _, _, _, rfl, .inr ⟨zero, rfl, rfl⟩, unqueued _ _, fun _ => .made⟩

theorem proceed_flows (moved : session.proceed = some after) : Flows session after := by
  unfold proceed at moved
  split at moved <;> rename_i progress
  · cases moved
  · cases moved
    refine .same ?_ rfl
    simp [tickets, behind, waiting, Progress.tickets, ChannelCmd.ticket, progress]
  · cases moved
    refine .same ?_ rfl
    simp [tickets, behind, waiting, Progress.tickets, progress]
  · cases moved
    refine .same ?_ rfl
    simp [tickets, behind, waiting, Progress.tickets, ChannelCmd.ticket, progress]
  · split_ifs at moved
    cases moved
    refine .same ?_ rfl
    simp [tickets, behind, waiting, Progress.tickets, progress]
  · cases moved
    refine .same ?_ rfl
    simp [tickets, behind, waiting, Progress.tickets, ChannelCmd.ticket, progress]
  · split_ifs at moved
    cases moved
    obtain ⟨buffers, allocation, streaming, cmds, same, sent, -⟩ :=
      allocate_spec session _ _
    rw [same]
    refine .same ?_ rfl
    rcases sent with ⟨-, -, rfl⟩ | ⟨-, -, rfl⟩ <;>
      simp [tickets, behind, waiting, Progress.tickets, ChannelCmd.ticket, progress]
  · cases moved
    refine .same ?_ rfl
    simp [tickets, behind, waiting, Progress.tickets, progress]
  · split at moved
    · cases moved
      refine .same ?_ rfl
      simp [tickets, behind, waiting, Progress.tickets, progress]
    · cases moved
  · cases moved

theorem command_flows (moved : session.command = some after) : Flows session after := by
  unfold command at moved
  split at moved
  · rename_i cmd cmds waiting sent
    cases moved
    cases cmd with
    | StartCapture =>
      refine .same ?_ rfl
      simp [tickets, behind, Session.waiting, CaptureProcessor.handle_cmd, ChannelCmd.ticket, sent,
        filterMap_cons]
    | StopCapture =>
      refine .on ?_ rfl
      simp [tickets, behind, Session.waiting, CaptureProcessor.handle_cmd, ChannelCmd.ticket, sent,
        filterMap_cons]
    | Queue request =>
      refine .same ?_ rfl
      simp [tickets, behind, Session.waiting, CaptureProcessor.handle_cmd, ChannelCmd.ticket, sent]
    | Shutdown =>
      refine .same ?_ rfl
      simp [tickets, behind, Session.waiting, CaptureProcessor.handle_cmd, ChannelCmd.ticket,
        Capturing.tickets, sent, waiting, filterMap_cons]
  · cases moved

theorem tick_flows (moved : session.tick dropped = some after) : Flows session after := by
  unfold tick at moved
  split at moved
  · rename_i waiting sent
    split_ifs at moved
    cases moved
    refine .same ?_ rfl
    unfold CaptureProcessor.produce_capture
    cases pending : session.processor.pending_requests <;>
      simp [tickets, behind, Session.waiting, CaptureProcessor.advance, Capturing.tickets, pending,
        sent, waiting]
  · cases moved

theorem write_flows {ok : Bool} (moved : session.write ok = some after) : Flows session after := by
  unfold write at moved
  split at moved
  · rename_i request sequence plane writing
    have on : (Capturing.written request sequence plane ok).tickets = [request.ticket] := by
      cases plane <;> cases ok <;> rfl
    have was : session.processor.capturing.tickets = [request.ticket] := by
      rw [writing]
      rfl
    dsimp only at moved
    split_ifs at moved <;> cases moved <;> refine .same ?_ rfl <;>
      simp [tickets, behind, waiting, on, was]
  · cases moved

theorem finish_flows (moved : session.finish dropped = some after) : Flows session after := by
  unfold finish at moved
  split at moved
  · rename_i request sequence completing
    cases moved
    refine .same ?_ rfl
    simp [tickets, behind, waiting, CaptureProcessor.advance, Capturing.tickets, completing]
  · cases moved

theorem completion_flows (moved : session.completion = some after) : Flows session after := by
  unfold completion at moved
  split at moved <;> rename_i completing
  · split at moved
    · rename_i event completions received
      cases moved
      refine .same ?_ rfl
      simp [tickets, behind, waiting, Completing.tickets, completing, received]
    · split_ifs at moved
      cases moved
      refine .same ?_ rfl
      simp [tickets, behind, waiting, Completing.tickets, completing]
  · split_ifs at moved <;> cases moved
    · refine .same ?_ rfl
      simp [tickets, behind, waiting, Completing.tickets, completing]
    · refine .on ?_ rfl
      simp [tickets, behind, waiting, Completing.tickets, completing]
  · cases moved
    refine .same ?_ rfl
    simp [tickets, behind, waiting, Completing.tickets, completing]
  · split at moved <;> cases moved
    · refine .on ?_ rfl
      simp [tickets, behind, waiting, Completing.tickets, completing]
    · refine .same ?_ rfl
      simp [tickets, behind, waiting, Completing.tickets, completing]
  · cases moved
    refine .same ?_ rfl
    simp [tickets, behind, waiting, Completing.tickets, completing]
  · cases moved

theorem step_flows {event : Event} (moved : step session event = some after) :
    Flows session after := by
  cases event with
  | qbuf =>
    simp only [step] at moved
    split_ifs at moved
    obtain ⟨ready, rfl⟩ := begin_spec moved
    exact qbuf_flows ready
  | reqbufs =>
    simp only [step] at moved
    obtain ⟨ready, rfl⟩ := begin_spec moved
    exact reqbufs_flows ready
  | streamon =>
    simp only [step] at moved
    split_ifs at moved
    obtain ⟨ready, rfl⟩ := begin_spec moved
    exact streamon_flows ready
  | streamoff =>
    simp only [step] at moved
    obtain ⟨ready, rfl⟩ := begin_spec moved
    exact streamoff_flows ready
  | close_session =>
    simp only [step] at moved
    obtain ⟨ready, rfl⟩ := begin_spec moved
    exact close_flows ready
  | proceed => exact proceed_flows moved
  | command => exact command_flows moved
  | tick => exact tick_flows moved
  | write => exact write_flows moved
  | finish => exact finish_flows moved
  | completion => exact completion_flows moved

end Session

theorem ordered {session : Session} {allowed : Session → Event → Prop}
    (reached : machine.Reaches allowed session) : session.Ordered := by
  refine reached.invariant (fun session first => ?_) fun session event after ordered _ moved => ?_
  · cases first
    exact ⟨.nil, nofun⟩
  · exact ordered.flows (Session.step_flows moved)

end Ika.EmulatedCamera
