import Ika.Confui.HostServer
import Mathlib.Data.List.Basic

/-! What one message can do to a session, in each of its states. -/

set_option autoImplicit false

namespace Ika.Confui

def Session.Running (session : Session) : Prop :=
  session.state = .kInSession ∨ session.state = .kWaitStop

def Session.Started (platform : Platform) (session : Session) : Prop :=
  (∃ start_time, session.start_time = some start_time) ∧
    platform.cbor session.start.prompt_text session.start.extra_data = .ok session.cbor

/-- A reply signed with the secure key. -/
def Reply.Secure (reply : Reply) (message : List UInt8) : Prop :=
  ∃ selection, reply = .respond selection (some (.secure, message))

variable {platform : Platform} {now : Nat} {outcome : Outcome} {session : Session}
  {input : Message}

/-- The session goes on with its name and dialog, or ends. -/
structure Follows (platform : Platform) (session : Session) (effect : Effect) : Prop where
  serial : effect.session.serial = session.serial
  session_id : effect.session.session_id = session.session_id
  state : effect.session.Running ∨ effect.session.state = .kAwaitCleanup
  started : effect.session.Running → effect.session.Started platform
  keeps : session.Running → effect.session.start_time = session.start_time
  answered : session.state = .kWaitStop → effect.session.state ≠ .kInSession
  replies : effect.replies.length ≤ 1

namespace Follows

variable {replies : List Reply}

theorem ended {mode : Option Mode} {fatal : Bool} (serial : Session)
    (same : serial.serial = session.serial) (id : serial.session_id = session.session_id)
    (time : session.Running → serial.start_time = session.start_time) (short : replies.length ≤ 1) :
    Follows platform session {session := serial.ScheduleToTerminate, mode, replies, fatal} where
  serial := same
  session_id := id
  state := .inr rfl
  started running := by rcases running with running | running <;> cases running
  keeps := time
  answered _ := by simp [Session.ScheduleToTerminate]
  replies := short

theorem waits (started : session.Started platform) (short : replies.length ≤ 1) :
    Follows platform session {session := {session with state := .kWaitStop}, replies} where
  serial := rfl
  session_id := rfl
  state := .inl (.inr rfl)
  started _ := started
  keeps _ := rfl
  answered _ := by simp
  replies := short

end Follows

variable {reply : Reply} {message : List UInt8}

theorem short_reply {sent : Bool} : (if sent then [reply] else []).length ≤ 1 := by
  split <;> simp

theorem Session.follows_init (fresh : session.state = .kInit) {contents : Start}
    (starts : input.cmd = .start contents) :
    Follows platform session (session.HandleInit platform now outcome input) := by
  have time : ∀ other : Session, session.Running → other.start_time = session.start_time := by
    intro other running
    rcases running with running | running <;> simp [fresh] at running
  unfold Session.HandleInit
  simp only [starts]
  cases encoded : platform.cbor contents.prompt_text contents.extra_data with
  | error msg => exact Follows.ended {session with start := contents} rfl rfl (time _) short_reply
  | ok cbor =>
    dsimp only
    split_ifs
    · exact ⟨rfl, rfl, .inl (.inl rfl), fun _ => ⟨⟨now, rfl⟩, encoded⟩, time _,
        fun waits => by simp [fresh] at waits, by simp⟩
    · exact Follows.ended _ rfl rfl (time _) (by simp)
    · exact Follows.ended {session with start := contents} rfl rfl (time _) short_reply

theorem Session.follows_response {selection : String} {signed : Option (Key × List UInt8)}
    (started : session.Started platform) :
    Follows platform session (session.SendResponse outcome selection signed) := by
  unfold Session.SendResponse
  split
  · exact .waits started (by simp)
  · exact Follows.ended session rfl rfl (fun _ => rfl) (by simp)

theorem Session.follows_inSession (started : session.Started platform) :
    Follows platform session (session.HandleInSession outcome input) := by
  have report : Follows platform session (session.ReportErrorToHal outcome kSystemError) :=
    Follows.ended session rfl rfl (fun _ => rfl) short_reply
  unfold Session.HandleInSession
  split
  · split_ifs
    · exact report
    · exact Session.follows_response started
    · exact Session.follows_response started
    · exact Session.follows_response started
    · exact report
  · exact report

theorem Session.follows_waitStop (started : session.Started platform) :
    Follows platform session (session.HandleWaitStop outcome input) := by
  unfold Session.HandleWaitStop
  split
  · exact .waits started (by simp)
  · exact Follows.ended session rfl rfl (fun _ => rfl) (by simp)
  · exact Follows.ended session rfl rfl (fun _ => rfl) short_reply

def Ready (platform : Platform) (session : Session) (input : Message) : Prop :=
  (session.state = .kInit ∧ ∃ contents, input.cmd = .start contents) ∨
    session.Running ∧ session.Started platform

theorem Ready.touched {x y : Int} (ready : Ready platform session input)
    (touch : input.cmd = .userTouchEvent x y) : session.Running ∧ session.Started platform := by
  rcases ready with ⟨-, contents, starts⟩ | running
  · rw [touch] at starts
    cases starts
  · exact running

theorem Session.follows_transition (ready : Ready platform session input) :
    Follows platform session (session.Transition platform now outcome input) := by
  unfold Session.Transition
  rcases ready with ⟨fresh, contents, starts⟩ | ⟨running, started⟩
  · rw [fresh]
    exact Session.follows_init fresh starts
  · rcases running with state | state
    · rw [state]
      exact Session.follows_inSession started
    · rw [state]
      exact Session.follows_waitStop started

theorem Session.follows_server (ready : Ready platform session input)
    (known : ∀ x y, input.cmd ≠ .userTouchEvent x y)
    (handled : ∀ ok status, input.cmd ≠ .cliAck ok status)
    (handled' : ∀ selection sign message, input.cmd ≠ .cliRespond selection sign message) :
    Follows platform session (session.serverTransition platform now outcome input) := by
  unfold Session.serverTransition
  split
  · rename_i cmd
    exact absurd cmd (handled _ _)
  · rename_i cmd
    exact absurd cmd (handled' _ _ _)
  · rename_i cmd
    exact absurd cmd (known _ _)
  · split_ifs
    · exact Follows.ended session rfl rfl (fun _ => rfl) short_reply
    · exact Session.follows_transition ready
  · exact Follows.ended session rfl rfl (fun _ => rfl) (by simp)
  · exact Session.follows_transition ready

def Handled (session : Session) (input : Message) : Prop :=
  match input.cmd with
  | .cliAck _ _ => False
  | .cliRespond _ _ _ => False
  | .start _ => session.state ≠ .kWaitStop
  | _ => True

instance (session : Session) (input : Message) : Decidable (Handled session input) := by
  unfold Handled
  split <;> infer_instance

theorem Session.follows (now : Nat) (outcome : Outcome) (ready : Ready platform session input)
    (handled : Handled session input) :
    Follows platform session (session.handle platform now outcome input) := by
  unfold Session.handle
  split
  · rename_i x y cmd
    have running := ready.touched cmd
    split_ifs
    · exact Session.follows_server (.inr running) (by simp) (by simp) (by simp)
    · exact Session.follows_server (.inr running) (by simp) (by simp) (by simp)
    · exact ⟨rfl, rfl, .inl running.1, fun _ => running.2, fun _ => rfl,
        fun waits => by simp [waits], by simp⟩
  · rename_i cmd
    refine Session.follows_server ready (fun x y same => cmd x y same) ?_ ?_
    · intro ok status same
      simp [Handled, same] at handled
    · intro selection sign message same
      simp [Handled, same] at handled

theorem Session.init_fatal : (session.HandleInit platform now outcome input).fatal = false := by
  unfold Session.HandleInit
  split
  · rfl
  · dsimp only
    split
    · rfl
    · split_ifs <;> rfl
  · rfl

theorem Session.inSession_fatal : (session.HandleInSession outcome input).fatal = false := by
  unfold Session.HandleInSession Session.SendResponse
  split
  · split_ifs <;> rfl
  · rfl

theorem Session.server_fatal (ready : Ready platform session input) (handled : Handled session input)
    (known : ∀ x y, input.cmd ≠ .userTouchEvent x y) :
    (session.serverTransition platform now outcome input).fatal = false := by
  have next : ((∃ contents, input.cmd = .start contents) ∨ input.cmd = .stop ∨
      ∃ response, input.cmd = .userInputEvent response) →
      (session.Transition platform now outcome input).fatal = false := by
    intro kind
    unfold Session.Transition
    rcases ready with ⟨fresh, _⟩ | ⟨state | state, _⟩
    · rw [fresh]
      exact Session.init_fatal
    · rw [state]
      exact Session.inSession_fatal
    · rw [state]
      unfold Session.HandleWaitStop
      rcases kind with ⟨contents, cmd⟩ | cmd | ⟨response, cmd⟩
      · -- a second start is the only message that is not answered here
        simp [Handled, cmd, state] at handled
      · simp [cmd]
      · simp [cmd]
  unfold Session.serverTransition
  split
  · rename_i cmd
    simp [Handled, cmd] at handled
  · rename_i cmd
    simp [Handled, cmd] at handled
  · rename_i cmd
    exact absurd cmd (known _ _)
  · rename_i response cmd
    split_ifs
    · rfl
    · exact next (.inr (.inr ⟨response, cmd⟩))
  · rfl
  · refine next ?_
    cases cmd : input.cmd with
    | start contents => exact .inl ⟨contents, rfl⟩
    | stop => exact .inr (.inl rfl)
    | userInputEvent response => exact .inr (.inr ⟨response, rfl⟩)
    | cliAck ok status => simp_all
    | cliRespond selection sign message => simp_all
    | abort => simp_all
    | userTouchEvent x y => simp_all

theorem Session.handle_fatal (now : Nat) (outcome : Outcome) (ready : Ready platform session input)
    (handled : Handled session input) :
    (session.handle platform now outcome input).fatal = false := by
  unfold Session.handle
  split
  · rename_i x y cmd
    have running := ready.touched cmd
    split_ifs
    · exact Session.server_fatal (.inr running) trivial (by simp)
    · exact Session.server_fatal (.inr running) trivial (by simp)
    · rfl
  · rename_i cmd
    exact Session.server_fatal ready handled fun x y same => cmd x y same

theorem Session.transition_signed (secure : reply.Secure message)
    (mem : reply ∈ (session.Transition platform now outcome input).replies) :
    session.state = .kInSession ∧ input.is_secure = true ∧ message = session.cbor ∧
      (session.Transition platform now outcome input).session.state = .kWaitStop ∧
      ∃ response, input.cmd = .userInputEvent response ∧ response ≠ kUserAbort ∧
        response ≠ kCancel := by
  obtain ⟨selection, rfl⟩ := secure
  have report : ∀ msg, Reply.respond selection (some (Key.secure, message)) ∉
      (session.ReportErrorToHal outcome msg).replies := by
    intro msg
    unfold Session.ReportErrorToHal
    split <;> simp
  unfold Session.Transition at mem ⊢
  cases state : session.state with
  | kInit =>
    simp only [state] at mem
    unfold Session.HandleInit at mem
    split at mem
    · simp at mem
    · dsimp only at mem
      split at mem
      · exact absurd mem (by simp [Session.ReportErrorToHal])
      · split_ifs at mem <;> simp [Session.ReportErrorToHal] at mem
    · exact absurd mem (report _)
  | kInSession =>
    simp only [state] at mem ⊢
    unfold Session.HandleInSession at mem ⊢
    cases cmd : input.cmd with
    | userInputEvent response =>
      simp only [cmd] at mem ⊢
      by_cases bad : response = kUnknown ∨ response = kUserAbort
      · rw [if_pos bad] at mem
        exact absurd mem (report _)
      · rw [if_neg bad] at mem ⊢
        rw [not_or] at bad
        by_cases cancel : response = kCancel
        · rw [if_pos cancel] at mem
          unfold Session.SendResponse at mem
          split at mem <;> simp at mem
        · rw [if_neg cancel] at mem ⊢
          cases signed : outcome.signed with
          | false =>
            rw [signed, if_neg Bool.false_ne_true] at mem
            exact absurd mem (report _)
          | true =>
            simp only [signed, if_true] at mem ⊢
            unfold Session.SendResponse at mem ⊢
            cases sent : outcome.sent with
            | false => simp [sent] at mem
            | true =>
              cases key : input.is_secure with
              | false => simp [sent, key] at mem
              | true =>
                simp [sent, key] at mem
                exact ⟨trivial, rfl, mem.2, rfl, response, rfl, bad.2, cancel⟩
    | _ =>
      simp only [cmd] at mem
      exact absurd mem (report _)
  | kWaitStop =>
    simp only [state] at mem
    unfold Session.HandleWaitStop at mem
    split at mem
    · simp at mem
    · simp at mem
    · exact absurd mem (report _)
  | kAwaitCleanup => simp [state] at mem
  | kTerminated => simp [state] at mem

/-- What a secure signature says about the session and the input it was given for. -/
structure Signed (platform : Platform) (session : Session) (input : Message) (after : Session)
    (message : List UInt8) : Prop where
  before : session.state = .kInSession
  after : after.state = .kWaitStop
  secure : input.is_secure = true
  message : message = session.cbor
  input : (∃ x y, input.cmd = .userTouchEvent x y ∧ platform.isConfirm session.start x y = true) ∨
    ∃ response, input.cmd = .userInputEvent response ∧ response ≠ kUserAbort

theorem Session.server_signed (secure : reply.Secure message)
    (mem : reply ∈ (session.serverTransition platform now outcome input).replies) :
    session.state = .kInSession ∧ input.is_secure = true ∧ message = session.cbor ∧
      (session.serverTransition platform now outcome input).session.state = .kWaitStop ∧
      ∃ response, input.cmd = .userInputEvent response ∧ response ≠ kUserAbort ∧
        response ≠ kCancel := by
  have abort : reply ∉ (session.UserAbort outcome).replies := by
    obtain ⟨selection, rfl⟩ := secure
    unfold Session.UserAbort
    split <;> simp
  unfold Session.serverTransition at mem ⊢
  cases cmd : input.cmd with
  | userInputEvent response =>
    simp only [cmd] at mem ⊢
    by_cases stops : response = kUserAbort
    · rw [if_pos stops] at mem
      exact absurd mem abort
    · rw [if_neg stops] at mem ⊢
      have signed := Session.transition_signed secure mem
      rwa [cmd] at signed
  | start contents =>
    simp only [cmd] at mem
    obtain ⟨_, _, _, _, response, other, _⟩ := Session.transition_signed secure mem
    rw [cmd] at other
    cases other
  | stop =>
    simp only [cmd] at mem
    obtain ⟨_, _, _, _, response, other, _⟩ := Session.transition_signed secure mem
    rw [cmd] at other
    cases other
  | _ => simp [cmd] at mem

theorem Session.handle_signed {reply : Reply} {message : List UInt8} (secure : reply.Secure message)
    (mem : reply ∈ (session.handle platform now outcome input).replies) :
    Signed platform session input (session.handle platform now outcome input).session message := by
  unfold Session.handle at mem ⊢
  cases cmd : input.cmd with
  | userTouchEvent x y =>
    simp only [cmd] at mem ⊢
    by_cases confirm : platform.isConfirm session.start x y = true
    · rw [if_pos confirm] at mem ⊢
      obtain ⟨before, key, same, after, _⟩ := Session.server_signed secure mem
      exact ⟨before, after, key, same, .inl ⟨x, y, cmd, confirm⟩⟩
    · rw [if_neg confirm] at mem
      split at mem
      · -- a cancel is not signed
        obtain ⟨_, _, _, _, response, other, _, differs⟩ := Session.server_signed secure mem
        cases other
        exact absurd rfl differs
      · simp at mem
  | _ =>
    simp only [cmd] at mem ⊢
    obtain ⟨before, key, same, after, response, is, keeps, _⟩ := Session.server_signed secure mem
    exact ⟨before, after, key, same, .inr ⟨response, is, keeps⟩⟩

/-- The message does nothing: a touch beside the buttons, or a second answer of the user. -/
def Ignores (platform : Platform) (session : Session) (input : Message) : Prop :=
  match input.cmd with
  | .userTouchEvent x y => session.state = .kWaitStop ∨
      (platform.isConfirm session.start x y = false ∧ platform.isCancel session.start x y = false)
  | .userInputEvent response => session.state = .kWaitStop ∧ response ≠ kUserAbort
  | _ => False

instance (session : Session) (input : Message) : Decidable (Ignores platform session input) := by
  unfold Ignores
  split <;> infer_instance

theorem Session.handle_ignored (ignores : Ignores platform session input) :
    session.handle platform now outcome input = {session} := by
  have waits : ∀ other : Message, session.state = .kWaitStop →
      (∃ response, other.cmd = .userInputEvent response ∧ response ≠ kUserAbort) →
      session.serverTransition platform now outcome other = {session} := by
    rintro other state ⟨response, cmd, keeps⟩
    simp only [Session.serverTransition, cmd, if_neg keeps, Session.Transition, state,
      Session.HandleWaitStop]
    rw [← state]
  unfold Ignores at ignores
  unfold Session.handle
  cases cmd : input.cmd with
  | userTouchEvent x y =>
    simp only [cmd] at ignores ⊢
    rcases ignores with state | ⟨confirm, cancel⟩
    · split_ifs
      · exact waits _ state ⟨kConfirm, rfl, by decide⟩
      · exact waits _ state ⟨kCancel, rfl, by decide⟩
      · rfl
    · simp [confirm, cancel]
  | userInputEvent response =>
    simp only [cmd] at ignores ⊢
    exact waits input ignores.1 ⟨response, cmd, ignores.2⟩
  | _ => simp [cmd] at ignores

end Ika.Confui
