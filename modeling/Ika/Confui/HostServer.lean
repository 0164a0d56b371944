import Mathlib.Init
import Ika.Foundation.Machine

/-!
A confirmation UI session: its states and what it does with one message.

The dialog, the encoding of a prompt and the outcome of sending and of signing come from outside.
-/

set_option autoImplicit false

namespace Ika.Confui

structure Start where
  prompt_text : String := ""
  extra_data : List UInt8 := []
  locale : String := "en"
  ui_options : List String := []
  deriving DecidableEq, Repr

abbrev kConfirm : String := "user_confirm"
abbrev kCancel : String := "user_cancel"
abbrev kUserAbort : String := "user_abort"
abbrev kUnknown : String := "user_unknown"

abbrev kSystemError : String := "system_error"
abbrev kUIError : String := "ui_error"

/-- A message of the guest or of the user; `ConfUiCmd` with its contents. -/
inductive Command where
  | start (contents : Start)
  | stop
  | cliAck (is_success : Bool) (status_message : String)
  | cliRespond (selection : String) (sign message : List UInt8)
  | abort
  | userInputEvent (response : String)
  | userTouchEvent (x y : Int)
  deriving DecidableEq, Repr

structure Message where
  session_id : String
  cmd : Command
  is_secure : Bool := false
  deriving DecidableEq, Repr

inductive MainLoopState where
  | kInit
  | kInSession
  | kWaitStop
  | kAwaitCleanup
  | kTerminated
  deriving DecidableEq, Repr

structure Session where
  session_id : String
  serial : Nat
  state : MainLoopState := .kInit
  start : Start := {}
  cbor : List UInt8 := []
  start_time : Option Nat := none

inductive Key where
  | secure
  | test

inductive Reply where
  | ack (is_success : Bool) (status : String)
  | respond (selection : String) (signed : Option (Key × List UInt8))
  | abort

inductive Mode where
  | kAndroidMode
  | kConfUI_Mode

/-- What the session has to do with besides the messages. -/
structure Platform where
  /-- The encoded prompt and extra data, or the error that is reported instead. -/
  cbor : String → List UInt8 → Except String (List UInt8)
  isConfirm : Start → Int → Int → Bool
  isCancel : Start → Int → Int → Bool

/-- How rendering, sending and signing turn out. -/
structure Outcome where
  rendered : Bool := true
  sent : Bool := true
  signed : Bool := true

/-- A session after a message, the mode if it was set, and what was sent. -/
structure Effect where
  session : Session
  mode : Option Mode := none
  replies : List Reply := []
  fatal : Bool := false

def GetGracePeriod : Nat := 1000 + 100

namespace Session

variable (platform : Platform) (now : Nat) (outcome : Outcome) (session : Session)

def IsReadyForUserInput : Bool :=
  match session.start_time with
  | none => false
  | some start_time => GetGracePeriod ≤ now - start_time

def ScheduleToTerminate : Session := {session with state := .kAwaitCleanup}

def ReportErrorToHal (msg : String) : Effect :=
  { session := session.ScheduleToTerminate
    replies := if outcome.sent then [.ack false msg] else []}

def UserAbort : Effect :=
  {session := session.ScheduleToTerminate, replies := if outcome.sent then [.abort] else []}

def HandleInit (input : Message) : Effect :=
  match input.cmd with
  | .userInputEvent _ => {session := {session with state := .kInit}}
  | .start contents =>
    let session := {session with start := contents}
    let mode := some Mode.kConfUI_Mode
    match platform.cbor contents.prompt_text contents.extra_data with
    | .error msg => {session.ReportErrorToHal outcome msg with mode}
    | .ok cbor =>
      if outcome.rendered then
        let session := {session with cbor, start_time := some now}
        if outcome.sent then
          { session := {session with state := .kInSession}, mode, replies := [.ack true "started"]}
        else {session := session.ScheduleToTerminate, mode}
      else {session.ReportErrorToHal outcome kUIError with mode}
  | _ => session.ReportErrorToHal outcome kSystemError

def SendResponse (selection : String) (signed : Option (Key × List UInt8)) : Effect :=
  if outcome.sent then
    {session := {session with state := .kWaitStop}, replies := [.respond selection signed]}
  else {session := session.ScheduleToTerminate}

def HandleInSession (input : Message) : Effect :=
  match input.cmd with
  | .userInputEvent response =>
    if response = kUnknown ∨ response = kUserAbort then session.ReportErrorToHal outcome kSystemError
    else if response = kCancel then session.SendResponse outcome kCancel none
    else if outcome.signed then
      -- the key is the only thing that depends on who gave the input
      let key := if input.is_secure then Key.secure else Key.test
      session.SendResponse outcome kConfirm (some (key, session.cbor))
    else session.ReportErrorToHal outcome kSystemError
  | _ => session.ReportErrorToHal outcome kSystemError

def HandleWaitStop (input : Message) : Effect :=
  match input.cmd with
  | .userInputEvent _ => {session := {session with state := .kWaitStop}}
  | .stop => {session := session.ScheduleToTerminate}
  | _ => {session.ReportErrorToHal outcome kSystemError with fatal := true}

def Transition (input : Message) : Effect :=
  match session.state with
  | .kInit => session.HandleInit platform now outcome input
  | .kInSession => session.HandleInSession outcome input
  | .kWaitStop => session.HandleWaitStop outcome input
  | .kTerminated => {session}
  | .kAwaitCleanup => {session, fatal := true}

/-- `HostServer::Transition`, of the current session. -/
def serverTransition (input : Message) : Effect :=
  match input.cmd with
  | .cliAck _ _ => {session, fatal := true}
  | .cliRespond _ _ _ => {session, fatal := true}
  | .userTouchEvent _ _ => {session, fatal := true}
  | .userInputEvent response =>
    if response = kUserAbort then session.UserAbort outcome
    else session.Transition platform now outcome input
  | .abort => {session := session.ScheduleToTerminate}
  | _ => session.Transition platform now outcome input

/-- What the main loop does with a message once there is a session. -/
def handle (input : Message) : Effect :=
  match input.cmd with
  | .userTouchEvent x y =>
    if platform.isConfirm session.start x y then
      session.serverTransition platform now outcome
        {session_id := session.session_id, cmd := .userInputEvent kConfirm,
          is_secure := input.is_secure}
    else if platform.isCancel session.start x y then
      session.serverTransition platform now outcome
        {session_id := session.session_id, cmd := .userInputEvent kCancel, is_secure := input.is_secure}
    else {session}
  | _ => session.serverTransition platform now outcome input

end Session

/-! The confirmation UI server: its two input queues, the main loop and the threads that
hand in what users do. Each look at the current session is a step of its own. -/

inductive UserInput where
  | touch (x y : Int)
  | abort
  deriving DecidableEq, Repr

/-- Where a thread is that hands in an input; each place is the next access to the session. -/
inductive Place where
  | entry
  | hasId
  | getId
  | hasSession
  | getState
  | isReady
  | push
  deriving DecidableEq, Repr

/-- An input on its way to the queue, with the session it was checked against. -/
structure Thread where
  input : UserInput
  place : Place := .entry
  session_id : String := ""
  /-- The session that was in `kInSession` when its state was looked at. -/
  seen : Option Nat := none
  /-- The session whose grace period was over, and when that was looked at. -/
  ready : Option (Nat × Nat) := none
  deriving DecidableEq, Repr

def Thread.message (thread : Thread) : Message :=
  match thread.input with
  | .touch x y => ⟨thread.session_id, .userTouchEvent x y, true⟩
  | .abort => ⟨thread.session_id, .userInputEvent kUserAbort, true⟩

inductive Main where
  | pop
  | transition (input : Message) (cause : Option Thread)
  | finalize
  | reset
  deriving DecidableEq, Repr

/-- A reply with the session it was sent for, as it was then, and the input it came from. -/
structure Sent where
  reply : Reply
  session : Session
  cause : Option Thread

structure State where
  curr_session_ : Option Session := none
  hal_cmd_q : List Message := []
  user_input_evt_q : List Thread := []
  mode : Mode := .kAndroidMode
  main : Main := .pop
  threads : List Thread := []
  now : Nat := 0
  created : Nat := 0
  sent : List Sent := []
  fatal : Bool := false
  /-- A session was used that was not there. -/
  missing : Bool := false

inductive Event where
  | tick (time : Nat)
  | receive (session_id : String) (cmd : Command)
  | touchEvent (x y : Int) (is_down : Bool)
  | userAbortEvent
  | thread (index : Nat)
  | pop
  | transition (outcome : Outcome)
  | finalize
  | reset

namespace State

variable (platform : Platform) (state : State)

def begin (input : UserInput) : State :=
  {state with threads := state.threads ++ [{input}]}

def setThread (index : Nat) (thread : Thread) : State :=
  {state with threads := state.threads.set index thread}

def drop (index : Nat) : State := {state with threads := state.threads.eraseIdx index}

def runThread (index : Nat) : Option State := do
  let thread ← state.threads[index]?
  some <| match thread.place, state.curr_session_ with
    | .entry, none => state.drop index
    | .entry, some _ => state.setThread index {thread with place := .hasId}
    | .hasId, none => state.setThread index {thread with session_id := "", place := .hasSession}
    | .hasId, some _ => state.setThread index {thread with place := .getId}
    | .getId, some session => state.setThread index {thread with
        session_id := session.session_id, place := .hasSession}
    | .hasSession, none => state.drop index
    | .hasSession, some _ => state.setThread index {thread with place := .getState}
    | .getState, some session =>
      if session.state = .kInSession then
        state.setThread index {thread with seen := some session.serial, place := .isReady}
      else state.drop index
    | .isReady, some session =>
      if session.IsReadyForUserInput state.now then
        state.setThread index {thread with
          ready := some (session.serial, state.now), place := .push}
      else state.drop index
    | .push, _ =>
      {state.drop index with user_input_evt_q := state.user_input_evt_q ++ [thread]}
    -- the session went away after it was found
    | .getId, none => {state with missing := true}
    | .getState, none => {state with missing := true}
    | .isReady, none => {state with missing := true}

def take (input : Message) (cause : Option Thread) : State :=
  match state.curr_session_, input.cmd with
  | some _, _ => {state with main := .transition input cause}
  | none, .start _ =>
    {state with
      curr_session_ := some {session_id := input.session_id, serial := state.created}
      created := state.created + 1
      main := .transition input cause}
  | none, _ => state

/-- The first queue that is not empty gives the next message. -/
def pop : Option State :=
  if state.main = .pop then
    match state.hal_cmd_q, state.user_input_evt_q with
    | input :: rest, _ => some ({state with hal_cmd_q := rest}.take input none)
    | [], thread :: rest =>
      some ({state with user_input_evt_q := rest}.take thread.message (some thread))
    | [], [] => none
  else none

def transition (outcome : Outcome) : Option State :=
  match state.main, state.curr_session_ with
  | .transition input cause, some session =>
    let effect := session.handle platform state.now outcome input
    let main := if effect.session.state = .kAwaitCleanup then Main.finalize else Main.pop
    some {state with
      curr_session_ := some effect.session
      mode := effect.mode.getD state.mode
      sent := state.sent ++ effect.replies.map fun reply => {reply, session, cause}
      fatal := state.fatal || effect.fatal
      main}
  | _, _ => none

def finalize : Option State :=
  match state.main, state.curr_session_ with
  | .finalize, some session =>
    some {state with
      curr_session_ := some {session with state := .kTerminated}
      fatal := state.fatal || session.state ≠ .kAwaitCleanup
      mode := .kAndroidMode
      main := .reset}
  | _, _ => none

def reset : Option State :=
  match state.main with
  | .reset => some {state with curr_session_ := none, main := .pop}
  | _ => none

/-- A fatal log ends the process, and so does the use of a missing session. -/
def step (event : Event) : Option State :=
  if state.fatal ∨ state.missing then none
  else match event with
    | .tick time => some {state with now := state.now + time}
    | .receive session_id cmd =>
      some {state with hal_cmd_q := state.hal_cmd_q ++ [{session_id, cmd}]}
    | .touchEvent x y is_down => some (if is_down then state.begin (.touch x y) else state)
    | .userAbortEvent => some (state.begin .abort)
    | .thread index => state.runThread index
    | .pop => state.pop
    | .transition outcome => state.transition platform outcome
    | .finalize => state.finalize
    | .reset => state.reset

end State

def machine (platform : Platform) : Transition.Machine State Event where
  init state := state = {}
  step := State.step platform

end Ika.Confui
