import Ika.Foundation.Machine
import Mathlib.Data.List.Nodup

/-!
The process monitor of a virtual device.

The monitor is a process of its own with two threads: one reads what the parent asks for, the other
waits for the monitored processes. They share the entries and a flag.
-/

set_option autoImplicit false

namespace Ika.ProcessMonitor

inductive ProcessCategory where
  | kVmm
  | kCriticalSupport
  | kNonCriticalSupport
  deriving DecidableEq, Repr

inductive ProcessMonitorExit where
  | kExpected
  | kUnexpected
  deriving DecidableEq, Repr

inductive Status where
  | exited (code : Int)
  | signaled (signal : Nat)
  deriving DecidableEq, Repr

/-- A command that is monitored, with its process. -/
structure MonitorEntry where
  prog_name : String
  is_critical : Bool
  category : ProcessCategory
  expected_exit_codes : List Int
  pid : Nat
  deriving DecidableEq, Repr

namespace MonitorEntry

variable (entry : MonitorEntry) (status : Status)

def is_vmm : Bool := entry.category = .kVmm

/-- Only the VMM ends the monitor cleanly; an exit of another critical process is a crash. -/
def expected_exit : Bool :=
  match status with
  | .exited code =>
    (entry.is_vmm || !entry.is_critical) && entry.expected_exit_codes.contains code
  | .signaled _ => false

def isSkipped : Bool :=
  entry.prog_name = "log_tee" || entry.prog_name = "wmediumd" || entry.prog_name = "secure_env" ||
    "cf_vhost_user_".toList.isPrefixOf entry.prog_name.toList

end MonitorEntry

inductive ParentToChildMessageType where
  | kStop
  | kHostResume
  | kHostSuspend
  deriving DecidableEq, Repr

inductive StopperResult where
  | kSuccess
  | kFailure
  | kCrash
  deriving DecidableEq, Repr

inductive Parent where
  | idle
  | receiving
  /-- In `waitpid`, after a request to stop. -/
  | stopping
  /-- In `WaitForMonitor`. -/
  | waiting
  | alone
  deriving DecidableEq, Repr

/-- Where the thread is that runs `MonitorRoutine`; no verdict is that `wait` has failed. -/
inductive Main where
  | checking
  | waiting
  | reaped (pid : Nat) (status : Status)
  | handling (pid : Nat) (status : Status)
  | returned (verdict : Option ProcessMonitorExit)
  | joining (verdict : Option ProcessMonitorExit)
  /-- In `StopSubprocesses`, before the next entry; `all` is that none has failed. -/
  | stopping (verdict : Option ProcessMonitorExit) (todo : List MonitorEntry) (all : Bool)
  | awaiting (verdict : Option ProcessMonitorExit) (entry : MonitorEntry)
    (todo : List MonitorEntry) (all : Bool)
  | done (verdict result : Option ProcessMonitorExit)
  deriving DecidableEq, Repr

/-- Where the thread is that reads the socket. -/
inductive Comms where
  | polling
  | receiving
  /-- About to suspend or resume the processes. -/
  | requested
  /-- Holds the lock of the entries. -/
  | signalling (todo : List MonitorEntry)
  | ended
  deriving DecidableEq, Repr

def Comms.holdsLock : Comms → Bool
  | .signalling _ => true
  | _ => false

/-- What the wait loop has returned. -/
def Main.verdict : Main → Option (Option ProcessMonitorExit)
  | .checking | .waiting | .reaped _ _ | .handling _ _ => none
  | .returned verdict | .joining verdict | .stopping verdict _ _ | .awaiting verdict _ _ _ |
    .done verdict _ => some verdict

def Main.inHand : Main → Option Nat
  | .reaped pid _ | .handling pid _ => some pid
  | _ => none

structure State where
  monitored : List MonitorEntry
  running : Bool := true
  /-- The children that run, and those that have ended and were not waited for. -/
  alive : List Nat
  zombies : List (Nat × Status) := []
  nextPid : Nat
  main : Main := .checking
  comms : Comms := .polling
  parent : Parent := .idle
  requests : List ParentToChildMessageType := []
  responses : Nat := 0
  shut : Bool := false
  closed : Bool := false
  started : List Nat
  /-- What the wait loop has waited for, and the exits of monitored processes it has handled. -/
  reaped : List Nat := []
  handled : List (MonitorEntry × Status) := []
  /-- What `StopSubprocesses` has signalled or waited for. -/
  targets : List Nat := []
  /-- How many requests to suspend or resume were sent, and answered. -/
  asked : Nat := 0
  answered : Nat := 0
  stopAsked : Bool := false

def StartSubprocesses (entries : List MonitorEntry) : State where
  monitored := entries.zipIdx.map fun (entry, pid) => {entry with pid}
  alive := List.range entries.length
  nextPid := entries.length
  started := List.range entries.length

namespace State

variable (state : State)

def children : List Nat := state.alive ++ state.zombies.map Prod.fst

def find? (pid : Nat) : Option MonitorEntry := state.monitored.find? fun it => it.pid = pid

/-- A request cannot be sent where the socket was shut down. -/
def request (message : ParentToChildMessageType) : Option State :=
  if state.parent = .idle then
    match message with
    | .kStop =>
      match state.main with
      | .done _ _ => some {state with parent := .alone, closed := true, stopAsked := true}
      | _ =>
        let requests := if state.shut then state.requests else state.requests ++ [.kStop]
        some {state with requests, parent := .stopping, stopAsked := true}
    | _ =>
      if state.shut then some state
      else
        let requests := state.requests ++ [message]
        some {state with requests, parent := .receiving, asked := state.asked + 1}
  else none

def WaitForMonitor : Option State :=
  if state.parent = .idle then some {state with parent := .waiting, closed := true} else none

def receive : Option State :=
  if state.parent = .receiving then
    if 0 < state.responses then
      some {state with responses := state.responses - 1, parent := .idle}
    else if state.shut then some {state with parent := .idle}
    else none
  else none

def waitpid : Option State :=
  if state.parent = .stopping ∨ state.parent = .waiting then
    match state.main with
    | .done _ _ => some {state with parent := .alone, closed := true}
    | _ => none
  else none

def exit (pid : Nat) (status : Status) : Option State :=
  if pid ∈ state.alive then
    let alive := state.alive.erase pid
    some {state with alive, zombies := state.zombies ++ [(pid, status)]}
  else none

def adopt : State :=
  {state with alive := state.alive ++ [state.nextPid], nextPid := state.nextPid + 1}

def check : Option State :=
  match state.main with
  | .checking =>
    if state.running then some {state with main := .waiting}
    else some {state with main := .returned (some .kExpected)}
  | _ => none

def wait (pid : Nat) : Option State :=
  match state.main with
  | .waiting =>
    match state.zombies.find? fun zombie => zombie.1 = pid with
    | some (_, status) =>
      let zombies := state.zombies.filter fun zombie => zombie.1 ≠ pid
      let reaped := state.reaped ++ [pid]
      some {state with zombies, reaped, main := .reaped pid status}
    | none => none
  | _ => none

def waitFails : Option State :=
  match state.main with
  | .waiting =>
    if state.alive = [] ∧ state.zombies = [] then some {state with main := .returned none}
    else none
  | _ => none

/-- Avoids extra restarts near the end. -/
def recheck : Option State :=
  match state.main with
  | .reaped pid status =>
    if state.running then some {state with main := .handling pid status}
    else some {state with main := .returned (some .kExpected)}
  | _ => none

/-- The entry of the process that has ended is removed or gets a new process. -/
def judge (restart_subprocesses : Bool) (it : MonitorEntry) (status : Status) : State :=
  let handled := state.handled ++ [(it, status)]
  let others := state.monitored.filter fun other => other.pid ≠ it.pid
  if it.expected_exit status then
    if it.is_vmm then
      let verdict := some ProcessMonitorExit.kExpected
      {state with handled, monitored := others, running := false, main := .returned verdict}
    else {state with handled, monitored := others, main := .checking}
  else if restart_subprocesses then
    let monitored := state.monitored.map fun other =>
      if other.pid = it.pid then {other with pid := state.nextPid} else other
    let alive := state.alive ++ [state.nextPid]
    let started := state.started ++ [state.nextPid]
    let nextPid := state.nextPid + 1
    {state with handled, monitored, alive, started, nextPid, main := .checking}
  else if state.running && it.is_critical then
    let verdict := some ProcessMonitorExit.kUnexpected
    {state with handled, monitored := others, running := false, main := .returned verdict}
  else {state with handled, monitored := others, main := .checking}

def handle (restart_subprocesses : Bool) : Option State :=
  match state.main with
  | .handling pid status =>
    if state.comms.holdsLock then none
    else match state.find? pid with
      | none => some {state with main := .checking}
      | some it => some (state.judge restart_subprocesses it status)
  | _ => none

def shutdown : Option State :=
  match state.main with
  | .returned verdict =>
    some {state with running := false, shut := true, main := .joining verdict}
  | _ => none

/-- The other thread has ended; the processes are stopped in reverse order. -/
def join : Option State :=
  match state.main with
  | .joining verdict =>
    if state.comms = .ended then
      some {state with main := .stopping verdict state.monitored.reverse true}
    else none
  | _ => none

def stop (result : StopperResult) : Option State :=
  match state.main with
  | .stopping verdict (entry :: todo) all =>
    let targets := state.targets ++ [entry.pid]
    if result = .kFailure then some {state with targets, main := .stopping verdict todo false}
    else some {state with targets, main := .awaiting verdict entry todo all}
  | _ => none

/-- The process that was stopped is waited for; there may be none. -/
def Wait : Option State :=
  match state.main with
  | .awaiting verdict entry todo all =>
    if entry.pid ∈ state.alive then none
    else if entry.pid ∈ state.zombies.map Prod.fst then
      let zombies := state.zombies.filter fun zombie => zombie.1 ≠ entry.pid
      some {state with zombies, main := .stopping verdict todo all}
    else some {state with main := .stopping verdict todo false}
  | _ => none

def finish : Option State :=
  match state.main with
  | .stopping verdict [] all =>
    some {state with main := .done verdict (if all then verdict else none)}
  | _ => none

def poll : Option State :=
  match state.comms with
  | .polling =>
    if state.running then some {state with comms := .receiving}
    else some {state with comms := .ended}
  | _ => none

/-- A request to stop wakes the wait loop with a child that exits at once. -/
def ReceiveMessage : Option State :=
  match state.comms with
  | .receiving =>
    match state.requests with
    | .kStop :: requests =>
      let zombies := state.zombies ++ [(state.nextPid, .exited 0)]
      let nextPid := state.nextPid + 1
      some {state with requests, running := false, zombies, nextPid, comms := .polling}
    | _ :: requests => some {state with requests, comms := .requested}
    | [] => if state.shut || state.closed then some {state with comms := .ended} else none
  | _ => none

def hasSecureEnv : Bool := state.monitored.any fun entry => entry.prog_name = "secure_env"

/-- The lock is taken and the process `secure_env` is told, if there is one. -/
def secure_env (ok : Bool) : Option State :=
  match state.comms with
  | .requested =>
    if state.hasSecureEnv && !ok then some {state with comms := .ended}
    else some {state with comms := .signalling state.monitored}
  | _ => none

/-- There is a process to be signalled as long as it was not waited for. -/
def isSignalled (entry : MonitorEntry) (ok : Bool) : Bool :=
  entry.isSkipped || (ok && state.children.contains entry.pid)

/-- The next process is signalled; after the last the request is answered. -/
def signal (ok : Bool) : Option State :=
  match state.comms with
  | .signalling (entry :: todo) =>
    if state.isSignalled entry ok then some {state with comms := .signalling todo}
    else some {state with comms := .ended}
  | .signalling [] =>
    if state.shut || state.closed then some {state with comms := .ended}
    else
      let answered := state.answered + 1
      some {state with responses := state.responses + 1, answered, comms := .polling}
  | _ => none

end State

inductive Event where
  | request (message : ParentToChildMessageType)
  | WaitForMonitor
  | receive
  | waitpid
  | exit (pid : Nat) (status : Status)
  | adopt
  | check
  | wait (pid : Nat)
  | waitFails
  | recheck
  | handle
  | shutdown
  | join
  | stop (result : StopperResult)
  | Wait
  | finish
  | poll
  | ReceiveMessage
  | secure_env (ok : Bool)
  | signal (ok : Bool)

def step (restart_subprocesses : Bool) (state : State) : Event → Option State
  | .request message => state.request message
  | .WaitForMonitor => state.WaitForMonitor
  | .receive => state.receive
  | .waitpid => state.waitpid
  | .exit pid status => state.exit pid status
  | .adopt => some state.adopt
  | .check => state.check
  | .wait pid => state.wait pid
  | .waitFails => state.waitFails
  | .recheck => state.recheck
  | .handle => state.handle restart_subprocesses
  | .shutdown => state.shutdown
  | .join => state.join
  | .stop result => state.stop result
  | .Wait => state.Wait
  | .finish => state.finish
  | .poll => state.poll
  | .ReceiveMessage => state.ReceiveMessage
  | .secure_env ok => state.secure_env ok
  | .signal ok => state.signal ok

def machine (restart_subprocesses : Bool) (entries : List MonitorEntry) :
    Transition.Machine State Event where
  init state := state = StartSubprocesses entries
  step := step restart_subprocesses

/-! What the monitor promises its parent, and the invariant that carries it. -/

def MonitorEntry.ends (entry : MonitorEntry) (restart_subprocesses : Bool) (status : Status) :
    Option ProcessMonitorExit :=
  if entry.is_vmm && entry.expected_exit status then some .kExpected
  else if entry.is_critical && !restart_subprocesses then some .kUnexpected
  else none

def Main.isClosing : Main → Bool
  | .joining _ | .stopping _ _ _ | .awaiting _ _ _ _ | .done _ _ => true
  | _ => false

def Main.isStopping : Main → Bool
  | .stopping _ _ _ | .awaiting _ _ _ _ | .done _ _ => true
  | _ => false

def Main.isDone : Main → Bool
  | .done _ _ => true
  | _ => false

def Main.todo : Main → List MonitorEntry
  | .stopping _ todo _ | .awaiting _ _ todo _ => todo
  | _ => []

def Main.awaited : Main → Option Nat
  | .awaiting _ entry _ _ => some entry.pid
  | _ => none

def Main.isWhole : Main → Bool
  | .stopping _ _ all | .awaiting _ _ _ all => all
  | .done verdict result => result = verdict
  | _ => true

def Comms.isBusy : Comms → Bool
  | .requested | .signalling _ => true
  | _ => false

def Comms.todo : Comms → List MonitorEntry
  | .signalling todo => todo
  | _ => []

namespace State

variable (state : State) (restart_subprocesses : Bool)

def pids : List Nat := state.monitored.map MonitorEntry.pid

def isFinal (pid : Nat) (status : Status) : Bool :=
  (state.find? pid).any fun entry => (entry.ends restart_subprocesses status).isSome

/-- The wait loop has ended or will end without another exit. -/
def isEnding : Bool :=
  !state.running || state.main.verdict.isSome ||
    match state.main with
    | .reaped pid status | .handling pid status => state.isFinal restart_subprocesses pid status
    | _ => false

/-- What the parent may rely on, and the processes. -/
structure Faithful : Prop where
  /-- A request is answered at most once before the next. -/
  once : state.answered ≤ state.asked ∧ state.asked ≤ state.answered + 1
  answers : state.comms = .receiving → state.requests = [] → state.asked = state.answered
  stopRead : state.parent = .stopping → .kStop ∈ state.requests ∨ state.running = false
  /-- Without the socket thread the wait loop does not wait for another exit. -/
  noStall : state.parent = .receiving ∨ state.parent = .stopping → state.comms = .ended →
    state.main = .waiting → state.running = false ∧ state.zombies ≠ []
  /-- The socket thread is not waited for while it waits for the parent. -/
  joins : state.main.isClosing = true → state.shut = true
  /-- What `StopSubprocesses` signals or waits for was not waited for before. -/
  targets : ∀ pid ∈ state.targets, pid ∉ state.reaped
  stopped : state.main.isDone = true → ∀ pid ∈ state.started, pid ∉ state.alive
  /-- No exit of a monitored process is overlooked. -/
  accounted : ∀ pid ∈ state.started, pid ∈ state.children ∨ state.main.inHand = some pid ∨
    (∃ exit ∈ state.handled, exit.1.pid = pid) ∨ pid ∈ state.targets
  verdict : state.stopAsked = false → ∀ verdict, state.main.verdict = some verdict ↔
    verdict ≠ none ∧ ∃ exit ∈ state.handled, exit.1.ends restart_subprocesses exit.2 = verdict
  result : state.stopAsked = false → ∀ verdict result, state.main = .done verdict result →
    result = verdict

/-- What the two threads, the parent and the processes keep while they run. -/
structure Kept : Prop where
  children : state.children.Nodup
  below : ∀ pid ∈ state.children, pid < state.nextPid
  reapedBelow : ∀ pid ∈ state.reaped, pid < state.nextPid
  startedBelow : ∀ pid ∈ state.started, pid < state.nextPid
  apart : ∀ pid ∈ state.reaped, pid ∉ state.children
  entries : state.pids.Nodup
  members : ∀ pid ∈ state.pids, pid ∈ state.started
  inHand : ∀ pid, state.main.inHand = some pid → pid ∈ state.reaped
  tracked : ∀ pid ∈ state.pids, pid ∈ state.children ∨ state.main.inHand = some pid ∨
    pid ∈ state.targets
  owned : ∀ pid ∈ state.started, pid ∈ state.children ∨ state.main.inHand = some pid →
    pid ∈ state.pids
  accounted : ∀ pid ∈ state.started, pid ∈ state.children ∨ state.main.inHand = some pid ∨
    (∃ exit ∈ state.handled, exit.1.pid = pid) ∨ pid ∈ state.targets
  early : state.main.isStopping = false → state.targets = []
  planned : state.main.isStopping = true →
    state.targets ++ state.main.todo.map MonitorEntry.pid = state.pids.reverse
  todo : ∀ entry ∈ state.main.todo, entry.pid ∈ state.children
  awaited : ∀ pid, state.main.awaited = some pid → pid ∈ state.children ∧ pid ∈ state.targets
  gone : ∀ pid ∈ state.targets, pid ∈ state.alive → state.main.awaited = some pid
  targets : ∀ pid ∈ state.targets, pid ∉ state.reaped
  whole : state.stopAsked = false → state.main.isWhole = true
  running : state.running = false → state.stopAsked = true ∨ state.main.verdict ≠ none
  judged : state.stopAsked = false → ∀ verdict, state.main.verdict = some verdict →
    verdict ≠ none ∧ ∃ exit ∈ state.handled, exit.1.ends restart_subprocesses exit.2 = verdict
  unended : state.stopAsked = false → ∀ exit ∈ state.handled, ∀ verdict,
    exit.1.ends restart_subprocesses exit.2 = some verdict →
      state.main.verdict = some (some verdict)
  asks : .kStop ∈ state.requests → state.stopAsked = true
  stopRead : state.parent = .stopping → .kStop ∈ state.requests ∨ state.running = false
  woken : state.main = .waiting → state.running = false → state.zombies ≠ []
  shutEnds : state.shut = true → state.running = false ∧ state.main.verdict ≠ none
  joins : state.main.isClosing = true → state.shut = true
  ended : state.comms = .ended → state.isEnding restart_subprocesses = true ∨ state.closed = true
  parted : state.closed = true → state.parent = .waiting ∨ state.parent = .alone
  balance : state.comms ≠ .ended → state.asked = state.answered +
    state.requests.countP (· ≠ .kStop) + if state.comms.isBusy then 1 else 0
  turn : state.shut = false → if state.parent = .receiving
    then state.responses ≤ 1 ∧ state.asked + state.responses = state.answered + 1
    else state.responses = 0 ∧ state.asked = state.answered
  once : state.answered ≤ state.asked ∧ state.asked ≤ state.answered + 1

variable {state after : State} {restart_subprocesses : Bool}

theorem isEnding_waiting (waiting : state.main = .waiting) :
    state.isEnding restart_subprocesses = !state.running := by
  unfold isEnding
  rw [waiting]
  simp [Main.verdict]

theorem Kept.faithful (kept : state.Kept restart_subprocesses) :
    state.Faithful restart_subprocesses where
  once := kept.once
  answers := by
    intro receiving none
    have balance := kept.balance (by simp [receiving])
    simpa [receiving, none, Comms.isBusy] using balance
  stopRead := kept.stopRead
  noStall := by
    intro asking ended waiting
    have stopped : state.running = false := by
      rcases kept.ended ended with ending | closed
      · rw [isEnding_waiting waiting] at ending
        simpa using ending
      · rcases kept.parted closed with here | here <;> rw [here] at asking <;>
          rcases asking with other | other <;> cases other
    exact ⟨stopped, kept.woken waiting stopped⟩
  joins := kept.joins
  targets := kept.targets
  stopped := by
    intro done pid known alive
    obtain ⟨verdict, result, main⟩ : ∃ verdict result, state.main = .done verdict result := by
      cases main : state.main with
      | done verdict result => exact ⟨verdict, result, rfl⟩
      | _ =>
        rw [main] at done
        cases done
    have listed := kept.owned pid known (.inl (List.mem_append_left _ alive))
    have planned := kept.planned (by rw [main]; rfl)
    rw [main] at planned
    have target : pid ∈ state.targets := by
      rw [← List.append_nil state.targets]
      exact planned ▸ List.mem_reverse.mpr listed
    have awaited := kept.gone pid target alive
    rw [main] at awaited
    cases awaited
  accounted := kept.accounted
  verdict := by
    intro unasked verdict
    refine ⟨kept.judged unasked verdict, ?_⟩
    rintro ⟨some, exit, handled, ends⟩
    cases verdict with
    | none => exact absurd rfl some
    | some verdict => exact kept.unended unasked exit handled verdict ends
  result := by
    intro unasked verdict result main
    have whole := kept.whole unasked
    rw [main] at whole
    exact of_decide_eq_true whole

end State

end Ika.ProcessMonitor
