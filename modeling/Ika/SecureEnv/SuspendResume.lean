import Ika.Foundation.Machine

/-! Suspend and resume of secure_env: a handler and five workers on socket pairs.

The worker loops differ in whether they also wait for the guest. A socket is the list of the
messages that have been written to it and not been read.
-/

set_option autoImplicit false

namespace Ika.SecureEnv

inductive SnapshotSocketMessage where
  | kSuspend
  | kSuspendAck
  | kResume
  deriving DecidableEq

inductive Action where
  | kSuspend
  | kResume
  deriving DecidableEq

inductive Name where
  | rust
  | keymaster
  | gatekeeper
  | oemlock
  | weaver
  deriving DecidableEq

def Name.all : List Name := [.rust, .keymaster, .gatekeeper, .oemlock, .weaver]

inductive Loop where
  | WorkerInnerLoop
  | WorkerStubLoop
  | run_ta_loop

/-- The files that `select` waits for. -/
def Loop.readsGuest : Loop → Bool
  | .WorkerInnerLoop => true
  | .WorkerStubLoop => false
  | .run_ta_loop => true

inductive Work where
  | select
  | process
  | readSuspend
  | writeAck
  | readResume
  | ended
  deriving DecidableEq

structure Worker where
  work : Work
  guest : Nat
  snapshot_socket : List SnapshotSocketMessage
  answers : List SnapshotSocketMessage

namespace Worker

def start : Worker := {work := .select, guest := 0, snapshot_socket := [], answers := []}

/-- What `select` says is looked at in order: the guest has priority. -/
def select (worker : Worker) (loop : Loop) : Option Worker :=
  if loop.readsGuest = true ∧ worker.guest ≠ 0 then some {worker with work := .process}
  else if worker.snapshot_socket ≠ [] then some {worker with work := .readSuspend}
  else none

/-- `process_callback`, or the body of the loop in Rust, for a request that is well formed. -/
def process (worker : Worker) : Worker :=
  {worker with work := .select, guest := worker.guest - 1}

/-- A read blocks on an empty socket; a message that is not expected ends the loop. -/
def read (worker : Worker) (expected : SnapshotSocketMessage) (next : Work) : Option Worker :=
  match worker.snapshot_socket with
  | [] => none
  | message :: rest =>
    some {worker with
      snapshot_socket := rest
      work := if message = expected then next else .ended}

def writeAck (worker : Worker) : Worker :=
  {worker with work := .readResume, answers := worker.answers ++ [.kSuspendAck]}

def step (worker : Worker) (loop : Loop) : Option Worker :=
  match worker.work with
  | .select => worker.select loop
  | .process => some worker.process
  | .readSuspend => worker.read .kSuspend .writeAck
  | .writeAck => some worker.writeAck
  | .readResume => worker.read .kResume .select
  | .ended => none

end Worker

inductive Handler where
  | reading
  | writing (action : Action) (sockets : List Name)
  | acks (sockets : List Name)
  | responding (action : Action)
  | ended
  deriving DecidableEq

structure State where
  channel : List Action
  handler : Handler
  workers : Name → Worker
  /-- The action that was answered last, until one of the other kind is read. -/
  answered : Option Action

namespace State

def setWorker (state : State) (name : Name) (worker : Worker) : State :=
  {state with workers := Function.update state.workers name worker}

def ReadLauncherActionFromFd (state : State) : Option State :=
  match state.channel with
  | [] => none
  | action :: rest =>
    some {state with
      channel := rest
      handler := .writing action Name.all
      answered := if state.answered = some action then some action else none}

def write (state : State) (action : Action) (name : Name) (sockets : List Name) : State :=
  let worker := state.workers name
  { state.setWorker name
      {worker with
        snapshot_socket := worker.snapshot_socket ++
          [match action with
            | .kSuspend => .kSuspend
            | .kResume => .kResume]} with
    handler := .writing action sockets}

def ReadSuspendAck (state : State) (name : Name) (sockets : List Name) : Option State :=
  match (state.workers name).answers with
  | [] => none
  | message :: rest =>
    some { state.setWorker name {state.workers name with answers := rest} with
      handler := if message = .kSuspendAck then .acks sockets else .ended}

def SuspendResumeHandler (state : State) : Option State :=
  match state.handler with
  | .reading => state.ReadLauncherActionFromFd
  | .writing action (name :: sockets) => some (state.write action name sockets)
  | .writing .kSuspend [] => some {state with handler := .acks Name.all}
  | .writing .kResume [] => some {state with handler := .responding .kResume}
  | .acks (name :: sockets) => state.ReadSuspendAck name sockets
  | .acks [] => some {state with handler := .responding .kSuspend}
  | .responding action => some {state with handler := .reading, answered := some action}
  | .ended => none

end State

inductive Event where
  | action (action : Action)
  | guest (name : Name)
  | handler
  | worker (name : Name)

def State.step (loops : Name → Loop) (state : State) : Event → Option State
  | .action action => some {state with channel := state.channel ++ [action]}
  | .guest name =>
    some (state.setWorker name
      {state.workers name with guest := (state.workers name).guest + 1})
  | .handler => state.SuspendResumeHandler
  | .worker name => ((state.workers name).step (loops name)).map (state.setWorker name)

def State.start : State where
  channel := []
  handler := .reading
  workers _ := .start
  answered := none

open Transition

def secureEnv (loops : Name → Loop) : Machine State Event where
  init state := state = .start
  step := State.step loops

def State.Answers (loops : Name → Loop) (state : State) (name : Name) : Prop :=
  ∃ count after, (secureEnv loops).run state (List.replicate count (.worker name)) = some after ∧
    (after.workers name).answers ≠ []

structure State.Sound (loops : Name → Loop) (state : State) : Prop where
  quiet : state.answered = some .kSuspend → ∀ name, (state.workers name).work ≠ .process
  alive : ∀ name, (state.workers name).work ≠ .ended
  handler : state.handler ≠ .ended
  acknowledged : ∀ name sockets, state.handler = .acks (name :: sockets) →
    state.Answers loops name
  resumed : state.answered = some .kResume → ∀ name, (state.workers name).snapshot_socket = [] →
    (state.workers name).work ≠ .writeAck ∧ (state.workers name).work ≠ .readResume

/-- A suspend is read where no suspend was answered last, and a resume where one was. -/
def Alternates (state : State) : Event → Prop
  | .handler => state.handler = .reading → ∀ action ∈ state.channel.head?,
    (action = .kSuspend ↔ state.answered ≠ some .kSuspend)
  | _ => True

/-! A worker is always where the handler may take it to be.

For each worker the handler is in one of three stages, and in each of them only a few contents of
the two sockets go with a place in the worker's loop.
-/

open Transition List Function Option

inductive Stage where
  | running
  | asked
  | suspended

inductive Fits : Stage → Worker → Prop where
  | select (guest : Nat) : Fits .running ⟨.select, guest, [], []⟩
  | process (guest : Nat) : Fits .running ⟨.process, guest, [], []⟩
  | resuming (guest : Nat) : Fits .running ⟨.readResume, guest, [.kResume], []⟩
  | behind (guest : Nat) : Fits .asked ⟨.readResume, guest, [.kResume, .kSuspend], []⟩
  | asking (guest : Nat) : Fits .asked ⟨.select, guest, [.kSuspend], []⟩
  | busy (guest : Nat) : Fits .asked ⟨.process, guest, [.kSuspend], []⟩
  | reading (guest : Nat) : Fits .asked ⟨.readSuspend, guest, [.kSuspend], []⟩
  | acking (guest : Nat) : Fits .asked ⟨.writeAck, guest, [], []⟩
  | acked (guest : Nat) : Fits .asked ⟨.readResume, guest, [], [.kSuspendAck]⟩
  | blocked (guest : Nat) : Fits .suspended ⟨.readResume, guest, [], []⟩

namespace Fits

variable {stage : Stage} {worker after : Worker}

theorem guest (fits : Fits stage worker) (guest : Nat) : Fits stage {worker with guest} := by
  cases fits <;> constructor

theorem step {loop : Loop} (fits : Fits stage worker) (moved : worker.step loop = some after) :
    Fits stage after := by
  cases fits with
  | select guest =>
    simp only [Worker.step, Worker.select] at moved
    split_ifs at moved with guest silent
    · cases moved
      exact .process _
    · exact absurd rfl silent
  | process guest =>
    cases moved
    exact .select (guest - 1)
  | resuming guest =>
    cases moved
    exact .select guest
  | behind guest =>
    cases moved
    exact .asking guest
  | asking guest =>
    simp only [Worker.step, Worker.select] at moved
    split_ifs at moved
    · cases moved
      exact .busy guest
    · cases moved
      exact .reading guest
  | busy guest =>
    cases moved
    exact .asking (guest - 1)
  | reading guest =>
    cases moved
    exact .acking guest
  | acking guest =>
    cases moved
    exact .acked guest
  | acked guest => cases moved
  | blocked guest => cases moved

theorem suspend (fits : Fits .running worker) :
    Fits .asked {worker with snapshot_socket := worker.snapshot_socket ++ [.kSuspend]} := by
  cases fits with
  | select guest => exact .asking guest
  | process guest => exact .busy guest
  | resuming guest => exact .behind guest

theorem resume (fits : Fits .suspended worker) :
    Fits .running {worker with snapshot_socket := worker.snapshot_socket ++ [.kResume]} := by
  cases fits with
  | blocked guest => exact .resuming guest

theorem ack (fits : Fits .asked worker) {message : SnapshotSocketMessage}
    {rest : List SnapshotSocketMessage} (sent : worker.answers = message :: rest) :
    message = .kSuspendAck ∧ Fits .suspended {worker with answers := rest} := by
  cases fits with
  | acked guest =>
    cases sent
    exact ⟨rfl, .blocked guest⟩
  | behind | asking | busy | reading | acking => cases sent

theorem quiet (fits : Fits .suspended worker) : worker.work ≠ .process := by
  cases fits with
  | blocked guest => exact nofun

theorem resumed (fits : Fits .running worker) (read : worker.snapshot_socket = []) :
    worker.work ≠ .writeAck ∧ worker.work ≠ .readResume := by
  cases fits with
  | select guest => exact ⟨nofun, nofun⟩
  | process guest => exact ⟨nofun, nofun⟩
  | resuming guest => cases read

theorem alive (fits : Fits stage worker) : worker.work ≠ .ended := by
  cases fits <;> exact nofun

end Fits

namespace State

variable {loops : Name → Loop} {state after : State} {name : Name}

theorem setWorker_self (state : State) (name : Name) (worker : Worker) :
    (state.setWorker name worker).workers name = worker :=
  update_self ..

theorem setWorker_other {other : Name} (different : other ≠ name) (state : State)
    (worker : Worker) : (state.setWorker name worker).workers other = state.workers other :=
  update_of_ne different ..

theorem Answers.work (worker : Worker)
    (moved : (state.workers name).step (loops name) = some worker)
    (rest : (state.setWorker name worker).Answers loops name) : state.Answers loops name := by
  obtain ⟨count, last, ran, answers⟩ := rest
  refine ⟨count + 1, last, ?_, answers⟩
  rw [replicate_succ]
  change (((state.workers name).step (loops name)).map (state.setWorker name)).bind _ = some last
  rw [moved]
  exact ran

theorem answers_acked (guest : Nat) (state : State)
    (here : state.workers name = ⟨.readResume, guest, [], [.kSuspendAck]⟩) :
    state.Answers loops name := by
  refine ⟨0, state, rfl, ?_⟩
  rw [here]
  exact nofun

theorem answers_acking (guest : Nat) (state : State)
    (here : state.workers name = ⟨.writeAck, guest, [], []⟩) : state.Answers loops name := by
  apply Answers.work ⟨.readResume, guest, [], [.kSuspendAck]⟩
  · rw [here]
    rfl
  · exact answers_acked guest _ (setWorker_self ..)

theorem answers_reading (guest : Nat) (state : State)
    (here : state.workers name = ⟨.readSuspend, guest, [.kSuspend], []⟩) :
    state.Answers loops name := by
  apply Answers.work ⟨.writeAck, guest, [], []⟩
  · rw [here]
    rfl
  · exact answers_acking guest _ (setWorker_self ..)

theorem answers_asking (guest : Nat) (state : State)
    (here : state.workers name = ⟨.select, guest, [.kSuspend], []⟩) :
    state.Answers loops name := by
  induction guest generalizing state with
  | zero =>
    apply Answers.work ⟨.readSuspend, 0, [.kSuspend], []⟩
    · rw [here]
      simp [Worker.step, Worker.select]
    · exact answers_reading 0 _ (setWorker_self ..)
  | succ guest ih =>
    by_cases reads : (loops name).readsGuest = true
    · apply Answers.work ⟨.process, guest + 1, [.kSuspend], []⟩
      · rw [here]
        simp [Worker.step, Worker.select, reads]
      · apply Answers.work ⟨.select, guest, [.kSuspend], []⟩
        · rw [setWorker_self]
          rfl
        · exact ih _ (setWorker_self ..)
    · apply Answers.work ⟨.readSuspend, guest + 1, [.kSuspend], []⟩
      · rw [here]
        simp [Worker.step, Worker.select, reads]
      · exact answers_reading (guest + 1) _ (setWorker_self ..)

theorem answers_asked (state : State) (fits : Fits .asked (state.workers name)) :
    state.Answers loops name := by
  generalize here : state.workers name = worker at fits
  cases fits with
  | behind guest =>
    apply Answers.work ⟨.select, guest, [.kSuspend], []⟩
    · rw [here]
      rfl
    · exact answers_asking guest _ (setWorker_self ..)
  | asking guest => exact answers_asking guest state here
  | busy guest =>
    apply Answers.work ⟨.select, guest - 1, [.kSuspend], []⟩
    · rw [here]
      rfl
    · exact answers_asking (guest - 1) _ (setWorker_self ..)
  | reading guest => exact answers_reading guest state here
  | acking guest => exact answers_acking guest state here
  | acked guest => exact answers_acked guest state here

def stage (state : State) (name : Name) : Stage :=
  match state.handler with
  | .reading => if state.answered = some .kSuspend then .suspended else .running
  | .writing .kSuspend sockets => if name ∈ sockets then .running else .asked
  | .writing .kResume sockets => if name ∈ sockets then .suspended else .running
  | .acks sockets => if name ∈ sockets then .asked else .suspended
  | .responding .kSuspend => .suspended
  | .responding .kResume => .running
  | .ended => .running

structure Kept (state : State) : Prop where
  fits : ∀ name, Fits (state.stage name) (state.workers name)
  running : state.handler ≠ .ended
  reading : state.answered ≠ none → state.handler = .reading
  once : ∀ sockets, (∃ action, state.handler = .writing action sockets) ∨
    state.handler = .acks sockets → sockets.Nodup

theorem Kept.sound (kept : state.Kept) : state.Sound loops where
  quiet suspended name := by
    have fits := kept.fits name
    rw [stage, kept.reading (by rw [suspended]; exact nofun)] at fits
    simp only [suspended, if_true] at fits
    exact fits.quiet
  alive name := (kept.fits name).alive
  handler := kept.running
  acknowledged name sockets waiting := by
    have fits := kept.fits name
    rw [stage, waiting] at fits
    simp only [mem_cons_self, if_true] at fits
    exact answers_asked state fits
  resumed resumed name empty := by
    have fits := kept.fits name
    rw [stage, kept.reading (by rw [resumed]; exact nofun)] at fits
    simp only [resumed, Option.some.injEq, reduceCtorEq, if_false] at fits
    exact fits.resumed empty

theorem Kept.start : start.Kept where
  fits _ := .select 0
  running := nofun
  reading answered := absurd rfl answered
  once := by
    rintro sockets (⟨action, writing⟩ | acks)
    · cases writing
    · cases acks

theorem all_nodup : Name.all.Nodup := by decide

theorem mem_all (name : Name) : name ∈ Name.all := by
  cases name <;> decide

theorem Kept.setWorker (kept : state.Kept) {worker : Worker}
    (fits : Fits (state.stage name) worker) : (state.setWorker name worker).Kept :=
  {kept with
    fits := by
      intro other
      by_cases same : other = name
      · subst same
        rw [setWorker_self]
        exact fits
      · rw [setWorker_other same]
        exact kept.fits other}

theorem Kept.read (kept : state.Kept) (alternates : Alternates state .handler)
    (here : state.handler = .reading)
    (moved : state.ReadLauncherActionFromFd = some after) : after.Kept := by
  unfold ReadLauncherActionFromFd at moved
  split at moved
  · cases moved
  · rename_i action rest arrived
    cases moved
    have turn := alternates here action (by rw [arrived]; rfl)
    have other : state.answered ≠ some action := by
      cases action with
      | kSuspend => exact turn.mp rfl
      | kResume =>
        intro resumed
        exact nomatch turn.mpr (by rw [resumed]; exact nofun)
    rw [if_neg other]
    exact
      { fits := by
          intro name
          have fits := kept.fits name
          rw [stage, here] at fits
          cases action with
          | kSuspend =>
            simp only [turn.mp rfl, if_false] at fits
            simp only [stage, mem_all, if_true]
            exact fits
          | kResume =>
            have suspended : state.answered = some .kSuspend := by
              by_contra otherwise
              exact nomatch turn.mpr otherwise
            simp only [suspended, if_true] at fits
            simp only [stage, mem_all, if_true]
            exact fits
        running := nofun
        reading := fun answered => absurd rfl answered
        once := by
          rintro sockets (⟨_, writing⟩ | acks)
          · cases writing
            exact all_nodup
          · cases acks}

variable {sockets : List Name}

section

variable (kept : state.Kept)
include kept

theorem Kept.write {action : Action} (here : state.handler = .writing action (name :: sockets)) :
    (state.write action name sockets).Kept := by
  have once : (name :: sockets).Nodup := kept.once _ (.inl ⟨action, here⟩)
  obtain ⟨notIn, once⟩ := nodup_cons.mp once
  exact
    { fits := by
        intro other
        have fits := kept.fits other
        rw [stage, here] at fits
        by_cases same : other = name
        · subst same
          cases action with
          | kSuspend =>
            simp only [mem_cons_self, if_true] at fits
            simp only [write, stage, notIn, if_false, setWorker_self]
            exact fits.suspend
          | kResume =>
            simp only [mem_cons_self, if_true] at fits
            simp only [write, stage, notIn, if_false, setWorker_self]
            exact fits.resume
        · cases action with
          | kSuspend =>
            simp only [mem_cons, same, false_or] at fits
            simp only [State.write, stage, setWorker_other same]
            exact fits
          | kResume =>
            simp only [mem_cons, same, false_or] at fits
            simp only [State.write, stage, setWorker_other same]
            exact fits
      running := nofun
      reading := fun answered => by
        have := kept.reading answered
        rw [here] at this
        cases this
      once := by
        rintro rest (⟨_, writing⟩ | acks)
        · cases writing
          exact once
        · cases acks}

theorem Kept.ack (here : state.handler = .acks (name :: sockets))
    (moved : state.ReadSuspendAck name sockets = some after) : after.Kept := by
  have once : (name :: sockets).Nodup := kept.once _ (.inr here)
  obtain ⟨notIn, once⟩ := nodup_cons.mp once
  unfold ReadSuspendAck at moved
  split at moved
  · cases moved
  · rename_i message rest sent
    cases moved
    have asked := kept.fits name
    rw [stage, here] at asked
    simp only [mem_cons_self, if_true] at asked
    obtain ⟨rfl, suspended⟩ := asked.ack sent
    exact
      { fits := by
          intro other
          have fits := kept.fits other
          rw [stage, here] at fits
          by_cases same : other = name
          · subst same
            simp only [stage, notIn, if_false, if_true, setWorker_self]
            exact suspended
          · simp only [mem_cons, same, false_or] at fits
            simp only [stage, if_true, setWorker_other same]
            exact fits
        running := nofun
        reading := fun answered => by
          have := kept.reading answered
          rw [here] at this
          cases this
        once := by
          rintro rest (⟨_, writing⟩ | acks)
          · cases writing
          · cases acks
            exact once}

theorem Kept.move {handler : Handler} {answered : Option Action}
    (stays : ∀ name, ({state with handler, answered} : State).stage name = state.stage name)
    (running : handler ≠ .ended) (reading : answered ≠ none → handler = .reading)
    (once : ∀ sockets, (∃ action, handler = .writing action sockets) ∨ handler = .acks sockets →
      sockets.Nodup) : ({state with handler, answered} : State).Kept where
  fits name := by
    rw [stays]
    exact kept.fits name
  running := running
  reading := reading
  once := once

theorem Kept.busy (here : state.handler ≠ .reading) : state.answered = none := by
  by_contra answered
  exact here (kept.reading answered)

theorem Kept.moveOn {handler : Handler} (here : state.handler ≠ .reading)
    (stays : ∀ name, ({state with handler} : State).stage name = state.stage name)
    (running : handler ≠ .ended)
    (idle : ∀ sockets, (∀ action, handler ≠ .writing action sockets) ∧ handler ≠ .acks sockets) :
    ({state with handler} : State).Kept := by
  apply kept.move stays running
  · exact fun answered => absurd (kept.busy here) answered
  · rintro sockets (⟨action, writing⟩ | acks)
    · exact absurd writing ((idle sockets).1 action)
    · exact absurd acks (idle sockets).2

theorem Kept.handle (alternates : Alternates state .handler)
    (moved : state.SuspendResumeHandler = some after) : after.Kept := by
  unfold SuspendResumeHandler at moved
  split at moved
  · rename_i here
    exact kept.read alternates here moved
  · rename_i here
    cases moved
    exact kept.write here
  · rename_i here
    cases moved
    apply kept.move
    · intro name
      simp only [stage, here, mem_all, not_mem_nil, if_true, if_false]
    · exact nofun
    · exact fun answered => absurd (kept.busy (by rw [here]; exact nofun)) answered
    · rintro sockets (⟨_, writing⟩ | acks)
      · cases writing
      · cases acks
        exact all_nodup
  · rename_i here
    cases moved
    apply kept.moveOn (by rw [here]; exact nofun)
    · intro name
      simp only [stage, here, not_mem_nil, if_false]
    · exact nofun
    · exact fun _ => ⟨nofun, nofun⟩
  · rename_i here
    exact kept.ack here moved
  · rename_i here
    cases moved
    apply kept.moveOn (by rw [here]; exact nofun)
    · intro name
      simp only [stage, here, not_mem_nil, if_false]
    · exact nofun
    · exact fun _ => ⟨nofun, nofun⟩
  · rename_i action here
    cases moved
    apply kept.move
    · intro name
      cases action <;> simp [stage, here]
    · exact nofun
    · exact fun _ => rfl
    · rintro sockets (⟨_, writing⟩ | acks)
      · cases writing
      · cases acks
  · cases moved

theorem Kept.step {event : Event} (alternates : Alternates state event)
    (moved : state.step loops event = some after) : after.Kept := by
  cases event with
  | action action =>
    cases moved
    exact ⟨kept.fits, kept.running, kept.reading, kept.once⟩
  | guest name =>
    cases moved
    exact kept.setWorker ((kept.fits name).guest _)
  | handler => exact kept.handle alternates moved
  | worker name =>
    obtain ⟨worker, worked, rfl⟩ := map_eq_some_iff.mp moved
    exact kept.setWorker ((kept.fits name).step worked)

end

end State

variable {loops : Name → Loop}

/-- Whichever loops the workers run, as long as the requests alternate. -/
theorem suspend_resume {state : State} (reached : (secureEnv loops).Reaches Alternates state) :
    state.Sound loops :=
  State.Kept.sound <|
    reached.invariant (fun _ first => first ▸ State.Kept.start)
      fun _ _ _ kept alternates moved => State.Kept.step kept alternates moved

instance (state : State) (event : Event) : Decidable (Alternates state event) := by
  cases event with
  | handler =>
    unfold Alternates
    infer_instance
  | _ => exact inferInstanceAs (Decidable True)

/-- The loops of secure_env with all its guest interfaces. -/
def guestLoops : Name → Loop
  | .rust => .run_ta_loop
  | .keymaster => .WorkerInnerLoop
  | .gatekeeper => .WorkerInnerLoop
  | .oemlock => .WorkerInnerLoop
  | .weaver => .run_ta_loop

def everyWorker (count : Nat) : List Event :=
  Name.all.flatMap fun name => List.replicate count (.worker name)

def oneSuspend : List Event :=
  [.guest .gatekeeper, .action .kSuspend] ++ List.replicate 7 .handler ++
    List.replicate 2 (.worker .gatekeeper) ++ everyWorker 3 ++ List.replicate 7 .handler

def suspendAndResume : List Event :=
  oneSuspend ++ [.guest .oemlock, .action .kResume] ++ List.replicate 8 .handler ++ everyWorker 1 ++
    [.worker .oemlock]

theorem suspend_resume_once :
    (((secureEnv guestLoops).runAllowed Alternates .start suspendAndResume).getD .start).Sound
      guestLoops :=
  suspend_resume (.getD_runAllowed _ (.start rfl) (by decide +kernel))

theorem not_answers_ended {state : State} {name : Name}
    (ended : (state.workers name).work = .ended) (nothing : (state.workers name).answers = []) :
    ¬ state.Answers loops name := by
  rintro ⟨count, after, ran, answers⟩
  cases count with
  | zero =>
    cases ran
    exact answers nothing
  | succ count =>
    rw [replicate_succ] at ran
    change (((state.workers name).step (loops name)).map (state.setWorker name)).bind _ =
      some after at ran
    rw [Worker.step, ended] at ran
    cases ran

def suspendTwice : List Event :=
  oneSuspend ++ [.action .kSuspend] ++ List.replicate 7 .handler ++ everyWorker 1

def resumeFirst : List Event :=
  [.action .kResume] ++ List.replicate 8 .handler ++ everyWorker 2

/-- A second suspend ends the workers, and so does a resume of workers that run. -/
theorem suspend_resume_repeated :
    (∃ state, (secureEnv guestLoops).Reachable state ∧ state.handler = .acks Name.all ∧
      ∀ name, (state.workers name).work = .ended ∧ ¬ state.Answers guestLoops name) ∧
    ∃ state, (secureEnv guestLoops).Reachable state ∧ state.answered = some .kResume ∧
      ∀ name, (state.workers name).work = .ended := by
  constructor
  · refine ⟨_, .of_run suspendTwice (.start rfl) (some_get (by decide +kernel)).symm,
      by decide +kernel, fun name => ⟨?_, not_answers_ended ?_ ?_⟩⟩
    · cases name <;> decide +kernel
    · cases name <;> decide +kernel
    · cases name <;> decide +kernel
  · refine ⟨_, .of_run resumeFirst (.start rfl) (some_get (by decide +kernel)).symm,
      by decide +kernel, fun name => ?_⟩
    cases name <;> decide +kernel

end Ika.SecureEnv
