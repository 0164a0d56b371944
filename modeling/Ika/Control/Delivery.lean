import Ika.Control.ControlMsg
import Ika.Foundation.Machine
import Ika.Util.VecDeque

/-!
The controller of `controller.c`: its queue, and the thread that sends.

All that is done with the mutex held is one step, for `sc_cond_wait` up to the release of the mutex.
-/

set_option autoImplicit false

namespace Ika.Control

open Util

def controlMsgQueueLimit : Nat := 60

def controlMsgSize : Nat := 48

def queueMaxCap : Nat := VecDeque.vecdequeMaxCap controlMsgSize

def ControlMsg.isDroppable : ControlMsg → Bool
  | .uhidCreate .. | .uhidDestroy .. => false
  | _ => true

def ControlMsg.resize : ControlMsg → Option (UInt16 × UInt16)
  | .resizeDisplay width height => some (width, height)
  | _ => none

def ControlMsg.isResize (msg : ControlMsg) : Bool := msg.resize.isSome

/-- Where `run_controller` stands; it sends with the mutex unlocked. -/
inductive ControllerThread where
  | running
  | waiting (signaled : Bool)
  | sending (msg : ControlMsg)
  | ended (failed : Option ControlMsg)

def ControllerThread.signal : ControllerThread → ControllerThread
  | .waiting _ => .waiting true
  | thread => thread

structure Controller where
  stopped : Bool := false
  queue : VecDeque ControlMsg
  resizeWidth : UInt16 := 0
  resizeHeight : UInt16 := 0
  thread : ControllerThread := .running
  pushed : List ControlMsg := []
  requested : List (UInt16 × UInt16) := []
  sent : List ControlMsg := []

namespace Controller

def new : Controller where
  queue := (({} : VecDeque ControlMsg).reserve queueMaxCap (controlMsgQueueLimit + 4) true).2

variable (controller : Controller)

def signal : Controller := {controller with thread := controller.thread.signal}

def signalIf (condition : Bool) : Controller := if condition then controller.signal else controller

def withQueue (queue : VecDeque ControlMsg) : Controller := {controller with queue}

def pushMsg (msg : ControlMsg) (allocates : Bool) : Bool × Controller :=
  if controller.queue.size < controlMsgQueueLimit then
    (true, (controller.withQueue (controller.queue.pushNoResize msg)).signalIf
      controller.queue.isEmpty)
  else if !msg.isDroppable then
    match controller.queue.push queueMaxCap msg allocates with
    | (pushed, queue) => (pushed, controller.withQueue queue)
  else (false, controller)

def resizeDisplay (width height : UInt16) : Controller :=
  {controller with
    resizeWidth := width
    resizeHeight := height}.signalIf (controller.resizeWidth = 0)

def stop : Controller := {controller with stopped := true}.signal

/-- From the lock of the mutex to its release, in the wait or after it. -/
def takeNext : Controller :=
  if !controller.stopped && controller.resizeWidth = 0 && controller.queue.isEmpty then
    {controller with thread := .waiting false}
  else if controller.stopped then {controller with thread := .ended none}
  else if controller.resizeWidth ≠ 0 then
    {controller with
      thread := .sending (.resizeDisplay controller.resizeWidth controller.resizeHeight)
      resizeWidth := 0
      resizeHeight := 0}
  else
    match controller.queue.front with
    | some msg => {controller with thread := .sending msg, queue := controller.queue.pop}
    -- a cell that was never written
    | none => controller

/-- `process_msg` and what follows it. -/
def sendNext (msg : ControlMsg) (sends : Bool) : Controller :=
  if sends then {controller with thread := .running, sent := controller.sent ++ [msg]}
  else {controller with thread := .ended (some msg)}

def push (msg : ControlMsg) (allocates : Bool) : Controller :=
  let result := controller.pushMsg msg allocates
  {result.2 with pushed := if result.1 then controller.pushed ++ [msg] else controller.pushed}

def request (width height : UInt16) : Controller :=
  { controller.resizeDisplay width height with
    requested := controller.requested ++ [(width, height)]}

end Controller

inductive ControllerEvent where
  | pushMsg (msg : ControlMsg) (allocates : Bool)
  | resizeDisplay (width height : UInt16)
  | stop
  | lock
  /-- The wait ends, by a signal or spuriously. -/
  | wake
  | send (sends : Bool)

/-- The assertions on the arguments are conditions of the calls. -/
def Controller.step (controller : Controller) : ControllerEvent → Option Controller
  | .pushMsg msg allocates =>
    if msg.isResize then none else some (controller.push msg allocates)
  | .resizeDisplay width height =>
    if width = 0 ∨ height = 0 then none else some (controller.request width height)
  | .stop => some controller.stop
  | .lock =>
    match controller.thread with
    | .running => some controller.takeNext
    | _ => none
  | .wake =>
    match controller.thread with
    | .waiting _ => some {controller with thread := .running}
    | _ => none
  | .send sends =>
    match controller.thread with
    | .sending msg => some (controller.sendNext msg sends)
    | _ => none

def controllerMachine : Transition.Machine Controller ControllerEvent where
  init controller := controller = .new
  step := Controller.step

end Ika.Control

/-! What the controller delivers, over every order of calls and steps of the thread. -/

namespace Ika.Control

open List

/-- The message that left the queue but was not sent, or not yet. -/
def ControllerThread.inHand : ControllerThread → List ControlMsg
  | .sending msg => [msg]
  | .ended (some msg) => [msg]
  | _ => []

theorem ControllerThread.inHand_signal (thread : ControllerThread) :
    thread.signal.inHand = thread.inHand := by
  cases thread <;> rfl

namespace Controller

variable (controller : Controller)

/-- The size that is asked for and that the thread has not taken. -/
def slot : List (UInt16 × UInt16) :=
  if controller.resizeWidth = 0 then [] else [(controller.resizeWidth, controller.resizeHeight)]

def taken : List ControlMsg := controller.sent ++ controller.thread.inHand

def Idle : Prop := controller.thread = .waiting false →
  controller.queue.size = 0 ∧ controller.resizeWidth = 0 ∧ controller.stopped = false

/-- The messages pushed are those taken and those queued. -/
structure Ordered (queued : List ControlMsg) : Prop where
  queue : controller.queue.Represents queued
  cap : controlMsgQueueLimit < controller.queue.cap
  plain : ∀ msg ∈ queued, msg.resize = none
  order : (controller.taken.filter fun msg => !msg.isResize) ++ queued = controller.pushed

/-- The sizes taken and the one still set are among those asked for, and the last is the last. -/
structure Resized : Prop where
  sizes : (controller.taken.filterMap ControlMsg.resize ++ controller.slot).Sublist
    controller.requested
  last : (controller.taken.filterMap ControlMsg.resize ++ controller.slot).getLast? =
    controller.requested.getLast?

variable {controller} {after : Controller} {queued : List ControlMsg} {msg : ControlMsg}

theorem taken_signal : controller.signal.taken = controller.taken := by
  simp [taken, signal, ControllerThread.inHand_signal]

theorem Ordered.signal (ordered : controller.Ordered queued) :
    controller.signal.Ordered queued where
  queue := ordered.queue
  cap := ordered.cap
  plain := ordered.plain
  order := by
    rw [taken_signal]
    exact ordered.order

theorem Resized.signal (resized : controller.Resized) : controller.signal.Resized := by
  constructor
  · rw [taken_signal]
    exact resized.sizes
  · rw [taken_signal]
    exact resized.last

theorem signal_idle : controller.signal.Idle := by
  unfold signal Idle
  cases controller.thread <;> simp [ControllerThread.signal]

theorem Ordered.signalIf (ordered : controller.Ordered queued) (condition : Bool) :
    (controller.signalIf condition).Ordered queued := by
  unfold Controller.signalIf
  split_ifs
  · exact ordered.signal
  · exact ordered

theorem signalIf_idle {condition : Bool}
    (silent : condition = false → controller.Idle) : (controller.signalIf condition).Idle := by
  unfold signalIf
  split_ifs with signals
  · exact signal_idle
  · exact silent (by simpa using signals)

theorem pushMsg_frame (msg : ControlMsg) (allocates : Bool) :
    (controller.pushMsg msg allocates).2.taken = controller.taken ∧
      (controller.pushMsg msg allocates).2.slot = controller.slot ∧
      (controller.pushMsg msg allocates).2.requested = controller.requested := by
  unfold pushMsg signalIf
  split_ifs
  · exact ⟨taken_signal, rfl, rfl⟩
  · exact ⟨rfl, rfl, rfl⟩
  · exact ⟨rfl, rfl, rfl⟩
  · exact ⟨rfl, rfl, rfl⟩

theorem pushMsg_idle (idle : controller.Idle) (msg : ControlMsg) (allocates : Bool) :
    (controller.pushMsg msg allocates).2.Idle := by
  unfold pushMsg
  split_ifs with few kept
  · apply signalIf_idle
    intro full waiting
    have empty := (idle waiting).1
    simp [Util.VecDeque.isEmpty, empty] at full
  · intro waiting
    have empty := (idle waiting).1
    simp [empty, controlMsgQueueLimit] at few
  · exact idle

theorem pushMsg_queue (ordered : controller.Ordered queued) (msg : ControlMsg) (allocates : Bool) :
    ((controller.pushMsg msg allocates).1 = true ∧
        (controller.pushMsg msg allocates).2.queue.Represents (queued ++ [msg]) ∧
        controlMsgQueueLimit < (controller.pushMsg msg allocates).2.queue.cap) ∨
      ((controller.pushMsg msg allocates).1 = false ∧
        (controller.pushMsg msg allocates).2.queue = controller.queue ∧
        (msg.isDroppable = false → allocates = false ∨ queueMaxCap ≤ controller.queue.cap)) := by
  have cap := ordered.cap
  unfold pushMsg
  split_ifs with few kept
  · left
    have same : ∀ condition : Bool, ∀ queue, ((controller.withQueue queue).signalIf condition).queue =
        queue := by
      intro condition queue
      unfold signalIf
      split_ifs <;> rfl
    rw [same]
    exact ⟨rfl, ordered.queue.pushNoResize (by omega), cap⟩
  · have enough : 2 ≤ controller.queue.cap := by
      simp only [controlMsgQueueLimit] at cap
      omega
    rcases ordered.queue.push enough queueMaxCap msg allocates with ⟨pushed, queue, grown⟩ | ⟨same, why⟩
    · exact .inl ⟨pushed, queue, Nat.lt_of_lt_of_le cap grown⟩
    · refine .inr ⟨?_, ?_, fun _ => why⟩
      · rw [same]
      · rw [same]
        rfl
  · right
    refine ⟨rfl, rfl, ?_⟩
    intro never
    simp [never] at kept

theorem Ordered.push (ordered : controller.Ordered queued) (plain : msg.resize = none)
    (allocates : Bool) : ∃ queued, (controller.push msg allocates).Ordered queued := by
  obtain ⟨taken, _, _⟩ := @pushMsg_frame controller msg allocates
  have same : (controller.push msg allocates).taken = controller.taken := taken
  rcases pushMsg_queue ordered msg allocates with ⟨pushed, queue, cap⟩ | ⟨refused, queue, _⟩
  · refine ⟨queued ++ [msg], queue, cap, ?_, ?_⟩
    · intro other mem
      rcases mem_append.mp mem with before | new
      · exact ordered.plain other before
      · rw [mem_singleton.mp new, plain]
    · rw [same, ← append_assoc, ordered.order]
      exact (if_pos pushed).symm
  · refine ⟨queued, ?_, ?_, ordered.plain, ?_⟩
    · rw [Controller.push, queue]
      exact ordered.queue
    · rw [Controller.push, queue]
      exact ordered.cap
    · rw [same, ordered.order]
      exact (if_neg (by simp [refused])).symm

theorem Resized.push (resized : controller.Resized) (msg : ControlMsg) (allocates : Bool) :
    (controller.push msg allocates).Resized := by
  obtain ⟨taken, slot, requested⟩ := @pushMsg_frame controller msg allocates
  have same : (controller.push msg allocates).taken = controller.taken := taken
  have setting : (controller.push msg allocates).slot = controller.slot := slot
  have asked : (controller.push msg allocates).requested = controller.requested := requested
  constructor
  · rw [same, setting, asked]
    exact resized.sizes
  · rw [same, setting, asked]
    exact resized.last

theorem resizeDisplay_idle (idle : controller.Idle) {width height : UInt16} :
    (controller.resizeDisplay width height).Idle := by
  apply signalIf_idle
  intro before waiting
  have unset := (idle waiting).2.1
  simp [unset] at before

theorem Ordered.request (ordered : controller.Ordered queued) (width height : UInt16) :
    (controller.request width height).Ordered queued := by
  have resized : ({controller with resizeWidth := width, resizeHeight := height}).Ordered queued :=
    ⟨ordered.queue, ordered.cap, ordered.plain, ordered.order⟩
  have signaled := resized.signalIf (controller.resizeWidth = 0)
  exact ⟨signaled.queue, signaled.cap, signaled.plain, signaled.order⟩

theorem Resized.request (resized : controller.Resized) {width height : UInt16}
    (nonzero : width ≠ 0) : (controller.request width height).Resized := by
  have frame : (controller.resizeDisplay width height).taken = controller.taken ∧
      (controller.resizeDisplay width height).slot = [(width, height)] := by
    unfold resizeDisplay signalIf
    split_ifs
    · exact ⟨taken_signal, if_neg nonzero⟩
    · exact ⟨rfl, if_neg nonzero⟩
  have same : (controller.request width height).taken = controller.taken := frame.1
  have setting : (controller.request width height).slot = [(width, height)] := frame.2
  have asked : (controller.request width height).requested =
      controller.requested ++ [(width, height)] := rfl
  constructor
  · rw [same, setting, asked]
    exact ((sublist_append_left ..).trans resized.sizes).append (Sublist.refl _)
  · rw [same, setting, asked, List.getLast?_append, List.getLast?_append]
    rfl

theorem Ordered.takeNext (ordered : controller.Ordered queued)
    (runs : controller.thread = .running) : ∃ queued, controller.takeNext.Ordered queued := by
  have taken : controller.taken = controller.sent := by
    simp [Controller.taken, runs, ControllerThread.inHand]
  have order := ordered.order
  rw [taken] at order
  unfold Controller.takeNext
  split_ifs with nothing stopped resize
  · refine ⟨queued, ordered.queue, ordered.cap, ordered.plain, ?_⟩
    simpa [Controller.taken, ControllerThread.inHand] using order
  · refine ⟨queued, ordered.queue, ordered.cap, ordered.plain, ?_⟩
    simpa [Controller.taken, ControllerThread.inHand] using order
  · refine ⟨queued, ordered.queue, ordered.cap, ordered.plain, ?_⟩
    simpa [Controller.taken, ControllerThread.inHand, ControlMsg.isResize, ControlMsg.resize]
      using order
  · cases queued with
    | nil =>
      have empty := ordered.queue.isEmpty.mpr rfl
      simp only [ne_eq, not_not] at resize
      simp [stopped, resize, empty] at nothing
    | cons msg rest =>
      obtain ⟨front, queue⟩ := ordered.queue.pop
      have plain := ordered.plain msg (mem_cons_self ..)
      rw [front]
      refine ⟨rest, queue, ordered.cap, ?_, ?_⟩
      · exact fun other mem => ordered.plain other (mem_cons_of_mem _ mem)
      · simpa [Controller.taken, ControllerThread.inHand, ControlMsg.isResize, plain] using order

theorem Resized.takeNext (resized : controller.Resized) (ordered : controller.Ordered queued)
    (runs : controller.thread = .running) : controller.takeNext.Resized := by
  -- the sizes are the same list, wherever the last of them is
  have same : controller.takeNext.taken.filterMap ControlMsg.resize ++ controller.takeNext.slot =
      controller.taken.filterMap ControlMsg.resize ++ controller.slot := by
    unfold Controller.takeNext
    split_ifs with nothing stopped resize
    · simp [Controller.taken, runs, ControllerThread.inHand, Controller.slot]
    · simp [taken, runs, ControllerThread.inHand, slot]
    · simp [taken, runs, ControllerThread.inHand, slot, resize,
        ControlMsg.resize]
    · split
      · rename_i msg front
        cases queued with
        | nil =>
          have empty := ordered.queue.isEmpty.mpr rfl
          simp only [ne_eq, not_not] at resize
          simp [stopped, resize, empty] at nothing
        | cons first rest =>
          cases front.symm.trans ordered.queue.pop.1
          have plain := ordered.plain msg (mem_cons_self ..)
          simp [taken, runs, ControllerThread.inHand, slot, plain]
      · rfl
  have asked : controller.takeNext.requested = controller.requested := by
    unfold Controller.takeNext
    split_ifs
    · rfl
    · rfl
    · rfl
    · split <;> rfl
  constructor
  · rw [same, asked]
    exact resized.sizes
  · rw [same, asked]
    exact resized.last

theorem takeNext_idle (runs : controller.thread = .running) : controller.takeNext.Idle := by
  unfold takeNext
  split_ifs with nothing
  · intro _
    simpa [Util.VecDeque.isEmpty, and_comm, and_assoc] using nothing
  · simp [Idle]
  · simp [Idle]
  · split
    · simp [Idle]
    · simp [Idle, runs]

theorem taken_sendNext (holds : controller.thread = .sending msg) (sends : Bool) :
    (controller.sendNext msg sends).taken = controller.taken := by
  cases sends <;> simp [sendNext, taken, holds, ControllerThread.inHand]

theorem sendNext_frame (sends : Bool) :
    (controller.sendNext msg sends).queue = controller.queue ∧
      (controller.sendNext msg sends).slot = controller.slot ∧
      (controller.sendNext msg sends).pushed = controller.pushed ∧
      (controller.sendNext msg sends).requested = controller.requested := by
  cases sends <;> exact ⟨rfl, rfl, rfl, rfl⟩

structure Sound (controller : Controller) : Prop where
  ordered : ∃ queued, controller.Ordered queued
  resized : controller.Resized
  idle : controller.Idle

theorem Sound.new : new.Sound where
  ordered := by
    obtain ⟨queue, cap⟩ := @Util.VecDeque.reserve_new ControlMsg queueMaxCap
      (controlMsgQueueLimit + 4) (by decide) (by decide)
    exact ⟨[], queue, by rw [Controller.new, cap]; decide, by simp, rfl⟩
  resized := ⟨Sublist.refl _, rfl⟩
  idle := by simp [Controller.new, Idle]

theorem Sound.step (sound : controller.Sound) {event : ControllerEvent}
    (moved : controller.step event = some after) : after.Sound := by
  obtain ⟨queued, ordered⟩ := sound.ordered
  cases event with
  | pushMsg msg allocates =>
    simp only [Controller.step] at moved
    split_ifs at moved with resize
    cases moved
    have plain : msg.resize = none := by simpa [ControlMsg.isResize] using resize
    exact ⟨ordered.push plain allocates, sound.resized.push msg allocates,
      pushMsg_idle sound.idle msg allocates⟩
  | resizeDisplay width height =>
    simp only [Controller.step] at moved
    split_ifs at moved with zero
    cases moved
    exact ⟨⟨queued, ordered.request width height⟩, sound.resized.request (not_or.mp zero).1,
      resizeDisplay_idle sound.idle⟩
  | stop =>
    cases moved
    have stopped : ({controller with stopped := true}).Ordered queued :=
      ⟨ordered.queue, ordered.cap, ordered.plain, ordered.order⟩
    have resized : ({controller with stopped := true}).Resized :=
      ⟨sound.resized.sizes, sound.resized.last⟩
    exact ⟨⟨queued, stopped.signal⟩, resized.signal, signal_idle⟩
  | lock =>
    simp only [Controller.step] at moved
    split at moved
    · rename_i runs
      cases moved
      exact ⟨ordered.takeNext runs, sound.resized.takeNext ordered runs, takeNext_idle runs⟩
    · cases moved
  | wake =>
    simp only [Controller.step] at moved
    split at moved
    · rename_i waits
      cases moved
      have same : ({controller with thread := .running}).taken = controller.taken := by
        simp [taken, waits, ControllerThread.inHand]
      refine ⟨⟨queued, ordered.queue, ordered.cap, ordered.plain, ?_⟩, ⟨?_, ?_⟩, by simp [Idle]⟩
      · rw [same]
        exact ordered.order
      · rw [same]
        exact sound.resized.sizes
      · rw [same]
        exact sound.resized.last
    · cases moved
  | send sends =>
    simp only [Controller.step] at moved
    split at moved
    · rename_i msg holds
      cases moved
      have same := taken_sendNext holds sends
      obtain ⟨queue, slot, pushed, requested⟩ := @sendNext_frame controller msg sends
      refine ⟨⟨queued, ?_, ?_, ordered.plain, ?_⟩, ⟨?_, ?_⟩, ?_⟩
      · rw [queue]
        exact ordered.queue
      · rw [queue]
        exact ordered.cap
      · rw [same, pushed]
        exact ordered.order
      · rw [same, slot, requested]
        exact sound.resized.sizes
      · rw [same, slot, requested]
        exact sound.resized.last
      · cases sends <;> simp [sendNext, Idle]
    · cases moved

theorem sound (reached : controllerMachine.Reachable controller) : controller.Sound := by
  apply Transition.Machine.Reaches.invariant _ _ reached
  · rintro _ rfl
    exact .new
  · intro state event next before _ moved
    exact before.step moved

end Controller

/-- Waits that no signal ends have nothing to do; messages are sent in the order they were pushed in
and dropped only where they may be; of the resizes at least the last one is sent. -/
theorem controller_delivers {controller : Controller}
    (reached : controllerMachine.Reachable controller) :
    (controller.thread = .waiting false → controller.queue.size = 0 ∧
        controller.resizeWidth = 0 ∧ controller.stopped = false ∧
        (controller.sent.filter fun msg => !msg.isResize) = controller.pushed) ∧
      (∃ queued, controller.queue.Represents queued ∧
        (controller.sent.filter fun msg => !msg.isResize) ++
          ((controller.thread.inHand.filter fun msg => !msg.isResize) ++ queued) =
            controller.pushed) ∧
      (∀ msg allocates, msg.isDroppable = false → (controller.pushMsg msg allocates).1 = false →
        allocates = false ∨ queueMaxCap ≤ controller.queue.cap) ∧
      (controller.sent.filterMap ControlMsg.resize).Sublist controller.requested ∧
      (controller.resizeWidth = 0 → controller.thread.inHand.filterMap ControlMsg.resize = [] →
        (controller.sent.filterMap ControlMsg.resize).getLast? = controller.requested.getLast?) := by
  have sound := Controller.sound reached
  obtain ⟨queued, ordered⟩ := sound.ordered
  have order := ordered.order
  rw [Controller.taken, filter_append, append_assoc] at order
  refine ⟨?_, ⟨queued, ordered.queue, order⟩, ?_, ?_, ?_⟩
  · intro waits
    obtain ⟨empty, unset, runs⟩ := sound.idle waits
    refine ⟨empty, unset, runs, ?_⟩
    have none : queued = [] := ordered.queue.isEmpty.mp (by simp [Util.VecDeque.isEmpty, empty])
    simpa [none, waits, ControllerThread.inHand] using order
  · intro msg allocates kept refused
    rcases Controller.pushMsg_queue ordered msg allocates with ⟨pushed, _⟩ | ⟨_, _, why⟩
    · simp [refused] at pushed
    · exact why kept
  · have sizes := sound.resized.sizes
    rw [Controller.taken, filterMap_append, append_assoc] at sizes
    exact (sublist_append_left ..).trans sizes
  · intro unset free
    have last := sound.resized.last
    rwa [Controller.taken, filterMap_append, free, append_nil, Controller.slot,
      if_pos unset, append_nil] at last

def pressed : Controller :=
  (controllerMachine.run .new [.pushMsg .rotateDevice true, .resizeDisplay 640 480, .lock,
    .send true, .lock, .send true, .lock]).getD .new

theorem pressed_reached : controllerMachine.Reachable pressed :=
  .getD_run _ (.start rfl) rfl

theorem controller_delivers_pressed :
    pressed.thread = .waiting false ∧
      (pressed.sent.filter fun msg => !msg.isResize) = pressed.pushed :=
  ⟨rfl, ((controller_delivers pressed_reached).1 rfl).2.2.2⟩

end Ika.Control
