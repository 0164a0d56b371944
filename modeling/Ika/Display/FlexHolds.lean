import Ika.Display.Flex
import Ika.Foundation.Machine

/-! What a held window waits for.

A hold is started by a size and ended by the confirmation of a request, so it
must not outlive the size that asks for one.
-/

set_option autoImplicit false

namespace Ika.Display

open Transition

inductive FlexCall where
  | onWindowSize (size : Size)
  | onWindowStateChanged
  | onDisplayReady (size : Size)
  | onFrame (frameSize : Size)
  | onTimer

structure FlexEvent where
  call : FlexCall
  platform : Platform

/-- The flex display, and the size whose `DISPLAY_READY` is outstanding. -/
structure FlexRun where
  flex : Flex
  clock : Int := 0
  awaited : Option Size := none

namespace FlexRun

variable (run : FlexRun)

/-- The calls. A timer event may come early or late. -/
def call (intensity : Int → Int) (platform : Platform) : FlexCall → FlexRun
  | .onWindowSize size =>
    { flex := run.flex.onWindowSize platform intensity size
      clock := platform.now
      awaited := if flexClamp size ≠ run.flex.pending ∧ run.flex.StartsHold (flexClamp size)
        then none else run.awaited}
  | .onWindowStateChanged =>
    {run with flex := run.flex.onWindowStateChanged platform, clock := platform.now}
  | .onDisplayReady size =>
    { flex := run.flex.onDisplayReady platform size
      clock := platform.now
      awaited := if run.awaited = some size then none else run.awaited}
  | .onFrame frameSize =>
    {run with flex := run.flex.onFrame platform frameSize, clock := platform.now}
  | .onTimer =>
    { flex := (run.flex.onTimer platform).flex
      clock := platform.now
      awaited := (run.flex.onTimer platform).sent.or run.awaited}

end FlexRun

/-- Time is positive and never goes back. -/
def flexMachine (intensity : Int → Int) (raw appWindow : Bool) : Machine FlexRun FlexEvent where
  init run := run = {flex := .init raw appWindow}
  step run event :=
    if 0 < event.platform.now ∧ run.clock ≤ event.platform.now then
      some (run.call intensity event.platform event.call)
    else none

def Flex.ArmedBy (flex : Flex) (deadline : Int) : Prop :=
  flex.timer = true ∧ flex.timerDeadline ≤ deadline

namespace FlexRun

variable (run : FlexRun)

/-- If the window is held, something will end that. -/
def HeldForReason : Prop :=
  run.flex.holding = true → run.flex.revealed = true →
    (run.flex.pending ≠ run.flex.requested ∧ run.flex.ArmedBy run.flex.pendingDeadline) ∨
    (run.flex.readyTick ≠ 0 ∧ run.flex.ArmedBy (run.flex.readyTick + flexMaxSettle)) ∨
    (run.flex.raw = true ∧ run.awaited = some run.flex.requested)

/-- A window comes back to the requested size and is held for a request that is none. -/
def ReturnsHeld (size : Size) : Prop :=
  run.flex.revealed = true ∧ size ≠ run.flex.pending ∧ size = run.flex.requested ∧
    (run.flex.StartsHold size ∨
      run.flex.holding = true ∧ run.flex.readyTick = 0 ∧
        ¬(run.flex.raw = true ∧ run.awaited = some size))
  deriving Decidable

end FlexRun

def FlexCall.Proceeds (run : FlexRun) : FlexCall → Prop
  | .onWindowSize size => ¬run.ReturnsHeld (flexClamp size)
  | _ => True

instance (run : FlexRun) : (call : FlexCall) → Decidable (call.Proceeds run)
  | .onWindowSize size => inferInstanceAs (Decidable ¬run.ReturnsHeld (flexClamp size))
  | .onWindowStateChanged | .onDisplayReady _ | .onFrame _ | .onTimer => isTrue trivial

def FlexProceeds (run : FlexRun) (event : FlexEvent) : Prop :=
  event.platform.addsTimer = true ∧ event.call.Proceeds run
  deriving Decidable

namespace Flex

variable {flex : Flex} {platform : Platform}

theorem armedBy_schedule (adds : platform.addsTimer = true) (deadline : Int) :
    (flex.schedule platform deadline).ArmedBy deadline := by
  unfold schedule
  split
  · rename_i armed
    exact armed
  · exact ⟨adds, Int.le_refl _⟩

variable {deadline other : Int}

theorem ArmedBy.schedule (armed : flex.ArmedBy deadline) (adds : platform.addsTimer = true)
    (other : Int) : (flex.schedule platform other).ArmedBy deadline := by
  unfold Flex.schedule
  split
  · exact armed
  · rename_i later
    have sooner : other < flex.timerDeadline := by
      by_contra notSooner
      exact later ⟨armed.1, Int.not_lt.mp notSooner⟩
    exact ⟨adds, Int.le_trans (Int.le_of_lt sooner) armed.2⟩

theorem schedule_same (deadline : Int) : ∃ timer timerDeadline,
    flex.schedule platform deadline = {flex with timer, timerDeadline} := by
  unfold schedule
  split
  · exact ⟨flex.timer, flex.timerDeadline, rfl⟩
  · exact ⟨_, _, rfl⟩

/-- What is to come, whoever keeps the time: `Due deadline` says that something happens by then. -/
structure Awaits (flex : Flex) (awaited : Option Size) (Due : Int → Prop) : Prop where
  sized : flex.pending ≠ flex.requested → flex.pending.IsSet
  deadline : flex.pending ≠ flex.requested → 0 < flex.pendingDeadline ∧ Due flex.pendingDeadline
  ready : 0 ≤ flex.readyTick
  frame : 0 ≤ flex.frameTick
  settles : flex.holding = true → flex.readyTick ≠ 0 → Due (flex.readyTick + flexMaxSettle)
  confirmed : flex.holding = true → flex.revealed = true → flex.pending = flex.requested →
    flex.readyTick = 0 → flex.raw = true ∧ awaited = some flex.requested

variable {awaited : Option Size} {Due : Int → Prop}

theorem Awaits.timed (awaits : flex.Awaits awaited Due) {Later : Int → Prop}
    (later : ∀ deadline, Due deadline → Later deadline) (timer : Bool) (timerDeadline : Int) :
    Awaits {flex with timer := timer, timerDeadline := timerDeadline} awaited Later where
  sized := awaits.sized
  deadline differs := (awaits.deadline differs).imp_right (later _)
  ready := awaits.ready
  frame := awaits.frame
  settles holds ready := later _ (awaits.settles holds ready)
  confirmed := awaits.confirmed

theorem Awaits.schedule (awaits : flex.Awaits awaited Due) (deadline : Int)
    (later : ∀ other, Due other → (flex.schedule platform deadline).ArmedBy other) :
    (flex.schedule platform deadline).Awaits awaited (flex.schedule platform deadline).ArmedBy := by
  obtain ⟨timer, timerDeadline, same⟩ := @schedule_same flex platform deadline
  rw [same] at later ⊢
  exact awaits.timed later timer timerDeadline

theorem Awaits.scheduled (awaits : flex.Awaits awaited flex.ArmedBy)
    (adds : platform.addsTimer = true) (deadline : Int) :
    (flex.schedule platform deadline).Awaits awaited (flex.schedule platform deadline).ArmedBy :=
  awaits.schedule deadline fun _ armed => armed.schedule adds deadline

theorem clamp_isSet (size : Size) : (flexClamp size).IsSet := by
  simp only [flexClamp, Size.IsSet, flexMinWidth, flexMinHeight]
  omega

theorem resize_positive (positive : 0 < platform.now) (size : Size) :
    0 < (flex.resize platform size).pendingDeadline := by
  simp only [resize, flexDiscreteDelay, flexDragDelay, fromMs]
  split_ifs <;> omega

theorem Awaits.resize (awaits : flex.Awaits awaited flex.ArmedBy) (positive : 0 < platform.now)
    {size : Size} (sized : size.IsSet)
    (returns : flex.holding = true → flex.revealed = true → size = flex.requested →
      flex.readyTick = 0 → flex.raw = true ∧ awaited = some size) :
    (flex.resize platform size).Awaits awaited fun deadline =>
      flex.ArmedBy deadline ∨ deadline = (flex.resize platform size).pendingDeadline where
  sized _ := sized
  deadline _ := ⟨resize_positive positive size, .inr rfl⟩
  ready := awaits.ready
  frame := awaits.frame
  settles holds ready := .inl (awaits.settles holds ready)
  confirmed holds revealed is unready := by
    have confirms := returns holds revealed is unready
    exact ⟨confirms.1, confirms.2.trans (congrArg some is)⟩

theorem Awaits.held (sized : flex.pending.IsSet) (positive : 0 < flex.pendingDeadline)
    (frame : 0 ≤ flex.frameTick) (leaves : flex.revealed = true → flex.pending ≠ flex.requested)
    (intensity : Int → Int) :
    (flex.held platform intensity).Awaits none fun deadline => deadline = flex.pendingDeadline where
  sized _ := sized
  deadline _ := ⟨positive, rfl⟩
  ready := Int.le_refl 0
  frame := frame
  settles _ ready := absurd rfl ready
  confirmed _ revealed is := absurd is (leaves revealed)

theorem Awaits.onWindowSize (awaits : flex.Awaits awaited flex.ArmedBy)
    (adds : platform.addsTimer = true) (positive : 0 < platform.now) (intensity : Int → Int)
    (size : Size) (proceeds : ¬FlexRun.ReturnsHeld {flex, awaited} (flexClamp size)) :
    (flex.onWindowSize platform intensity size).Awaits
      (if flexClamp size ≠ flex.pending ∧ flex.StartsHold (flexClamp size) then none else awaited)
      (flex.onWindowSize platform intensity size).ArmedBy := by
  unfold Flex.onWindowSize
  dsimp only
  split
  · rename_i same
    rw [if_neg fun starts => starts.1 same]
    exact awaits
  · rename_i differs
    by_cases starts : flex.StartsHold (flexClamp size)
    · rw [if_pos starts, if_pos ⟨differs, starts⟩]
      have leaves : flex.revealed = true → flexClamp size ≠ flex.requested := by
        intro revealed is
        exact proceeds ⟨revealed, differs, is, .inl starts⟩
      have held : ((flex.resize platform (flexClamp size)).held platform intensity).Awaits none _ :=
        Awaits.held (clamp_isSet size) (resize_positive positive _) awaits.frame leaves intensity
      have started := held.timed (fun _ is => is)
      obtain ⟨timer, timerDeadline, same⟩ := @schedule_same
        ((flex.resize platform (flexClamp size)).held platform intensity) platform
        (platform.now + flexAnimationInterval)
      rw [startHold, same]
      apply (started timer timerDeadline).schedule
      rintro deadline rfl
      exact armedBy_schedule adds _
    · rw [if_neg starts, if_neg fun both => starts both.2]
      have returns : flex.holding = true → flex.revealed = true → flexClamp size = flex.requested →
          flex.readyTick = 0 → flex.raw = true ∧ awaited = some (flexClamp size) := by
        intro holds revealed is unready
        by_contra unconfirmed
        exact proceeds ⟨revealed, differs, is, .inr ⟨holds, unready, unconfirmed⟩⟩
      have resized := awaits.resize positive (clamp_isSet size) returns
      apply resized.schedule
      rintro deadline (armed | rfl)
      · have still : (flex.resize platform (flexClamp size)).ArmedBy deadline := armed
        exact still.schedule adds _
      · exact armedBy_schedule adds _

theorem Awaits.onDisplayReady (awaits : flex.Awaits awaited flex.ArmedBy)
    (adds : platform.addsTimer = true) (positive : 0 < platform.now) (size : Size) :
    (flex.onDisplayReady platform size).Awaits (if awaited = some size then none else awaited)
      (flex.onDisplayReady platform size).ArmedBy := by
  unfold Flex.onDisplayReady
  split
  · rename_i obsolete
    refine {awaits with confirmed := ?_}
    intro holds revealed is unready
    -- the size confirmed is not the one that is awaited
    have confirms := awaits.confirmed holds revealed is unready
    have apart : size ≠ flex.requested := by simpa [confirms.1] using obsolete
    rw [confirms.2, if_neg fun same => apart (Option.some.inj same).symm]
    exact ⟨confirms.1, rfl⟩
  · have ready : Awaits {flex with
        readyTick := platform.now
        readyUnchanged := size = flex.shown} (if awaited = some size then none else awaited)
          fun deadline => flex.ArmedBy deadline ∨ platform.now ≤ deadline := by
      constructor
      · exact awaits.sized
      · exact fun differs => (awaits.deadline differs).imp_right .inl
      · exact Int.le_of_lt positive
      · exact awaits.frame
      · intro _ _
        right
        simp only [flexMaxSettle, fromMs]
        omega
      · intro _ _ _ unready
        dsimp only at unready
        omega
    apply ready.schedule
    rintro deadline (armed | later)
    · have still : ArmedBy {flex with
        readyTick := platform.now
        readyUnchanged := size = flex.shown} deadline := armed
      exact still.schedule adds _
    · have armed := @armedBy_schedule {flex with
        readyTick := platform.now
        readyUnchanged := size = flex.shown} platform adds platform.now
      exact ⟨armed.1, Int.le_trans armed.2 later⟩

theorem Awaits.released (awaits : flex.Awaits awaited Due) :
    (flex.released platform).Awaits awaited Due where
  sized := awaits.sized
  deadline := awaits.deadline
  ready := Int.le_refl 0
  frame := awaits.frame
  settles holds := by cases holds
  confirmed holds := by cases holds

theorem Awaits.release (awaits : flex.Awaits awaited flex.ArmedBy)
    (adds : platform.addsTimer = true) :
    (flex.release platform).Awaits awaited (flex.release platform).ArmedBy :=
  awaits.released.scheduled adds _

theorem Awaits.onFrame (awaits : flex.Awaits awaited flex.ArmedBy)
    (adds : platform.addsTimer = true) (positive : 0 < platform.now) (frameSize : Size) :
    (flex.onFrame platform frameSize).Awaits awaited (flex.onFrame platform frameSize).ArmedBy := by
  have framed : ∀ count shown, Awaits {flex with
      frameTick := platform.now, framesSinceRequest := count, shown := shown} awaited flex.ArmedBy :=
    fun _ _ => {awaits with frame := Int.le_of_lt positive}
  simp only [Flex.onFrame]
  split_ifs
  · exact (framed _ _).scheduled adds _
  · exact (framed _ _).scheduled adds _
  · exact framed _ _
  · exact (framed _ _).release adds
  · exact framed _ _

def Wake.DueBy (wake : Wake) (deadline : Int) : Prop := 0 < wake.next ∧ wake.next ≤ deadline

variable {wake : Wake}

theorem Wake.DueBy.due (dueBy : wake.DueBy deadline) (positive : 0 < other) :
    (wake.due other).DueBy deadline := by
  have ⟨first, last⟩ := dueBy
  simp only [Wake.DueBy, Wake.due, if_pos (show wake.next ≠ 0 by omega)]
  omega

theorem Wake.dueBy_due {deadline : Int} (started : 0 ≤ wake.next) (positive : 0 < deadline) :
    (wake.due deadline).DueBy deadline := by
  simp only [Wake.DueBy, Wake.due]
  split <;> omega

theorem Wake.DueBy.mono (dueBy : wake.DueBy deadline) (later : deadline ≤ other) :
    wake.DueBy other :=
  ⟨dueBy.1, Int.le_trans dueBy.2 later⟩

structure Woken (wake : Wake) (awaited : Option Size) : Prop where
  awaits : wake.flex.Awaits (wake.sent.or awaited) fun _ => True
  started : 0 ≤ wake.next
  requests : wake.flex.pending ≠ wake.flex.requested → wake.DueBy wake.flex.pendingDeadline

theorem Awaits.request (awaits : flex.Awaits awaited Due) (positive : 0 < platform.now) :
    (flex.request platform).Awaits (some flex.pending) fun _ => True where
  sized apart := absurd rfl apart
  deadline apart := absurd rfl apart
  ready := by
    simp only [Flex.request]
    split <;> omega
  frame := awaits.frame
  settles _ _ := trivial
  confirmed _ _ _ unready := by
    have raw : flex.raw = true := by
      by_contra video
      simp only [Flex.request, if_neg video] at unready
      omega
    exact ⟨raw, rfl⟩

theorem Awaits.wakeRequest (awaits : flex.Awaits awaited flex.ArmedBy)
    (positive : 0 < platform.now) :
    Woken (wakeRequest platform {flex := {flex with timer := false}}) awaited := by
  have idle := awaits.timed (fun _ _ => trivial) false flex.timerDeadline
  simp only [Flex.wakeRequest]
  split_ifs with differs due
  · exact ⟨idle.request positive, Int.le_refl 0, fun apart => absurd rfl apart⟩
  · refine ⟨idle, ?_, ?_⟩
    · have started := @Wake.dueBy_due {flex := {flex with timer := false}} flex.pendingDeadline
        (Int.le_refl 0) (awaits.deadline differs.2).1
      exact Int.le_of_lt started.1
    · exact fun _ => Wake.dueBy_due (Int.le_refl 0) (awaits.deadline differs.2).1
  · refine ⟨idle, Int.le_refl 0, ?_⟩
    exact fun apart => absurd ⟨awaits.sized apart, apart⟩ differs

def Settles (wake : Wake) : Prop :=
  wake.flex.holding = true → wake.flex.readyTick ≠ 0 →
    wake.DueBy (wake.flex.readyTick + flexMaxSettle)

theorem Woken.due (woken : Woken wake awaited) (positive : 0 < deadline) :
    Woken (wake.due deadline) awaited where
  awaits := woken.awaits
  started := Int.le_of_lt (Wake.dueBy_due woken.started positive).1
  requests apart := (woken.requests apart).due positive

theorem Awaits.keepHolding (awaits : flex.Awaits awaited Due) (apart : flex.pending ≠ flex.requested) :
    flex.keepHolding.Awaits awaited Due where
  sized := awaits.sized
  deadline := awaits.deadline
  ready := Int.le_refl 0
  frame := awaits.frame
  settles _ ready := absurd rfl ready
  confirmed _ _ is := absurd is apart

theorem Woken.wakeSettle (woken : Woken wake awaited) :
    Woken (wakeSettle platform wake) awaited ∧ Settles (Flex.wakeSettle platform wake) := by
  have ready := woken.awaits.ready
  have frame := woken.awaits.frame
  simp only [Flex.wakeSettle]
  split_ifs with held done same redrawn
  · obtain ⟨timer, timerDeadline, release⟩ := @schedule_same (wake.flex.released platform) platform
      (platform.now + flexAnimationInterval)
    refine ⟨⟨?_, woken.started, ?_⟩, ?_⟩
    · rw [Flex.release, release]
      exact woken.awaits.released.timed (fun _ _ => trivial) timer timerDeadline
    · rw [Flex.release, release]
      exact fun apart => absurd same apart
    · intro holds
      rw [Flex.release, release] at holds
      cases holds
  · refine ⟨⟨?_, woken.started, woken.requests⟩, fun _ unready => absurd rfl unready⟩
    exact woken.awaits.keepHolding same
  · have idlePositive : 0 < min (wake.flex.frameTick + flexGuestIdle)
        (wake.flex.readyTick + flexMaxSettle) := by
      simp only [flexGuestIdle, flexMaxSettle, fromMs]
      omega
    refine ⟨woken.due idlePositive, ?_⟩
    intro _ _
    exact (Wake.dueBy_due woken.started idlePositive).mono (Int.min_le_right ..)
  · have maxPositive : 0 < wake.flex.readyTick + flexMaxSettle := by
      simp only [flexMaxSettle, fromMs]
      omega
    exact ⟨woken.due maxPositive, fun _ _ => Wake.dueBy_due woken.started maxPositive⟩
  · exact ⟨woken, fun holds unready => absurd ⟨holds, unready⟩ held⟩

theorem Woken.wakeAnimate (woken : Woken wake awaited) (settles : Settles wake)
    (positive : 0 < platform.now) :
    Woken (wakeAnimate platform wake) awaited ∧ Settles (wakeAnimate platform wake) := by
  have next : 0 < platform.now + flexAnimationInterval := by
    simp only [flexAnimationInterval, fromMs]
    omega
  have rendered : Woken {wake with render := true} awaited :=
    ⟨woken.awaits, woken.started, woken.requests⟩
  simp only [Flex.wakeAnimate]
  split_ifs
  · exact ⟨rendered.due next, fun holds unready => (settles holds unready).due next⟩
  · refine ⟨⟨?_, woken.started, woken.requests⟩, settles⟩
    exact {woken.awaits with}
  · exact ⟨woken, settles⟩

theorem Awaits.onTimer (awaits : flex.Awaits awaited flex.ArmedBy)
    (adds : platform.addsTimer = true) (positive : 0 < platform.now) :
    (flex.onTimer platform).flex.Awaits ((flex.onTimer platform).sent.or awaited)
      (flex.onTimer platform).flex.ArmedBy := by
  have requested : Woken (Flex.wakeRequest platform _) awaited := awaits.wakeRequest positive
  have settled : Woken (Flex.wakeSettle platform _) awaited ∧ _ := requested.wakeSettle
  have animated := settled.1.wakeAnimate settled.2 positive
  have woken : Woken (flex.awake platform) awaited := animated.1
  have due : (flex.awake platform).flex.Awaits ((flex.awake platform).sent.or awaited)
      (flex.awake platform).DueBy := {woken.awaits with
    deadline := fun apart => ⟨(woken.awaits.deadline apart).1, woken.requests apart⟩
    settles := animated.2}
  simp only [Flex.onTimer]
  split
  · apply due.schedule
    intro deadline dueBy
    have armed := @armedBy_schedule (flex.awake platform).flex platform adds
      (flex.awake platform).next
    exact ⟨armed.1, Int.le_trans armed.2 dueBy.2⟩
  · rename_i none_
    exact due.timed (fun deadline dueBy => absurd (Int.ne_of_gt dueBy.1) none_) _ _

end Flex

theorem FlexRun.awaits_call {run : FlexRun} {event : FlexEvent}
    (awaits : run.flex.Awaits run.awaited run.flex.ArmedBy) (positive : 0 < event.platform.now)
    (proceeds : FlexProceeds run event) (intensity : Int → Int) :
    (run.call intensity event.platform event.call).flex.Awaits
      (run.call intensity event.platform event.call).awaited
      (run.call intensity event.platform event.call).flex.ArmedBy := by
  obtain ⟨call, platform⟩ := event
  cases call with
  | onWindowSize size => exact awaits.onWindowSize proceeds.1 positive intensity size proceeds.2
  | onWindowStateChanged => exact {awaits with}
  | onDisplayReady size => exact awaits.onDisplayReady proceeds.1 positive size
  | onFrame frameSize => exact awaits.onFrame proceeds.1 positive frameSize
  | onTimer => exact awaits.onTimer proceeds.1 positive

theorem Flex.Awaits.heldForReason {run : FlexRun}
    (awaits : run.flex.Awaits run.awaited run.flex.ArmedBy) : run.HeldForReason := by
  intro holds revealed
  by_cases is : run.flex.pending = run.flex.requested
  · by_cases unready : run.flex.readyTick = 0
    · exact .inr (.inr (awaits.confirmed holds revealed is unready))
    · exact .inr (.inl ⟨unready, awaits.settles holds unready⟩)
  · exact .inl ⟨is, (awaits.deadline is).2⟩

/-- A window that is held is held for a reason while timers can be added and no window comes back to
the requested size for nothing. -/
theorem flex_held_for_reason (intensity : Int → Int) (raw appWindow : Bool) {run : FlexRun}
    (reached : (flexMachine intensity raw appWindow).Reaches FlexProceeds run) :
    run.HeldForReason := by
  have awaits : run.flex.Awaits run.awaited run.flex.ArmedBy := by
    apply reached.invariant
    · rintro _ rfl
      refine ⟨fun apart => absurd rfl apart, fun apart => absurd rfl apart, Int.le_refl 0,
        Int.le_refl 0, fun _ unready => absurd rfl unready, ?_⟩
      intro holds revealed
      cases raw <;> simp [Flex.init] at holds revealed
    · intro run event after awaits proceeds moved
      simp only [flexMachine, Option.ite_none_right_eq_some, Option.some.injEq] at moved
      obtain ⟨times, rfl⟩ := moved
      exact FlexRun.awaits_call awaits times.1 proceeds intensity
  exact awaits.heldForReason

def shownCalls : List FlexEvent := [
  ⟨.onWindowSize ⟨800, 600⟩, {now := 1000}⟩,
  ⟨.onTimer, {now := 2000}⟩,
  ⟨.onDisplayReady ⟨800, 600⟩, {now := 3000}⟩,
  ⟨.onTimer, {now := 1003000}⟩,
  ⟨.onTimer, {now := 1500000}⟩]

def rawStart : FlexRun := {flex := .init true false}

def heldRun : FlexRun :=
  ((flexMachine (fun _ => 0) true false).runAllowed FlexProceeds rawStart
    (shownCalls ++ [⟨.onWindowSize ⟨900, 700⟩, {now := 2000000}⟩])).getD rawStart

theorem flex_held_for_reason_resized :
    (flexMachine (fun _ => 0) true false).Reaches FlexProceeds heldRun ∧
      heldRun.flex.holding = true ∧ heldRun.flex.revealed = true ∧ heldRun.HeldForReason := by
  have reached : (flexMachine (fun _ => 0) true false).Reaches FlexProceeds heldRun :=
    .getD_runAllowed _ (.start rfl) (by decide +kernel)
  exact ⟨reached, by decide +kernel, by decide +kernel,
    flex_held_for_reason (fun _ => 0) true false reached⟩

def returnedRun : FlexRun :=
  ((flexMachine (fun _ => 0) true false).run rawStart (shownCalls ++ [
    ⟨.onWindowSize ⟨900, 700⟩, {now := 2000000}⟩,
    ⟨.onTimer, {now := 2016000}⟩,
    ⟨.onWindowSize ⟨800, 600⟩, {now := 2100000}⟩,
    ⟨.onTimer, {now := 2600000}⟩])).getD rawStart

theorem returned_held : (flexMachine (fun _ => 0) true false).Reachable returnedRun ∧
    returnedRun.flex.pending = ⟨800, 600⟩ ∧ returnedRun.flex.shown = ⟨800, 600⟩ ∧
    returnedRun.flex.holding = true ∧ returnedRun.flex.timer = false ∧
    ¬returnedRun.HeldForReason := by
  refine ⟨.getD_run _ (.start rfl) (by decide +kernel), by decide +kernel, by decide +kernel,
    by decide +kernel, by decide +kernel, ?_⟩
  intro reason
  rcases reason (by decide +kernel) (by decide +kernel) with ⟨apart, _⟩ | ⟨ready, _⟩ | ⟨_, awaited⟩
  · exact apart (by decide +kernel)
  · exact ready (by decide +kernel)
  · exact absurd awaited (by decide +kernel)

end Ika.Display
