import Ika.Display.Resizer

/-! Which sizes of the main display are confirmed, and when.

The resizer decides from a `DisplayInfo` that may lag behind the forced size,
and the monitor drops an event whose properties it has seen last, so the
conditions here are about the orders in which that goes wrong.
-/

set_option autoImplicit false

namespace Ika.Display

open Transition Nat

namespace ResizeState

variable (state : ResizeState)

/-- No call runs, `DisplayInfo` has the forced size, and all events are handled. -/
def Quiescent : Prop :=
  state.resizePc = .idle ∧ state.monitorPc = .idle ∧ state.android.events = 0 ∧
    state.android.info.size = state.android.forcedSize

/-- Sizes are confirmed while forced, and in the end the last that succeeded. -/
def Confirmed : Prop :=
  (∀ ready ∈ state.readies, ready.size = ready.forcedSize) ∧
    (state.Quiescent → ∀ size, state.succeeded = some size →
      state.readies.head?.map Ready.size = some size)

def Answered : Prop :=
  state.readies.head?.map Ready.size = some state.android.forcedSize ∨
    state.monitorPc = .notifyListener state.android.forcedSize
  deriving Decidable

end ResizeState

/-- The control thread does not take an old size for its own, force another size while one is being
confirmed, or fail to force one. -/
def ControlConfirms (state : ResizeState) (succeeds : Bool) : ResizePc → Prop
  | .getDisplayInfo size =>
    (size = state.android.info.size → size = state.android.forcedSize) ∧
      (size ≠ state.android.info.size → size = state.android.forcedSize → state.succeeded ≠ none)
  | .setForcedSize size =>
    (succeeds = true → state.monitorPc = .notifyListener state.android.forcedSize →
      size = state.android.forcedSize) ∧
      (succeeds = false → state.succeeded = none ∨ state.Answered)
  | _ => True

/-- The monitor does not drop the event of the size awaited, or confirm it from an old
`DisplayInfo`. -/
def MonitorConfirms (state : ResizeState) : MonitorPc → Prop
  | .exchange props =>
    ¬(state.monitor.props = some props ∧ state.resizer.pendingSize = some props.size ∧
      state.android.forcedSize = props.size ∧ state.android.info.size = props.size)
  | .comparePending size =>
    state.resizer.pendingSize = some size → size = state.android.forcedSize
  | _ => True

def Confirms (state : ResizeState) : ResizeEvent → Prop
  | .control succeeds => ControlConfirms state succeeds state.resizePc
  | .monitor => MonitorConfirms state state.monitorPc
  | _ => True

instance (state : ResizeState) (succeeds : Bool) :
    (pc : ResizePc) → Decidable (ControlConfirms state succeeds pc)
  | .getDisplayInfo _ => inferInstanceAs (Decidable (_ ∧ _))
  | .setForcedSize _ => inferInstanceAs (Decidable (_ ∧ _))
  | .idle | .setScaling _ | .clearPending _ | .notifyListener _ | .setPending _
  | .forcingFailed _ | .applyDensity => isTrue trivial

instance (state : ResizeState) : (pc : MonitorPc) → Decidable (MonitorConfirms state pc)
  | .exchange _ => inferInstanceAs (Decidable ¬(_ ∧ _))
  | .comparePending size =>
    inferInstanceAs (Decidable (state.resizer.pendingSize = some size → _))
  | .idle | .getDisplayInfo | .readyDisplayInfo | .notifyListener _ => isTrue trivial

instance (state : ResizeState) : (event : ResizeEvent) → Decidable (Confirms state event)
  | .control _ => inferInstanceAs (Decidable (ControlConfirms ..))
  | .monitor => inferInstanceAs (Decidable (MonitorConfirms ..))
  | .resize .. | .takeForcedSize | .configurationEvent => isTrue trivial

namespace ResizeState

variable {state : ResizeState}

def Underway (state : ResizeState) : Prop :=
  0 < state.android.events ∨
    match state.monitorPc with
    | .getDisplayInfo | .readyDisplayInfo => True
    | .exchange props => props.size = state.android.forcedSize
    | .comparePending size => size = state.android.forcedSize
    | .idle | .notifyListener _ => False

def Confirming (state : ResizeState) : Prop :=
  state.Answered ∨
    match state.resizePc with
    | .clearPending _ | .notifyListener _ => True
    | .forcingFailed _ => False
    | .idle | .setScaling _ | .getDisplayInfo _ | .setPending _ | .setForcedSize _
    | .applyDensity =>
      state.resizer.pendingSize = some state.android.forcedSize ∧
        (state.android.info.size ≠ state.android.forcedSize ∨ state.Underway)

def ResizePc.Agrees (state : ResizeState) : ResizePc → Prop
  | .clearPending size | .notifyListener size => size = state.android.forcedSize
  | .setPending size =>
    (size ≠ state.android.forcedSize → state.android.info.size ≠ size) ∧
      (size = state.android.forcedSize → state.succeeded ≠ none)
  | .setForcedSize size =>
    (size ≠ state.android.forcedSize →
      state.android.info.size ≠ size ∧ state.resizer.pendingSize = some size) ∧
    (size = state.android.forcedSize → state.succeeded ≠ none)
  | .idle | .setScaling _ | .getDisplayInfo _ | .forcingFailed _ | .applyDensity => True

def Superseding (state : ResizeState) : Prop :=
  ∃ size, state.resizePc = .setForcedSize size ∧ size ≠ state.android.forcedSize

/-- What every step keeps whose condition holds. -/
structure Handshake (state : ResizeState) : Prop where
  told : ∀ ready ∈ state.readies, ready.size = ready.forcedSize
  last : ∀ size, state.succeeded = some size → size = state.android.forcedSize
  agrees : ResizePc.Agrees state state.resizePc
  notifying : ∀ size, state.monitorPc = .notifyListener size → size = state.android.forcedSize
  confirming : state.succeeded ≠ none → ¬state.Superseding → state.Confirming

theorem Handshake.confirmed (handshake : state.Handshake) : state.Confirmed := by
  refine ⟨handshake.told, ?_⟩
  rintro ⟨resizeIdle, monitorIdle, noEvents, settled⟩ size succeeded
  have unsuperseded : ¬state.Superseding := by
    rintro ⟨other, forcing, _⟩
    rw [resizeIdle] at forcing
    cases forcing
  have is := handshake.last size succeeded
  have confirming := handshake.confirming (by simp [succeeded]) unsuperseded
  simp [Confirming, Answered, Underway, resizeIdle, monitorIdle, noEvents, settled] at confirming
  rw [is]
  simpa using confirming

def watch (state : ResizeState) (events : Nat) (monitor : DisplayMonitor) (pc : MonitorPc) :
    ResizeState :=
  {state with
    android := {state.android with events := events}, monitor := monitor, monitorPc := pc}

theorem Confirming.watch {events : Nat} {monitor : DisplayMonitor} {pc : MonitorPc}
    (confirming : state.Confirming)
    (stays : ∀ size, state.monitorPc = .notifyListener size → pc = .notifyListener size)
    (underway : state.resizer.pendingSize = some state.android.forcedSize →
      state.android.info.size = state.android.forcedSize → state.Underway →
      (state.watch events monitor pc).Underway) : (state.watch events monitor pc).Confirming := by
  rcases confirming with answered | path
  · exact .inl (answered.imp_right (stays _))
  · right
    cases at_ : state.resizePc <;> simp only [ResizeState.watch, at_] at path ⊢
    all_goals
      refine ⟨path.1, ?_⟩
      by_cases settled : state.android.info.size = state.android.forcedSize
      · exact .inr (underway path.1 settled (path.2.resolve_left (not_not.mpr settled)))
      · exact .inl settled

theorem Handshake.watch (handshake : state.Handshake) (events : Nat) (monitor : DisplayMonitor)
    (pc : MonitorPc)
    (stays : ∀ size, state.monitorPc = .notifyListener size ↔ pc = .notifyListener size)
    (underway : state.resizer.pendingSize = some state.android.forcedSize →
      state.android.info.size = state.android.forcedSize → state.Underway →
      (state.watch events monitor pc).Underway) : (state.watch events monitor pc).Handshake where
  told := handshake.told
  last := handshake.last
  agrees := handshake.agrees
  notifying size is := handshake.notifying size ((stays size).mpr is)
  confirming succeeded unsuperseded :=
    (handshake.confirming succeeded unsuperseded).watch (fun size => (stays size).mp) underway

variable {size : Size} {after : ResizeState}

section

variable (handshake : state.Handshake)
include handshake

theorem Handshake.found
    (pending : state.resizer.pendingSize = some size) (is : size = state.android.forcedSize) :
    ((state.setPendingSize none).monitorTo (.notifyListener size)).Handshake := by
  refine ⟨handshake.told, handshake.last, ?_, ?_, ?_⟩
  · have agrees := handshake.agrees
    cases at_ : state.resizePc with
    | setForcedSize other =>
      -- no other size is awaited than the one found
      rw [at_] at agrees
      have same : other = state.android.forcedSize := by
        by_contra differs
        have awaited := (agrees.1 differs).2
        rw [pending] at awaited
        exact differs ((Option.some.inj awaited).symm.trans is)
      simp only [setPendingSize, monitorTo, at_]
      exact ⟨fun differs => absurd same differs, agrees.2⟩
    | _ =>
      rw [at_] at agrees
      simp only [setPendingSize, monitorTo, at_]
      exact agrees
  · intro other notifies
    cases notifies
    exact is
  · intro _ _
    left
    right
    change MonitorPc.notifyListener size = .notifyListener state.android.forcedSize
    rw [is]

theorem Handshake.notified (notifies : state.monitorPc = .notifyListener size) :
    ((state.onDisplayReady size).monitorTo .idle).Handshake := by
  have is := handshake.notifying size notifies
  refine ⟨?_, handshake.last, handshake.agrees, ?_, ?_⟩
  · intro ready mem
    rcases List.mem_cons.mp mem with rfl | before
    · exact is
    · exact handshake.told ready before
  · intro other still
    cases still
  · intro _ _
    left
    left
    change some size = some state.android.forcedSize
    rw [is]

theorem Handshake.monitorStep
    (confirms : MonitorConfirms state state.monitorPc) (moved : state.monitorStep = some after) :
    after.Handshake := by
  unfold ResizeState.monitorStep at moved
  cases at_ : state.monitorPc with
  | idle =>
    simp only [at_] at moved
    split at moved
    · cases moved
    · cases moved
      exact handshake.watch _ state.monitor .getDisplayInfo (by simp [at_])
        fun _ _ _ => .inr trivial
  | getDisplayInfo =>
    simp only [at_, Option.some.injEq] at moved
    subst moved
    exact handshake.watch state.android.events state.monitor (.exchange state.android.info)
      (by simp [at_]) fun _ settled _ => .inr settled
  | exchange props =>
    simp only [at_, Option.some.injEq] at moved
    subst moved
    apply handshake.watch state.android.events {props := some props} _ (by simp [at_]; split <;> simp)
    intro pending settled underway
    rcases underway with waiting | here
    · exact .inl waiting
    · -- the properties of the awaited size were not those seen last
      simp only [at_] at here
      rw [at_] at confirms
      have changed : state.monitor.props ≠ some props := by
        intro same
        apply confirms
        rw [here]
        exact ⟨same, pending, rfl, settled⟩
      right
      simp [ResizeState.watch, changed]
  | readyDisplayInfo =>
    simp only [at_, Option.some.injEq] at moved
    subst moved
    exact handshake.watch state.android.events state.monitor
      (.comparePending state.android.info.size) (by simp [at_]) fun _ settled _ => .inr settled
  | comparePending size =>
    simp only [at_] at moved
    split at moved
    · rename_i pending
      cases moved
      rw [at_] at confirms
      exact handshake.found pending (confirms pending)
    · rename_i other
      cases moved
      apply handshake.watch state.android.events state.monitor .idle (by simp [at_])
      intro pending _ underway
      rcases underway with waiting | here
      · exact .inl waiting
      · simp only [at_] at here
        rw [here] at other
        exact absurd pending other
  | notifyListener size =>
    simp only [at_, Option.some.injEq] at moved
    subst moved
    exact handshake.notified at_

theorem Handshake.rest {android : AndroidDisplay}
    {resizer : PrimaryDisplayResizer} (forced : android.forcedSize = state.android.forcedSize)
    (info : android.info = state.android.info) (events : state.android.events ≤ android.events)
    (pending : resizer.pendingSize = state.resizer.pendingSize) :
    Handshake {state with android := android, resizer := resizer} := by
  refine ⟨handshake.told, ?_, ?_, ?_, ?_⟩
  · dsimp only
    rw [forced]
    exact handshake.last
  · have agrees := handshake.agrees
    cases at_ : state.resizePc with
    | idle | setScaling _ | getDisplayInfo _ | forcingFailed _ | applyDensity => trivial
    | clearPending _ | notifyListener _ | setPending _ | setForcedSize _ =>
      rw [at_] at agrees
      simpa only [ResizePc.Agrees, forced, info, pending] using agrees
  · dsimp only
    rw [forced]
    exact handshake.notifying
  · intro succeeded unsuperseded
    have before : ¬state.Superseding := by
      simpa only [Superseding, forced] using unsuperseded
    rcases handshake.confirming succeeded before with answered | path
    · left
      simpa only [Answered, forced] using answered
    · right
      have underway : state.Underway →
          Underway {state with android := android, resizer := resizer} := by
        intro underway
        rcases underway with waiting | here
        · exact .inl (Nat.lt_of_lt_of_le waiting events)
        · right
          cases at_ : state.monitorPc <;> simp only [at_, forced] at here ⊢ <;> exact here
      cases at_ : state.resizePc <;> simp only [at_, forced, info, pending] at path ⊢
      all_goals exact path.imp_right fun either => either.imp_right underway

end

def ResizePc.Plain : ResizePc → Prop
  | .idle | .setScaling _ | .getDisplayInfo _ | .setPending _ | .applyDensity => True
  | .clearPending _ | .notifyListener _ | .setForcedSize _ | .forcingFailed _ => False

theorem ResizePc.Plain.unsuperseded (plain : ResizePc.Plain state.resizePc) :
    ¬state.Superseding := by
  rintro ⟨size, forcing, _⟩
  rw [forcing] at plain
  exact plain

theorem Confirming.waits (confirming : state.Confirming) (plain : ResizePc.Plain state.resizePc) :
    state.Answered ∨ state.resizer.pendingSize = some state.android.forcedSize ∧
      (state.android.info.size ≠ state.android.forcedSize ∨ state.Underway) := by
  rcases confirming with answered | path
  · exact .inl answered
  · right
    cases at_ : state.resizePc <;> rw [at_] at plain <;> simp only [at_] at path <;>
      first | exact path | exact plain.elim

theorem confirming_of_waits (plain : ResizePc.Plain state.resizePc)
    (waits : state.Answered ∨ state.resizer.pendingSize = some state.android.forcedSize ∧
      (state.android.info.size ≠ state.android.forcedSize ∨ state.Underway)) :
    state.Confirming := by
  rcases waits with answered | path
  · exact .inl answered
  · right
    cases at_ : state.resizePc <;> rw [at_] at plain <;> simp only <;>
      first | exact path | exact plain.elim

theorem Handshake.goTo (handshake : state.Handshake) (plain : ResizePc.Plain state.resizePc)
    (pc : ResizePc) (plainAfter : ResizePc.Plain pc) (agrees : ResizePc.Agrees state pc) :
    (state.goTo pc).Handshake where
  told := handshake.told
  last := handshake.last
  agrees := by
    cases pc <;> exact agrees
  notifying := handshake.notifying
  confirming succeeded _ := by
    have waits := (handshake.confirming succeeded plain.unsuperseded).waits plain
    exact @confirming_of_waits (state.goTo pc) plainAfter waits

theorem Handshake.applyPendingDensity (handshake : state.Handshake) :
    state.applyPendingDensity.Handshake := by
  unfold ResizeState.applyPendingDensity
  split
  · exact handshake.rest rfl rfl (le_succ _) rfl
  · exact handshake

theorem applyPendingDensity_same : state.applyPendingDensity.resizePc = state.resizePc ∧
    state.applyPendingDensity.android.forcedSize = state.android.forcedSize := by
  unfold applyPendingDensity
  split <;> exact ⟨rfl, rfl⟩

section

variable (handshake : state.Handshake)
include handshake

theorem Handshake.early (pending : Option Size) {pc : ResizePc}
    (early : pc = .clearPending size ∨ pc = .notifyListener size)
    (is : size = state.android.forcedSize) :
    ((state.setPendingSize pending).goTo pc).Handshake := by
  refine ⟨handshake.told, handshake.last, ?_, handshake.notifying, ?_⟩
  · rcases early with rfl | rfl <;> exact is
  · intro _ _
    right
    rcases early with rfl | rfl <;> trivial

theorem Handshake.notifyListener (is : size = state.android.forcedSize) :
    (((state.onDisplayReady size).succeed size).goTo .idle).Handshake := by
  refine ⟨?_, ?_, trivial, handshake.notifying, ?_⟩
  · intro ready mem
    rcases List.mem_cons.mp mem with rfl | before
    · exact is
    · exact handshake.told ready before
  · intro other same
    cases same
    exact is
  · intro _ _
    left
    left
    change some size = some state.android.forcedSize
    rw [is]

theorem Handshake.setPending (at_ : state.resizePc = .setPending size) :
    ((state.setPendingSize (some size)).goTo (.setForcedSize size)).Handshake := by
  have agrees := handshake.agrees
  rw [at_] at agrees
  refine ⟨handshake.told, handshake.last, ⟨fun differs => ⟨agrees.1 differs, rfl⟩, agrees.2⟩,
    handshake.notifying, ?_⟩
  intro succeeded unsuperseded
  have is : size = state.android.forcedSize := by
    by_contra differs
    exact unsuperseded ⟨size, rfl, differs⟩
  have plain : ResizePc.Plain state.resizePc := by
    rw [at_]
    trivial
  rcases (handshake.confirming succeeded plain.unsuperseded).waits plain with answered | path
  · exact .inl answered
  · right
    exact ⟨congrArg some is, path.2⟩

theorem Handshake.forced (at_ : state.resizePc = .setForcedSize size)
    (alone : state.monitorPc = .notifyListener state.android.forcedSize →
      size = state.android.forcedSize) :
    ((state.setForcedDisplaySize size).goTo .applyDensity).Handshake := by
  have agrees := handshake.agrees
  rw [at_] at agrees
  refine ⟨handshake.told, ?_, trivial, ?_, ?_⟩
  · intro other same
    exact (Option.some.inj same).symm
  · intro other notifies
    have before := handshake.notifying other notifies
    exact before.trans (alone (before ▸ notifies)).symm
  · intro _ _
    by_cases is : size = state.android.forcedSize
    · have unsuperseded : ¬state.Superseding := by
        rintro ⟨other, forcing, differs⟩
        rw [at_] at forcing
        cases forcing
        exact differs is
      have confirming := handshake.confirming (agrees.2 is) unsuperseded
      subst is
      rcases confirming with answered | path
      · exact .inl answered
      · right
        simp only [at_] at path
        exact path
    · have awaited := agrees.1 is
      exact .inr ⟨awaited.2, .inl awaited.1⟩

theorem Handshake.failed (pc : ResizePc) (pending : Option Size)
    (answered : state.succeeded = none ∨ state.Answered)
    (after : ResizePc.Agrees (state.setPendingSize pending) pc) :
    ((state.setPendingSize pending).goTo pc).Handshake := by
  refine ⟨handshake.told, handshake.last, ?_, handshake.notifying, ?_⟩
  · cases pc <;> exact after
  · intro succeeded _
    exact .inl (answered.resolve_left succeeded)

theorem Handshake.controlStep {succeeds : Bool}
    (confirms : ControlConfirms state succeeds state.resizePc)
    (moved : state.controlStep succeeds = some after) : after.Handshake := by
  unfold ResizeState.controlStep at moved
  have agrees := handshake.agrees
  have confirming := handshake.confirming
  cases at_ : state.resizePc with
  | idle =>
    rw [at_] at moved
    cases moved
  | setScaling size =>
    simp only [at_, Option.some.injEq] at moved
    subst moved
    have looked : state.lookUpPhysicalSize.Handshake := handshake.rest rfl rfl (Nat.le_refl _) rfl
    split
    · have scaled : (state.lookUpPhysicalSize.setScalingDisabled
          (state.lookUpPhysicalSize.fits size)).Handshake := looked.rest rfl rfl (Nat.le_refl _) rfl
      apply scaled.goTo _ (.getDisplayInfo size) trivial trivial
      simp [setScalingDisabled, lookUpPhysicalSize, at_, ResizePc.Plain]
    · apply looked.goTo _ (.getDisplayInfo size) trivial trivial
      simp [lookUpPhysicalSize, at_, ResizePc.Plain]
  | getDisplayInfo size =>
    simp only [at_] at moved
    rw [at_] at confirms
    split at moved
    · rename_i same
      cases moved
      exact handshake.early state.resizer.pendingSize (.inl rfl) (confirms.1 same)
    · rename_i differs
      cases moved
      apply handshake.goTo (by simp [at_, ResizePc.Plain]) (.setPending size) trivial
      exact ⟨fun _ same => differs same.symm, confirms.2 differs⟩
  | clearPending size =>
    simp only [at_, Option.some.injEq] at moved
    subst moved
    rw [at_] at agrees
    apply handshake.applyPendingDensity.early none (.inr rfl)
    rw [applyPendingDensity_same.2]
    exact agrees
  | notifyListener size =>
    simp only [at_, Option.some.injEq] at moved
    subst moved
    rw [at_] at agrees
    exact handshake.notifyListener agrees
  | setPending size =>
    simp only [at_, Option.some.injEq] at moved
    subst moved
    exact handshake.setPending at_
  | setForcedSize size =>
    simp only [at_] at moved
    rw [at_] at confirms
    split at moved
    · rename_i success
      cases moved
      exact handshake.forced at_ (confirms.1 success)
    · rename_i failure
      cases moved
      exact handshake.failed (.forcingFailed size) state.resizer.pendingSize
        (confirms.2 (by simpa using failure)) trivial
  | forcingFailed size =>
    simp only [at_, Option.some.injEq] at moved
    subst moved
    apply handshake.failed .applyDensity none _ trivial
    by_cases first : state.succeeded = none
    · exact .inl first
    · have unsuperseded : ¬state.Superseding := by
        rintro ⟨other, forcing, _⟩
        rw [at_] at forcing
        cases forcing
      rcases confirming first unsuperseded with answered | path
      · exact .inr answered
      · simp only [at_] at path
  | applyDensity =>
    simp only [at_, Option.some.injEq] at moved
    subst moved
    apply handshake.applyPendingDensity.goTo _ .idle trivial trivial
    rw [applyPendingDensity_same.1, at_]
    trivial

theorem Handshake.takeForcedSize : state.takeForcedSize.Handshake := by
  refine ⟨handshake.told, handshake.last, ?_, handshake.notifying, ?_⟩
  · have agrees := handshake.agrees
    cases at_ : state.resizePc with
    | idle | setScaling _ | getDisplayInfo _ | forcingFailed _ | applyDensity =>
      simp only [ResizeState.takeForcedSize, at_]
      trivial
    | clearPending _ | notifyListener _ =>
      simp only [ResizeState.takeForcedSize, at_]
      rw [at_] at agrees
      exact agrees
    | setPending size =>
      simp only [ResizeState.takeForcedSize, at_]
      rw [at_] at agrees
      exact ⟨fun differs => Ne.symm differs, agrees.2⟩
    | setForcedSize size =>
      simp only [ResizeState.takeForcedSize, at_]
      rw [at_] at agrees
      exact ⟨fun differs => ⟨Ne.symm differs, (agrees.1 differs).2⟩, agrees.2⟩
  · intro succeeded unsuperseded
    have told : state.takeForcedSize.Underway := .inl (succ_pos _)
    rcases handshake.confirming succeeded unsuperseded with answered | path
    · exact .inl answered
    · right
      cases at_ : state.resizePc <;> simp only [ResizeState.takeForcedSize, at_] at path ⊢
      all_goals exact ⟨path.1, .inr told⟩

theorem Handshake.step {event : ResizeEvent} {after : ResizeState}
    (confirms : Confirms state event) (moved : state.step event = some after) :
    after.Handshake := by
  cases event with
  | resize width height =>
    simp only [ResizeState.step, Option.ite_none_right_eq_some, Option.some.injEq] at moved
    obtain ⟨idle, rfl⟩ := moved
    apply handshake.goTo _ (.setScaling _) trivial trivial
    rw [idle]
    trivial
  | control succeeds => exact handshake.controlStep confirms moved
  | monitor => exact handshake.monitorStep confirms moved
  | takeForcedSize =>
    simp only [ResizeState.step, Option.ite_none_left_eq_some, Option.some.injEq] at moved
    obtain ⟨_, rfl⟩ := moved
    exact handshake.takeForcedSize
  | configurationEvent =>
    cases moved
    exact handshake.rest rfl rfl (le_succ _) rfl

end

end ResizeState

/-- Sizes are confirmed only while they are forced, and the last resize that succeeded is confirmed
in the end. -/
theorem resizes_confirmed {state : ResizeState} (reached : resizeMachine.Reaches Confirms state) :
    state.Confirmed := by
  have handshake : state.Handshake := by
    apply reached.invariant
    · rintro _ ⟨android, dpi, densityPending, rfl⟩
      refine ⟨?_, ?_, trivial, ?_, ?_⟩
      · intro ready mem
        cases mem
      · intro size succeeded
        cases succeeded
      · intro size notifies
        cases notifies
      · exact fun succeeded => absurd rfl succeeded
    · intro state event after handshake confirms moved
      exact handshake.step confirms moved
  exact handshake.confirmed

def forcedDisplay : AndroidDisplay where
  initialSize := some ⟨2000, 2000⟩
  forcedSize := ⟨800, 600⟩
  info := ⟨⟨800, 600⟩, 0⟩

def wholeResize (width height : Nat) : List ResizeEvent :=
  .resize width height :: List.replicate 5 (.control true)

def resizedState : ResizeState :=
  (resizeMachine.runAllowed Confirms (.start forcedDisplay 0 false)
    (wholeResize 900 700 ++ .takeForcedSize :: List.replicate 6 .monitor)).getD
      (.start forcedDisplay 0 false)

theorem resizes_confirmed_once : resizeMachine.Reaches Confirms resizedState ∧
    resizedState.Quiescent ∧ resizedState.succeeded = some ⟨900, 700⟩ ∧ resizedState.Confirmed := by
  have reached : resizeMachine.Reaches Confirms resizedState :=
    .getD_runAllowed _ (.start ⟨_, _, _, rfl⟩) (by decide +kernel)
  refine ⟨reached, ?_, by decide +kernel, resizes_confirmed reached⟩
  exact ⟨by decide +kernel, by decide +kernel, by decide +kernel, by decide +kernel⟩

/-- The display is resized and resized back before the first event is handled. -/
def backState : ResizeState :=
  (resizeMachine.run (.start forcedDisplay 0 false)
    (wholeResize 900 700 ++ .takeForcedSize :: wholeResize 800 600 ++
      .takeForcedSize :: List.replicate 6 .monitor)).getD (.start forcedDisplay 0 false)

def leavingState : ResizeState :=
  (resizeMachine.run (.start forcedDisplay 0 false)
    (wholeResize 900 700 ++ .resize 800 600 :: List.replicate 4 (.control true) ++
      .takeForcedSize :: List.replicate 5 .monitor)).getD (.start forcedDisplay 0 false)

/-- The client waits for ever, or is ready at a size that the display leaves. -/
theorem resizes_unconfirmed :
    (resizeMachine.Reachable backState ∧ backState.Quiescent ∧
      backState.succeeded = some ⟨800, 600⟩ ∧ backState.readies = [] ∧ ¬backState.Confirmed) ∧
    (resizeMachine.Reachable leavingState ∧ leavingState.Quiescent ∧
      leavingState.readies = [⟨⟨800, 600⟩, ⟨900, 700⟩⟩] ∧
      leavingState.android.info.size = ⟨900, 700⟩ ∧ ¬leavingState.Confirmed) := by
  have quiet : backState.Quiescent :=
    ⟨by decide +kernel, by decide +kernel, by decide +kernel, by decide +kernel⟩
  have asked : backState.succeeded = some ⟨800, 600⟩ := by decide +kernel
  have silent : backState.readies = [] := by decide +kernel
  have told : leavingState.readies = [⟨⟨800, 600⟩, ⟨900, 700⟩⟩] := by decide +kernel
  constructor
  · refine ⟨.getD_run _ (.start ⟨_, _, _, rfl⟩) (by decide +kernel), quiet, asked, silent, ?_⟩
    intro confirmed
    have last := confirmed.2 quiet _ asked
    rw [silent] at last
    cases last
  · refine ⟨.getD_run _ (.start ⟨_, _, _, rfl⟩) (by decide +kernel), ?_, told,
      by decide +kernel, ?_⟩
    · exact ⟨by decide +kernel, by decide +kernel, by decide +kernel, by decide +kernel⟩
    · intro confirmed
      have same := confirmed.1 ⟨⟨800, 600⟩, ⟨900, 700⟩⟩ (by simp [told])
      exact absurd same (by decide)

end Ika.Display
