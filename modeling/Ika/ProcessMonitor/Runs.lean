import Ika.ProcessMonitor.Interleaving

/-! The runs of the process monitor. -/

set_option autoImplicit false

namespace Ika.ProcessMonitor

open Transition.Machine List

variable (entries : List MonitorEntry)

theorem pids_StartSubprocesses : (StartSubprocesses entries).pids = List.range entries.length := by
  change (entries.zipIdx.map _).map MonitorEntry.pid = _
  rw [map_map, range_eq_range', ← zipIdx_map_snd 0 entries]
  rfl

theorem State.Kept.start {restart_subprocesses : Bool} :
    (StartSubprocesses entries).Kept restart_subprocesses := by
  have pids := pids_StartSubprocesses entries
  have children : (StartSubprocesses entries).children = List.range entries.length :=
    append_nil _
  exact {
    children := children ▸ nodup_range
    below := fun pid child => by
      rw [children] at child
      exact mem_range.mp child
    reapedBelow := nofun
    startedBelow := fun pid known => mem_range.mp known
    apart := nofun
    entries := pids ▸ nodup_range
    members := fun pid listed => by rwa [pids] at listed
    inHand := nofun
    tracked := fun pid listed => .inl (by rwa [children, ← pids])
    owned := fun pid known _ => pids.symm ▸ known
    accounted := fun pid known => .inl (children.symm ▸ known)
    early := fun _ => rfl
    planned := nofun
    todo := nofun
    awaited := nofun
    gone := nofun
    targets := nofun
    whole := fun _ => rfl
    running := nofun
    judged := nofun
    unended := nofun
    asks := nofun
    stopRead := nofun
    woken := nofun
    shutEnds := nofun
    joins := nofun
    ended := nofun
    parted := nofun
    balance := fun _ => rfl
    turn := fun _ => ⟨rfl, rfl⟩
    once := ⟨Nat.le_refl _, Nat.zero_le _⟩}

/-- Requests are carried out, and no monitored process is waited for after a request to stop. -/
def Allowed (restart_subprocesses : Bool) (state : State) : Event → Prop
  | .waitFails => state.stopAsked = true
  | .recheck => state.running = true ∨ ∀ pid ∈ state.main.inHand, pid ∉ state.pids
  | .stop result => result ≠ .kFailure ∨
    state.stopAsked = true ∧ ∀ entry ∈ state.main.todo.head?, entry.pid ∉ state.alive
  | .secure_env ok => (state.hasSecureEnv && !ok) = true →
    state.isEnding restart_subprocesses = true
  | .signal ok => ∀ entry ∈ state.comms.todo.head?,
    state.isSignalled entry ok = true ∨ state.isEnding restart_subprocesses = true
  | _ => True

theorem State.Kept.step {restart_subprocesses : Bool} {state after : State} {event : Event}
    (kept : state.Kept restart_subprocesses) (allowed : Allowed restart_subprocesses state event)
    (moved : step restart_subprocesses state event = some after) :
    after.Kept restart_subprocesses := by
  cases event with
  | request message => exact kept.request moved
  | WaitForMonitor => exact kept.WaitForMonitor moved
  | receive => exact kept.receive moved
  | waitpid => exact kept.waitpid moved
  | exit pid status => exact kept.exit moved
  | adopt =>
    cases moved
    exact kept.adopt
  | check => exact kept.check moved
  | wait pid => exact kept.wait moved
  | waitFails => exact kept.waitFails allowed moved
  | recheck => exact kept.recheck allowed moved
  | handle => exact kept.handle moved
  | shutdown => exact kept.shutdown moved
  | join => exact kept.join moved
  | stop result => exact kept.stop allowed moved
  | Wait => exact kept.Wait moved
  | finish => exact kept.finish moved
  | poll => exact kept.poll moved
  | ReceiveMessage => exact kept.ReceiveMessage moved
  | secure_env ok => exact kept.secure_env allowed moved
  | signal ok =>
    refine kept.signal (fun entry todo comms => allowed entry ?_) moved
    rw [comms]
    rfl

/-- Requests are answered, processes stopped and exits judged in every run whose steps meet the
condition. -/
theorem monitor_faithful {restart_subprocesses : Bool} {entries : List MonitorEntry} {state : State}
    (reached : (machine restart_subprocesses entries).Reaches (Allowed restart_subprocesses) state) :
    state.Faithful restart_subprocesses :=
  (reached.invariant (fun _ first => first ▸ .start entries)
    fun _ _ _ kept allowed moved => State.Kept.step kept allowed moved).faithful

instance (restart_subprocesses : Bool) (state : State) (event : Event) :
    Decidable (Allowed restart_subprocesses state event) := by
  cases event <;> unfold Allowed <;> infer_instance

def crosvm : MonitorEntry := ⟨"crosvm", true, .kVmm, [0], 0⟩

def modem : MonitorEntry := ⟨"modem_simulator", false, .kNonCriticalSupport, [], 0⟩

/-- The processes are suspended, one of them ends, and the VMM exits as expected. -/
theorem monitor_faithful_vmmExits :
    (((machine false [crosvm, modem]).runAllowed (Allowed false)
      (StartSubprocesses [crosvm, modem]) [.check, .poll, .request .kHostSuspend, .ReceiveMessage,
      .secure_env true, .signal true, .signal true, .signal true, .receive, .exit 1 (.signaled 9),
      .wait 1, .recheck, .handle, .check, .poll, .exit 0 (.exited 0), .wait 0, .recheck, .handle,
      .shutdown, .ReceiveMessage, .join, .finish]).getD (StartSubprocesses [])).Faithful false :=
  monitor_faithful (.getD_runAllowed _ (.start rfl) (by decide +kernel))

/-- A process that ends while suspended leaves the parent without an answer, one that ends with the
request to stop is signalled. -/
theorem monitor_fails :
    ((machine false [crosvm, modem]).Reachable (((machine false [crosvm, modem]).run
      (StartSubprocesses [crosvm, modem]) [.check, .poll, .request .kHostSuspend, .ReceiveMessage,
      .exit 1 (.signaled 9), .wait 1, .recheck, .secure_env true, .signal true, .signal true,
      .handle, .check]).getD (StartSubprocesses [])) ∧
    ¬(((machine false [crosvm, modem]).run
      (StartSubprocesses [crosvm, modem]) [.check, .poll, .request .kHostSuspend, .ReceiveMessage,
      .exit 1 (.signaled 9), .wait 1, .recheck, .secure_env true, .signal true, .signal true,
      .handle, .check]).getD (StartSubprocesses [])).Faithful false) ∧
    (machine false [crosvm]).Reachable (((machine false [crosvm]).run (StartSubprocesses [crosvm])
      [.check, .poll, .request .kStop, .ReceiveMessage, .exit 0 (.signaled 9), .wait 0, .recheck,
      .poll, .shutdown, .join, .stop .kFailure]).getD (StartSubprocesses [])) ∧
    ¬(((machine false [crosvm]).run (StartSubprocesses [crosvm])
      [.check, .poll, .request .kStop, .ReceiveMessage, .exit 0 (.signaled 9), .wait 0, .recheck,
      .poll, .shutdown, .join, .stop .kFailure]).getD (StartSubprocesses [])).Faithful false := by
  refine ⟨⟨.getD_run _ (.start rfl) (by decide +kernel), fun faithful => ?_⟩,
    .getD_run _ (.start rfl) (by decide +kernel), fun faithful => ?_⟩
  · have stalled := faithful.noStall (.inl (by decide +kernel)) (by decide +kernel)
      (by decide +kernel)
    revert stalled
    decide +kernel
  · have waited := faithful.targets 0 (by decide +kernel)
    revert waited
    decide +kernel

end Ika.ProcessMonitor
