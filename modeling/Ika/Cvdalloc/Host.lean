import Ika.Cvdalloc.AllocUtils
import Ika.Foundation.Machine
import Mathlib.Data.Fintype.Defs

/-!
The processes of a host, each with its own id, that share the network.

A process may be killed at any point and started again.
-/

set_option autoImplicit false

namespace Ika.Cvdalloc

open Scripts Function

inductive Stage where
  | allocating
  /-- It has posted readiness and not begun its teardown. -/
  | ready
  | tearingDown
  deriving DecidableEq, Repr

def Stage.after (answer : Bool) : Stage → Command → Stage
  | allocating, .post => if answer then ready else allocating
  | _, .teardownStarted => tearingDown
  | stage, _ => stage

/-- A process counts on a bridge until it deletes it or begins its teardown. -/
def reliesAfter (relies : Bridge → Bool) (answer : Bool) : Command → Bridge → Bool
  | .bridgeExists (.bridge bridge) => update relies bridge (relies bridge || answer)
  | .createBridge (.bridge bridge) => update relies bridge (relies bridge || answer)
  | .deleteIface (.bridge bridge) => update relies bridge false
  | .teardownStarted => fun _ => false
  | _ => relies

structure Run where
  enableMobile : Bool
  enableWifi : Bool
  script : Alloc Unit
  stage : Stage := .allocating
  relies : Bridge → Bool := fun _ => false

inductive Process where
  /-- Not started yet, or at its end. -/
  | idle
  | running (run : Run)
  | killed (enableMobile enableWifi : Bool)

structure Host (Index : Type) where
  network : Network
  process : Index → Process

inductive Action where
  | start (enableMobile enableWifi : Bool)
  | step (socket : Bool)
  | kill

variable {Index : Type} [DecidableEq Index]

def Run.launch (id : Int) (enableMobile enableWifi : Bool) : Run :=
  {enableMobile, enableWifi, script := cvdallocMain id enableMobile enableWifi}

def Run.after (run : Run) (command : Command) (next : Bool → Alloc Unit) (answer : Bool) : Run :=
  {run with
    script := next answer
    stage := run.stage.after answer command
    relies := reliesAfter run.relies answer command}

namespace Host

def set (host : Host Index) (index : Index) (process : Process) : Host Index :=
  {host with process := update host.process index process}

def step (ids : Index → Int) (host : Host Index) (event : Index × Action) : Option (Host Index) :=
  match host.process event.1, event.2 with
  | .idle, .start enableMobile enableWifi | .killed _ _, .start enableMobile enableWifi =>
    some (host.set event.1 (.running (.launch (ids event.1) enableMobile enableWifi)))
  | .running run, .step socket =>
    match run.script with
    | .done _ => some (host.set event.1 .idle)
    | .call command next =>
      let result := command.exec socket host.network
      some { host.set event.1 (.running (run.after command next result.1)) with
        network := result.2}
  | .running run, .kill => some (host.set event.1 (.killed run.enableMobile run.enableWifi))
  | _, _ => none

inductive Moves (ids : Index → Int) (host : Host Index) (index : Index) :
    Action → Host Index → Prop where
  | start (enableMobile enableWifi : Bool) : host.process index = .idle →
      Moves ids host index (.start enableMobile enableWifi)
        (host.set index (.running (.launch (ids index) enableMobile enableWifi)))
  | restart (mobile wifi enableMobile enableWifi : Bool) :
      host.process index = .killed mobile wifi →
      Moves ids host index (.start enableMobile enableWifi)
        (host.set index (.running (.launch (ids index) enableMobile enableWifi)))
  | finish (run : Run) (socket : Bool) : host.process index = .running run →
      run.script = .done () → Moves ids host index (.step socket) (host.set index .idle)
  | call (run : Run) (socket : Bool) (command : Command) (next : Bool → Alloc Unit) :
      host.process index = .running run → run.script = .call command next →
      Moves ids host index (.step socket)
        { host.set index (.running
            (run.after command next (command.exec socket host.network).1)) with
          network := (command.exec socket host.network).2}
  | kill (run : Run) : host.process index = .running run →
      Moves ids host index .kill (host.set index (.killed run.enableMobile run.enableWifi))

theorem step_moves {ids : Index → Int} {host after : Host Index} {event : Index × Action}
    (moved : host.step ids event = some after) : Moves ids host event.1 event.2 after := by
  obtain ⟨index, action⟩ := event
  unfold step at moved
  dsimp only at moved ⊢
  cases state : host.process index with
  | idle =>
    cases action with
    | start =>
      rw [state] at moved
      cases moved
      exact .start _ _ state
    | step | kill => simp [state] at moved
  | killed mobile wifi =>
    cases action with
    | start =>
      rw [state] at moved
      cases moved
      exact .restart mobile wifi _ _ state
    | step | kill => simp [state] at moved
  | running run =>
    cases action with
    | start => simp [state] at moved
    | kill =>
      simp only [state, Option.some.injEq] at moved
      subst moved
      exact .kill run state
    | step socket =>
      cases next : run.script with
      | done =>
        simp only [state, next, Option.some.injEq] at moved
        subst moved
        exact .finish run socket state next
      | call command rest =>
        simp only [state, next, Option.some.injEq] at moved
        subst moved
        exact .call run socket command rest state next

def Start (host : Host Index) : Prop := host.network = .empty ∧ ∀ index, host.process index = .idle

end Host

def cvdalloc (ids : Index → Int) : Transition.Machine (Host Index) (Index × Action) where
  init := Host.Start
  step := Host.step ids

def Bridge.ipPrefix : Bridge → String
  | ethernet => ethernetIpPrefix
  | wireless => wirelessIpPrefix

def Bridge.tapKind : Bridge → TapKind
  | ethernet => .etap
  | wireless => .wtap

namespace Network

def SetUp (network : Network) (bridge : Bridge) : Prop :=
  (∃ link ∈ network.links (.bridge bridge), bridgeGateway bridge.ipPrefix ∈ link.addresses) ∧
    0 < network.dnsmasq (.bridge bridge) ∧
    network.natSources (bridgeNetwork bridge.ipPrefix)
  deriving Decidable

def Joined (network : Network) (id : Int) (bridge : Bridge) : Prop :=
  ∃ link ∈ network.links (.bridge bridge), Iface.tap bridge.tapKind id ∈ link.members

def Present (network : Network) (name : Iface) : Prop := (network.links name).isSome

/-- Everything that a running instance uses. -/
structure Serves (network : Network) (id : Int) (enableMobile enableWifi : Bool) : Prop where
  mobile : enableMobile → network.Present (.tap .mtap id)
  accessPoint : enableWifi → network.Present (.tap .wifiap id)
  bridged : ∀ bridge, (bridge = .wireless → enableWifi) →
    network.Present (.tap bridge.tapKind id) ∧ network.Joined id bridge ∧ network.SetUp bridge

structure Cleared (network : Network) : Prop where
  links : ∀ name, network.links name = none
  dnsmasq : ∀ name, network.dnsmasq name = 0
  natSources : ∀ element, network.natSources element = false

end Network

def Command.looksFor? : Command → Option Bridge
  | bridgeExists (.bridge bridge) => some bridge
  | _ => none

def Command.deletes? : Command → Option Bridge
  | deleteIface (.bridge bridge) => some bridge
  | _ => none

def Command.startsDnsmasq : Command → Bool
  | startDnsmasq _ _ _ => true
  | _ => false

namespace Host

def Ready (ids : Index → Int) (host : Host Index) : Prop :=
  ∀ index run, host.process index = .running run → run.stage = .ready →
    host.network.Serves (ids index) run.enableMobile run.enableWifi

def Finished (host : Host Index) : Prop := ∀ index, host.process index = .idle

def relies (host : Host Index) (index : Index) (bridge : Bridge) : Bool :=
  match host.process index with
  | .running run => run.relies bridge
  | _ => false

/-- The command that the process runs next. -/
def command? (host : Host Index) (index : Index) : Option Command :=
  match host.process index with
  | .running {script := .call command _, ..} => some command
  | _ => none

omit [DecidableEq Index] in
theorem command?_eq {host : Host Index} {index : Index} {run : Run} {command : Command}
    {next : Bool → Alloc Unit} (state : host.process index = .running run)
    (script : run.script = .call command next) : host.command? index = some command := by
  obtain ⟨_, _, _, _, _⟩ := run
  cases script
  rw [command?, state]

/-- A bridge is only found once it is set up, and deleted when no other process relies on it. -/
def CarefulCommand (host : Host Index) (index : Index) (command : Command) : Prop :=
  (∀ bridge ∈ command.looksFor?, host.network.ifaceExists (.bridge bridge) →
    host.network.SetUp bridge) ∧
  ∀ bridge ∈ command.deletes?, ∀ other, other ≠ index → host.relies other bridge = false

def Careful (host : Host Index) : Index × Action → Prop
  | (index, .step _) => ∀ command ∈ host.command? index, host.CarefulCommand index command
  | _ => True

instance [Fintype Index] (host : Host Index) (index : Index) (command : Command) :
    Decidable (host.CarefulCommand index command) :=
  inferInstanceAs (Decidable (_ ∧ _))

instance [Fintype Index] (host : Host Index) :
    (event : Index × Action) → Decidable (host.Careful event)
  | (index, .step _) =>
    inferInstanceAs (Decidable (∀ command ∈ host.command? index, host.CarefulCommand index command))
  | (_, .start _ _) => isTrue trivial
  | (_, .kill) => isTrue trivial

/-- The interfaces of a process that was killed. -/
def killed? (host : Host Index) (index : Index) : Option (Bool × Bool) :=
  match host.process index with
  | .killed enableMobile enableWifi => some (enableMobile, enableWifi)
  | _ => none

/-- No dnsmasq is started, and a killed process restarts with its interfaces. -/
def Sparing (host : Host Index) : Index × Action → Prop
  | (index, .start enableMobile enableWifi) => ∀ had ∈ host.killed? index,
      (had.1 → enableMobile) ∧ (had.2 → enableWifi)
  | (index, .step socket) => ∀ command ∈ host.command? index, command.startsDnsmasq →
      (command.exec socket host.network).1 = false
  | (_, .kill) => True

instance (host : Host Index) : (event : Index × Action) → Decidable (host.Sparing event)
  | (index, .start enableMobile enableWifi) => inferInstanceAs (Decidable
      (∀ had ∈ host.killed? index, (had.1 → enableMobile) ∧ (had.2 → enableWifi)))
  | (index, .step socket) => inferInstanceAs (Decidable
      (∀ command ∈ host.command? index, command.startsDnsmasq →
        (command.exec socket host.network).1 = false))
  | (_, .kill) => isTrue trivial

end Host

/-! What each command leaves as it was. -/

open List

variable {names members : Iface → Prop} {before middle after : Network}

namespace Network

/-- What stays for those who use these interfaces and rely on these members of them. -/
structure Keeps (names members : Iface → Prop) (before after : Network) : Prop where
  links : ∀ name link, names name → before.links name = some link →
    ∃ link', after.links name = some link' ∧ link.addresses ⊆ link'.addresses ∧
      ∀ member, members member → member ∈ link.members → member ∈ link'.members
  dnsmasq : ∀ name, before.dnsmasq name ≤ after.dnsmasq name
  natSources : ∀ element, element.netmask = 24 → before.natSources element →
    after.natSources element

theorem Keeps.of_links (same : after.links = before.links)
    (dnsmasq : ∀ name, before.dnsmasq name ≤ after.dnsmasq name)
    (natSources : ∀ element, element.netmask = 24 → before.natSources element →
      after.natSources element) : Keeps names members before after where
  links name link _ found := ⟨link, by rw [same, found], Subset.refl _, fun _ _ mem => mem⟩
  dnsmasq := dnsmasq
  natSources := natSources

variable (network : Network)

@[refl] theorem Keeps.refl : Keeps names members network network :=
  .of_links rfl (fun _ => Nat.le_refl _) fun _ _ there => there

theorem Keeps.trans (first : Keeps names members before middle)
    (second : Keeps names members middle after) : Keeps names members before after where
  links name link used found := by
    obtain ⟨link', found', addresses, kept⟩ := first.links name link used found
    obtain ⟨link'', found'', addresses', kept'⟩ := second.links name link' used found'
    exact ⟨link'', found'', List.Subset.trans addresses addresses',
      fun member counted mem => kept' member counted (kept member counted mem)⟩
  dnsmasq name := Nat.le_trans (first.dnsmasq name) (second.dnsmasq name)
  natSources element wide there :=
    second.natSources element wide (first.natSources element wide there)

theorem Keeps.withLink {name : Iface} {link' : Link}
    (keep : ∀ link, names name → before.links name = some link →
      link.addresses ⊆ link'.addresses ∧ link.members ⊆ link'.members) :
    Keeps names members before (before.withLink name (some link')) where
  links other link used found := by
    by_cases same : other = name
    · subst same
      obtain ⟨addresses, kept⟩ := keep link used found
      exact ⟨link', update_self .., addresses, fun member _ mem => kept mem⟩
    · exact ⟨link, by rw [← found]; exact update_of_ne same .., Subset.refl _,
        fun _ _ mem => mem⟩
  dnsmasq _ := Nat.le_refl _
  natSources _ _ there := there

theorem linksWithout_keeps {network : Network} {name other : Iface} {link : Link}
    (unused : ¬members name) (found : network.links other = some link) :
    ∃ link', network.linksWithout name other = some link' ∧
      link.addresses ⊆ link'.addresses ∧
        ∀ member, members member → member ∈ link.members → member ∈ link'.members := by
  refine ⟨{link with members := link.members.filter (decide <| · ≠ name)},
    by simp [linksWithout, found], Subset.refl _, fun member counted mem => ?_⟩
  simp only [mem_filter, decide_eq_true_eq]
  exact ⟨mem, fun same => unused (same ▸ counted)⟩

def addresses (network : Network) (name : Iface) : Option (List Subnet) :=
  (network.links name).map Link.addresses

theorem addresses_linksWithout (name other : Iface) :
    (network.linksWithout name other).map Link.addresses = network.addresses other := by
  unfold linksWithout addresses
  cases network.links other <;> rfl

end Network

/-- The command takes nothing from those who use these interfaces and rely on these members. -/
def Command.Spares (names members : Iface → Prop) : Command → Prop
  | destroyGateway name _ => ¬names name
  | deleteIface name => ¬names name ∧ ¬members name
  | linkTapToBridge tap _ => ¬members tap
  | nftConfig element add => add ∨ element.netmask ≠ 24
  | stopDnsmasq _ => False
  | _ => True

open Network

theorem Network.setUp_keeps (up : Bool) (network : Network) (name : Iface) :
    Keeps names members network (network.setUp up name).2 := by
  unfold setUp
  cases found : network.links name with
  | none => exact .refl network
  | some link =>
    refine .withLink fun other _ same => ?_
    cases found.symm.trans same
    exact ⟨Subset.refl _, Subset.refl _⟩

variable {network : Network} {name : Iface} {command : Command} (socket : Bool)

theorem Network.create_keeps (missing : network.links name = none) (link : Link) :
    Keeps names members network (network.withLink name (some link)) :=
  .withLink fun other _ found => by rw [missing] at found; cases found

theorem Network.deleteIface_keeps (unused : ¬names name) (apart : ¬members name) :
    Keeps names members network (network.deleteIface name).2 := by
  unfold deleteIface
  split_ifs with there
  · refine ⟨fun other link used found => ?_, fun _ => Nat.le_refl _, fun _ _ there => there⟩
    have ne : other ≠ name := fun same => unused (same ▸ used)
    dsimp only
    rw [update_of_ne ne]
    exact linksWithout_keeps apart found
  · exact .refl network

theorem Network.linkTapToBridge_keeps {tap bridge : Iface} (apart : ¬members tap) :
    Keeps names members network (network.linkTapToBridge tap bridge).2 := by
  unfold linkTapToBridge
  split
  · rename_i link _ joined
    refine ⟨fun other old used found => ?_, fun _ => Nat.le_refl _, fun _ _ there => there⟩
    obtain ⟨link', found', addresses, kept⟩ := linksWithout_keeps apart found
    by_cases same : other = bridge
    · subst same
      cases joined.symm.trans found'
      exact ⟨_, update_self .., addresses,
        fun member counted mem => mem_cons_of_mem _ (kept member counted mem)⟩
    · exact ⟨link', by rw [← found']; exact update_of_ne same .., addresses, kept⟩
  · exact .refl network

theorem Network.addGateway_keeps (network : Network) (name : Iface) (gateway : Subnet) :
    Keeps names members network (network.addGateway name gateway).2 := by
  unfold addGateway
  cases found : network.links name with
  | none => exact .refl network
  | some link =>
    dsimp only
    split_ifs
    · exact .refl network
    · refine .withLink fun other _ same => ?_
      cases found.symm.trans same
      exact ⟨subset_cons_self .., Subset.refl _⟩

theorem Network.destroyGateway_keeps (unused : ¬names name) (gateway : Subnet) :
    Keeps names members network (network.destroyGateway name gateway).2 := by
  unfold destroyGateway
  cases found : network.links name with
  | none => exact .refl network
  | some link =>
    dsimp only
    split_ifs
    · exact .withLink fun other used _ => absurd used unused
    · exact .refl network

theorem Command.exec_keeps (spares : command.Spares names members) :
    Keeps names members network (command.exec socket network).2 := by
  cases command with
  | addTapIface name =>
    simp only [exec, Network.addTapIface]
    split_ifs with free
    · exact create_keeps (Option.isNone_iff_eq_none.mp free.1) {}
    · exact .refl network
  | createBridge name =>
    simp only [exec, Network.createBridge]
    split_ifs with free
    · exact create_keeps (Option.isNone_iff_eq_none.mp free) {}
    · exact .refl network
  | shutdownIface name => exact setUp_keeps false network name
  | bringUpIface name => exact setUp_keeps true network name
  | addGateway name gateway => exact addGateway_keeps network name gateway
  | destroyGateway name gateway => exact destroyGateway_keeps spares gateway
  | linkTapToBridge tap bridge => exact linkTapToBridge_keeps spares
  | deleteIface name => exact deleteIface_keeps spares.1 spares.2
  | nftConfig element add =>
    refine .of_links rfl (fun _ => Nat.le_refl _) fun other wide there => ?_
    dsimp only [exec, Network.nftConfig]
    by_cases same : other = element
    · subst same
      rw [update_self]
      exact spares.resolve_right fun narrow => narrow wide
    · rwa [update_of_ne same]
  | startDnsmasq bridge gateway dhcpRange =>
    simp only [exec, Network.startDnsmasq]
    split_ifs
    · refine .of_links rfl (fun name => ?_) fun _ _ there => there
      dsimp only
      by_cases same : name = bridge
      · subst same
        rw [update_self]
        exact Nat.le_succ _
      · exact Nat.le_of_eq (update_of_ne same _ _).symm
    · exact .refl network
  | stopDnsmasq bridge => exact spares.elim
  | ifaceExists | bridgeExists | bridgeInUse | teardownStarted | post | wait => exact .refl network

def Command.touches : Command → Option Iface
  | addTapIface name | deleteIface name | addGateway name _ | destroyGateway name _
  | createBridge name => some name
  | _ => none

theorem Network.addresses_withLink {other : Iface} {link : Option Link} (apart : other ≠ name) :
    (network.withLink name link).addresses other = network.addresses other := by
  unfold addresses withLink
  simp only [update_of_ne apart]

theorem Command.exec_addresses (apart : command.touches ≠ some name) :
    (command.exec socket network).2.addresses name = network.addresses name := by
  have ne {other : Iface} (touched : command.touches = some other) : name ≠ other :=
    fun same => apart (same ▸ touched)
  have setUp (up : Bool) (other : Iface) :
      (network.setUp up other).2.addresses name = network.addresses name := by
    unfold Network.setUp
    cases found : network.links other with
    | none => rfl
    | some link =>
      by_cases same : name = other
      · subst same
        simp [addresses, withLink, found]
      · exact addresses_withLink same
  cases command with
  | addTapIface other =>
    simp only [exec, Network.addTapIface]
    split_ifs
    · exact addresses_withLink (ne rfl)
    · rfl
  | createBridge other =>
    simp only [exec, Network.createBridge]
    split_ifs
    · exact addresses_withLink (ne rfl)
    · rfl
  | shutdownIface other => exact setUp false other
  | bringUpIface other => exact setUp true other
  | addGateway other gateway =>
    simp only [exec, Network.addGateway]
    split
    · rfl
    · split_ifs
      · rfl
      · exact addresses_withLink (ne rfl)
  | destroyGateway other gateway =>
    simp only [exec, Network.destroyGateway]
    split
    · rfl
    · split_ifs
      · exact addresses_withLink (ne rfl)
      · rfl
  | linkTapToBridge tap bridge =>
    simp only [exec, Network.linkTapToBridge]
    split
    · rename_i link _ joined
      by_cases same : name = bridge
      · subst same
        have alone := addresses_linksWithout network tap name
        rw [joined] at alone
        simpa [addresses] using alone
      · rw [addresses]
        dsimp only
        rw [update_of_ne same]
        exact addresses_linksWithout network tap name
    · rfl
  | deleteIface other =>
    simp only [exec, Network.deleteIface]
    split_ifs
    · rw [addresses]
      dsimp only
      rw [update_of_ne (ne rfl)]
      exact addresses_linksWithout network other name
    · rfl
  | startDnsmasq bridge gateway dhcpRange =>
    simp only [exec, Network.startDnsmasq]
    split_ifs <;> rfl
  | ifaceExists | bridgeExists | bridgeInUse | nftConfig | stopDnsmasq | teardownStarted | post
  | wait => rfl

end Ika.Cvdalloc
