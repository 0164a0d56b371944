import Ika.Cvdalloc.Host

/-! What a process has when it posts readiness, and that the others leave it. -/

set_option autoImplicit false

namespace Ika.Cvdalloc

open Scripts Network

structure View where
  network : Network
  stage : Stage
  relies : Bridge → Bool

def OwnTap (id : Int) (name : Iface) : Prop := ∃ kind, name = .tap kind id

def ReliedOn (relies : Bridge → Bool) (name : Iface) : Prop :=
  ∃ bridge, name = .bridge bridge ∧ relies bridge

def Iface.Of (id : Int) : Iface → Prop
  | tap _ other => other = id
  | bridge _ => True

def Iface.TapOf (id : Int) : Iface → Prop
  | tap _ other => other = id
  | bridge _ => False

/-- The process acts on its own taps, and only makes and deletes a bridge. -/
def Command.Proper (id : Int) : Command → Prop
  | addTapIface name | addGateway name _ | createBridge name | deleteIface name => name.Of id
  | destroyGateway name _ | linkTapToBridge name _ => name.TapOf id
  | nftConfig element add => add ∨ element.netmask ≠ 24
  | stopDnsmasq _ => False
  | _ => True

namespace View

variable {id : Int} {before after : View}

/-- What the other processes leave to one that has this id. -/
structure Undisturbed (id : Int) (before after : View) : Prop where
  stage : after.stage = before.stage
  relies : after.relies = before.relies
  taps : ∀ kind, after.network.addresses (.tap kind id) = before.network.addresses (.tap kind id)
  bridges : Keeps (ReliedOn before.relies) (OwnTap id) before.network after.network

/-- The view after a command of the process itself. -/
def acted (view : View) (socket : Bool) (command : Command) : View where
  network := (command.exec socket view.network).2
  stage := view.stage.after (command.exec socket view.network).1 command
  relies := reliesAfter view.relies (command.exec socket view.network).1 command

def FindsSetUp (view : View) (command : Command) : Prop :=
  ∀ bridge, command = .bridgeExists (.bridge bridge) →
    view.network.ifaceExists (.bridge bridge) → view.network.SetUp bridge

/-- The taps, the bridges and the memberships that a process has. -/
structure Has (id : Int) (taps : TapKind → Prop) (setUp joined : Bridge → Prop) (view : View) :
    Prop where
  taps : ∀ kind, taps kind → view.network.Present (.tap kind id)
  setUp : ∀ bridge, setUp bridge → view.relies bridge ∧ view.network.SetUp bridge
  joined : ∀ bridge, joined bridge → view.relies bridge ∧ view.network.Joined id bridge

end View

/-- How a process with this id is run among the others. -/
def serving (id : Int) (enableMobile enableWifi : Bool) : Setting Command View where
  env := View.Undisturbed id
  demand command view := command.Proper id ∧
    (view.stage = .ready → view.network.Serves id enableMobile enableWifi)
  act command view answer after := view.FindsSetUp command ∧ ∃ socket,
    answer = (command.exec socket view.network).1 ∧ after = view.acted socket command
  env_refl view := ⟨rfl, rfl, fun _ => rfl, .refl _⟩
  env_trans first second third one two :=
    ⟨two.stage.trans one.stage, two.relies.trans one.relies,
      fun kind => (two.taps kind).trans (one.taps kind),
      one.bridges.trans (by rw [← one.relies]; exact two.bridges)⟩

section Kept

variable {names members : Iface → Prop} {before after : Network} {id : Int} {bridge : Bridge}

section

variable (kept : Keeps names members before after)
include kept

theorem Network.Keeps.setUp (used : names (.bridge bridge))
    (setUp : before.SetUp bridge) : after.SetUp bridge := by
  obtain ⟨⟨link, found, gateway⟩, running, element⟩ := setUp
  obtain ⟨link', found', addresses, -⟩ := kept.links _ link used found
  exact ⟨⟨link', found', addresses gateway⟩, Nat.lt_of_lt_of_le running (kept.dnsmasq _),
    kept.natSources _ rfl element⟩

theorem Network.Keeps.joined
    (used : names (.bridge bridge)) (counted : members (.tap bridge.tapKind id))
    (joined : before.Joined id bridge) : after.Joined id bridge := by
  obtain ⟨link, found, mem⟩ := joined
  obtain ⟨link', found', -, stays⟩ := kept.links _ link used found
  exact ⟨link', found', stays _ counted mem⟩

theorem Network.Keeps.present {name : Iface}
    (used : names name) (there : before.Present name) : after.Present name := by
  obtain ⟨link, found⟩ := Option.isSome_iff_exists.mp there
  obtain ⟨link', found', -⟩ := kept.links _ link used found
  exact Option.isSome_iff_exists.mpr ⟨link', found'⟩

end

theorem Network.present_iff {network : Network} {name : Iface} :
    network.Present name ↔ (network.addresses name).isSome := by
  simp [Present, addresses]

end Kept

namespace View

variable {id : Int} {taps taps' : TapKind → Prop} {setUp setUp' joined joined' : Bridge → Prop}
  {before after : View}

theorem Has.mono {view : View} (has : view.Has id taps setUp joined)
    (fewer : ∀ kind, taps' kind → taps kind) (less : ∀ bridge, setUp' bridge → setUp bridge)
    (apart : ∀ bridge, joined' bridge → joined bridge) : view.Has id taps' setUp' joined' where
  taps kind counted := has.taps kind (fewer kind counted)
  setUp bridge counted := has.setUp bridge (less bridge counted)
  joined bridge counted := has.joined bridge (apart bridge counted)

theorem Has.undisturbed (has : before.Has id taps setUp joined)
    (moved : before.Undisturbed id after) : after.Has id taps setUp joined where
  taps kind counted := by
    rw [present_iff, moved.taps, ← present_iff]
    exact has.taps kind counted
  setUp bridge counted := by
    obtain ⟨relied, ready⟩ := has.setUp bridge counted
    exact ⟨moved.relies ▸ relied, moved.bridges.setUp ⟨bridge, rfl, relied⟩ ready⟩
  joined bridge counted := by
    obtain ⟨relied, member⟩ := has.joined bridge counted
    exact ⟨moved.relies ▸ relied,
      moved.bridges.joined ⟨bridge, rfl, relied⟩ ⟨_, rfl⟩ member⟩

end View

def Command.Adds : Command → Prop
  | ifaceExists _ | addTapIface _ | bringUpIface _ | addGateway _ _ | bridgeExists _
  | bridgeInUse _ | createBridge _ | nftConfig _ true | startDnsmasq _ _ _ | post | wait => True
  | _ => False

variable {command : Command}

theorem Command.Adds.keeps (adds : command.Adds) (socket : Bool) (network : Network) :
    Keeps (fun _ => True) (fun _ => True) network (command.exec socket network).2 := by
  apply exec_keeps
  cases command with
  | nftConfig element add =>
    cases add with
    | true => exact .inl rfl
    | false => exact adds.elim
  | shutdownIface | destroyGateway | linkTapToBridge | deleteIface | stopDnsmasq
  | teardownStarted => exact adds.elim
  | _ => trivial

theorem Command.Adds.relies (adds : command.Adds) {relies : Bridge → Bool} {answer : Bool}
    {bridge : Bridge} (relied : relies bridge) : reliesAfter relies answer command bridge := by
  cases command with
  | bridgeExists name | createBridge name =>
    cases name with
    | tap kind id => exact relied
    | bridge other =>
      unfold reliesAfter
      by_cases same : bridge = other
      · subst same
        simp [relied]
      · simpa [Function.update_of_ne same] using relied
  | shutdownIface | destroyGateway | linkTapToBridge | deleteIface | stopDnsmasq
  | teardownStarted => exact adds.elim
  | _ => exact relied

theorem View.Has.acted {id : Int} {taps : TapKind → Prop} {setUp joined : Bridge → Prop}
    {view : View} (has : view.Has id taps setUp joined) (adds : command.Adds) (socket : Bool) :
    (view.acted socket command).Has id taps setUp joined where
  taps kind counted := (adds.keeps socket view.network).present trivial (has.taps kind counted)
  setUp bridge counted := by
    obtain ⟨relied, ready⟩ := has.setUp bridge counted
    exact ⟨adds.relies relied, (adds.keeps socket view.network).setUp trivial ready⟩
  joined bridge counted := by
    obtain ⟨relied, member⟩ := has.joined bridge counted
    exact ⟨adds.relies relied, (adds.keeps socket view.network).joined trivial trivial member⟩

section Answers

variable {network : Network} {name : Iface}

theorem addTapIface_fresh (ok : (network.addTapIface name).1 = true) :
    (network.addTapIface name).2.addresses name = some [] := by
  unfold addTapIface at ok ⊢
  split_ifs at ok ⊢ with free
  simp [addresses, withLink]

theorem addGateway_fresh {gateway : Subnet} (fresh : network.addresses name = some []) :
    (network.addGateway name gateway).1 = true := by
  unfold addresses at fresh
  cases found : network.links name with
  | none => simp [found] at fresh
  | some link =>
    have none : link.addresses = [] := by simpa [found] using fresh
    simp [addGateway, found, none]

theorem addGateway_adds {gateway : Subnet} (ok : (network.addGateway name gateway).1 = true) :
    ∃ link ∈ (network.addGateway name gateway).2.links name, gateway ∈ link.addresses := by
  unfold addGateway at ok ⊢
  split at ok
  · cases ok
  · split_ifs at ok ⊢
    simp [withLink]

theorem startDnsmasq_listens {bridge : Iface} {gateway : Subnet}
    (there : ∃ link ∈ network.links bridge, gateway ∈ link.addresses) :
    (network.startDnsmasq bridge gateway.address).1 = true ∧
      0 < (network.startDnsmasq bridge gateway.address).2.dnsmasq bridge := by
  obtain ⟨link, found, mem⟩ := there
  have listens : gateway.address ∈
      ((network.links bridge).elim [] Link.addresses).map Subnet.address := by
    rw [found]
    exact List.mem_map_of_mem mem
  simp [startDnsmasq, listens]

theorem linkTapToBridge_joins {id : Int} {bridge : Bridge}
    (ok : (network.linkTapToBridge (.tap bridge.tapKind id) (.bridge bridge)).1 = true) :
    (network.linkTapToBridge (.tap bridge.tapKind id) (.bridge bridge)).2.Joined id bridge := by
  unfold linkTapToBridge at ok ⊢
  split at ok
  · simp [Network.Joined]
  · cases ok

end Answers

/-- A bridge that the process has made, as far as it has come. -/
structure View.Making (bridge : Bridge) (gateway running : Prop) (view : View) : Prop where
  relied : view.relies bridge
  link : ∃ link ∈ view.network.links (.bridge bridge),
    gateway → bridgeGateway bridge.ipPrefix ∈ link.addresses
  dnsmasq : running → 0 < view.network.dnsmasq (.bridge bridge)

namespace View.Making

variable {id : Int} {bridge : Bridge} {gateway running : Prop} {before after view : View}

theorem kept {names members : Iface → Prop} (making : before.Making bridge gateway running)
    (relied : after.relies bridge) (kept : Keeps names members before.network after.network)
    (used : names (.bridge bridge)) : after.Making bridge gateway running where
  relied := relied
  link := by
    obtain ⟨link, found, there⟩ := making.link
    obtain ⟨link', found', addresses, -⟩ := kept.links _ link used found
    exact ⟨link', found', fun made => addresses (there made)⟩
  dnsmasq started := Nat.lt_of_lt_of_le (making.dnsmasq started) (kept.dnsmasq _)

theorem undisturbed (making : before.Making bridge gateway running)
    (moved : before.Undisturbed id after) : after.Making bridge gateway running :=
  making.kept (moved.relies ▸ making.relied) moved.bridges ⟨bridge, rfl, making.relied⟩

theorem acted {command : Command} (making : view.Making bridge gateway running)
    (adds : command.Adds) (socket : Bool) :
    (view.acted socket command).Making bridge gateway running :=
  making.kept (adds.relies making.relied) (adds.keeps socket view.network) trivial

end View.Making

end Ika.Cvdalloc
