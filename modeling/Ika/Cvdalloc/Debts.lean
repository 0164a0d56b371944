import Ika.Cvdalloc.Served

/-! What is left when every process has ended.

Each process owes it to the others to take away what its interfaces may have brought, until its
teardown has done so or has found a bridge in use, and so owed by another.
-/

set_option autoImplicit false

namespace Ika.Cvdalloc

open Scripts Script Alloc Function

inductive Resource where
  | iface (name : Iface)
  | element (element : Subnet)

namespace Network

def There (network : Network) : Resource → Prop
  | .iface name => network.Present name
  | .element element => network.natSources element

def Member (network : Network) (tap : Iface) (bridge : Iface) : Prop :=
  ∃ link ∈ network.links bridge, tap ∈ link.members

end Network

/-- What a process with these interfaces may bring. -/
def Brings (id : Int) (mobile wifi : Bool) : Resource → Prop
  | .iface (.tap kind other) => other = id ∧ id ≠ 0 ∧ EnabledTap mobile wifi kind ∧
      (kind = .mtap ∨ kind = .wifiap → toUint16 id ≤ maxIfaceNameId)
  | .iface (.bridge bridge) => id ≠ 0 ∧ EnabledBridge wifi bridge
  | .element element => id ≠ 0 ∧ toUint16 id ≤ maxIfaceNameId ∧
      (mobile ∧ element = mobileNetworkName mobileIpPrefix mobileNetmask (toUint16 id) ∨
        wifi ∧ element = mobileNetworkName wirelessApIpPrefix mobileNetmask (toUint16 id))

def Command.Settles (answer : Bool) : Command → Resource → Prop
  | deleteIface name, .iface other => other = name
  | bridgeInUse name, .iface other => other = name ∧ answer
  | nftConfig element false, .element other => other = element
  | _, _ => False

structure Debt where
  network : Network
  stage : Stage
  owes : Resource → Prop

namespace Debt

def acted (debt : Debt) (socket : Bool) (command : Command) : Debt where
  network := (command.exec socket debt.network).2
  stage := debt.stage.after (command.exec socket debt.network).1 command
  owes resource := debt.owes resource ∧ ¬(debt.stage = .tearingDown ∧
    command.Settles (command.exec socket debt.network).1 resource)

/-- What is owed is what may have been brought, a tap before its bridge. -/
structure Sound (id : Int) (mobile wifi : Bool) (debt : Debt) : Prop where
  member : ∀ kind name, debt.network.Member (.tap kind id) name →
    debt.network.Present (.tap kind id) ∧ debt.owes (.iface (.tap kind id)) ∧
      ∃ bridge : Bridge, name = .bridge bridge ∧ kind = bridge.tapKind
  bridge : ∀ bridge, debt.owes (.iface (.tap bridge.tapKind id)) →
    debt.owes (.iface (.bridge bridge))
  brought : ∀ resource, debt.owes resource → Brings id mobile wifi resource

/-- What each command demands: what is made is owed, and a tap is given up before its bridge. -/
def Demand (id : Int) (debt : Debt) (command : Command) : Prop :=
  match command with
  | .addTapIface name | .createBridge name => debt.owes (.iface name)
  | .nftConfig element true => debt.owes (.element element)
  | .linkTapToBridge tap name => ∃ bridge : Bridge, name = .bridge bridge ∧
      tap = .tap bridge.tapKind id ∧ debt.owes (.iface tap)
  | .bridgeInUse name => ∃ bridge : Bridge, name = .bridge bridge ∧
      (debt.stage = .tearingDown → ¬debt.owes (.iface (.tap bridge.tapKind id)))
  | .deleteIface name => name.Of id ∧ ∀ bridge : Bridge, name = .bridge bridge →
      debt.stage = .tearingDown → ¬debt.owes (.iface (.tap bridge.tapKind id))
  | _ => True

/-- What the others leave to a process with this id. -/
structure Undisturbed (id : Int) (before after : Debt) : Prop where
  stage : after.stage = before.stage
  owes : after.owes = before.owes
  present : ∀ kind, before.network.Present (.tap kind id) → after.network.Present (.tap kind id)
  member : ∀ kind bridge, after.network.Member (.tap kind id) bridge →
    before.network.Member (.tap kind id) bridge

end Debt

/-- How a process runs among the others as long as no dnsmasq is started. -/
def owing (id : Int) (mobile wifi : Bool) : Setting Command Debt where
  env := Debt.Undisturbed id
  demand command debt := debt.Sound id mobile wifi ∧ debt.Demand id command
  act command debt answer after := ∃ socket,
    (∀ bridge gateway range, command = .startDnsmasq bridge gateway range → answer = false) ∧
    answer = (command.exec socket debt.network).1 ∧ after = debt.acted socket command
  env_refl _ := ⟨rfl, rfl, fun _ there => there, fun _ _ member => member⟩
  env_trans _ _ _ one two := ⟨two.stage.trans one.stage, two.owes.trans one.owes,
    fun kind there => two.present kind (one.present kind there),
    fun kind bridge member => one.member kind bridge (two.member kind bridge member)⟩

section Members

variable {network : Network} {tap bridge : Iface}

variable {name : Iface} {socket : Bool}

theorem member_linksWithout {link : Link} (found : network.linksWithout name bridge = some link)
    (mem : tap ∈ link.members) : network.Member tap bridge ∧ tap ≠ name := by
  unfold Network.linksWithout at found
  obtain ⟨old, found, rfl⟩ := Option.map_eq_some_iff.mp found
  have kept := List.mem_filter.mp mem
  exact ⟨⟨old, ‹_›, kept.1⟩, by simpa using kept.2⟩

theorem member_withLink (link : Link) (kept : ∀ member ∈ link.members, network.Member member name)
    (member : (network.withLink name (some link)).Member tap bridge) :
    network.Member tap bridge := by
  obtain ⟨other, found, mem⟩ := member
  by_cases same : bridge = name
  · subst same
    cases (update_self ..).symm.trans found
    exact kept tap mem
  · exact ⟨other, (update_of_ne same ..).symm.trans found, mem⟩

theorem member_of_exec {command : Command}
    (member : (command.exec socket network).2.Member tap bridge) :
    network.Member tap bridge ∧ (command = .deleteIface tap → ¬network.Present tap) ∨
      command = .linkTapToBridge tap bridge ∧ network.Present tap := by
  have setUp {up : Bool} {name : Iface}
      (member : (network.setUp up name).2.Member tap bridge) : network.Member tap bridge := by
    unfold Network.setUp at member
    split at member
    · exact member
    · rename_i link found
      refine member_withLink _ (fun other mem => ?_) member
      exact ⟨link, found, mem⟩
  cases command with
  | addTapIface name =>
    refine .inl ⟨?_, by simp⟩
    simp only [Command.exec, Network.addTapIface] at member
    split_ifs at member
    · exact member_withLink _ (fun other mem => by cases mem) member
    · exact member
  | createBridge name =>
    refine .inl ⟨?_, by simp⟩
    simp only [Command.exec, Network.createBridge] at member
    split_ifs at member
    · exact member_withLink _ (fun other mem => by cases mem) member
    · exact member
  | shutdownIface name => exact .inl ⟨setUp member, by simp⟩
  | bringUpIface name => exact .inl ⟨setUp member, by simp⟩
  | addGateway name gateway =>
    refine .inl ⟨?_, by simp⟩
    simp only [Command.exec, Network.addGateway] at member
    split at member
    · exact member
    · rename_i link found
      split_ifs at member
      · exact member
      · refine member_withLink _ (fun other mem => ?_) member
        exact ⟨link, found, mem⟩
  | destroyGateway name gateway =>
    refine .inl ⟨?_, by simp⟩
    simp only [Command.exec, Network.destroyGateway] at member
    split at member
    · exact member
    · rename_i link found
      split_ifs at member
      · refine member_withLink _ (fun other mem => ?_) member
        exact ⟨link, found, mem⟩
      · exact member
  | linkTapToBridge name other =>
    simp only [Command.exec, Network.linkTapToBridge] at member
    split at member
    · rename_i old link linked joined
      obtain ⟨now, found, mem⟩ := member
      dsimp only at found
      by_cases same : bridge = other
      · subst same
        rw [update_self] at found
        cases found
        rcases List.mem_cons.mp mem with rfl | mem
        · exact .inr ⟨rfl, Option.isSome_iff_exists.mpr ⟨old, linked⟩⟩
        · exact .inl ⟨(member_linksWithout joined mem).1, by simp⟩
      · rw [update_of_ne same] at found
        exact .inl ⟨(member_linksWithout found mem).1, by simp⟩
    · exact .inl ⟨member, by simp⟩
  | deleteIface name =>
    simp only [Command.exec, Network.deleteIface] at member
    split_ifs at member with there
    · obtain ⟨now, found, mem⟩ := member
      dsimp only at found
      have ne : bridge ≠ name := by
        rintro rfl
        rw [update_self] at found
        cases found
      rw [update_of_ne ne] at found
      obtain ⟨member, apart⟩ := member_linksWithout found mem
      exact .inl ⟨member, fun same => by cases same; exact absurd rfl apart⟩
    · exact .inl ⟨member, fun same => by cases same; exact there⟩
  | startDnsmasq name gateway range =>
    refine .inl ⟨?_, by simp⟩
    simp only [Command.exec, Network.startDnsmasq] at member
    split_ifs at member <;> exact member
  | _ => exact .inl ⟨member, by simp⟩

theorem present_of_exec {command : Command} {name : Iface} (there : network.Present name)
    (other : command ≠ .deleteIface name) : (command.exec socket network).2.Present name := by
  have kept {answer : Bool} {link : Link} :
      (answer, network.withLink name (some link)).2.Present name := by
    simp [Network.Present, Network.withLink]
  by_cases touched : command.touches = some name
  · cases command with
    | addTapIface | createBridge =>
      cases touched
      simp only [Command.exec, Network.addTapIface, Network.createBridge]
      split_ifs
      · exact kept
      · exact there
    | addGateway | destroyGateway =>
      cases touched
      simp only [Command.exec, Network.addGateway, Network.destroyGateway]
      split
      · exact there
      · split_ifs
        · first | exact there | exact kept
        · first | exact there | exact kept
    | deleteIface =>
      cases touched
      exact absurd rfl other
    | _ => cases touched
  · rw [Network.present_iff, Command.exec_addresses socket touched, ← Network.present_iff]
    exact there

end Members

section Sound

variable {id : Int} {mobile wifi : Bool} {debt before after : Debt} {command : Command}

theorem Debt.Sound.acted (sound : debt.Sound id mobile wifi) (demand : debt.Demand id command)
    (socket : Bool) : (debt.acted socket command).Sound id mobile wifi where
  member kind name member := by
    rcases member_of_exec member with ⟨was, kept⟩ | ⟨rfl, there⟩
    · obtain ⟨there, owed, bridge, rfl, same⟩ := sound.member kind _ was
      have other : command ≠ .deleteIface (.tap kind id) := fun deleted => kept deleted there
      refine ⟨present_of_exec there other, ⟨owed, ?_⟩, bridge, rfl, same⟩
      rintro ⟨-, settles⟩
      cases command with
      | deleteIface name =>
        cases settles
        exact other rfl
      | bridgeInUse name =>
        obtain ⟨bridge, rfl, -⟩ := demand
        cases settles.1
      | nftConfig element add => cases add <;> exact settles
      | _ => exact settles
    · obtain ⟨bridge, rfl, same, owed⟩ := demand
      cases same
      exact ⟨present_of_exec there (by simp), ⟨owed, fun settled => settled.2⟩, bridge, rfl, rfl⟩
  bridge bridge owed := by
    refine ⟨sound.bridge bridge owed.1, ?_⟩
    rintro ⟨tearing, settles⟩
    cases command with
    | deleteIface name => exact demand.2 bridge settles.symm tearing owed.1
    | bridgeInUse name =>
      obtain ⟨other, rfl, demand⟩ := demand
      cases settles.1
      exact demand tearing owed.1
    | nftConfig element add => cases add <;> exact settles
    | _ => exact settles
  brought resource owed := sound.brought resource owed.1

theorem Debt.Sound.undisturbed (sound : before.Sound id mobile wifi)
    (moved : before.Undisturbed id after) : after.Sound id mobile wifi where
  member kind name member := by
    obtain ⟨there, owed, rest⟩ := sound.member kind name (moved.member kind name member)
    exact ⟨moved.present kind there, moved.owes ▸ owed, rest⟩
  bridge bridge := moved.owes ▸ sound.bridge bridge
  brought resource := moved.owes ▸ sound.brought resource

end Sound

end Ika.Cvdalloc
