import Ika.Cvdalloc.Repaid

/-! Whatever is there is owed by one of the processes, so nothing is left when all have ended. -/

set_option autoImplicit false

namespace Ika.Cvdalloc

open Scripts Script Function

def Command.Makes : Command → Resource → Prop
  | addTapIface name, resource | createBridge name, resource => resource = .iface name
  | nftConfig element true, resource => resource = .element element
  | _, _ => False

def Command.Takes : Command → Resource → Prop
  | deleteIface name, resource => resource = .iface name
  | nftConfig element false, resource => resource = .element element
  | _, _ => False

section Commands

variable {network : Network} {command : Command} {socket : Bool}

theorem exec_changes :
    (∃ links, (command.exec socket network).2 = {network with links}) ∨
      (∃ dnsmasq, (command.exec socket network).2 = {network with dnsmasq} ∧
        (command.startsDnsmasq = true ∨ ∃ bridge, command = .stopDnsmasq bridge)) ∨
      ∃ element add, command = .nftConfig element add := by
  cases command with
  | nftConfig element add => exact .inr (.inr ⟨element, add, rfl⟩)
  | stopDnsmasq bridge => exact .inr (.inl ⟨_, rfl, .inr ⟨bridge, rfl⟩⟩)
  | startDnsmasq =>
    simp only [Command.exec, Network.startDnsmasq]
    split_ifs
    · exact .inr (.inl ⟨_, rfl, .inl rfl⟩)
    · exact .inl ⟨_, rfl⟩
  | addTapIface | createBridge | deleteIface =>
    simp only [Command.exec, Network.addTapIface, Network.createBridge, Network.deleteIface]
    split_ifs <;> exact .inl ⟨_, rfl⟩
  | shutdownIface | bringUpIface =>
    simp only [Command.exec, Network.shutdownIface, Network.bringUpIface, Network.setUp]
    split <;> exact .inl ⟨_, rfl⟩
  | addGateway | destroyGateway =>
    simp only [Command.exec, Network.addGateway, Network.destroyGateway]
    split
    · exact .inl ⟨_, rfl⟩
    · split_ifs <;> exact .inl ⟨_, rfl⟩
  | linkTapToBridge =>
    simp only [Command.exec, Network.linkTapToBridge]
    split <;> exact .inl ⟨_, rfl⟩
  | _ => exact .inl ⟨_, rfl⟩

theorem exec_natSources {element : Subnet} (other : ∀ add, command ≠ .nftConfig element add) :
    (command.exec socket network).2.natSources element = network.natSources element := by
  rcases @exec_changes network command socket with ⟨_, same⟩ | ⟨_, same, -⟩ | ⟨changed, add, rfl⟩
  · rw [same]
  · rw [same]
  · exact update_of_ne (fun same => other add (by rw [same])) ..

theorem exec_dnsmasq_other (starts : command.startsDnsmasq = false)
    (stops : ∀ bridge, command ≠ .stopDnsmasq bridge) :
    (command.exec socket network).2.dnsmasq = network.dnsmasq := by
  rcases @exec_changes network command socket with
    ⟨_, same⟩ | ⟨_, -, started | ⟨bridge, stopped⟩⟩ | ⟨_, _, rfl⟩
  · rw [same]
  · exact absurd started (Bool.eq_false_iff.mp starts)
  · exact absurd stopped (stops bridge)
  · rfl

theorem exec_dnsmasq (quiet : command.startsDnsmasq → (command.exec socket network).1 = false)
    (name : Iface) : (command.exec socket network).2.dnsmasq name ≤ network.dnsmasq name := by
  by_cases stops : ∃ bridge, command = .stopDnsmasq bridge
  · obtain ⟨bridge, rfl⟩ := stops
    by_cases same : name = bridge
    · subst same
      simp [Command.exec, Network.stopDnsmasq]
    · exact Nat.le_of_eq (update_of_ne same ..)
  cases starts : command.startsDnsmasq with
  | false =>
    exact Nat.le_of_eq (congrFun (exec_dnsmasq_other starts (not_exists.mp stops)) name)
  | true =>
    have failed := quiet starts
    cases command with
    | startDnsmasq bridge gateway range =>
      simp only [Command.exec, Network.startDnsmasq] at failed ⊢
      split_ifs at failed ⊢
      exact Nat.le_refl _
    | _ => cases starts

theorem exec_dnsmasq_mono (stops : ∀ bridge, command ≠ .stopDnsmasq bridge) (name : Iface) :
    network.dnsmasq name ≤ (command.exec socket network).2.dnsmasq name := by
  cases starts : command.startsDnsmasq with
  | false => exact Nat.le_of_eq (congrFun (exec_dnsmasq_other starts stops) name).symm
  | true =>
    cases command with
    | startDnsmasq bridge gateway range =>
      simp only [Command.exec, Network.startDnsmasq]
      split_ifs
      · by_cases same : name = bridge
        · subst same
          dsimp only
          rw [update_self]
          exact Nat.le_succ _
        · exact Nat.le_of_eq (update_of_ne same ..).symm
      · exact Nat.le_refl _
    | _ => cases starts

theorem there_of_exec {resource : Resource}
    (there : (command.exec socket network).2.There resource) :
    command.Makes resource ∨ network.There resource ∧ ¬command.Takes resource := by
  cases resource with
  | element element =>
    by_cases touched : ∃ add, command = .nftConfig element add
    · obtain ⟨add, rfl⟩ := touched
      have is : add = true := (update_self ..).symm.trans there
      subst is
      exact .inl rfl
    · have other := not_exists.mp touched
      refine .inr ⟨(exec_natSources other).symm.trans there, fun takes => ?_⟩
      cases command with
      | nftConfig changed add =>
        cases add
        · cases takes
          exact other false rfl
        · exact takes
      | deleteIface => cases takes
      | _ => exact takes
  | iface name =>
    by_cases touched : command.touches = some name
    · cases command with
      | addTapIface | createBridge =>
        cases touched
        exact .inl rfl
      | deleteIface =>
        cases touched
        simp only [Network.There, Network.Present, Command.exec, Network.deleteIface] at there
        split_ifs at there with was
        · simp at there
        · exact absurd there was
      | addGateway | destroyGateway =>
        cases touched
        refine .inr ⟨?_, fun takes => takes⟩
        simp only [Command.exec, Network.addGateway, Network.destroyGateway] at there
        split at there
        · exact there
        · rename_i link found
          exact Option.isSome_iff_exists.mpr ⟨link, found⟩
      | _ => cases touched
    · refine .inr ⟨?_, fun takes => ?_⟩
      · have present : (command.exec socket network).2.Present name := there
        rw [Network.present_iff, Command.exec_addresses socket touched] at present
        exact Network.present_iff.mpr present
      · cases command with
        | deleteIface other =>
          cases takes
          exact touched rfl
        | nftConfig element add => cases add <;> cases takes
        | _ => exact takes

theorem member_of_bridgeInUse {name : Iface} (inUse : network.bridgeInUse name = true) :
    ∃ tap, network.Member tap name := by
  unfold Network.bridgeInUse at inUse
  split at inUse
  · cases inUse
  · rename_i link found
    cases members : link.members with
    | nil => simp [members] at inUse
    | cons tap rest => exact ⟨tap, link, found, by simp [members]⟩

end Commands

variable {Index : Type} {ids : Index → Int}

/-- What one process owes goes with where it is. -/
def Host.Accounts (ids : Index → Int) (host : Host Index) (index : Index)
    (owes : Resource → Prop) : Prop :=
  match host.process index with
  | .idle => ∀ mobile wifi, Debt.Clear (ids index) mobile wifi ⟨host.network, .allocating, owes⟩
  | .killed mobile wifi =>
    Debt.Sound (ids index) mobile wifi ⟨host.network, .allocating, owes⟩
  | .running run => (owing (ids index) run.enableMobile run.enableWifi).Sure run.script
      (fun _ => Debt.Clear (ids index) run.enableMobile run.enableWifi)
      ⟨host.network, run.stage, owes⟩

/-- Whatever is there is owed by one of the processes. -/
structure Host.Charged (ids : Index → Int) (owes : Index → Resource → Prop) (host : Host Index) :
    Prop where
  accounts : ∀ index, host.Accounts ids index (owes index)
  charged : ∀ resource, host.network.There resource → ∃ index, owes index resource
  members : ∀ tap name, host.network.Member tap name → ∃ index kind, tap = .tap kind (ids index)
  dnsmasq : ∀ name, host.network.dnsmasq name = 0

section Accounts

variable {id : Int} {mobile wifi : Bool} {network : Network} {stage other : Stage}
  {owes : Resource → Prop}

theorem sound_stage (sound : Debt.Sound id mobile wifi ⟨network, stage, owes⟩) :
    Debt.Sound id mobile wifi ⟨network, other, owes⟩ :=
  ⟨sound.member, sound.bridge, sound.brought⟩

theorem sure_sound {script : Alloc Unit} {debt : Debt} (sure : (owing id mobile wifi).Sure script
    (fun _ => Debt.Clear id mobile wifi) debt) : debt.Sound id mobile wifi := by
  cases script with
  | done result => exact (sure debt (Setting.env_refl _ _)).1
  | call command next => exact sure.demand.1

theorem clear_any (clear : Debt.Clear id mobile wifi ⟨network, stage, owes⟩)
    (mobile' wifi' : Bool) : Debt.Clear id mobile' wifi' ⟨network, other, owes⟩ :=
  ⟨⟨fun kind name member => absurd (clear.1.member kind name member).2.1 (clear.2 _),
    clear.1.bridge, fun resource owed => absurd owed (clear.2 resource)⟩, clear.2⟩

variable {host : Host Index} {index : Index}

theorem Host.Accounts.sound (accounts : host.Accounts ids index owes) :
    ∃ mobile wifi, Debt.Sound (ids index) mobile wifi ⟨host.network, .allocating, owes⟩ := by
  unfold Host.Accounts at accounts
  split at accounts
  · exact ⟨false, false, (accounts false false).1⟩
  · exact ⟨_, _, accounts⟩
  · exact ⟨_, _, sound_stage (sure_sound accounts)⟩

theorem brings_bridge (bridge : Bridge)
    (brings : Brings id mobile wifi (.iface (.tap bridge.tapKind id))) :
    Brings id mobile wifi (.iface (.bridge bridge)) := by
  obtain ⟨-, started, enabled, -⟩ := brings
  refine ⟨started, ?_⟩
  rintro rfl
  exact enabled

theorem brings_mono {mobile' wifi' : Bool} (keepsMobile : mobile → mobile')
    (keepsWifi : wifi → wifi') {resource : Resource} (brings : Brings id mobile wifi resource) :
    Brings id mobile' wifi' resource := by
  cases resource with
  | iface name =>
    cases name with
    | tap kind other =>
      obtain ⟨rfl, started, enabled, fits⟩ := brings
      refine ⟨rfl, started, ?_, fits⟩
      cases kind with
      | mtap => exact keepsMobile enabled
      | wtap | wifiap => exact keepsWifi enabled
      | etap => trivial
    | bridge bridge => exact ⟨brings.1, fun wireless => keepsWifi (brings.2 wireless)⟩
  | element element =>
    obtain ⟨started, fits, ⟨enabled, same⟩ | ⟨enabled, same⟩⟩ := brings
    · exact ⟨started, fits, .inl ⟨keepsMobile enabled, same⟩⟩
    · exact ⟨started, fits, .inr ⟨keepsWifi enabled, same⟩⟩

theorem launched_owing (member : ∀ kind name, network.Member (.tap kind id) name →
      network.Present (.tap kind id) ∧ owes (.iface (.tap kind id)) ∧
        ∃ bridge : Bridge, name = .bridge bridge ∧ kind = bridge.tapKind)
    (brings : ∀ resource, owes resource → Brings id mobile wifi resource) :
    (owing id mobile wifi).Sure (cvdallocMain id mobile wifi)
      (fun _ => Debt.Clear id mobile wifi) ⟨network, .allocating, Brings id mobile wifi⟩ := by
  refine cvdallocMain_owing _ ⟨by simp, ⟨fun kind name mem => ?_, brings_bridge, fun _ is => is⟩,
    fun _ is => is⟩
  obtain ⟨there, owed, rest⟩ := member kind name mem
  exact ⟨there, brings _ owed, rest⟩

theorem Host.Accounts.moved {after : Host Index} (accounts : host.Accounts ids index owes)
    (same : after.process index = host.process index)
    (present : ∀ kind, host.network.Present (.tap kind (ids index)) →
      after.network.Present (.tap kind (ids index)))
    (member : ∀ kind name, after.network.Member (.tap kind (ids index)) name →
      host.network.Member (.tap kind (ids index)) name) : after.Accounts ids index owes := by
  have undisturbed (stage : Stage) : Debt.Undisturbed (ids index)
      ⟨host.network, stage, owes⟩ ⟨after.network, stage, owes⟩ := ⟨rfl, rfl, present, member⟩
  unfold Host.Accounts at accounts ⊢
  rw [same]
  split
  · rename_i idle
    rw [idle] at accounts
    exact fun mobile wifi =>
      ⟨(accounts mobile wifi).1.undisturbed (undisturbed _), (accounts mobile wifi).2⟩
  · rename_i killed
    rw [killed] at accounts
    exact Debt.Sound.undisturbed accounts (undisturbed _)
  · rename_i running
    rw [running] at accounts
    exact Setting.Sure.env accounts (undisturbed _)

end Accounts

variable [DecidableEq Index] {owes : Index → Resource → Prop}

theorem Host.set_process (host : Host Index) (index : Index) (process : Process) :
    (host.set index process).process index = process := update_self ..

variable {host : Host Index}

theorem Host.Charged.set (charged : host.Charged ids owes) (index : Index) {process : Process}
    {owed : Resource → Prop} (more : ∀ resource, owes index resource → owed resource)
    (accounts : (host.set index process).Accounts ids index owed) :
    (host.set index process).Charged ids (update owes index owed) where
  accounts other := by
    by_cases same : other = index
    · subst same
      rw [update_self]
      exact accounts
    · rw [update_of_ne same]
      exact (charged.accounts other).moved (update_of_ne same ..) (fun _ there => there)
        fun _ _ member => member
  charged resource there := by
    obtain ⟨other, owed⟩ := charged.charged resource there
    by_cases same : other = index
    · subst same
      exact ⟨other, by rw [update_self]; exact more resource owed⟩
    · exact ⟨other, by rw [update_of_ne same]; exact owed⟩
  members := charged.members
  dnsmasq := charged.dnsmasq

theorem Host.Charged.call (distinct : Function.Injective ids) (charged : host.Charged ids owes)
    {index : Index} {run : Run} {socket : Bool} {command : Command} {next : Bool → Alloc Unit}
    (state : host.process index = .running run) (script : run.script = .call command next)
    (quiet : command.startsDnsmasq → (command.exec socket host.network).1 = false)
    {after : Host Index} (network : after.network = (command.exec socket host.network).2)
    (process : after.process = update host.process index
      (.running (run.after command next (command.exec socket host.network).1))) :
    ∃ owes', after.Charged ids owes' := by
  have own := charged.accounts index
  rw [Accounts, state] at own
  dsimp only at own
  rw [script] at own
  have demand := own.demand.2
  have stepped := own.step ⟨socket, fun _ _ _ starts => quiet (starts ▸ rfl), rfl, rfl⟩
  have others (other : Index) (apart : other ≠ index) (kind : TapKind) :
      command ≠ .deleteIface (.tap kind (ids other)) ∧
        ∀ name, command ≠ .linkTapToBridge (.tap kind (ids other)) name := by
    constructor
    · rintro rfl
      exact apart (distinct demand.1)
    · rintro name rfl
      obtain ⟨bridge, -, same, -⟩ := demand
      exact apart (distinct (Iface.tap.inj same).2)
  refine ⟨update owes index
    (Debt.acted ⟨host.network, run.stage, owes index⟩ socket command).owes, ?_, ?_, ?_, ?_⟩
  · intro other
    by_cases same : other = index
    · subst same
      rw [update_self, Accounts, process, update_self]
      dsimp only
      rw [network]
      exact stepped
    · rw [update_of_ne same]
      refine (charged.accounts other).moved ?_ (fun kind there => ?_) fun kind name member => ?_
      · rw [process]
        exact update_of_ne same ..
      · rw [network]
        exact present_of_exec there (others other same kind).1
      · rw [network] at member
        exact (member_of_exec member).elim (·.1) fun linked =>
          absurd linked.1 ((others other same kind).2 name)
  · intro resource there
    rw [network] at there
    -- It is owed by whoever owed it, unless that has just been settled here.
    have kept (settled : run.stage = .tearingDown ∧
        command.Settles (command.exec socket host.network).1 resource → ∃ other, other ≠ index ∧
          owes other resource) (owner : ∃ other, owes other resource) :
        ∃ other, update owes index
          (Debt.acted ⟨host.network, run.stage, owes index⟩ socket command).owes other resource := by
      by_cases isSettled : run.stage = .tearingDown ∧
        command.Settles (command.exec socket host.network).1 resource
      · obtain ⟨other, apart, owed⟩ := settled isSettled
        exact ⟨other, by rw [update_of_ne apart]; exact owed⟩
      · obtain ⟨other, owed⟩ := owner
        by_cases same : other = index
        · subst same
          exact ⟨other, by rw [update_self]; exact ⟨owed, isSettled⟩⟩
        · exact ⟨other, by rw [update_of_ne same]; exact owed⟩
    rcases there_of_exec there with makes | ⟨there, stays⟩
    · refine kept (fun settled => ?_) ⟨index, ?_⟩
      · cases command with
        | nftConfig element add => cases add <;> first | exact makes.elim | exact settled.2.elim
        | deleteIface | bridgeInUse => exact makes.elim
        | _ => exact settled.2.elim
      · cases command with
        | addTapIface | createBridge =>
          cases makes
          exact demand
        | nftConfig element add =>
          cases add
          · exact makes.elim
          · cases makes
            exact demand
        | _ => exact makes.elim
    · refine kept (fun settled => ?_) (charged.charged resource there)
      cases command with
      | deleteIface name =>
        cases resource with
        | iface other => exact absurd (congrArg Resource.iface settled.2) stays
        | element => exact settled.2.elim
      | nftConfig element add =>
        cases add with
        | true => exact settled.2.elim
        | false =>
          cases resource with
          | iface => exact settled.2.elim
          | element other => exact absurd (congrArg Resource.element settled.2) stays
      | bridgeInUse name =>
        cases resource with
        | element => exact settled.2.elim
        | iface other =>
          -- A member of the bridge is another process's, which owes the bridge too.
          obtain ⟨tearing, rfl, inUse⟩ := settled
          obtain ⟨bridge, rfl, mine⟩ := demand
          obtain ⟨tap, member⟩ := member_of_bridgeInUse inUse
          obtain ⟨holder, kind, rfl⟩ := charged.members tap _ member
          obtain ⟨mobile, wifi, sound⟩ := (charged.accounts holder).sound
          obtain ⟨-, owed, joined, same, rfl⟩ := sound.member kind _ member
          cases same
          refine ⟨holder, ?_, sound.bridge _ owed⟩
          rintro rfl
          exact mine tearing owed
      | _ => exact settled.2.elim
  · intro tap name member
    rw [network] at member
    rcases member_of_exec member with ⟨was, -⟩ | ⟨rfl, -⟩
    · exact charged.members tap name was
    · obtain ⟨bridge, -, same, -⟩ := demand
      exact ⟨index, _, same⟩
  · intro name
    rw [network]
    exact Nat.le_zero.mp (Nat.le_trans (exec_dnsmasq quiet name) (Nat.le_of_eq (charged.dnsmasq name)))

theorem Host.Charged.step (distinct : Function.Injective ids) {host after : Host Index}
    {event : Index × Action} (charged : host.Charged ids owes) (sparing : host.Sparing event)
    (moved : host.step ids event = some after) : ∃ owes', after.Charged ids owes' := by
  obtain ⟨index, action⟩ := event
  cases step_moves moved with
  | start mobile wifi idle =>
    have clear := charged.accounts index
    rw [Accounts, idle] at clear
    have brings (resource : Resource) (owed : owes index resource) :
        Brings (ids index) mobile wifi resource := absurd owed ((clear mobile wifi).2 resource)
    refine ⟨_, charged.set index brings ?_⟩
    rw [Accounts, set_process]
    exact launched_owing (clear mobile wifi).1.member (clear mobile wifi).1.brought
  | restart mobile wifi enableMobile enableWifi killed =>
    have sound := charged.accounts index
    rw [Accounts, killed] at sound
    have keeps := sparing (mobile, wifi) (by rw [killed?, killed]; rfl)
    have brings (resource : Resource) (owed : owes index resource) :=
      brings_mono keeps.1 keeps.2 (sound.brought resource owed)
    refine ⟨_, charged.set index brings ?_⟩
    rw [Accounts, set_process]
    exact launched_owing sound.member brings
  | finish run socket state script =>
    have sure := charged.accounts index
    rw [Accounts, state] at sure
    dsimp only at sure
    rw [script] at sure
    have clear := sure _ (Setting.env_refl _ _)
    refine ⟨_, charged.set index (fun _ owed => owed) ?_⟩
    rw [Accounts, set_process]
    exact clear_any clear
  | kill run state =>
    have sure := charged.accounts index
    rw [Accounts, state] at sure
    refine ⟨_, charged.set index (fun _ owed => owed) ?_⟩
    rw [Accounts, set_process]
    exact sound_stage (sure_sound sure)
  | call run socket command next state script =>
    exact charged.call distinct state script (sparing command (command?_eq state script)) rfl rfl

omit [DecidableEq Index] in
theorem Host.Start.charged {host : Host Index} (start : host.Start) :
    host.Charged ids fun _ _ => False where
  accounts index := by
    rw [Accounts, start.2 index]
    refine fun mobile wifi => ⟨⟨fun kind name member => ?_, fun _ never => never, fun _ never =>
      never.elim⟩, fun _ never => never⟩
    obtain ⟨link, found, -⟩ := member
    rw [start.1] at found
    cases found
  charged resource there := by
    rw [start.1] at there
    cases resource <;> cases there
  members tap name member := by
    obtain ⟨link, found, -⟩ := member
    rw [start.1] at found
    cases found
  dnsmasq name := by
    rw [start.1]
    rfl

omit [DecidableEq Index] in
theorem Host.Charged.cleared {host : Host Index} (charged : host.Charged ids owes)
    (finished : host.Finished) : host.network.Cleared := by
  have nothing (resource : Resource) : ¬host.network.There resource := by
    intro there
    obtain ⟨index, owed⟩ := charged.charged resource there
    have clear := charged.accounts index
    rw [Accounts, finished index] at clear
    exact (clear false false).2 resource owed
  refine ⟨fun name => ?_, charged.dnsmasq, fun element => ?_⟩
  · exact Option.not_isSome_iff_eq_none.mp (nothing (.iface name))
  · exact Bool.eq_false_iff.mpr (nothing (.element element))

def Host.Settled (ids : Index → Int) (host : Host Index) : Prop := ∃ owes, host.Charged ids owes

theorem cleared_of_sparing (distinct : Function.Injective ids)
    (reached : (cvdalloc ids).Reaches Host.Sparing host) (finished : host.Finished) :
    host.network.Cleared := by
  have owed : host.Settled ids := by
    refine reached.invariant (fun host start => ?_) fun host event after before sparing moved => ?_
    · exact ⟨_, Host.Start.charged start⟩
    · obtain ⟨_, charged⟩ := before
      exact charged.step distinct sparing moved
  obtain ⟨_, charged⟩ := owed
  exact charged.cleared finished

end Ika.Cvdalloc
