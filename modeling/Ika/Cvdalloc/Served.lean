import Ika.Cvdalloc.Allocation

/-! Every run of the program, in every careful run of the host. -/

set_option autoImplicit false

namespace Ika.Cvdalloc

open Scripts Script Alloc

section Program

variable {id : Int} {mobile wifi : Bool}

def EnabledTap (mobile wifi : Bool) (kind : TapKind) : Prop :=
  match kind with
  | .mtap => mobile
  | .wtap | .wifiap => wifi
  | .etap => True

def EnabledBridge (wifi : Bool) (bridge : Bridge) : Prop := bridge = .wireless → wifi

def View.HasAll (id : Int) (mobile wifi : Bool) : View → Prop :=
  View.Has id (EnabledTap mobile wifi) (EnabledBridge wifi) (EnabledBridge wifi)

theorem View.HasAll.serves {view : View} (has : view.HasAll id mobile wifi) :
    view.network.Serves id mobile wifi where
  mobile enabled := has.taps .mtap enabled
  accessPoint enabled := has.taps .wifiap enabled
  bridged bridge enabled := by
    refine ⟨has.taps _ ?_, (has.joined bridge enabled).2, (has.setUp bridge enabled).2⟩
    cases bridge
    · trivial
    · exact enabled rfl

theorem optional_has {scripts : List (Alloc Bool)} {cond : Bool} {pre fine : View → Prop}
    (stable : (serving id mobile wifi).Stable fine) (kept : cond = false → ∀ view, pre view → fine view)
    (triple : cond = true → (serving id mobile wifi).Triple
      (fun view => view.stage = .allocating ∧ pre view) (expectAll scripts)
      fun ok view => view.stage = .allocating ∧ (ok = true → fine view)) :
    (serving id mobile wifi).Triple (fun view => view.stage = .allocating ∧ pre view)
      (expectAll (if cond then scripts else []))
      fun ok view => view.stage = .allocating ∧ (ok = true → fine view) := by
  cases cond
  · exact (Setting.Triple.expectAll_nil (stable_stage _) stable).strengthen
      fun view holds => ⟨holds.1, kept rfl view holds.2⟩
  · exact triple rfl

theorem allocate_has : (serving id mobile wifi).Triple (fun view => view.stage = .allocating)
    (allocate id (.bridge .ethernet) (.bridge .wireless) mobile wifi)
    fun ok view => view.stage = .allocating ∧ (ok = true → view.HasAll id mobile wifi) := by
  unfold allocate
  have mobilePart : (serving id mobile wifi).Triple
      (fun view => view.stage = .allocating ∧
        view.Has id (fun _ => False) (fun _ => False) (fun _ => False))
      (expectAll (if mobile then
        [createMobileIface (.tap .mtap id) (toUint16 id) mobileIpPrefix] else []))
      fun ok view => view.stage = .allocating ∧ (ok = true →
        view.Has id (fun kind => kind = .mtap ∧ mobile) (fun _ => False) (fun _ => False)) := by
    refine optional_has stable_has (fun off view has => has.mono (by simp [off]) ?_ ?_) fun on => ?_
    · exact fun _ never => never
    · exact fun _ never => never
    · refine .expectAll_cons ((createMobileIface_has .mtap _ _).weaken fun ok view holds =>
        ⟨holds.1, fun yes => ?_⟩) (stable_stage _)
        (.expectAll_nil (stable_stage _) stable_has)
      exact (holds.2 yes).mono (fun kind is => .inr is.1) (fun _ never => never)
        fun _ never => never
  have wifiPart : (serving id mobile wifi).Triple
      (fun view => view.stage = .allocating ∧
        view.Has id (fun kind => kind = .mtap ∧ mobile) (fun _ => False) (fun _ => False))
      (expectAll (if wifi then
        [createEthernetBridgeIface (.bridge .wireless) wirelessIpPrefix,
          createEthernetIface (.tap .wtap id) (.bridge .wireless),
          createMobileIface (.tap .wifiap id) (toUint16 id) wirelessApIpPrefix] else []))
      fun ok view => view.stage = .allocating ∧ (ok = true →
        view.Has id (fun kind => kind ≠ .etap ∧ EnabledTap mobile wifi kind)
          (fun bridge => bridge = .wireless ∧ wifi) (fun bridge => bridge = .wireless ∧ wifi)) := by
    refine optional_has stable_has (fun off view has => has.mono ?_ (by simp [off]) (by simp [off]))
      fun on => ?_
    · rintro kind ⟨other, enabled⟩
      cases kind <;> simp_all [EnabledTap]
    refine .expectAll_cons (createEthernetBridgeIface_has .wireless) (stable_stage _) ?_
    refine .expectAll_cons (createEthernetIface_has .wireless (.inr rfl)) (stable_stage _) ?_
    refine .expectAll_cons ((createMobileIface_has .wifiap _ _).weaken fun ok view holds =>
      ⟨holds.1, fun yes => ?_⟩) (stable_stage _) (.expectAll_nil (stable_stage _) stable_has)
    refine (holds.2 yes).mono ?_ (fun bridge is => .inr is.1) fun bridge is => .inr is.1
    rintro kind ⟨other, enabled⟩
    cases kind <;> simp_all [EnabledTap, WithTap, Bridge.tapKind]
  have ethernetPart : (serving id mobile wifi).Triple
      (fun view => view.stage = .allocating ∧
        view.Has id (fun kind => kind ≠ .etap ∧ EnabledTap mobile wifi kind)
          (fun bridge => bridge = .wireless ∧ wifi) (fun bridge => bridge = .wireless ∧ wifi))
      (expectAll [createEthernetBridgeIface (.bridge .ethernet) ethernetIpPrefix,
        createEthernetIface (.tap .etap id) (.bridge .ethernet)])
      fun ok view => view.stage = .allocating ∧ (ok = true → view.HasAll id mobile wifi) := by
    refine .expectAll_cons (createEthernetBridgeIface_has .ethernet) (stable_stage _) ?_
    refine .expectAll_cons ((createEthernetIface_has .ethernet (.inr rfl)).weaken
      fun ok view holds => ⟨holds.1, fun yes => ?_⟩) (stable_stage _)
      (.expectAll_nil (stable_stage _) stable_has)
    refine (holds.2 yes).mono (fun kind enabled => ?_) ?_ ?_
    · by_cases same : kind = .etap
      · exact .inr same
      · exact .inl ⟨same, enabled⟩
    all_goals
      intro bridge enabled
      cases bridge
      · exact .inr rfl
      · exact .inl ⟨rfl, enabled rfl⟩
  refine (Setting.Triple.expectAll_append (Setting.Triple.expectAll_append mobilePart
    (stable_stage _) wifiPart) (stable_stage _) ethernetPart).strengthen fun view is => ⟨is, ?_⟩
  exact ⟨fun _ never => never.elim, fun _ never => never.elim, fun _ never => never.elim⟩

variable (kind : TapKind)

theorem destroysIface_plain :
    (destroyIface (.tap kind id)).Only anyAnswer (Command.Plain id) fun _ => True := by
  simp [destroyIface, Command.Plain, Command.Proper, Iface.Of]

theorem destroysMobileIface_plain (number : Nat) (ipaddr : String) :
    (destroyMobileIface (.tap kind id) number ipaddr).Only anyAnswer (Command.Plain id)
      fun _ => True :=
  destroyMobileIface_only (by simp [Command.Plain, Command.Proper, mobileNetworkName, mobileNetmask])
    (by simp [Command.Plain, Command.Proper, Iface.TapOf]) (destroysIface_plain kind)

theorem stale_plain :
    (removeStaleTaps id mobile wifi).Only anyAnswer (Command.Plain id) fun _ => True :=
  removeStaleTaps_only (by simp [Command.Plain, Command.Proper]) destroysMobileIface_plain
    destroysIface_plain

theorem teardown_plain : (teardown id (.bridge .ethernet) (.bridge .wireless) mobile wifi).Only
    anyAnswer (Command.Plain id) fun _ => True :=
  teardown_only destroysMobileIface_plain destroysIface_plain destroyBridge_plain

theorem quiet {script : Alloc Unit} {stage : Stage} (notReady : stage ≠ .ready)
    (only : script.Only anyAnswer (Command.Plain id) fun _ => True) :
    (serving id mobile wifi).Triple (fun view => view.stage = stage) script
      fun _ view => view.stage = stage := by
  refine (Setting.Triple.keep only (stable_stage stage)
    (fun command view plain is => ⟨plain.1, fun ready => ?_⟩) ?_).weaken fun _ _ holds => holds.2
  · exact absurd (is.symm.trans ready) notReady
  · rintro command view answer after plain is ⟨-, socket, -, rfl⟩
    exact ⟨trivial, (plain.stage _ _).trans is⟩

def View.Fine (id : Int) (mobile wifi : Bool) (view : View) : Prop :=
  view.stage = .ready → view.HasAll id mobile wifi

theorem stable_fine : (serving id mobile wifi).Stable (View.Fine id mobile wifi) :=
  fun _ _ fine moved ready => (fine (moved.stage.symm.trans ready)).undisturbed moved

theorem waited_fine : (serving id mobile wifi).Triple (fun view => view.stage = .allocating)
    (expectAll [allocate id (.bridge .ethernet) (.bridge .wireless) mobile wifi,
      Script.command .post, Script.command .wait]) fun _ => View.Fine id mobile wifi := by
  have holding {next : Bool → Alloc Bool} {command : Command} (adds : command.Adds)
      (proper : command.Proper id)
      (rest : ∀ answer, (serving id mobile wifi).Triple (View.HasAll id mobile wifi)
        (next answer) fun _ => View.Fine id mobile wifi) :
      (serving id mobile wifi).Triple (View.HasAll id mobile wifi) (.call command next)
        fun _ => View.Fine id mobile wifi := by
    refine .call (fun _ => View.HasAll id mobile wifi) stable_has
      (fun view has => ⟨proper, fun _ => has.serves⟩) ?_ rest
    rintro view answer after has ⟨-, socket, -, rfl⟩
    exact has.acted adds socket
  have ended (ok : Bool) : (serving id mobile wifi).Triple (View.HasAll id mobile wifi) (done ok)
      fun _ => View.Fine id mobile wifi :=
    fun view has after moved _ => has.undisturbed moved
  refine allocate_has.bind fun allocated => ?_
  cases allocated
  · refine fun view holds after moved ready => ?_
    have is : after.stage = .allocating := stable_stage _ _ _ holds.1 moved
    rw [is] at ready
    cases ready
  refine Setting.Triple.strengthen (holding trivial trivial fun posted => ?_)
    fun view holds => holds.2 rfl
  cases posted
  · exact ended false
  · refine holding trivial trivial fun waited => ?_
    cases waited
    · exact ended false
    · exact ended true

theorem cvdallocMain_served : (serving id mobile wifi).Triple (fun view => view.stage = .allocating)
    (cvdallocMain id mobile wifi) fun _ view => view.stage ≠ .ready := by
  unfold cvdallocMain
  split
  · exact fun view is after moved ready => by
      rw [moved.stage, is] at ready
      cases ready
  refine (quiet (by decide) stale_plain).bind fun _ => ?_
  refine waited_fine.bind fun waited => ?_
  refine .call (fun _ view => view.stage = .tearingDown) stable_fine
    (fun view fine => ⟨trivial, fun ready => (fine ready).serves⟩) ?_ fun _ => ?_
  · rintro view answer after fine ⟨-, socket, -, rfl⟩
    cases state : view.stage <;> simp [View.acted, state, Stage.after]
  refine (quiet (by decide) teardown_plain).bind fun _ => ?_
  have torn {result : Unit} : (serving id mobile wifi).Triple
      (fun view => view.stage = .tearingDown) (done result) fun _ view => view.stage ≠ .ready :=
    fun view is after moved ready => by
      rw [moved.stage, is] at ready
      cases ready
  cases waited
  · exact torn
  refine .call (fun _ view => view.stage = .tearingDown) (stable_stage _)
    (fun view is => ⟨trivial, fun ready => ?_⟩) ?_ fun _ => torn
  · rw [is] at ready
    cases ready
  · rintro view answer after is ⟨-, socket, -, rfl⟩
    simp [View.acted, is, Stage.after]

end Program

section Proper

variable {id other : Int} {command : Command}

theorem Command.Proper.spares {relies : Bridge → Bool} (proper : command.Proper id)
    (apart : id ≠ other) (careful : ∀ bridge, command = .deleteIface (.bridge bridge) →
      relies bridge = false) : command.Spares (ReliedOn relies) (OwnTap other) := by
  cases command with
  | destroyGateway name gateway =>
    rintro ⟨bridge, rfl, -⟩
    exact proper
  | linkTapToBridge tap bridge =>
    rintro ⟨kind, rfl⟩
    exact apart proper.symm
  | deleteIface name =>
    constructor
    · rintro ⟨bridge, rfl, relied⟩
      rw [careful bridge rfl] at relied
      cases relied
    · rintro ⟨kind, rfl⟩
      exact apart proper.symm
  | nftConfig element add => exact proper
  | stopDnsmasq bridge => exact proper.elim
  | _ => trivial

theorem Command.Proper.touches (proper : command.Proper id) (apart : id ≠ other)
    (kind : TapKind) : command.touches ≠ some (.tap kind other) := by
  intro touched
  cases command with
  | addTapIface name | deleteIface name | addGateway name | createBridge name =>
    cases touched
    exact apart proper.symm
  | destroyGateway name =>
    cases touched
    exact apart proper.symm
  | _ => cases touched

end Proper

variable {Index : Type} [DecidableEq Index] {ids : Index → Int}

/-- Every running process is sure of what is left of its script. -/
def Host.Assured (ids : Index → Int) (host : Host Index) : Prop :=
  ∀ index run, host.process index = .running run →
    (serving (ids index) run.enableMobile run.enableWifi).Sure run.script
      (fun _ view => view.stage ≠ .ready) ⟨host.network, run.stage, run.relies⟩

omit [DecidableEq Index] in
theorem Host.Assured.ready {host : Host Index} (assured : host.Assured ids) : host.Ready ids := by
  intro index run state ready
  have sure := assured index run state
  cases script : run.script with
  | done result =>
    rw [script] at sure
    exact absurd ready (sure _ (Setting.env_refl _ _))
  | call command next =>
    rw [script] at sure
    exact sure.demand.2 ready

variable {host : Host Index}

theorem Host.Assured.set (assured : host.Assured ids) (index : Index) {process : Process}
    (fresh : ∀ run, process = .running run →
      (serving (ids index) run.enableMobile run.enableWifi).Sure run.script
        (fun _ view => view.stage ≠ .ready) ⟨host.network, run.stage, run.relies⟩) :
    (host.set index process).Assured ids := by
  intro other run state
  by_cases same : other = index
  · subst same
    exact fresh run ((Function.update_self ..).symm.trans state)
  · exact assured other run ((Function.update_of_ne same ..).symm.trans state)

theorem Host.Assured.step (distinct : Function.Injective ids) {host after : Host Index}
    {event : Index × Action} (assured : host.Assured ids) (careful : host.Careful event)
    (moved : host.step ids event = some after) : after.Assured ids := by
  obtain ⟨index, action⟩ := event
  have launched (mobile wifi : Bool) (run : Run)
      (launch : Process.running (Run.launch (ids index) mobile wifi) = .running run) :
      (serving (ids index) run.enableMobile run.enableWifi).Sure run.script
        (fun _ view => view.stage ≠ .ready) ⟨host.network, run.stage, run.relies⟩ := by
    cases launch
    exact cvdallocMain_served _ rfl
  cases step_moves moved with
  | start mobile wifi => exact assured.set _ (launched mobile wifi)
  | restart _ _ mobile wifi => exact assured.set _ (launched mobile wifi)
  | finish | kill => exact assured.set _ fun run none => by cases none
  | call run socket command next state script =>
    have own := assured index run state
    rw [script] at own
    have granted := careful command (command?_eq state script)
    intro other run' state'
    by_cases same : other = index
    · subst same
      cases (Function.update_self ..).symm.trans state'
      refine own.step ⟨?_, socket, rfl, rfl⟩
      rintro bridge rfl found
      exact granted.1 bridge rfl found
    · -- The others keep what they rely on.
      have before : host.process other = .running run' :=
        (Function.update_of_ne same ..).symm.trans state'
      have apart : ids index ≠ ids other := fun eq => same (distinct eq).symm
      have proper := own.demand.1
      refine (assured other run' before).env ⟨rfl, rfl, fun kind =>
        Command.exec_addresses socket (proper.touches apart kind), ?_⟩
      refine Command.exec_keeps socket (proper.spares apart ?_)
      rintro bridge rfl
      have relied := granted.2 bridge rfl other same
      rwa [relies, before] at relied

omit [DecidableEq Index] in
theorem Host.Start.assured {host : Host Index} (start : host.Start) : host.Assured ids := by
  intro index run state
  rw [start.2 index] at state
  cases state

theorem ready_of_careful (distinct : Function.Injective ids)
    (reached : (cvdalloc ids).Reaches Host.Careful host) : host.Ready ids :=
  Host.Assured.ready <| reached.invariant (fun _ => Host.Start.assured)
    fun _ _ _ assured careful moved => assured.step distinct careful moved

end Ika.Cvdalloc
