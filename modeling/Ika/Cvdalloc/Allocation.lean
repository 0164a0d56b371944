import Ika.Cvdalloc.Readiness

/-! The functions of the allocation, each with what the process has after it. -/

set_option autoImplicit false

namespace Ika.Cvdalloc

open Scripts Script Alloc Function

variable {id : Int} {mobile wifi : Bool} {α : Type}

def Command.Plain (id : Int) (command : Command) : Prop :=
  command.Proper id ∧ command ≠ .post ∧ command ≠ .teardownStarted

abbrev anyAnswer : Command → Bool → Prop := fun _ _ => True

theorem Command.Plain.stage {command : Command} (plain : command.Plain id) (answer : Bool)
    (stage : Stage) : stage.after answer command = stage := by
  cases command with
  | post => exact absurd rfl plain.2.1
  | teardownStarted => exact absurd rfl plain.2.2
  | _ => cases stage <;> rfl

section Stability

variable {taps : TapKind → Prop} {setUp joined : Bridge → Prop}

theorem stable_stage (stage : Stage) :
    (serving id mobile wifi).Stable fun view => view.stage = stage :=
  fun _ _ is moved => moved.stage.trans is

theorem stable_has : (serving id mobile wifi).Stable (View.Has id taps setUp joined) :=
  fun _ _ has moved => has.undisturbed moved

theorem stable_making {bridge : Bridge} {gateway running : Prop} :
    (serving id mobile wifi).Stable (View.Making bridge gateway running) :=
  fun _ _ making moved => making.undisturbed moved

theorem stable_fresh (kind : TapKind) : (serving id mobile wifi).Stable
    fun view => view.network.addresses (.tap kind id) = some [] :=
  fun _ _ fresh moved => (moved.taps kind).trans fresh

end Stability

section Rules

variable {pre fine : View → Prop} {mid : Bool → View → Prop} {post : α → View → Prop}
  {command : Command} {next : Bool → Alloc α}

theorem allocating_call (mid : Bool → View → Prop) (plain : command.Plain id)
    (stable : (serving id mobile wifi).Stable pre)
    (act : ∀ view socket, pre view → view.FindsSetUp command →
      mid (command.exec socket view.network).1 (view.acted socket command))
    (rest : ∀ answer, (serving id mobile wifi).Triple
      (fun view => view.stage = .allocating ∧ mid answer view) (next answer) post) :
    (serving id mobile wifi).Triple (fun view => view.stage = .allocating ∧ pre view)
      (.call command next) post := by
  refine .call (fun answer view => view.stage = .allocating ∧ mid answer view)
    ((stable_stage _).and stable) (fun view holds => ⟨plain.1, fun ready => ?_⟩) ?_ rest
  · rw [holds.1] at ready
    cases ready
  · rintro view answer after ⟨allocating, holds⟩ ⟨found, socket, rfl, rfl⟩
    refine ⟨?_, act view socket holds found⟩
    exact (plain.stage _ _).trans allocating

theorem allocating_fails {script : Alloc Bool}
    (only : script.Only anyAnswer (Command.Plain id) (· = false)) :
    (serving id mobile wifi).Triple (fun view => view.stage = .allocating ∧ pre view) script
      fun ok view => view.stage = .allocating ∧ (ok = true → fine view) := by
  have kept : (serving id mobile wifi).Triple (fun view => view.stage = .allocating) script
      fun ok view => ok = false ∧ view.stage = .allocating := by
    refine .keep only (stable_stage _) (fun command view plain is => ⟨plain.1, fun ready => ?_⟩) ?_
    · rw [is] at ready
      cases ready
    · rintro command view answer after plain is ⟨-, socket, -, rfl⟩
      exact ⟨trivial, (plain.stage _ _).trans is⟩
  refine (kept.strengthen fun _ holds => holds.1).weaken fun ok view holds => ⟨holds.2, fun yes => ?_⟩
  rw [holds.1] at yes
  cases yes

theorem allocating_done (stable : (serving id mobile wifi).Stable fine) :
    (serving id mobile wifi).Triple (fun view => view.stage = .allocating ∧ fine view)
      (done true) fun ok view => view.stage = .allocating ∧ (ok = true → fine view) :=
  fun _ holds after moved =>
    ⟨stable_stage _ _ after holds.1 moved, fun _ => stable _ after holds.2 moved⟩

theorem allocating_absurd {script : Alloc α} (never : ∀ view, ¬pre view) :
    (serving id mobile wifi).Triple (fun view => view.stage = .allocating ∧ pre view) script post :=
  .absurd fun view holds => never view holds.2

end Rules

variable {taps : TapKind → Prop} {setUp joined : Bridge → Prop}

variable {kind : TapKind} {view : View} (bridge : Bridge)

theorem destroyIface_plain {rest : Alloc Bool}
    (only : rest.Only anyAnswer (Command.Plain id) (· = false)) :
    ((destroyIface (.tap kind id)).bind fun _ => rest).Only anyAnswer (Command.Plain id)
      (· = false) := by
  simp [destroyIface, Command.Plain, Command.Proper, Iface.Of, only]

theorem destroyBridge_plain :
    (destroyBridge (.bridge bridge)).Only anyAnswer (Command.Plain id) fun _ => True := by
  simp [destroyBridge, Command.Plain, Command.Proper, Iface.Of]

theorem createTap_has (kind : TapKind) :
    (serving id mobile wifi).Triple
      (fun view => view.stage = .allocating ∧ view.Has id taps setUp joined)
      (createTap (.tap kind id)) fun ok view => view.stage = .allocating ∧ (ok = true →
        view.Has id taps setUp joined ∧ view.network.addresses (.tap kind id) = some []) := by
  unfold createTap
  simp only [addTapIface, bringUpIface, bind_eq, bind_command]
  refine allocating_call (fun added view => view.Has id taps setUp joined ∧
      (added = true → view.network.addresses (.tap kind id) = some []))
    (by simp [Command.Plain, Command.Proper, Iface.Of]) stable_has
    (fun view socket has _ => ⟨has.acted (by trivial) socket, addTapIface_fresh⟩) fun added => ?_
  cases added
  · exact allocating_fails rfl
  refine allocating_call (fun _ view => view.Has id taps setUp joined ∧
      view.network.addresses (.tap kind id) = some [])
    (by simp [Command.Plain, Command.Proper]) (stable_has.and (stable_fresh kind).imp)
    (fun view socket holds _ => ⟨holds.1.acted (by trivial) socket, ?_⟩) fun up => ?_
  · exact (Command.exec_addresses socket (by simp [Command.touches])).trans (holds.2 rfl)
  cases up
  · exact allocating_fails ⟨by simp [Command.Plain, Command.Proper, Iface.Of], fun _ _ => rfl⟩
  · exact allocating_done (stable_has.and (stable_fresh kind))

def WithTap (taps : TapKind → Prop) (kind other : TapKind) : Prop := taps other ∨ other = kind

def WithBridge (bridges : Bridge → Prop) (bridge other : Bridge) : Prop :=
  bridges other ∨ other = bridge

section

variable (has : view.Has id taps setUp joined)
include has

theorem View.Has.withTap
    (there : view.network.Present (.tap kind id)) : view.Has id (WithTap taps kind) setUp joined :=
  {has with taps := fun other counted => counted.elim (has.taps other) fun same => same ▸ there}

theorem View.Has.withSetUp {bridge : Bridge}
    (relied : view.relies bridge) (there : view.network.SetUp bridge) :
    view.Has id taps (WithBridge setUp bridge) joined :=
  {has with setUp := fun other counted =>
      counted.elim (has.setUp other) fun same => same ▸ ⟨relied, there⟩}

theorem View.Has.withJoined {bridge : Bridge}
    (relied : view.relies bridge) (there : view.network.Joined id bridge) :
    view.Has id taps setUp (WithBridge joined bridge) :=
  {has with joined := fun other counted =>
      counted.elim (has.joined other) fun same => same ▸ ⟨relied, there⟩}

end

theorem createMobileIface_has (kind : TapKind) (number : Nat) (ipaddr : String) :
    (serving id mobile wifi).Triple
      (fun view => view.stage = .allocating ∧ view.Has id taps setUp joined)
      (createMobileIface (.tap kind id) number ipaddr)
      fun ok view => view.stage = .allocating ∧
        (ok = true → view.Has id (WithTap taps kind) setUp joined) := by
  unfold createMobileIface
  split
  · exact allocating_fails rfl
  refine (createTap_has kind).bind fun created => ?_
  cases created
  · exact allocating_fails rfl
  refine (allocating_call
    (fun added view => added = true ∧ view.Has id (WithTap taps kind) setUp joined)
    (by simp [Command.Plain, Command.Proper, Iface.Of]) (stable_has.and (stable_fresh kind))
    (fun view socket holds _ => ?_) fun added => ?_).strengthen
    fun view holds => ⟨holds.1, holds.2 rfl⟩
  · have there : view.network.Present (.tap kind id) := by
      rw [Network.present_iff, holds.2]
      rfl
    exact ⟨addGateway_fresh holds.2, (holds.1.withTap there).acted (by trivial) socket⟩
  cases added
  · exact allocating_absurd fun view never => by cases never.1
  refine allocating_call (fun added view => added = true ∧
      view.Has id (WithTap taps kind) setUp joined)
    (by simp [Command.Plain, Command.Proper]) (stable_has.imp_left)
    (fun view socket holds _ => ⟨rfl, holds.2.acted (by trivial) socket⟩) fun added => ?_
  cases added
  · exact allocating_absurd fun view never => by cases never.1
  · exact (allocating_done stable_has).strengthen fun view holds => ⟨holds.1, holds.2.2⟩

theorem setupBridgeGateway_has :
    (serving id mobile wifi).Triple
      (fun view => view.stage = .allocating ∧
        view.Has id taps setUp joined ∧ view.Making bridge False False)
      (setupBridgeGateway (.bridge bridge) bridge.ipPrefix)
      fun ok view => view.stage = .allocating ∧
        (ok = true → view.Has id taps (WithBridge setUp bridge) joined) := by
  unfold setupBridgeGateway
  refine allocating_call (fun added view => view.Has id taps setUp joined ∧
      (added = true → view.Making bridge True False))
    (by simp [Command.Plain, Command.Proper, Iface.Of]) (stable_has.and stable_making)
    (fun view socket holds _ => ⟨holds.1.acted (by trivial) socket, fun added => ?_⟩)
    fun added => ?_
  · obtain ⟨link, found, mem⟩ := addGateway_adds added
    exact ⟨holds.2.relied, ⟨link, found, fun _ => mem⟩, False.elim⟩
  cases added
  · exact allocating_fails rfl
  -- The bridge has its address, so dnsmasq starts.
  refine allocating_call (fun started view => started = true ∧
      view.Has id taps setUp joined ∧ view.Making bridge True True)
    (by simp [Command.Plain, Command.Proper]) (stable_has.and stable_making.imp)
    (fun view socket holds _ => ?_) fun started => ?_
  · have making := holds.2 rfl
    obtain ⟨link, found, gateway⟩ := making.link
    have listens := startDnsmasq_listens ⟨link, found, gateway trivial⟩
    refine ⟨listens.1, holds.1.acted (by trivial) socket, ?_⟩
    exact ⟨making.relied, (making.acted (by trivial) socket).link, fun _ => listens.2⟩
  cases started
  · exact allocating_absurd fun view never => by cases never.1
  refine allocating_call (fun added view => added = true ∧
      view.Has id taps (WithBridge setUp bridge) joined)
    (by simp [Command.Plain, Command.Proper]) (stable_has.and stable_making).imp_left
    (fun view socket holds _ => ⟨rfl, ?_⟩) fun added => ?_
  · obtain ⟨-, has, making⟩ := holds
    obtain ⟨link, found, gateway⟩ := making.link
    refine (has.acted (by trivial) socket).withSetUp making.relied
      ⟨⟨link, found, gateway trivial⟩, making.dnsmasq trivial, ?_⟩
    exact update_self ..
  cases added
  · exact allocating_absurd fun view never => by cases never.1
  · exact (allocating_done stable_has).strengthen fun view holds => ⟨holds.1, holds.2.2⟩

theorem createEthernetBridgeIface_has :
    (serving id mobile wifi).Triple
      (fun view => view.stage = .allocating ∧ view.Has id taps setUp joined)
      (createEthernetBridgeIface (.bridge bridge) bridge.ipPrefix)
      fun ok view => view.stage = .allocating ∧
        (ok = true → view.Has id taps (WithBridge setUp bridge) joined) := by
  unfold createEthernetBridgeIface
  refine allocating_call (fun found view => view.Has id taps setUp joined ∧
      (found = true → view.Has id taps (WithBridge setUp bridge) joined))
    (by simp [Command.Plain, Command.Proper]) stable_has
    (fun view socket has careful => ⟨has.acted (by trivial) socket, fun found => ?_⟩)
    fun found => ?_
  · -- The bridge that is found is taken to be set up.
    refine (has.acted (by trivial) socket).withSetUp ?_ (careful bridge rfl found)
    show Function.update view.relies bridge _ bridge = true
    rw [update_self]
    exact Bool.or_eq_true_iff.mpr (.inr found)
  cases found
  case true =>
    exact allocating_call (fun _ => View.Has id taps (WithBridge setUp bridge) joined)
      (by simp [Command.Plain, Command.Proper]) (stable_has.and stable_has.imp)
      (fun view socket holds _ => (holds.2 rfl).acted (by trivial) socket)
      fun up => fun view holds after moved =>
        ⟨stable_stage _ _ after holds.1 moved, fun _ => stable_has _ after holds.2 moved⟩
  refine allocating_call (fun created view => view.Has id taps setUp joined ∧
      (created = true → view.Making bridge False False))
    (by simp [Command.Plain, Command.Proper, Iface.Of]) (stable_has.and stable_has.imp)
    (fun view socket holds _ => ⟨holds.1.acted (by trivial) socket, fun created => ?_⟩)
    fun created => ?_
  · refine ⟨?_, ?_, False.elim⟩
    · show Function.update view.relies bridge _ bridge = true
      rw [update_self]
      exact Bool.or_eq_true_iff.mpr (.inr created)
    · have free : (view.network.links (.bridge bridge)).isNone = true := by
        by_contra taken
        simp [Command.exec, Network.createBridge, taken] at created
      simp [View.acted, Command.exec, Network.createBridge, free, Network.withLink]
  cases created
  · exact allocating_fails rfl
  refine allocating_call (fun _ view => view.Has id taps setUp joined ∧
      view.Making bridge False False)
    (by simp [Command.Plain, Command.Proper]) (stable_has.and stable_making.imp)
    (fun view socket holds _ => ⟨holds.1.acted (by trivial) socket,
      (holds.2 rfl).acted (by trivial) socket⟩) fun up => ?_
  cases up
  · exact allocating_fails ((destroyBridge_plain bridge).bind fun _ _ => rfl)
  refine (setupBridgeGateway_has bridge).bind fun ready => ?_
  cases ready
  · exact allocating_fails ((destroyBridge_plain bridge).bind fun _ _ => rfl)
  · exact (allocating_done stable_has).strengthen fun view holds => ⟨holds.1, holds.2 rfl⟩

theorem View.Has.acted_linkTapToBridge (has : view.Has id taps setUp joined) (socket : Bool) :
    (view.acted socket (.linkTapToBridge (.tap bridge.tapKind id) (.bridge bridge))).Has id taps
      setUp fun other => joined other ∧ other ≠ bridge := by
  have kept : Network.Keeps (fun _ => True) (· ≠ .tap bridge.tapKind id) view.network
      (view.acted socket (.linkTapToBridge (.tap bridge.tapKind id) (.bridge bridge))).network :=
    Command.exec_keeps socket (by simp [Command.Spares])
  refine ⟨fun kind counted => kept.present trivial (has.taps kind counted),
    fun other counted => ?_, fun other counted => ?_⟩
  · obtain ⟨relied, ready⟩ := has.setUp other counted
    exact ⟨relied, kept.setUp trivial ready⟩
  · obtain ⟨relied, member⟩ := has.joined other counted.1
    refine ⟨relied, kept.joined trivial ?_ member⟩
    cases bridge <;> cases other <;> simp_all [Bridge.tapKind]

theorem createEthernetIface_has (ready : setUp bridge) :
    (serving id mobile wifi).Triple
      (fun view => view.stage = .allocating ∧ view.Has id taps setUp joined)
      (createEthernetIface (.tap bridge.tapKind id) (.bridge bridge))
      fun ok view => view.stage = .allocating ∧ (ok = true →
        view.Has id (WithTap taps bridge.tapKind) setUp (WithBridge joined bridge)) := by
  unfold createEthernetIface
  refine (createTap_has bridge.tapKind).bind fun created => ?_
  cases created
  · exact allocating_fails rfl
  refine (allocating_call
    (fun linked view => linked = true →
      view.Has id (WithTap taps bridge.tapKind) setUp (WithBridge joined bridge))
    (by simp [Command.Plain, Command.Proper, Iface.TapOf])
    (stable_has : (serving id mobile wifi).Stable
      (View.Has id (WithTap taps bridge.tapKind) setUp joined))
    (fun view socket has _ linked => ?_) fun linked => ?_).strengthen fun view holds => ?_
  · have relied := (has.setUp bridge ready).1
    refine ((has.acted_linkTapToBridge bridge socket).withJoined relied
      (linkTapToBridge_joins linked)).mono (fun _ counted => counted) (fun _ counted => counted)
      fun other counted => ?_
    by_cases same : other = bridge
    · exact .inr same
    · exact .inl ⟨counted.resolve_right same, same⟩
  · cases linked
    · exact allocating_fails (destroyIface_plain rfl)
    · exact (allocating_done stable_has).strengthen fun view holds => ⟨holds.1, holds.2 rfl⟩
  · obtain ⟨allocating, both⟩ := holds
    obtain ⟨has, fresh⟩ := both rfl
    refine ⟨allocating, has.withTap ?_⟩
    rw [Network.present_iff, fresh]
    rfl

end Ika.Cvdalloc
