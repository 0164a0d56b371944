import Ika.Cvdalloc.Leftovers

/-! What the processes of a host are promised together: everything that a ready process needs
stays, and nothing is left when all have ended. -/

set_option autoImplicit false

namespace Ika.Cvdalloc

open Scripts Script Function

variable {Index : Type} [DecidableEq Index] {ids : Index → Int}

def addsElements (command : Command) (answer : Bool) : Prop :=
  ∀ element, command = .nftConfig element true → answer = true

def Command.NeverStops (command : Command) : Prop := ∀ bridge, command ≠ .stopDnsmasq bridge

theorem setupBridgeGateway_neverStops (name : Iface) (ipaddr : String) :
    (setupBridgeGateway name ipaddr).Only addsElements Command.NeverStops fun _ => True := by
  unfold setupBridgeGateway
  refine ⟨by simp [Command.NeverStops], fun added _ => ?_⟩
  cases added
  · trivial
  refine ⟨by simp [Command.NeverStops], fun started _ => ?_⟩
  cases started
  · simp [cleanupBridgeGateway, Script.when, Command.NeverStops]
  refine ⟨by simp [Command.NeverStops], fun configured adds => ?_⟩
  cases adds _ rfl
  trivial

theorem cvdallocMain_neverStops (id : Int) (mobile wifi : Bool) :
    (cvdallocMain id mobile wifi).Only addsElements Command.NeverStops fun _ => True := by
  have destroys (name : Iface) :
      (destroyIface name).Only addsElements Command.NeverStops fun _ => True := by
    simp [destroyIface, Command.NeverStops]
  have destroysMobile (tap : TapKind) (number : Nat) (ipaddr : String) :
      (destroyMobileIface (.tap tap id) number ipaddr).Only addsElements Command.NeverStops
        fun _ => True :=
    destroyMobileIface_only (by simp [Command.NeverStops]) (by simp [Command.NeverStops])
      (destroys _)
  have destroysBridge (bridge : Bridge) :
      (destroyBridge (.bridge bridge)).Only addsElements Command.NeverStops fun _ => True := by
    simp [destroyBridge, Command.NeverStops]
  have creates (name : Iface) :
      (createTap name).Only addsElements Command.NeverStops fun _ => True :=
    createTap_only (by simp [Command.NeverStops]) (by simp [Command.NeverStops])
      (by simp [Command.NeverStops])
  have createsMobile (tap : TapKind) (ipaddr : String) :
      (createMobileIface (.tap tap id) (toUint16 id) ipaddr).Only addsElements Command.NeverStops
        fun _ => True :=
    createMobileIface_only (fun _ => creates _) (by simp [Command.NeverStops])
      (by simp [Command.NeverStops]) (destroys _)
  have createsEthernet (name bridgeName : Iface) :
      (createEthernetIface name bridgeName).Only addsElements Command.NeverStops fun _ => True :=
    createEthernetIface_only (creates _) (by simp [Command.NeverStops]) (destroys _)
  have createsBridge (bridge : Bridge) (ipaddr : String) :
      (createEthernetBridgeIface (.bridge bridge) ipaddr).Only addsElements Command.NeverStops
        fun _ => True :=
    createEthernetBridgeIface_only (by simp [Command.NeverStops]) (by simp [Command.NeverStops])
      (by simp [Command.NeverStops]) (setupBridgeGateway_neverStops _ _) (destroysBridge _)
  unfold cvdallocMain
  split
  · trivial
  refine (removeStaleTaps_only (by simp [Command.NeverStops]) destroysMobile fun tap =>
    destroys _).bind fun _ _ => ?_
  refine Only.bind (Only.expectAll fun script mem => ?_) fun waited _ => ?_
  · simp only [List.mem_cons, List.not_mem_nil, or_false] at mem
    rcases mem with rfl | rfl | rfl
    · exact allocate_only (fun _ => createsMobile _ _) (fun _ => createsMobile _ _)
        (fun _ => ⟨createsBridge _ _, createsEthernet _ _⟩) ⟨createsBridge _ _, createsEthernet _ _⟩
    · simp [Command.NeverStops]
    · simp [Command.NeverStops]
  refine ⟨by simp [Command.NeverStops], fun _ _ => ?_⟩
  refine (teardown_only destroysMobile (fun tap => destroys _) destroysBridge).bind fun _ _ => ?_
  exact Only.when ⟨by simp [Command.NeverStops], fun _ _ => trivial⟩

def Host.NeverStops (host : Host Index) : Prop :=
  ∀ index run, host.process index = .running run →
    run.script.Only addsElements Command.NeverStops fun _ => True

theorem Host.NeverStops.set {host : Host Index} (never : host.NeverStops) (index : Index)
    {process : Process} (fresh : ∀ run, process = .running run →
      run.script.Only addsElements Command.NeverStops fun _ => True) :
    (host.set index process).NeverStops := by
  intro other run state
  by_cases same : other = index
  · subst same
    exact fresh run ((update_self ..).symm.trans state)
  · exact never other run ((update_of_ne same ..).symm.trans state)

theorem Host.NeverStops.step {host after : Host Index} {event : Index × Action}
    (never : host.NeverStops) (moved : host.step ids event = some after) :
    after.NeverStops ∧ ∀ name, host.network.dnsmasq name ≤ after.network.dnsmasq name := by
  obtain ⟨index, action⟩ := event
  have launched (mobile wifi : Bool) (run : Run)
      (launch : Process.running (Run.launch (ids index) mobile wifi) = .running run) :
      run.script.Only addsElements Command.NeverStops fun _ => True := by
    cases launch
    exact cvdallocMain_neverStops ..
  cases step_moves moved with
  | start mobile wifi | restart _ _ mobile wifi =>
    exact ⟨never.set _ (launched mobile wifi), fun _ => Nat.le_refl _⟩
  | finish | kill => exact ⟨never.set _ (fun run none => by cases none), fun _ => Nat.le_refl _⟩
  | call run socket command next state script =>
    have only := never index run state
    rw [script] at only
    refine ⟨?_, fun name => exec_dnsmasq_mono only.1 name⟩
    refine never.set index fun run' same => ?_
    cases same
    refine only.2 _ ?_
    rintro element rfl
    rfl

theorem dnsmasq_run {host last : Host Index} (events : List (Index × Action))
    (never : host.NeverStops) (ran : (cvdalloc ids).run host events = some last) (name : Iface) :
    host.network.dnsmasq name ≤ last.network.dnsmasq name := by
  induction events generalizing host with
  | nil =>
    cases ran
    exact Nat.le_refl _
  | cons event rest ih =>
    obtain ⟨after, moved, ran⟩ := Option.bind_eq_some_iff.mp ran
    obtain ⟨still, grows⟩ := never.step moved
    exact Nat.le_trans (grows name) (ih still ran)

/-- A ready process has what it needs, and nothing is left at the end, in runs that start no
dnsmasq. -/
theorem shared_resources (distinct : Function.Injective ids) :
    (∀ host, (cvdalloc ids).Reaches Host.Careful host → host.Ready ids) ∧
    (∀ host, (cvdalloc ids).Reaches Host.Sparing host → host.Finished → host.network.Cleared) ∧
    ∀ host events last name, (cvdalloc ids).Reachable host →
      (cvdalloc ids).run host events = some last → 0 < host.network.dnsmasq name →
        ¬last.network.Cleared := by
  refine ⟨fun host reached => ready_of_careful distinct reached,
    fun host reached finished => cleared_of_sparing distinct reached finished, ?_⟩
  intro host events last name reached ran running cleared
  have never : host.NeverStops := by
    refine reached.invariant (fun host start index run state => ?_)
      fun _ _ _ never _ moved => (never.step moved).1
    rw [start.2 index] at state
    cases state
  have stays := dnsmasq_run events never ran name
  rw [cleared.dnsmasq name] at stays
  exact absurd running (Nat.not_lt.mpr stays)

def twoIds : Bool → Int
  | false => 1
  | true => 2

theorem twoIds_distinct : Function.Injective twoIds := by decide

def freshHost : Host Bool := ⟨.empty, fun _ => .idle⟩

theorem freshHost_start : freshHost.Start := ⟨rfl, fun _ => rfl⟩

def steps (index : Bool) (count : Nat) : List (Bool × Action) :=
  List.replicate count (index, .step true)

def bothReady : List (Bool × Action) :=
  (false, .start true true) :: steps false 31 ++ (true, .start true true) :: steps true 23

def afterBothReady : Host Bool :=
  ((cvdalloc twoIds).runAllowed Host.Careful freshHost bothReady).getD freshHost

def killedEarly : List (Bool × Action) :=
  (false, .start false false) :: steps false 3 ++ (false, .kill) ::
    (false, .start false false) :: steps false 15

def afterKilledEarly : Host Bool :=
  ((cvdalloc twoIds).runAllowed Host.Sparing freshHost killedEarly).getD freshHost

theorem shared_resources_two : afterBothReady.Ready twoIds ∧ afterKilledEarly.network.Cleared := by
  constructor
  · exact (shared_resources twoIds_distinct).1 _ (Transition.Machine.Reaches.getD_runAllowed
      bothReady (.start freshHost_start) (by decide +kernel))
  · refine (shared_resources twoIds_distinct).2.1 _ (Transition.Machine.Reaches.getD_runAllowed
      killedEarly (.start freshHost_start) (by decide +kernel)) fun index => ?_
    cases index <;> rfl

def foundHalfMade : List (Bool × Action) :=
  (false, .start false false) :: steps false 3 ++ (true, .start false false) :: steps true 7

def aloneToItsEnd : List (Bool × Action) := (false, .start false false) :: steps false 19

def afterFoundHalfMade : Host Bool :=
  ((cvdalloc twoIds).run freshHost foundHalfMade).getD freshHost

def afterAlone : Host Bool := ((cvdalloc twoIds).run freshHost aloneToItsEnd).getD freshHost

/-- A ready instance may have a bridge without its gateway; an instance leaves a dnsmasq behind. -/
theorem resources_lost :
    (¬∀ host, (cvdalloc twoIds).Reachable host → host.Ready twoIds) ∧
      ¬∀ host, (cvdalloc twoIds).Reachable host → host.Finished → host.network.Cleared := by
  constructor
  · intro all
    have reached : (cvdalloc twoIds).Reachable afterFoundHalfMade :=
      Transition.Machine.Reachable.getD_run foundHalfMade (.start freshHost_start)
        (by decide +kernel)
    have bare : ¬afterFoundHalfMade.network.SetUp .ethernet := by decide +kernel
    obtain ⟨run, state, ready⟩ : ∃ run, afterFoundHalfMade.process true = .running run ∧
        run.stage = .ready := ⟨_, rfl, rfl⟩
    exact bare ((all _ reached true run state ready).bridged .ethernet (by simp)).2.2
  · intro all
    have reached : (cvdalloc twoIds).Reachable afterAlone :=
      Transition.Machine.Reachable.getD_run aloneToItsEnd (.start freshHost_start)
        (by decide +kernel)
    have left : afterAlone.network.dnsmasq (.bridge .ethernet) = 1 := by decide +kernel
    have cleared := all _ reached fun index => by cases index <;> rfl
    rw [cleared.dnsmasq] at left
    cases left

end Ika.Cvdalloc
