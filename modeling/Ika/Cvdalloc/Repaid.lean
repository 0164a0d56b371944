import Ika.Cvdalloc.Debts

/-! A process that has ended owes nothing any more. -/

set_option autoImplicit false

namespace Ika.Cvdalloc

open Scripts Script Alloc

section Allocating

variable {id : Int} {mobile wifi : Bool}

/-- The commands for what the process may bring. -/
def Command.Within (id : Int) (mobile wifi : Bool) : Command → Prop
  | addTapIface name | createBridge name => Brings id mobile wifi (.iface name)
  | nftConfig element true => Brings id mobile wifi (.element element)
  | linkTapToBridge tap name => ∃ bridge : Bridge, name = .bridge bridge ∧
      tap = .tap bridge.tapKind id ∧ Brings id mobile wifi (.iface tap)
  | bridgeInUse name => ∃ bridge : Bridge, name = .bridge bridge
  | deleteIface name => name.Of id
  | teardownStarted => False
  | _ => True

def noDnsmasq (command : Command) (answer : Bool) : Prop :=
  ∀ bridge gateway range, command = .startDnsmasq bridge gateway range → answer = false

structure Debt.Full (id : Int) (mobile wifi : Bool) (debt : Debt) : Prop where
  stage : debt.stage ≠ .tearingDown
  sound : debt.Sound id mobile wifi
  owes : ∀ resource, Brings id mobile wifi resource → debt.owes resource

theorem Debt.Full.demand {debt : Debt} {command : Command} (full : debt.Full id mobile wifi)
    (within : command.Within id mobile wifi) : debt.Demand id command := by
  cases command with
  | addTapIface name | createBridge name => exact full.owes _ within
  | nftConfig element add =>
    cases add
    · trivial
    · exact full.owes _ within
  | linkTapToBridge tap name =>
    obtain ⟨bridge, same, tapped, brings⟩ := within
    exact ⟨bridge, same, tapped, full.owes _ brings⟩
  | bridgeInUse name =>
    obtain ⟨bridge, same⟩ := within
    exact ⟨bridge, same, fun tearing => absurd tearing full.stage⟩
  | deleteIface name => exact ⟨within, fun _ _ tearing => absurd tearing full.stage⟩
  | _ => trivial

theorem full_stable : (owing id mobile wifi).Stable (Debt.Full id mobile wifi) :=
  fun _ _ full moved => ⟨fun tearing => full.stage (moved.stage.symm.trans tearing),
    full.sound.undisturbed moved, fun resource brings => moved.owes ▸ full.owes resource brings⟩

theorem Stage.after_ne {stage : Stage} {answer : Bool} {command : Command}
    (other : command ≠ .teardownStarted) (before : stage ≠ .tearingDown) :
    stage.after answer command ≠ .tearingDown := by
  cases command <;> cases stage <;> cases answer <;> simp_all [Stage.after]

theorem allocating_full {α : Type} {script : Alloc α}
    (only : script.Only noDnsmasq (Command.Within id mobile wifi) fun _ => True) :
    (owing id mobile wifi).Triple (Debt.Full id mobile wifi) script
      fun _ => Debt.Full id mobile wifi := by
  refine (Setting.Triple.keep only full_stable
    (fun command debt within full => ⟨full.sound, full.demand within⟩) ?_).weaken
    fun _ _ holds => holds.2
  rintro command debt answer after within full ⟨socket, quiet, rfl, rfl⟩
  refine ⟨quiet, Stage.after_ne ?_ full.stage, full.sound.acted (full.demand within) socket,
    fun resource brings => ⟨full.owes resource brings, fun settled => full.stage settled.1⟩⟩
  rintro rfl
  exact within

variable {kind : TapKind} {number : Nat} {ipaddr : String}

theorem destroyIface_within :
    (destroyIface (.tap kind id)).Only noDnsmasq (Command.Within id mobile wifi)
      fun _ => True := by
  simp [destroyIface, Command.Within, Iface.Of]

theorem createMobileIface_within
    (brings : number ≤ maxIfaceNameId → Brings id mobile wifi (.iface (.tap kind id)) ∧
      Brings id mobile wifi (.element (mobileNetworkName ipaddr mobileNetmask number))) :
    (createMobileIface (.tap kind id) number ipaddr).Only noDnsmasq
      (Command.Within id mobile wifi) fun _ => True :=
  createMobileIface_only (fun fits => createTap_only (brings fits).1 trivial rfl)
    (fun _ => ⟨trivial, trivial⟩) (fun fits => (brings fits).2) destroyIface_within

variable (bridge : Bridge)

theorem createEthernetIface_within
    (brings : Brings id mobile wifi (.iface (.tap bridge.tapKind id))) :
    (createEthernetIface (.tap bridge.tapKind id) (.bridge bridge)).Only noDnsmasq
      (Command.Within id mobile wifi) fun _ => True :=
  createEthernetIface_only (createTap_only brings trivial rfl) ⟨bridge, rfl, rfl, brings⟩
    destroyIface_within

theorem destroyBridge_within :
    (destroyBridge (.bridge bridge)).Only noDnsmasq (Command.Within id mobile wifi)
      fun _ => True := by
  refine ⟨⟨bridge, rfl⟩, fun inUse _ => ?_⟩
  cases inUse
  · exact ⟨trivial, fun _ _ => trivial⟩
  · trivial

theorem setupBridgeGateway_within :
    (setupBridgeGateway (.bridge bridge) ipaddr).Only noDnsmasq (Command.Within id mobile wifi)
      fun _ => True := by
  unfold setupBridgeGateway
  refine ⟨trivial, fun added _ => ?_⟩
  cases added
  · trivial
  refine ⟨trivial, fun started quiet => ?_⟩
  cases quiet _ _ _ rfl
  simp [cleanupBridgeGateway, Script.when, Command.Within]

theorem createEthernetBridgeIface_within
    (brings : Brings id mobile wifi (.iface (.bridge bridge))) :
    (createEthernetBridgeIface (.bridge bridge) ipaddr).Only noDnsmasq
      (Command.Within id mobile wifi) fun _ => True :=
  createEthernetBridgeIface_only trivial trivial brings (setupBridgeGateway_within bridge)
    (destroyBridge_within bridge)

theorem allocate_within (started : id ≠ 0) :
    (allocate id (.bridge .ethernet) (.bridge .wireless) mobile wifi).Only noDnsmasq
      (Command.Within id mobile wifi) fun _ => True :=
  allocate_only
    (fun enabled => createMobileIface_within fun fits =>
      ⟨⟨rfl, started, enabled, fun _ => fits⟩, started, fits, .inl ⟨enabled, rfl⟩⟩)
    (fun enabled => createMobileIface_within fun fits =>
      ⟨⟨rfl, started, enabled, fun _ => fits⟩, started, fits, .inr ⟨enabled, rfl⟩⟩)
    (fun enabled => ⟨createEthernetBridgeIface_within .wireless ⟨started, fun _ => enabled⟩,
      createEthernetIface_within .wireless ⟨rfl, started, enabled, by simp [Bridge.tapKind]⟩⟩)
    ⟨createEthernetBridgeIface_within .ethernet ⟨started, fun wireless => by cases wireless⟩,
      createEthernetIface_within .ethernet ⟨rfl, started, trivial, by simp [Bridge.tapKind]⟩⟩

theorem destroyMobileIface_within :
    (destroyMobileIface (.tap kind id) number ipaddr).Only noDnsmasq
      (Command.Within id mobile wifi) fun _ => True :=
  destroyMobileIface_only trivial (fun _ => trivial) destroyIface_within

theorem removeStaleTaps_within {enableMobile enableWifi : Bool} :
    (removeStaleTaps id enableMobile enableWifi).Only noDnsmasq (Command.Within id mobile wifi)
      fun _ => True :=
  removeStaleTaps_only (fun _ => trivial) (fun _ _ _ => destroyMobileIface_within)
    fun _ => destroyIface_within

end Allocating

section TearingDown

variable {id : Int} {mobile wifi : Bool} {owed : Resource → Prop}

/-- In the teardown no more than this is still owed. -/
structure Debt.Left (id : Int) (mobile wifi : Bool) (owed : Resource → Prop) (debt : Debt) :
    Prop where
  stage : debt.stage = .tearingDown
  sound : debt.Sound id mobile wifi
  owes : ∀ resource, debt.owes resource → owed resource

theorem left_stable : (owing id mobile wifi).Stable (Debt.Left id mobile wifi owed) :=
  fun _ _ left moved => ⟨moved.stage.trans left.stage, left.sound.undisturbed moved,
    fun resource brings => left.owes resource (moved.owes ▸ brings)⟩

variable {less : Resource → Prop}

theorem Debt.Left.mono {debt : Debt} (left : debt.Left id mobile wifi owed)
    (fewer : ∀ resource, owed resource → less resource) : debt.Left id mobile wifi less :=
  {left with owes := fun resource brings => fewer resource (left.owes resource brings)}

variable {α : Type} {command : Command} {next : Bool → Alloc α} {post : α → Debt → Prop}

theorem tearing_call (demand : ∀ debt : Debt, (∀ resource, debt.owes resource → owed resource) →
      debt.Demand id command)
    (rest : ∀ answer, (owing id mobile wifi).Triple (Debt.Left id mobile wifi fun resource =>
      owed resource ∧ ¬command.Settles answer resource) (next answer) post) :
    (owing id mobile wifi).Triple (Debt.Left id mobile wifi owed) (.call command next) post := by
  refine .call (fun answer => Debt.Left id mobile wifi fun resource =>
    owed resource ∧ ¬command.Settles answer resource) left_stable
    (fun debt left => ⟨left.sound, demand debt left.owes⟩) ?_ rest
  rintro debt answer after left ⟨socket, -, rfl, rfl⟩
  refine ⟨?_, left.sound.acted (demand debt left.owes) socket, fun resource brings =>
    ⟨left.owes resource brings.1, fun settled => brings.2 ⟨left.stage, settled⟩⟩⟩
  rw [Debt.acted, left.stage]
  cases command <;> rfl

theorem tearing_done (result : α) :
    (owing id mobile wifi).Triple (Debt.Left id mobile wifi owed) (done result)
      fun _ => Debt.Left id mobile wifi owed :=
  fun _ left after moved => left_stable _ after left moved

theorem destroyIface_left (kind : TapKind) :
    (owing id mobile wifi).Triple (Debt.Left id mobile wifi owed) (destroyIface (.tap kind id))
      fun _ => Debt.Left id mobile wifi fun resource =>
        owed resource ∧ resource ≠ .iface (.tap kind id) := by
  refine tearing_call (fun _ _ => trivial) fun down => ?_
  refine tearing_call (fun _ _ => ⟨rfl, fun bridge same => by cases same⟩) fun deleted => ?_
  refine (tearing_done _).weaken fun _ debt left => left.mono fun resource holds => ?_
  refine ⟨holds.1.1, ?_⟩
  rintro rfl
  exact holds.2 rfl

theorem destroyMobileIface_left (kind : TapKind) (number : Nat) (ipaddr : String) :
    (owing id mobile wifi).Triple (Debt.Left id mobile wifi owed)
      (destroyMobileIface (.tap kind id) number ipaddr)
      fun _ => Debt.Left id mobile wifi fun resource => owed resource ∧
        (number ≤ maxIfaceNameId → resource ≠ .iface (.tap kind id) ∧
          resource ≠ .element (mobileNetworkName ipaddr mobileNetmask number)) := by
  unfold destroyMobileIface
  split
  · rename_i above
    refine (tearing_done _).weaken fun _ debt left => left.mono fun resource holds =>
      ⟨holds, fun fits => absurd fits (Nat.not_le_of_lt above)⟩
  refine tearing_call (fun _ _ => trivial) fun configured => ?_
  refine tearing_call (fun _ _ => trivial) fun destroyed => ?_
  refine (destroyIface_left kind).weaken fun _ debt left => left.mono fun resource holds => ?_
  refine ⟨holds.1.1.1, fun _ => ⟨holds.2, ?_⟩⟩
  rintro rfl
  exact holds.1.1.2 rfl

theorem destroyBridge_left (bridge : Bridge) (gone : ¬owed (.iface (.tap bridge.tapKind id))) :
    (owing id mobile wifi).Triple (Debt.Left id mobile wifi owed) (destroyBridge (.bridge bridge))
      fun _ => Debt.Left id mobile wifi fun resource =>
        owed resource ∧ resource ≠ .iface (.bridge bridge) := by
  refine tearing_call (fun debt owes => ⟨bridge, rfl, fun _ tap => gone (owes _ tap)⟩)
    fun inUse => ?_
  cases inUse
  · refine tearing_call (fun debt owes => ⟨trivial, fun other same _ tap => ?_⟩) fun deleted => ?_
    · cases same
      exact gone (owes _ tap).1
    · refine (tearing_done _).weaken fun _ debt left => left.mono fun resource holds => ?_
      refine ⟨holds.1.1, ?_⟩
      rintro rfl
      exact holds.2 rfl
  · refine (tearing_done _).weaken fun _ debt left => left.mono fun resource holds => ?_
    refine ⟨holds.1, ?_⟩
    rintro rfl
    exact holds.2 ⟨rfl, rfl⟩

theorem when_left {cond : Bool} {script : Alloc Unit}
    (off : cond = false → ∀ resource, owed resource → less resource)
    (on : cond = true → (owing id mobile wifi).Triple (Debt.Left id mobile wifi owed) script
      fun _ => Debt.Left id mobile wifi less) :
    (owing id mobile wifi).Triple (Debt.Left id mobile wifi owed) (Script.when cond script)
      fun _ => Debt.Left id mobile wifi less := by
  cases cond
  · exact (tearing_done ()).weaken fun _ debt left => left.mono (off rfl)
  · exact on rfl

end TearingDown

section Program

variable {id : Int} {mobile wifi : Bool}

theorem teardown_left : (owing id mobile wifi).Triple
    (Debt.Left id mobile wifi (Brings id mobile wifi))
    (teardown id (.bridge .ethernet) (.bridge .wireless) mobile wifi)
    fun _ => Debt.Left id mobile wifi fun _ => False := by
  have mobilePart : (owing id mobile wifi).Triple
      (Debt.Left id mobile wifi (Brings id mobile wifi))
      (Script.when mobile do
        let _ ← destroyMobileIface (.tap .mtap id) (toUint16 id) mobileIpPrefix)
      fun _ => Debt.Left id mobile wifi (Brings id false wifi) := by
    refine when_left (fun off resource brings => off ▸ brings) fun on => ?_
    refine (destroyMobileIface_left .mtap _ _).bind fun _ => (tearing_done ()).weaken
      fun _ debt left => left.mono fun resource owed => ?_
    obtain ⟨brings, gone⟩ := owed
    cases resource with
    | iface name =>
      cases name with
      | tap kind other =>
        obtain ⟨rfl, started, enabled, fits⟩ := brings
        refine ⟨rfl, started, ?_, fits⟩
        cases kind with
        | mtap => exact absurd rfl (gone (fits (.inl rfl))).1
        | wtap | wifiap | etap => exact enabled
      | bridge bridge => exact brings
    | element element =>
      obtain ⟨started, fits, ⟨-, rfl⟩ | wireless⟩ := brings
      · exact absurd rfl (gone fits).2
      · exact ⟨started, fits, .inr wireless⟩
  have wirelessPart : (owing id mobile wifi).Triple
      (Debt.Left id mobile wifi (Brings id false wifi))
      (Script.when wifi do
        let _ ← destroyEthernetIface (.tap .wtap id)
        let _ ← destroyMobileIface (.tap .wifiap id) (toUint16 id) wirelessApIpPrefix
        let _ ← destroyBridge (.bridge .wireless))
      fun _ => Debt.Left id mobile wifi (Brings id false false) := by
    refine when_left (fun off resource brings => off ▸ brings) fun on => ?_
    refine (destroyIface_left .wtap).bind fun _ => ?_
    refine (destroyMobileIface_left .wifiap _ _).bind fun _ => ?_
    refine (destroyBridge_left .wireless fun owed => owed.1.2 rfl).bind fun _ =>
      (tearing_done ()).weaken fun _ debt left => left.mono fun resource owed => ?_
    obtain ⟨⟨⟨brings, tap⟩, gone⟩, bridge⟩ := owed
    cases resource with
    | iface name =>
      cases name with
      | tap kind other =>
        obtain ⟨rfl, started, enabled, fits⟩ := brings
        refine ⟨rfl, started, ?_, fits⟩
        cases kind with
        | wtap => exact absurd rfl tap
        | wifiap => exact absurd rfl (gone (fits (.inr rfl))).1
        | mtap | etap => exact enabled
      | bridge other =>
        refine ⟨brings.1, ?_⟩
        rintro rfl
        exact absurd rfl bridge
    | element element =>
      obtain ⟨started, fits, ⟨never, -⟩ | ⟨-, rfl⟩⟩ := brings
      · cases never
      · exact absurd rfl (gone fits).2
  refine mobilePart.bind fun _ => wirelessPart.bind fun _ => ?_
  refine (destroyIface_left .etap).bind fun _ => ?_
  refine (destroyBridge_left .ethernet fun owed => owed.2 rfl).bind fun _ =>
    (tearing_done ()).weaken fun _ debt left => left.mono fun resource owed => ?_
  obtain ⟨⟨brings, tap⟩, bridge⟩ := owed
  cases resource with
  | iface name =>
    cases name with
    | tap kind other =>
      obtain ⟨rfl, -, enabled, -⟩ := brings
      cases kind with
      | etap => exact tap rfl
      | mtap | wtap | wifiap => cases enabled
    | bridge other =>
      cases other with
      | ethernet => exact bridge rfl
      | wireless => cases brings.2 rfl
  | element element =>
    obtain ⟨-, -, ⟨never, -⟩ | ⟨never, -⟩⟩ := brings
    · cases never
    · cases never

def Debt.Clear (id : Int) (mobile wifi : Bool) (debt : Debt) : Prop :=
  debt.Sound id mobile wifi ∧ ∀ resource, ¬debt.owes resource

theorem cvdallocMain_owing : (owing id mobile wifi).Triple (Debt.Full id mobile wifi)
    (cvdallocMain id mobile wifi) fun _ => Debt.Clear id mobile wifi := by
  unfold cvdallocMain
  split
  · rename_i idle
    refine fun debt full after moved => ⟨full.sound.undisturbed moved, fun resource owed => ?_⟩
    have brings := full.sound.brought resource (moved.owes ▸ owed)
    cases resource with
    | iface name => cases name with
      | tap kind other => exact brings.2.1 idle
      | bridge bridge => exact brings.1 idle
    | element element => exact brings.1 idle
  rename_i started
  refine (allocating_full removeStaleTaps_within).bind fun _ => ?_
  refine (allocating_full (Only.expectAll fun script mem => ?_)).bind fun waited => ?_
  · simp only [List.mem_cons, List.not_mem_nil, or_false] at mem
    rcases mem with rfl | rfl | rfl
    · exact allocate_within started
    · exact ⟨trivial, fun _ _ => trivial⟩
    · exact ⟨trivial, fun _ _ => trivial⟩
  refine .call (fun _ => Debt.Left id mobile wifi (Brings id mobile wifi)) full_stable
    (fun debt full => ⟨full.sound, trivial⟩) ?_ fun _ => ?_
  · rintro debt answer after full ⟨socket, -, -, rfl⟩
    have sound := full.sound.acted (show debt.Demand id .teardownStarted from trivial) socket
    refine ⟨?_, sound, sound.brought⟩
    cases stage : debt.stage <;> simp [Debt.acted, stage, Stage.after]
  refine teardown_left.bind fun _ => ?_
  have ended {result : Unit} {owed : Resource → Prop} (none : ∀ resource, ¬owed resource) :
      (owing id mobile wifi).Triple (Debt.Left id mobile wifi owed) (done result)
        fun _ => Debt.Clear id mobile wifi :=
    (tearing_done result).weaken fun _ debt left =>
      ⟨left.sound, fun resource owes => none resource (left.owes resource owes)⟩
  cases waited
  · exact ended fun _ never => never
  · exact tearing_call (fun _ _ => trivial) fun _ => ended fun _ never => never.1

end Program

end Ika.Cvdalloc
