import Ika.Foundation.Scripts
import Mathlib.Algebra.Order.Ring.Int

/-!
The host's network and the commands of `alloc_iproute2.cpp`.

The calls to the firewall do nothing and are left out, as are the nft table, set, chain and rule
that hold the elements of `nat_sources`.
-/

set_option autoImplicit false

namespace Ika.Cvdalloc

open Function

inductive Bridge where
  | ethernet
  | wireless
  deriving DecidableEq, Repr

inductive TapKind where
  | mtap
  | wtap
  | wifiap
  | etap
  deriving DecidableEq, Repr

def TapKind.name : TapKind → String
  | mtap => "mtap"
  | wtap => "wtap"
  | wifiap => "wifiap"
  | etap => "etap"

inductive Iface where
  | tap (kind : TapKind) (id : Int)
  | bridge (bridge : Bridge)
  deriving DecidableEq, Repr

/-- `CvdallocInterfaceName`, and the names of the two bridges. -/
def Iface.name : Iface → String
  | tap kind id => s!"cvd-pi-{kind.name}{id}"
  | bridge .ethernet => "cvd-pi-ebr"
  | bridge .wireless => "cvd-pi-wbr"

structure Address where
  ipaddr : String
  host : Int
  deriving DecidableEq, Repr

structure Subnet where
  address : Address
  netmask : Nat
  deriving DecidableEq, Repr

structure Link where
  up : Bool := false
  addresses : List Subnet := []
  /-- The interfaces that have this one as their master. -/
  members : List Iface := []

structure Network where
  links : Iface → Option Link
  /-- How many dnsmasq processes run for a bridge. -/
  dnsmasq : Iface → Nat
  natSources : Subnet → Bool

namespace Network

def empty : Network := ⟨fun _ => none, fun _ => 0, fun _ => false⟩

def withLink (network : Network) (name : Iface) (link : Option Link) : Network :=
  {network with links := update network.links name link}

def linksWithout (network : Network) (name : Iface) (other : Iface) : Option Link :=
  (network.links other).map fun link =>
    {link with members := link.members.filter (decide <| · ≠ name)}

def ifNameSize : Nat := 16

def ifaceExists (network : Network) (name : Iface) : Bool := (network.links name).isSome

def addTapIface (network : Network) (name : Iface) : Bool × Network :=
  if (network.links name).isNone ∧ name.name.utf8ByteSize < ifNameSize then
    (true, network.withLink name (some {}))
  else (false, network)

def setUp (up : Bool) (network : Network) (name : Iface) : Bool × Network :=
  match network.links name with
  | none => (false, network)
  | some link => (true, network.withLink name (some {link with up}))

def shutdownIface : Network → Iface → Bool × Network := setUp false

def bringUpIface : Network → Iface → Bool × Network := setUp true

def addGateway (network : Network) (name : Iface) (gateway : Subnet) : Bool × Network :=
  match network.links name with
  | none => (false, network)
  | some link =>
    if gateway ∈ link.addresses then (false, network)
    else (true, network.withLink name (some {link with addresses := gateway :: link.addresses}))

def destroyGateway (network : Network) (name : Iface) (gateway : Subnet) : Bool × Network :=
  match network.links name with
  | none => (false, network)
  | some link =>
    if gateway ∈ link.addresses then
      (true, network.withLink name
        (some {link with addresses := link.addresses.filter (decide <| · ≠ gateway)}))
    else (false, network)

/-- An interface has one master at a time. -/
def linkTapToBridge (network : Network) (tap bridge : Iface) : Bool × Network :=
  match network.links tap, network.linksWithout tap bridge with
  | some _, some link =>
    let linked := some {link with members := tap :: link.members}
    (true, {network with links := update (network.linksWithout tap) bridge linked})
  | _, _ => (false, network)

/-- Deleting an interface takes its addresses with it and parts it from its master and members. -/
def deleteIface (network : Network) (name : Iface) : Bool × Network :=
  if (network.links name).isSome then
    (true, {network with links := update (network.linksWithout name) name none})
  else (false, network)

def bridgeInUse (network : Network) (name : Iface) : Bool :=
  match network.links name with
  | none => false
  | some link => !link.members.isEmpty

def createBridge (network : Network) (name : Iface) : Bool × Network :=
  if (network.links name).isNone then (true, network.withLink name (some {}))
  else (false, network)

/-- Adding an element that is there succeeds, deleting one that is not there fails. -/
def nftConfig (network : Network) (element : Subnet) (add : Bool) : Bool × Network :=
  (add || network.natSources element,
    {network with natSources := update network.natSources element add})

/-- dnsmasq can only listen on an address that the bridge has. -/
def startDnsmasq (network : Network) (bridge : Iface) (gateway : Address) : Bool × Network :=
  if gateway ∈ ((network.links bridge).elim [] Link.addresses).map Subnet.address then
    let running := network.dnsmasq bridge + 1
    (true, {network with dnsmasq := update network.dnsmasq bridge running})
  else (false, network)

def stopDnsmasq (network : Network) (bridge : Iface) : Bool × Network :=
  let running := network.dnsmasq bridge - 1
  (true, {network with dnsmasq := update network.dnsmasq bridge running})

end Network

inductive Command where
  | ifaceExists (name : Iface)
  | addTapIface (name : Iface)
  | shutdownIface (name : Iface)
  | bringUpIface (name : Iface)
  | addGateway (name : Iface) (gateway : Subnet)
  | destroyGateway (name : Iface) (gateway : Subnet)
  | linkTapToBridge (tap bridge : Iface)
  | deleteIface (name : Iface)
  | bridgeExists (name : Iface)
  | bridgeInUse (name : Iface)
  | createBridge (name : Iface)
  | nftConfig (element : Subnet) (add : Bool)
  | startDnsmasq (bridge : Iface) (gateway : Address) (dhcpRange : Address × Address)
  | stopDnsmasq (bridge : Iface)
  /-- The log line with which the teardown begins. -/
  | teardownStarted
  | post
  | wait
  deriving DecidableEq, Repr

/-- What a command answers and does; `socket` says whether the other end answers on the socket. -/
def Command.exec (socket : Bool) (network : Network) : Command → Bool × Network
  | ifaceExists name => (network.ifaceExists name, network)
  | addTapIface name => network.addTapIface name
  | shutdownIface name => network.shutdownIface name
  | bringUpIface name => network.bringUpIface name
  | addGateway name gateway => network.addGateway name gateway
  | destroyGateway name gateway => network.destroyGateway name gateway
  | linkTapToBridge tap bridge => network.linkTapToBridge tap bridge
  | deleteIface name => network.deleteIface name
  | bridgeExists name => (network.ifaceExists name, network)
  | bridgeInUse name => (network.bridgeInUse name, network)
  | createBridge name => network.createBridge name
  | nftConfig element add => network.nftConfig element add
  | startDnsmasq bridge gateway _ => network.startDnsmasq bridge gateway
  | stopDnsmasq bridge => network.stopDnsmasq bridge
  | teardownStarted => (true, network)
  | post => (socket, network)
  | wait => (socket, network)

/-! The functions of `alloc_utils.cpp` and `cvdalloc.cpp` as scripts of the commands they run. -/

open Scripts List

abbrev Alloc (α : Type) := Script Command α

namespace Alloc

@[simp] def ifaceExists (name : Iface) : Alloc Bool := .command (.ifaceExists name)
@[simp] def addTapIface (name : Iface) : Alloc Bool := .command (.addTapIface name)
@[simp] def shutdownIface (name : Iface) : Alloc Bool := .command (.shutdownIface name)
@[simp] def bringUpIface (name : Iface) : Alloc Bool := .command (.bringUpIface name)
@[simp] def addGateway (name : Iface) (gateway : Subnet) : Alloc Bool :=
  .command (.addGateway name gateway)
@[simp] def destroyGateway (name : Iface) (gateway : Subnet) : Alloc Bool :=
  .command (.destroyGateway name gateway)
@[simp] def linkTapToBridge (tap bridge : Iface) : Alloc Bool := .command (.linkTapToBridge tap bridge)
@[simp] def deleteIface (name : Iface) : Alloc Bool := .command (.deleteIface name)
@[simp] def bridgeExists (name : Iface) : Alloc Bool := .command (.bridgeExists name)
@[simp] def bridgeInUse (name : Iface) : Alloc Bool := .command (.bridgeInUse name)
@[simp] def createBridge (name : Iface) : Alloc Bool := .command (.createBridge name)
@[simp] def nftConfig (network : Subnet) (add : Bool) : Alloc Bool := .command (.nftConfig network add)
@[simp] def startDnsmasq (bridge : Iface) (gateway : Address) (dhcpRange : Address × Address) :
    Alloc Bool := .command (.startDnsmasq bridge gateway dhcpRange)
@[simp] def stopDnsmasq (bridge : Iface) : Alloc Bool := .command (.stopDnsmasq bridge)

end Alloc

open Alloc

def createTap (name : Iface) : Alloc Bool := do
  if !(← addTapIface name) then return false
  if !(← bringUpIface name) then
    let _ ← deleteIface name
    return false
  return true

def destroyIface (name : Iface) : Alloc Bool := do
  let _ ← shutdownIface name
  deleteIface name

def createEthernetIface (name bridgeName : Iface) : Alloc Bool := do
  if !(← createTap name) then return false
  if !(← linkTapToBridge name bridgeName) then
    let _ ← destroyIface name
    return false
  return true

def destroyEthernetIface (name : Iface) : Alloc Bool := destroyIface name

def maxIfaceNameId : Nat := 63

/-- The conversion to `uint16_t` of the callers' `int`. -/
def toUint16 (id : Int) : Nat := (id % 2 ^ 16).toNat

def mobileNetmask : Nat := 30

def mobileGatewayName (ipaddr : String) (id : Nat) : Address := ⟨ipaddr, 4 * id - 3⟩

def mobileNetworkName (ipaddr : String) (netmask id : Nat) : Subnet :=
  ⟨⟨ipaddr, 4 * id - 4⟩, netmask⟩

/-- After `AddGateway` has failed the code goes on without the interface. -/
def createMobileIface (name : Iface) (id : Nat) (ipaddr : String) : Alloc Bool := do
  if maxIfaceNameId < id then return false
  let gateway : Subnet := ⟨mobileGatewayName ipaddr id, mobileNetmask⟩
  let network := mobileNetworkName ipaddr mobileNetmask id
  if !(← createTap name) then return false
  .when (!(← addGateway name gateway)) do
    let _ ← destroyIface name
  if !(← nftConfig network true) then
    let _ ← destroyGateway name gateway
    let _ ← destroyIface name
    return false
  return true

def destroyMobileIface (name : Iface) (id : Nat) (ipaddr : String) : Alloc Bool := do
  if 63 < id then return false
  let gateway : Subnet := ⟨mobileGatewayName ipaddr id, mobileNetmask⟩
  let network := mobileNetworkName ipaddr mobileNetmask id
  let _ ← nftConfig network false
  let _ ← destroyGateway name gateway
  destroyIface name

def destroyBridge (name : Iface) : Alloc Bool := do
  if ← bridgeInUse name then return true
  deleteIface name

structure GatewayConfig where
  hasGateway : Bool := false
  hasDnsmasq : Bool := false
  hasIptable : Bool := false
  hasFirewall : Bool := false

def bridgeGateway (ipaddr : String) : Subnet := ⟨⟨ipaddr, 1⟩, 24⟩

def bridgeNetwork (ipaddr : String) : Subnet := ⟨⟨ipaddr, 0⟩, 24⟩

def cleanupBridgeGateway (name : Iface) (ipaddr : String) (config : GatewayConfig) :
    Alloc Unit := do
  .when config.hasIptable do
    let _ ← nftConfig (bridgeNetwork ipaddr) false
  .when config.hasDnsmasq do
    let _ ← stopDnsmasq name
  .when config.hasGateway do
    let _ ← destroyGateway name (bridgeGateway ipaddr)

def setupBridgeGateway (bridgeName : Iface) (ipaddr : String) : Alloc Bool := do
  if !(← addGateway bridgeName (bridgeGateway ipaddr)) then return false
  if !(← startDnsmasq bridgeName ⟨ipaddr, 1⟩ (⟨ipaddr, 2⟩, ⟨ipaddr, 255⟩)) then
    cleanupBridgeGateway bridgeName ipaddr {hasGateway := true}
    return false
  if !(← nftConfig (bridgeNetwork ipaddr) true) then
    cleanupBridgeGateway bridgeName ipaddr
      {hasGateway := true, hasDnsmasq := true, hasFirewall := true}
    return false
  return true

def createEthernetBridgeIface (name : Iface) (ipaddr : String) : Alloc Bool := do
  if ← bridgeExists name then
    bringUpIface name
  else
    if !(← createBridge name) then return false
    if !(← bringUpIface name) then
      let _ ← destroyBridge name
      return false
    if !(← setupBridgeGateway name ipaddr) then
      let _ ← destroyBridge name
      return false
    return true

def mobileIpPrefix : String := "192.168.144"
def wirelessIpPrefix : String := "192.168.160"
def wirelessApIpPrefix : String := "192.168.176"
def ethernetIpPrefix : String := "192.168.192"

def removeStaleTaps (id : Int) (enableMobile enableWifi : Bool) : Alloc Unit := do
  .when enableMobile do
    if ← ifaceExists (.tap .mtap id) then
      let _ ← destroyMobileIface (.tap .mtap id) (toUint16 id) mobileIpPrefix
  .when enableWifi do
    if ← ifaceExists (.tap .wtap id) then
      let _ ← destroyEthernetIface (.tap .wtap id)
  .when enableWifi do
    if ← ifaceExists (.tap .wifiap id) then
      let _ ← destroyMobileIface (.tap .wifiap id) (toUint16 id) wirelessApIpPrefix
  if ← ifaceExists (.tap .etap id) then
    let _ ← destroyEthernetIface (.tap .etap id)

def allocate (id : Int) (ethernetBridgeName wirelessBridgeName : Iface)
    (enableMobile enableWifi : Bool) : Alloc Bool :=
  .expectAll <|
    (if enableMobile then
      [createMobileIface (.tap .mtap id) (toUint16 id) mobileIpPrefix] else []) ++
    (if enableWifi then
      [createEthernetBridgeIface wirelessBridgeName wirelessIpPrefix,
        createEthernetIface (.tap .wtap id) wirelessBridgeName,
        createMobileIface (.tap .wifiap id) (toUint16 id) wirelessApIpPrefix] else []) ++
    [createEthernetBridgeIface ethernetBridgeName ethernetIpPrefix,
      createEthernetIface (.tap .etap id) ethernetBridgeName]

def teardown (id : Int) (ethernetBridgeName wirelessBridgeName : Iface)
    (enableMobile enableWifi : Bool) : Alloc Unit := do
  .when enableMobile do
    let _ ← destroyMobileIface (.tap .mtap id) (toUint16 id) mobileIpPrefix
  .when enableWifi do
    let _ ← destroyEthernetIface (.tap .wtap id)
    let _ ← destroyMobileIface (.tap .wifiap id) (toUint16 id) wirelessApIpPrefix
    let _ ← destroyBridge wirelessBridgeName
  let _ ← destroyEthernetIface (.tap .etap id)
  let _ ← destroyBridge ethernetBridgeName

/-- Whatever fails, the teardown is run before the end. -/
def cvdallocMain (id : Int) (enableMobile enableWifi : Bool) : Alloc Unit :=
  if id = 0 then pure () else do
    removeStaleTaps id enableMobile enableWifi
    let waited ← .expectAll
      [allocate id (.bridge .ethernet) (.bridge .wireless) enableMobile enableWifi,
        .command .post, .command .wait]
    let _ ← .command .teardownStarted
    teardown id (.bridge .ethernet) (.bridge .wireless) enableMobile enableWifi
    .when waited do
      let _ ← .command .post

section Only

variable {can : Command → Bool → Prop} {kind : Command → Prop} {id : Int} {mobile wifi : Bool}

variable {name : Iface} {number : Nat} {ipaddr : String}

theorem createTap_only (adds : kind (.addTapIface name)) (brings : kind (.bringUpIface name))
    (deletes : kind (.deleteIface name)) : (createTap name).Only can kind fun _ => True := by
  unfold createTap
  refine ⟨adds, fun added _ => ?_⟩
  cases added
  · trivial
  refine ⟨brings, fun up _ => ?_⟩
  cases up
  · exact ⟨deletes, fun _ _ => trivial⟩
  · trivial

theorem createMobileIface_only
    (creates : number ≤ maxIfaceNameId → (createTap name).Only can kind fun _ => True)
    (gateway : ∀ gateway, kind (.addGateway name gateway) ∧ kind (.destroyGateway name gateway))
    (element : number ≤ maxIfaceNameId →
      kind (.nftConfig (mobileNetworkName ipaddr mobileNetmask number) true))
    (destroys : (destroyIface name).Only can kind fun _ => True) :
    (createMobileIface name number ipaddr).Only can kind fun _ => True := by
  unfold createMobileIface
  split
  · trivial
  rename_i fits
  refine (creates (Nat.le_of_not_lt fits)).bind fun created _ => ?_
  cases created
  · trivial
  refine ⟨(gateway _).1, fun added _ => ?_⟩
  show Script.Only _ _ _ ((Script.when (!added) _).bind _)
  refine Script.Only.bind (Script.Only.when (destroys.bind fun _ _ => trivial)) fun _ _ => ?_
  refine ⟨element (Nat.le_of_not_lt fits), fun ok _ => ?_⟩
  cases ok
  · exact ⟨(gateway _).2, fun _ _ => destroys.bind fun _ _ => trivial⟩
  · trivial

theorem createEthernetIface_only {bridgeName : Iface}
    (creates : (createTap name).Only can kind fun _ => True)
    (links : kind (.linkTapToBridge name bridgeName))
    (destroys : (destroyIface name).Only can kind fun _ => True) :
    (createEthernetIface name bridgeName).Only can kind fun _ => True := by
  unfold createEthernetIface
  refine creates.bind fun created _ => ?_
  cases created
  · trivial
  refine ⟨links, fun linked _ => ?_⟩
  cases linked
  · exact destroys.bind fun _ _ => trivial
  · trivial

theorem createEthernetBridgeIface_only (looks : kind (.bridgeExists name))
    (brings : kind (.bringUpIface name)) (creates : kind (.createBridge name))
    (setsUp : (setupBridgeGateway name ipaddr).Only can kind fun _ => True)
    (destroys : (destroyBridge name).Only can kind fun _ => True) :
    (createEthernetBridgeIface name ipaddr).Only can kind fun _ => True := by
  unfold createEthernetBridgeIface
  refine ⟨looks, fun found _ => ?_⟩
  cases found
  case true => exact ⟨brings, fun _ _ => trivial⟩
  refine ⟨creates, fun created _ => ?_⟩
  cases created
  · trivial
  refine ⟨brings, fun up _ => ?_⟩
  cases up
  · exact destroys.bind fun _ _ => trivial
  refine setsUp.bind fun ready _ => ?_
  cases ready
  · exact destroys.bind fun _ _ => trivial
  · trivial

theorem allocate_only
    (mobileIface : mobile → (createMobileIface (.tap .mtap id) (toUint16 id) mobileIpPrefix).Only
      can kind fun _ => True)
    (accessPoint : wifi → (createMobileIface (.tap .wifiap id) (toUint16 id)
      wirelessApIpPrefix).Only can kind fun _ => True)
    (wireless : wifi → (createEthernetBridgeIface (.bridge .wireless) wirelessIpPrefix).Only
        can kind (fun _ => True) ∧
      (createEthernetIface (.tap .wtap id) (.bridge .wireless)).Only can kind fun _ => True)
    (ethernet : (createEthernetBridgeIface (.bridge .ethernet) ethernetIpPrefix).Only
        can kind (fun _ => True) ∧
      (createEthernetIface (.tap .etap id) (.bridge .ethernet)).Only can kind fun _ => True) :
    (allocate id (.bridge .ethernet) (.bridge .wireless) mobile wifi).Only can kind
      fun _ => True := by
  refine Script.Only.expectAll fun script mem => ?_
  simp only [mem_append, mem_ite_nil_right, mem_cons, not_mem_nil,
    or_false] at mem
  rcases mem with (⟨enabled, rfl⟩ | ⟨enabled, rfl | rfl | rfl⟩) | rfl | rfl
  · exact mobileIface enabled
  · exact (wireless enabled).1
  · exact (wireless enabled).2
  · exact accessPoint enabled
  · exact ethernet.1
  · exact ethernet.2

theorem destroyMobileIface_only
    (element : kind (.nftConfig (mobileNetworkName ipaddr mobileNetmask number) false))
    (gateway : ∀ gateway, kind (.destroyGateway name gateway))
    (destroys : (destroyIface name).Only can kind fun _ => True) :
    (destroyMobileIface name number ipaddr).Only can kind fun _ => True := by
  unfold destroyMobileIface
  split
  · trivial
  · exact ⟨element, fun _ _ => ⟨gateway _, fun _ _ => destroys⟩⟩

theorem removeStaleTaps_only (looks : ∀ name, kind (.ifaceExists name))
    (destroysMobile : ∀ tap number ipaddr,
      (destroyMobileIface (.tap tap id) number ipaddr).Only can kind fun _ => True)
    (destroys : ∀ tap, (destroyIface (.tap tap id)).Only can kind fun _ => True) :
    (removeStaleTaps id mobile wifi).Only can kind fun _ => True := by
  have found {tap : TapKind} {script : Alloc Bool} (only : script.Only can kind fun _ => True) :
      ((Script.command (.ifaceExists (.tap tap id))).bind fun there =>
        if there = true then script.bind fun _ => .done () else .done ()).Only can kind
          fun _ => True := by
    refine ⟨looks _, fun there _ => ?_⟩
    cases there
    · trivial
    · exact only.bind fun _ _ => trivial
  refine (found (destroysMobile ..)).when.bind fun _ _ => ?_
  refine (found (destroys ..)).when.bind fun _ _ => ?_
  refine (found (destroysMobile ..)).when.bind fun _ _ => ?_
  exact found (destroys ..)

theorem teardown_only (destroysMobile : ∀ tap number ipaddr,
      (destroyMobileIface (.tap tap id) number ipaddr).Only can kind fun _ => True)
    (destroys : ∀ tap, (destroyIface (.tap tap id)).Only can kind fun _ => True)
    (destroysBridge : ∀ bridge, (destroyBridge (.bridge bridge)).Only can kind fun _ => True) :
    (teardown id (.bridge .ethernet) (.bridge .wireless) mobile wifi).Only can kind
      fun _ => True := by
  refine Script.Only.bind (Script.Only.when ?_) fun _ _ => ?_
  · exact (destroysMobile ..).bind fun _ _ => trivial
  refine Script.Only.bind (Script.Only.when ?_) fun _ _ => ?_
  · refine (destroys ..).bind fun _ _ => ?_
    refine (destroysMobile ..).bind fun _ _ => ?_
    exact (destroysBridge .wireless).bind fun _ _ => trivial
  · refine (destroys ..).bind fun _ _ => ?_
    exact (destroysBridge .ethernet).bind fun _ _ => trivial

end Only

end Ika.Cvdalloc
