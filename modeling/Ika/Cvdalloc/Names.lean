import Ika.Cvdalloc.AllocUtils
import Ika.Cvdalloc.Creation

/-! The scripts are the functions on any names: a script whose commands are acted on with the names
of its interfaces and the texts of its addresses is the function of these. -/

set_option autoImplicit false

namespace Ika.Cvdalloc

open Scripts

def Address.text (address : Address) : String := address.ipaddr ++ "." ++ toString address.host

def mask (netmask : Nat) : String := "/" ++ toString netmask

def Subnet.text (subnet : Subnet) : String := subnet.address.text ++ mask subnet.netmask

/-- What is no command of `alloc_iproute2.cpp` leaves the host alone. -/
def Command.act (fails : Creation.Forward → Bool) : Command → Creation.Alloc
  | ifaceExists name | bridgeExists name => Creation.bridgeExists name.name
  | addTapIface name => Creation.addTapIface fails name.name
  | shutdownIface name => Creation.shutdownIface name.name
  | bringUpIface name => Creation.bringUpIface fails name.name
  | addGateway name gateway =>
    Creation.addGateway fails name.name gateway.address.text (mask gateway.netmask)
  | destroyGateway name gateway =>
    Creation.destroyGateway name.name gateway.address.text (mask gateway.netmask)
  | linkTapToBridge tap bridge => Creation.linkTapToBridge fails tap.name bridge.name
  | deleteIface name => Creation.deleteIface name.name
  | bridgeInUse name => Creation.bridgeInUse name.name
  | createBridge name => Creation.createBridge fails name.name
  | nftConfig element add => Creation.nftConfig fails element.text add
  | startDnsmasq bridge gateway (first, last) =>
    Creation.startDnsmasq fails bridge.name gateway.text (first.text ++ "," ++ last.text)
  | stopDnsmasq bridge => Creation.stopDnsmasq bridge.name
  | teardownStarted | post | wait => pure true

section Texts

variable (ipaddr : String) (id : UInt16)

theorem mobileGatewayName_text :
    (mobileGatewayName ipaddr id.toNat).text = Creation.mobileGatewayName ipaddr id := rfl

theorem mask_mobile : mask mobileNetmask = "/30" := rfl

theorem mask_bridge : mask 24 = "/24" := rfl

theorem mobileNetworkName_text : (mobileNetworkName ipaddr mobileNetmask id.toNat).text =
    Creation.mobileNetworkName ipaddr "/30" id := congrArg (_ ++ ·) mask_mobile

theorem bridgeGateway_text : (⟨ipaddr, 1⟩ : Address).text = Creation.bridgeGateway ipaddr :=
  String.append_assoc

theorem bridgeNetwork_text : (bridgeNetwork ipaddr).text = Creation.bridgeNetwork ipaddr := by
  unfold Subnet.text Creation.bridgeNetwork bridgeNetwork
  simp only [mask_bridge]
  exact congrArg (· ++ "/24") String.append_assoc

theorem bridgeRange_text :
    (⟨ipaddr, 2⟩ : Address).text ++ "," ++ (⟨ipaddr, 255⟩ : Address).text =
      Creation.bridgeRange ipaddr := by
  unfold Address.text Creation.bridgeRange
  simp only [String.append_assoc]
  rfl

end Texts

variable (fails : Creation.Forward → Bool) (name bridgeName : Iface) (id : UInt16)
  (ipaddr : String)

theorem createTap_act :
    (createTap name).interpret (Command.act fails) = Creation.createTap fails name.name := by
  simp [createTap, Creation.createTap, Command.act]

theorem destroyIface_act :
    (destroyIface name).interpret (Command.act fails) = Creation.destroyIface name.name := by
  simp [destroyIface, Creation.destroyIface, Command.act]

theorem createEthernetIface_act :
    (createEthernetIface name bridgeName).interpret (Command.act fails) =
      Creation.createEthernetIface fails name.name bridgeName.name := by
  simp [createEthernetIface, Creation.createEthernetIface, createTap_act, destroyIface_act,
    Command.act]

theorem createMobileIface_act :
    (createMobileIface name id.toNat ipaddr).interpret (Command.act fails) =
      Creation.createMobileIface fails name.name id ipaddr := by
  simp [createMobileIface, Creation.createMobileIface, maxIfaceNameId, Creation.kMaxIfaceNameId,
    Script.when, Script.ite_bind, createTap_act, destroyIface_act, Command.act, mask_mobile,
    mobileGatewayName_text, mobileNetworkName_text]

theorem destroyMobileIface_act :
    (destroyMobileIface name id.toNat ipaddr).interpret (Command.act fails) =
      Creation.destroyMobileIface fails name.name id ipaddr := by
  simp [destroyMobileIface, Creation.destroyMobileIface, destroyIface_act, Command.act, mask_mobile,
    mobileGatewayName_text, mobileNetworkName_text]

theorem destroyBridge_act :
    (destroyBridge name).interpret (Command.act fails) = Creation.destroyBridge name.name := by
  simp [destroyBridge, Creation.destroyBridge, Command.act]

theorem cleanupBridgeGateway_act (gateway dnsmasq iptable firewall : Bool) :
    (cleanupBridgeGateway name ipaddr ⟨gateway, dnsmasq, iptable, firewall⟩).interpret
        (Command.act fails) =
      Creation.cleanupBridgeGateway fails name.name ipaddr ⟨gateway, dnsmasq, iptable⟩ := by
  simp [cleanupBridgeGateway, Creation.cleanupBridgeGateway, Script.when, Script.ite_bind,
    Command.act, bridgeGateway, bridgeGateway_text, mask_bridge, bridgeNetwork_text]

theorem setupBridgeGateway_act :
    (setupBridgeGateway name ipaddr).interpret (Command.act fails) =
      Creation.setupBridgeGateway fails name.name ipaddr := by
  simp [setupBridgeGateway, Creation.setupBridgeGateway, cleanupBridgeGateway_act, Command.act,
    bridgeGateway, bridgeGateway_text, mask_bridge, bridgeNetwork_text, bridgeRange_text]

theorem createEthernetBridgeIface_act :
    (createEthernetBridgeIface name ipaddr).interpret (Command.act fails) =
      Creation.createEthernetBridgeIface fails name.name ipaddr := by
  simp [createEthernetBridgeIface, Creation.createEthernetBridgeIface, destroyBridge_act,
    setupBridgeGateway_act, Command.act]

end Ika.Cvdalloc
