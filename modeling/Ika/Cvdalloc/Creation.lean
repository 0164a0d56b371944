import Mathlib.Logic.Function.Basic
import Mathlib.Tactic.Tauto

/-! The functions of `alloc_utils.cpp` on any names and ids, where each step forward may fail: when
a call that creates something has created all of it, or left the host as it was. -/

set_option autoImplicit false

namespace Ika.Cvdalloc.Creation

open List Function Option Nat

/-! ## The host -/

inductive Kind where
  | tap
  | bridge
  deriving DecidableEq, Repr

structure Link where
  kind : Kind
  up : Bool := false
  addresses : List String := []
  members : List String := []

structure Dnsmasq where
  pid : Nat
  bridgeName : String
  gateway : String
  dhcpRange : String

structure Host where
  links : String → Option Link
  dnsmasq : List Dnsmasq
  pidFile : String → Option Nat
  nextPid : Nat
  natSources : String → Bool

namespace Host

variable (host : Host) (name : String)

def withLink (link : Option Link) : Host :=
  {host with links := update host.links name link}

def linksWithout (other : String) : Option Link :=
  (host.links other).map fun link =>
    {link with members := link.members.filter (decide <| · ≠ name)}

end Host

/-! ## The commands -/

/-- The steps that can fail. None of them is made twice in one call. -/
inductive Forward where
  | addTapIface
  | bringUpIface
  | addGateway
  | linkTapToBridge
  | createBridge
  | startDnsmasq
  | nftConfig
  deriving DecidableEq, Repr

abbrev Alloc := StateM Host Bool

section Commands

variable (fails : Forward → Bool) (name : String)

def addTapIface : Alloc := fun host =>
  if fails .addTapIface ∨ (host.links name).isSome then (false, host)
  else (true, host.withLink name (some {kind := .tap}))

def createBridge : Alloc := fun host =>
  if fails .createBridge ∨ (host.links name).isSome then (false, host)
  else (true, host.withLink name (some {kind := .bridge}))

def bringUpIface : Alloc := fun host =>
  match host.links name with
  | none => (false, host)
  | some link =>
    if fails .bringUpIface then (false, host)
    else (true, host.withLink name (some {link with up := true}))

def shutdownIface : Alloc := fun host =>
  match host.links name with
  | none => (false, host)
  | some link => (true, host.withLink name (some {link with up := false}))

def addGateway (gateway netmask : String) : Alloc := fun host =>
  match host.links name with
  | none => (false, host)
  | some link =>
    if fails .addGateway ∨ gateway ++ netmask ∈ link.addresses then (false, host)
    else (true, host.withLink name
      (some {link with addresses := (gateway ++ netmask) :: link.addresses}))

def destroyGateway (gateway netmask : String) : Alloc := fun host =>
  match host.links name with
  | none => (false, host)
  | some link =>
    if gateway ++ netmask ∈ link.addresses then
      (true, host.withLink name (some {link with
        addresses := link.addresses.filter (decide <| · ≠ gateway ++ netmask)}))
    else (false, host)

def linkTapToBridge (bridgeName : String) : Alloc := fun host =>
  match host.links name, host.links bridgeName with
  | some _, some bridge =>
    if fails .linkTapToBridge ∨ bridge.kind ≠ .bridge then (false, host)
    else
      let members := name :: bridge.members.filter (decide <| · ≠ name)
      (true, {host with
        links := update (host.linksWithout name) bridgeName (some {bridge with members})})
  | _, _ => (false, host)

def deleteIface : Alloc := fun host =>
  if (host.links name).isSome then
    (true, {host with links := update (host.linksWithout name) name none})
  else (false, host)

def bridgeExists : Alloc := fun host => ((host.links name).isSome, host)

def bridgeInUse : Alloc := fun host =>
  (match host.links name with
    | none => false
    | some link => !link.members.isEmpty, host)

def nftConfig (network : String) (add : Bool) : Alloc := fun host =>
  if add ∧ fails .nftConfig then (false, host)
  else (add || host.natSources network,
    {host with natSources := update host.natSources network add})

/-- The process writes its number into the file of its interface. -/
def startDnsmasq (gateway dhcpRange : String) : Alloc := fun host =>
  if fails .startDnsmasq then (false, host)
  else (true, {host with
    dnsmasq := ⟨host.nextPid, name, gateway, dhcpRange⟩ :: host.dnsmasq
    pidFile := update host.pidFile name (some host.nextPid)
    nextPid := host.nextPid + 1})

/-- Without the file it is taken to have stopped. -/
def stopDnsmasq : Alloc := fun host =>
  match host.pidFile name with
  | none => (true, host)
  | some pid =>
    if host.dnsmasq.any (·.pid = pid) then
      (true, {host with
        dnsmasq := host.dnsmasq.filter (decide <| ·.pid ≠ pid)
        pidFile := update host.pidFile name none})
    else (false, host)

end Commands

/-! ## The functions -/

section Functions

variable (fails : Forward → Bool) (name : String)

def createTap : Alloc := do
  if !(← addTapIface fails name) then return false
  if !(← bringUpIface fails name) then
    let _ ← deleteIface name
    return false
  return true

def destroyIface : Alloc := do
  let _ ← shutdownIface name
  deleteIface name

def createEthernetIface (bridgeName : String) : Alloc := do
  if !(← createTap fails name) then return false
  if !(← linkTapToBridge fails name bridgeName) then
    let _ ← destroyIface name
    return false
  return true

def destroyEthernetIface : Alloc := destroyIface name

def kMaxIfaceNameId : Nat := 63

def mobileGatewayName (ipaddr : String) (id : UInt16) : String :=
  ipaddr ++ "." ++ toString (4 * (id.toNat : Int) - 3)

def mobileNetworkName (ipaddr netmask : String) (id : UInt16) : String :=
  ipaddr ++ "." ++ toString (4 * (id.toNat : Int) - 4) ++ netmask

def createMobileIface (id : UInt16) (ipaddr : String) : Alloc := do
  if kMaxIfaceNameId < id.toNat then return false
  let netmask := "/30"
  let gateway := mobileGatewayName ipaddr id
  let network := mobileNetworkName ipaddr netmask id
  if !(← createTap fails name) then return false
  if !(← addGateway fails name gateway netmask) then
    let _ ← destroyIface name
  if !(← nftConfig fails network true) then
    let _ ← destroyGateway name gateway netmask
    let _ ← destroyIface name
    return false
  return true

def destroyMobileIface (id : UInt16) (ipaddr : String) : Alloc := do
  if 63 < id.toNat then return false
  let netmask := "/30"
  let gateway := mobileGatewayName ipaddr id
  let network := mobileNetworkName ipaddr netmask id
  let _ ← nftConfig fails network false
  let _ ← destroyGateway name gateway netmask
  destroyIface name

def destroyBridge : Alloc := do
  if ← bridgeInUse name then return true
  deleteIface name

structure GatewayConfig where
  hasGateway : Bool := false
  hasDnsmasq : Bool := false
  hasIptable : Bool := false

def bridgeGateway (ipaddr : String) : String := ipaddr ++ ".1"
def bridgeNetwork (ipaddr : String) : String := ipaddr ++ ".0" ++ "/24"
def bridgeRange (ipaddr : String) : String := ipaddr ++ ".2," ++ ipaddr ++ ".255"

def cleanupBridgeGateway (ipaddr : String) (config : GatewayConfig) : StateM Host Unit := do
  if config.hasIptable then
    let _ ← nftConfig fails (bridgeNetwork ipaddr) false
  if config.hasDnsmasq then
    let _ ← stopDnsmasq name
  if config.hasGateway then
    let _ ← destroyGateway name (bridgeGateway ipaddr) "/24"

def setupBridgeGateway (ipaddr : String) : Alloc := do
  if !(← addGateway fails name (bridgeGateway ipaddr) "/24") then return false
  if !(← startDnsmasq fails name (bridgeGateway ipaddr) (bridgeRange ipaddr)) then
    cleanupBridgeGateway fails name ipaddr {hasGateway := true}
    return false
  if !(← nftConfig fails (bridgeNetwork ipaddr) true) then
    cleanupBridgeGateway fails name ipaddr {hasGateway := true, hasDnsmasq := true}
    return false
  return true

def createEthernetBridgeIface (ipaddr : String) : Alloc := do
  if ← bridgeExists name then
    bringUpIface fails name
  else
    if !(← createBridge fails name) then return false
    if !(← bringUpIface fails name) then
      let _ ← destroyBridge name
      return false
    if !(← setupBridgeGateway fails name ipaddr) then
      let _ ← destroyBridge name
      return false
    return true

def destroyEthernetBridgeIface (ipaddr : String) : Alloc := do
  cleanupBridgeGateway fails name ipaddr
    {hasGateway := true, hasDnsmasq := true, hasIptable := true}
  destroyBridge name

end Functions

/-! ## The calls -/

inductive Call where
  | createMobileIface (name : String) (id : UInt16) (ipaddr : String)
  | destroyMobileIface (name : String) (id : UInt16) (ipaddr : String)
  | createEthernetIface (name bridgeName : String)
  | destroyEthernetIface (name : String)
  | createEthernetBridgeIface (name ipaddr : String)
  | destroyEthernetBridgeIface (name ipaddr : String)

def Call.run (fails : Forward → Bool) : Call → Alloc
  | createMobileIface name id ipaddr => Creation.createMobileIface fails name id ipaddr
  | destroyMobileIface name id ipaddr => Creation.destroyMobileIface fails name id ipaddr
  | createEthernetIface name bridgeName => Creation.createEthernetIface fails name bridgeName
  | destroyEthernetIface name => Creation.destroyEthernetIface name
  | createEthernetBridgeIface name ipaddr => Creation.createEthernetBridgeIface fails name ipaddr
  | destroyEthernetBridgeIface name ipaddr => Creation.destroyEthernetBridgeIface fails name ipaddr

structure Step where
  host : Host
  call : Call
  fails : Forward → Bool

def steps : Host → List (Call × (Forward → Bool)) → List Step
  | _, [] => []
  | host, (call, fails) :: rest => ⟨host, call, fails⟩ :: steps (call.run fails host).2 rest

def Host.Same (before after : Host) : Prop :=
  after.links = before.links ∧ after.dnsmasq = before.dnsmasq ∧
    after.natSources = before.natSources

def Host.SetUp (host : Host) (name ipaddr : String) : Prop :=
  (∃ link, host.links name = some link ∧ link.kind = .bridge ∧
    bridgeGateway ipaddr ++ "/24" ∈ link.addresses) ∧
  (∃ process ∈ host.dnsmasq, process.bridgeName = name ∧
    process.gateway = bridgeGateway ipaddr ∧ process.dhcpRange = bridgeRange ipaddr) ∧
  host.natSources (bridgeNetwork ipaddr) = true

def Host.IsUp (host : Host) (name : String) : Prop :=
  ∃ link, host.links name = some link ∧ link.up = true

def Call.Established (host : Host) : Call → Prop
  | createMobileIface name id ipaddr =>
    (∃ link, host.links name = some link ∧ link.up = true ∧
      mobileGatewayName ipaddr id ++ "/30" ∈ link.addresses) ∧
    host.natSources (mobileNetworkName ipaddr "/30" id) = true
  | createEthernetIface name bridgeName =>
    host.IsUp name ∧ ∃ bridge, host.links bridgeName = some bridge ∧ bridge.kind = .bridge ∧
      name ∈ bridge.members
  | createEthernetBridgeIface name ipaddr => host.IsUp name ∧ host.SetUp name ipaddr
  | _ => True

def Call.creates : Call → Bool
  | createMobileIface .. | createEthernetIface .. | createEthernetBridgeIface .. => true
  | _ => false

def AllOrNothing (step : Step) : Prop :=
  step.call.creates = true →
    ((step.call.run step.fails step.host).1 = true →
      step.call.Established (step.call.run step.fails step.host).2) ∧
    ((step.call.run step.fails step.host).1 = false →
      step.host.Same (step.call.run step.fails step.host).2)

/-- No mobile interface is given up for its gateway only to go on, and only a bridge is taken for
one. -/
def Met (step : Step) : Prop :=
  match step.call with
  | .createMobileIface name id _ =>
    ¬(id.toNat ≤ kMaxIfaceNameId ∧ step.host.links name = none ∧
      step.fails .addTapIface = false ∧ step.fails .bringUpIface = false ∧
      step.fails .addGateway = true ∧ step.fails .nftConfig = false)
  | .createEthernetBridgeIface name ipaddr =>
    (step.host.links name).isSome = true → step.fails .bringUpIface = false →
      step.host.SetUp name ipaddr
  | _ => True

/-! ## Hosts in which every member exists -/

structure Host.Consistent (host : Host) : Prop where
  members : ∀ {name link member}, host.links name = some link → member ∈ link.members →
    (host.links member).isSome = true
  pids : ∀ {process}, process ∈ host.dnsmasq → process.pid < host.nextPid

theorem bind_apply {Value Result : Type} (first : StateM Host Value)
    (next : Value → StateM Host Result) (host : Host) :
    (first >>= next) host = next (first host).1 (first host).2 := rfl

theorem bind_of {Value Result : Type} {first : StateM Host Value}
    {next : Value → StateM Host Result} {host after : Host} {value : Value}
    (done : first host = (value, after)) : (first >>= next) host = next value after := by
  rw [bind_apply, done]

section Undone

variable {host : Host} {name : String} {link : Link} {fails : Forward → Bool}

@[simp] theorem withLink_links_self (link : Option Link) :
    (host.withLink name link).links name = link := update_self ..

@[simp] theorem withLink_withLink (first second : Option Link) :
    (host.withLink name first).withLink name second = host.withLink name second := by
  unfold Host.withLink
  simp only [update_idem]

theorem Host.Consistent.apart (consistent : host.Consistent) (absent : host.links name = none)
    {other : String} {link : Link} (found : host.links other = some link) :
    name ∉ link.members := by
  intro listed
  have there := consistent.members found listed
  rw [absent] at there
  cases there

theorem deleteIface_added (consistent : host.Consistent) (absent : host.links name = none) :
    deleteIface name (host.withLink name (some link)) = (true, host) := by
  have links : update ((host.withLink name (some link)).linksWithout name) name none =
      host.links := by
    funext other
    by_cases same : other = name
    · rw [same, update_self, absent]
    · rw [update_of_ne same]
      unfold Host.linksWithout Host.withLink
      dsimp only
      rw [update_of_ne same]
      cases found : host.links other with
      | none => rfl
      | some link =>
        have apart := consistent.apart absent found
        have kept : link.members.filter (decide <| · ≠ name) = link.members := by
          refine filter_eq_self.mpr fun member listed => decide_eq_true ?_
          rintro rfl
          exact apart listed
        simp only [map_some, kept]
  unfold deleteIface
  rw [withLink_links_self, if_pos (isSome_some), links]
  rfl

theorem destroyIface_added (consistent : host.Consistent) (absent : host.links name = none) :
    destroyIface name (host.withLink name (some link)) = (true, host) := by
  unfold destroyIface
  rw [bind_apply]
  unfold shutdownIface
  rw [withLink_links_self]
  dsimp only
  rw [withLink_withLink, deleteIface_added consistent absent]

theorem destroyIface_absent (absent : host.links name = none) :
    destroyIface name host = (false, host) := by
  unfold destroyIface
  rw [bind_apply]
  unfold shutdownIface deleteIface
  rw [absent]
  simp [absent]

theorem destroyGateway_absent {gateway netmask : String} (absent : host.links name = none) :
    destroyGateway name gateway netmask host = (false, host) := by
  unfold destroyGateway
  rw [absent]

/-! ### What each function does -/

theorem bringUpIface_withLink :
    bringUpIface fails name (host.withLink name (some link)) =
      if fails .bringUpIface = true then (false, host.withLink name (some link))
      else (true, host.withLink name (some {link with up := true})) := by
  unfold bringUpIface
  rw [withLink_links_self]
  dsimp only
  rw [withLink_withLink]

theorem addGateway_withLink {gateway netmask : String} (fresh : link.addresses = []) :
    addGateway fails name gateway netmask (host.withLink name (some link)) =
      if fails .addGateway = true then (false, host.withLink name (some link))
      else (true, host.withLink name (some {link with addresses := [gateway ++ netmask]})) := by
  unfold addGateway
  rw [withLink_links_self]
  dsimp only
  rw [withLink_withLink, fresh]
  simp

theorem destroyGateway_withLink (gateway netmask : String) :
    ∃ answer rest, rest.members = link.members ∧
      destroyGateway name gateway netmask (host.withLink name (some link)) =
        (answer, host.withLink name (some rest)) := by
  unfold destroyGateway
  rw [withLink_links_self]
  dsimp only
  rw [withLink_withLink]
  split
  · exact ⟨_, {link with addresses := link.addresses.filter (decide <| · ≠ gateway ++ netmask)},
      rfl, rfl⟩
  · exact ⟨_, _, rfl, rfl⟩

theorem nftConfig_add {network : String} :
    nftConfig fails network true host =
      if fails .nftConfig = true then (false, host)
      else (true, {host with natSources := update host.natSources network true}) := by
  unfold nftConfig
  simp

theorem createTap_eq (consistent : host.Consistent) :
    createTap fails name host =
      if fails .addTapIface = false ∧ fails .bringUpIface = false ∧ host.links name = none then
        (true, host.withLink name (some {kind := .tap, up := true}))
      else (false, host) := by
  unfold createTap
  by_cases free : fails .addTapIface = false ∧ host.links name = none
  · obtain ⟨added, absent⟩ := free
    have tap : addTapIface fails name host = (true, host.withLink name (some {kind := .tap})) :=
      if_neg (by simp [added, absent])
    have raised := @bringUpIface_withLink host name {kind := .tap} fails
    rw [bind_of tap, if_neg (by decide)]
    cases up : fails .bringUpIface with
    | false =>
      rw [if_neg (by simp [up])] at raised
      rw [bind_of raised, if_neg (by decide), if_pos ⟨added, rfl, absent⟩]
      rfl
    | true =>
      rw [if_pos up] at raised
      rw [bind_of raised, if_pos (by decide), bind_of (deleteIface_added consistent absent),
        if_neg (by simp)]
      rfl
  · have refused : addTapIface fails name host = (false, host) := by
      refine if_pos ?_
      rw [isSome_iff_ne_none]
      by_contra neither
      simp only [not_or, Bool.not_eq_true, not_not] at neither
      exact free neither
    rw [bind_of refused, if_pos (by decide), if_neg (by tauto)]
    rfl

theorem linkTapToBridge_cases (bridgeName : String) :
    linkTapToBridge fails name bridgeName host = (false, host) ∨
      ∃ bridge, host.links bridgeName = some bridge ∧ bridge.kind = .bridge ∧
        linkTapToBridge fails name bridgeName host = (true, {host with
          links := update (host.linksWithout name) bridgeName (some {bridge with
            members := name :: bridge.members.filter (decide <| · ≠ name)})}) := by
  unfold linkTapToBridge
  split
  · rename_i bridge _ found
    split
    · exact Or.inl rfl
    · rename_i linked
      simp only [not_or, not_not] at linked
      exact Or.inr ⟨bridge, found, linked.2, rfl⟩
  · exact Or.inl rfl

section

variable (consistent : host.Consistent)
include consistent

theorem createEthernetIface_cases (bridgeName : String) :
    createEthernetIface fails name bridgeName host = (false, host) ∨
      ∃ after, createEthernetIface fails name bridgeName host = (true, after) ∧
        (Call.createEthernetIface name bridgeName).Established after := by
  have created := @createTap_eq host name fails consistent
  unfold createEthernetIface
  by_cases free : fails .addTapIface = false ∧ fails .bringUpIface = false ∧ host.links name = none
  · rw [if_pos free] at created
    rw [bind_of created, if_neg (by decide)]
    rcases @linkTapToBridge_cases (host.withLink name (some {kind := .tap, up := true})) name fails
      bridgeName with failed | ⟨bridge, found, kind, linked⟩
    · rw [bind_of failed, if_pos (by decide), bind_of (destroyIface_added consistent free.2.2)]
      exact Or.inl rfl
    · -- the new tap is no bridge, so that it is not linked to itself
      have apart : name ≠ bridgeName := by
        rintro rfl
        rw [withLink_links_self] at found
        cases found
        cases kind
      rw [bind_of linked, if_neg (by decide)]
      refine Or.inr ⟨_, rfl, ⟨{kind := .tap, up := true}, ?_, rfl⟩, _, update_self ..,
        kind, mem_cons_self⟩
      dsimp only
      rw [update_of_ne apart]
      unfold Host.linksWithout
      rw [withLink_links_self]
      rfl
  · rw [if_neg free] at created
    rw [bind_of created, if_pos (by decide)]
    exact Or.inl rfl

theorem createMobileIface_cases {id : UInt16} (ipaddr : String) (fits : id.toNat ≤ kMaxIfaceNameId)
    (tapped : fails .addTapIface = false ∧ fails .bringUpIface = false ∧ host.links name = none)
    (kept : ¬(fails .addGateway = true ∧ fails .nftConfig = false)) :
    createMobileIface fails name id ipaddr host = (false, host) ∨
      ∃ after, createMobileIface fails name id ipaddr host = (true, after) ∧
        (Call.createMobileIface name id ipaddr).Established after := by
  have created := @createTap_eq host name fails consistent
  have absent := tapped.2.2
  rw [if_pos tapped] at created
  unfold createMobileIface
  rw [if_neg (by omega)]
  dsimp only
  rw [bind_of created, if_neg (by decide)]
  have gateway := @addGateway_withLink host name {kind := .tap, up := true} fails
    (mobileGatewayName ipaddr id) "/30" rfl
  cases refused : fails .addGateway with
  | true =>
    -- the interface is gone before the element fails, and nothing more is undone
    have last : fails .nftConfig = true := by simpa [refused] using kept
    have element := @nftConfig_add host fails (mobileNetworkName ipaddr "/30" id)
    rw [if_pos last] at element
    rw [if_pos refused] at gateway
    rw [bind_of gateway, if_pos (by decide), bind_of (destroyIface_added consistent absent),
      bind_of element, if_pos (by decide), bind_of (destroyGateway_absent absent),
      bind_of (destroyIface_absent absent)]
    exact Or.inl rfl
  | false =>
    rw [if_neg (by simp [refused])] at gateway
    rw [bind_of gateway, if_neg (by decide)]
    have element := @nftConfig_add
      (host.withLink name (some ⟨.tap, true, [mobileGatewayName ipaddr id ++ "/30"], []⟩)) fails
      (mobileNetworkName ipaddr "/30" id)
    cases failed : fails .nftConfig with
    | true =>
      obtain ⟨answer, rest, -, undone⟩ := @destroyGateway_withLink host name
        ⟨.tap, true, [mobileGatewayName ipaddr id ++ "/30"], []⟩ (mobileGatewayName ipaddr id) "/30"
      rw [if_pos failed] at element
      rw [bind_of element, if_pos (by decide), bind_of undone,
        bind_of (destroyIface_added consistent absent)]
      exact Or.inl rfl
    | false =>
      rw [if_neg (by simp [failed])] at element
      rw [bind_of element, if_neg (by decide)]
      refine Or.inr ⟨_, rfl, ⟨_, withLink_links_self _, rfl, mem_cons_self⟩, ?_⟩
      exact update_self ..

theorem createMobileIface_refused {id : UInt16}
    (ipaddr : String) (fits : id.toNat ≤ kMaxIfaceNameId)
    (tapped : fails .addTapIface = false ∧ fails .bringUpIface = false ∧ host.links name = none)
    (refused : fails .addGateway = true) (added : fails .nftConfig = false) :
    ∃ after, createMobileIface fails name id ipaddr host = (true, after) ∧
      after.links name = none := by
  have created := @createTap_eq host name fails consistent
  have absent := tapped.2.2
  have gateway := @addGateway_withLink host name {kind := .tap, up := true} fails
    (mobileGatewayName ipaddr id) "/30" rfl
  have element := @nftConfig_add host fails (mobileNetworkName ipaddr "/30" id)
  rw [if_pos tapped] at created
  rw [if_pos refused] at gateway
  rw [if_neg (by simp [added])] at element
  unfold createMobileIface
  rw [if_neg (by omega)]
  dsimp only
  rw [bind_of created, if_neg (by decide), bind_of gateway, if_pos (by decide),
    bind_of (destroyIface_added consistent absent), bind_of element, if_neg (by decide)]
  exact ⟨_, rfl, absent⟩

theorem createMobileIface_untapped {id : UInt16} (ipaddr : String)
    (without : ¬(id.toNat ≤ kMaxIfaceNameId ∧ fails .addTapIface = false ∧
      fails .bringUpIface = false ∧ host.links name = none)) :
    createMobileIface fails name id ipaddr host = (false, host) := by
  have created := @createTap_eq host name fails consistent
  unfold createMobileIface
  split
  · rfl
  · rename_i fits
    rw [if_neg fun tapped => without ⟨Nat.le_of_not_lt fits, tapped⟩] at created
    dsimp only
    rw [bind_of created, if_pos (by decide)]
    rfl

/-! ### Bridges -/

theorem destroyBridge_added (absent : host.links name = none) (alone : link.members = []) :
    destroyBridge name (host.withLink name (some link)) = (true, host) := by
  have unused : bridgeInUse name (host.withLink name (some link)) =
      (false, host.withLink name (some link)) := by
    unfold bridgeInUse
    rw [withLink_links_self]
    dsimp only
    rw [alone]
    rfl
  unfold destroyBridge
  rw [bind_of unused, if_neg (by decide), deleteIface_added consistent absent]

end

def Host.started (host : Host) (name gateway dhcpRange : String) : Host :=
  {host with
    dnsmasq := ⟨host.nextPid, name, gateway, dhcpRange⟩ :: host.dnsmasq
    pidFile := update host.pidFile name (some host.nextPid)
    nextPid := host.nextPid + 1}

theorem startDnsmasq_withLink (gateway dhcpRange : String) :
    startDnsmasq fails name gateway dhcpRange (host.withLink name (some link)) =
      if fails .startDnsmasq = true then (false, host.withLink name (some link))
      else (true, (host.started name gateway dhcpRange).withLink name (some link)) := by
  unfold startDnsmasq
  split
  · rfl
  · rfl

theorem stopDnsmasq_started (consistent : host.Consistent) (gateway dhcpRange : String) :
    ∃ before, host.Same before ∧ before.Consistent ∧
      stopDnsmasq name ((host.started name gateway dhcpRange).withLink name (some link)) =
        (true, before.withLink name (some link)) := by
  have others : (host.started name gateway dhcpRange).dnsmasq.filter
      (decide <| ·.pid ≠ host.nextPid) = host.dnsmasq := by
    unfold Host.started
    rw [filter_cons_of_neg (by simp)]
    refine filter_eq_self.mpr fun process runs => decide_eq_true ?_
    exact Nat.ne_of_lt (consistent.pids runs)
  have file : ((host.started name gateway dhcpRange).withLink name (some link)).pidFile name =
      some host.nextPid := update_self ..
  have runs : ((host.started name gateway dhcpRange).withLink name (some link)).dnsmasq.any
      (·.pid = host.nextPid) = true := by
    change (_ :: host.dnsmasq).any _ = true
    rw [any_cons, decide_eq_true rfl, Bool.true_or]
  unfold stopDnsmasq
  rw [file]
  dsimp only
  rw [if_pos runs]
  refine ⟨{ host.started name gateway dhcpRange with
    dnsmasq := (host.started name gateway dhcpRange).dnsmasq.filter
      (decide <| ·.pid ≠ host.nextPid)
    pidFile := update (host.started name gateway dhcpRange).pidFile name none},
    ⟨rfl, others, rfl⟩, ⟨consistent.members, fun listed => ?_⟩, rfl⟩
  dsimp only at listed
  rw [others] at listed
  exact lt_succ_of_lt (consistent.pids listed)

theorem cleanup_gateway (ipaddr : String) :
    ∃ rest : Link, rest.members = [] ∧
      cleanupBridgeGateway fails name ipaddr {hasGateway := true}
        (host.withLink name (some ⟨.bridge, true, [bridgeGateway ipaddr ++ "/24"], []⟩)) =
          ((), host.withLink name (some rest)) := by
  obtain ⟨answer, rest, members, undone⟩ := @destroyGateway_withLink host name
    ⟨.bridge, true, [bridgeGateway ipaddr ++ "/24"], []⟩ (bridgeGateway ipaddr) "/24"
  refine ⟨rest, members, ?_⟩
  change (destroyGateway name (bridgeGateway ipaddr) "/24" >>= _) _ = _
  rw [bind_of undone]
  rfl

theorem cleanup_dnsmasq (consistent : host.Consistent) (ipaddr : String) :
    ∃ before, ∃ rest : Link, host.Same before ∧ before.Consistent ∧ rest.members = [] ∧
      cleanupBridgeGateway fails name ipaddr {hasGateway := true, hasDnsmasq := true}
        ((host.started name (bridgeGateway ipaddr) (bridgeRange ipaddr)).withLink name
          (some ⟨.bridge, true, [bridgeGateway ipaddr ++ "/24"], []⟩)) =
        ((), before.withLink name (some rest)) := by
  obtain ⟨before, kept, consistent', ended⟩ := @stopDnsmasq_started host name
    ⟨.bridge, true, [bridgeGateway ipaddr ++ "/24"], []⟩ consistent (bridgeGateway ipaddr)
    (bridgeRange ipaddr)
  obtain ⟨rest, members, cleaned⟩ := @cleanup_gateway before name fails ipaddr
  refine ⟨before, rest, kept, consistent', members, ?_⟩
  change (stopDnsmasq name >>= _) _ = _
  rw [bind_of ended]
  exact cleaned

theorem setupBridgeGateway_cases (consistent : host.Consistent) (ipaddr : String) :
    (∃ before rest, setupBridgeGateway fails name ipaddr
        (host.withLink name (some {kind := .bridge, up := true})) =
          (false, before.withLink name (some rest)) ∧
        host.Same before ∧ before.Consistent ∧ rest.members = []) ∨
      ∃ after, setupBridgeGateway fails name ipaddr
          (host.withLink name (some {kind := .bridge, up := true})) = (true, after) ∧
        (Call.createEthernetBridgeIface name ipaddr).Established after := by
  have same : host.Same host := ⟨rfl, rfl, rfl⟩
  have gateway := @addGateway_withLink host name {kind := .bridge, up := true} fails
    (bridgeGateway ipaddr) "/24" rfl
  unfold setupBridgeGateway
  -- what has been done when a step fails is what the clean-up is told of
  cases refused : fails .addGateway with
  | true =>
    rw [if_pos refused] at gateway
    rw [bind_of gateway, if_pos (by decide)]
    exact Or.inl ⟨host, _, rfl, same, consistent, rfl⟩
  | false =>
    rw [if_neg (by simp [refused])] at gateway
    have server := @startDnsmasq_withLink host name ⟨.bridge, true, [bridgeGateway ipaddr ++ "/24"], []⟩
      fails (bridgeGateway ipaddr) (bridgeRange ipaddr)
    rw [bind_of gateway, if_neg (by decide)]
    cases stopped : fails .startDnsmasq with
    | true =>
      obtain ⟨rest, members, cleaned⟩ := @cleanup_gateway host name fails ipaddr
      rw [if_pos stopped] at server
      rw [bind_of server, if_pos (by decide), bind_of cleaned]
      exact Or.inl ⟨host, rest, rfl, same, consistent, members⟩
    | false =>
      rw [if_neg (by simp [stopped])] at server
      rw [bind_of server, if_neg (by decide)]
      have element := @nftConfig_add ((host.started name (bridgeGateway ipaddr)
        (bridgeRange ipaddr)).withLink name
          (some ⟨.bridge, true, [bridgeGateway ipaddr ++ "/24"], []⟩)) fails (bridgeNetwork ipaddr)
      cases failed : fails .nftConfig with
      | true =>
        obtain ⟨before, rest, kept, consistent', members, cleaned⟩ :=
          @cleanup_dnsmasq host name fails consistent ipaddr
        rw [if_pos failed] at element
        rw [bind_of element, if_pos (by decide), bind_of cleaned]
        exact Or.inl ⟨before, rest, rfl, kept, consistent', members⟩
      | false =>
        rw [if_neg (by simp [failed])] at element
        rw [bind_of element, if_neg (by decide)]
        refine Or.inr ⟨_, rfl, ⟨_, withLink_links_self _, rfl⟩,
          ⟨_, withLink_links_self _, rfl, mem_cons_self⟩,
          ⟨_, mem_cons_self, rfl, rfl, rfl⟩, ?_⟩
        exact update_self ..

theorem createEthernetBridgeIface_new (consistent : host.Consistent) (absent : host.links name = none)
    (ipaddr : String) :
    (∃ before, createEthernetBridgeIface fails name ipaddr host = (false, before) ∧
        host.Same before) ∨
      ∃ after, createEthernetBridgeIface fails name ipaddr host = (true, after) ∧
        (Call.createEthernetBridgeIface name ipaddr).Established after := by
  have same : host.Same host := ⟨rfl, rfl, rfl⟩
  have looked : bridgeExists name host = (false, host) := by
    unfold bridgeExists
    rw [absent]
    rfl
  unfold createEthernetBridgeIface
  rw [bind_of looked, if_neg (by decide)]
  cases refused : fails .createBridge with
  | true =>
    have created : createBridge fails name host = (false, host) := if_pos (Or.inl refused)
    rw [bind_of created, if_pos (by decide)]
    exact Or.inl ⟨host, rfl, same⟩
  | false =>
    have created : createBridge fails name host =
        (true, host.withLink name (some {kind := .bridge})) := if_neg (by simp [refused, absent])
    have raised := @bringUpIface_withLink host name {kind := .bridge} fails
    rw [bind_of created, if_neg (by decide)]
    cases down : fails .bringUpIface with
    | true =>
      rw [if_pos down] at raised
      rw [bind_of raised, if_pos (by decide), bind_of (destroyBridge_added consistent absent rfl)]
      exact Or.inl ⟨host, rfl, same⟩
    | false =>
      rw [if_neg (by simp [down])] at raised
      rw [bind_of raised, if_neg (by decide)]
      rcases @setupBridgeGateway_cases host name fails consistent ipaddr with
        ⟨before, rest, failed, kept, consistent', members⟩ | ⟨after, done, established⟩
      · -- the set-up has cleaned up behind itself, and left the bridge to be destroyed
        have absent' : before.links name = none := by rw [kept.1, absent]
        rw [bind_of failed, if_pos (by decide),
          bind_of (destroyBridge_added consistent' absent' members)]
        exact Or.inl ⟨before, rfl, kept⟩
      · rw [bind_of done, if_neg (by decide)]
        exact Or.inr ⟨after, rfl, established⟩

theorem createEthernetBridgeIface_found (found : host.links name = some link) (ipaddr : String) :
    createEthernetBridgeIface fails name ipaddr host =
      if fails .bringUpIface = true then (false, host)
      else (true, host.withLink name (some {link with up := true})) := by
  have looked : bridgeExists name host = (true, host) := by
    unfold bridgeExists
    rw [found]
    rfl
  unfold createEthernetBridgeIface
  rw [bind_of looked, if_pos rfl]
  unfold bringUpIface
  rw [found]

end Undone

/-! ## Every run -/

def Keeps {Value : Type} (step : StateM Host Value) : Prop :=
  ∀ host : Host, host.Consistent → (step host).2.Consistent

section Keeping

variable {Value Result : Type} {fails : Forward → Bool} {name : String}

theorem Keeps.pure (value : Value) : Keeps (pure value) :=
  fun _ consistent => consistent

theorem Keeps.bind {first : StateM Host Value} {next : Value → StateM Host Result}
    (before : Keeps first) (after : ∀ value, Keeps (next value)) : Keeps (first >>= next) :=
  fun host consistent => after _ _ (before host consistent)

theorem Keeps.ite {condition : Prop} [Decidable condition] {first second : StateM Host Value}
    (one : Keeps first) (other : Keeps second) : Keeps (if condition then first else second) := by
  split
  · exact one
  · exact other

theorem Host.Consistent.withLink {host : Host} (consistent : host.Consistent) {link : Link}
    (members : ∀ member ∈ link.members, (host.links member).isSome = true) :
    (host.withLink name (some link)).Consistent := by
  have there {member : String} (exists_ : (host.links member).isSome = true) :
      ((host.withLink name (some link)).links member).isSome = true := by
    unfold Host.withLink
    dsimp only
    by_cases same : member = name
    · rw [same, update_self]
      rfl
    · rw [update_of_ne same]
      exact exists_
  refine ⟨fun {other found member} here listed => there ?_, consistent.pids⟩
  unfold Host.withLink at here
  dsimp only at here
  by_cases same : other = name
  · rw [same, update_self] at here
    cases here
    exact members member listed
  · rw [update_of_ne same] at here
    exact consistent.members here listed

theorem Host.Consistent.changed {host : Host} (consistent : host.Consistent) {link other : Link}
    (found : host.links name = some link) (same : other.members = link.members) :
    (host.withLink name (some other)).Consistent :=
  consistent.withLink fun _ listed => consistent.members found (same ▸ listed)

variable {other gateway netmask ipaddr : String}

theorem linksWithout_isSome {host : Host} :
    (host.linksWithout name other).isSome = (host.links other).isSome := isSome_map

theorem linksWithout_members {host : Host} {link : Link}
    (found : host.linksWithout name other = some link) :
    ∃ before, host.links other = some before ∧
      ∀ member ∈ link.members, member ≠ name ∧ member ∈ before.members := by
  obtain ⟨before, there, rfl⟩ := map_eq_some_iff.mp found
  refine ⟨before, there, fun member listed => ?_⟩
  obtain ⟨kept, other⟩ := mem_filter.mp listed
  exact ⟨of_decide_eq_true other, kept⟩

theorem keeps_addTapIface : Keeps (addTapIface fails name) := by
  intro host consistent
  unfold addTapIface
  split
  · exact consistent
  · exact consistent.withLink nofun

theorem keeps_createBridge : Keeps (createBridge fails name) := by
  intro host consistent
  unfold createBridge
  split
  · exact consistent
  · exact consistent.withLink nofun

theorem keeps_bringUpIface : Keeps (bringUpIface fails name) := by
  intro host consistent
  unfold bringUpIface
  split
  · exact consistent
  · rename_i link found
    split
    · exact consistent
    · exact consistent.changed found rfl

theorem keeps_shutdownIface : Keeps (shutdownIface name) := by
  intro host consistent
  unfold shutdownIface
  split
  · exact consistent
  · rename_i link found
    exact consistent.changed found rfl

theorem keeps_addGateway : Keeps (addGateway fails name gateway netmask) := by
  intro host consistent
  unfold addGateway
  split
  · exact consistent
  · rename_i link found
    split
    · exact consistent
    · exact consistent.changed found rfl

theorem keeps_destroyGateway : Keeps (destroyGateway name gateway netmask) := by
  intro host consistent
  unfold destroyGateway
  split
  · exact consistent
  · rename_i link found
    split
    · exact consistent.changed found rfl
    · exact consistent

theorem keeps_linkTapToBridge {bridgeName : String} :
    Keeps (linkTapToBridge fails name bridgeName) := by
  intro host consistent
  unfold linkTapToBridge
  split
  · rename_i tap bridge there found
    split
    · exact consistent
    · have kept {member : String} (exists_ : (host.links member).isSome = true) {link : Link} :
          (update (host.linksWithout name) bridgeName (some link) member).isSome = true := by
        by_cases same : member = bridgeName
        · rw [same, update_self]
          rfl
        · rw [update_of_ne same, linksWithout_isSome]
          exact exists_
      refine ⟨fun {other link member} here listed => kept ?_, consistent.pids⟩
      dsimp only at here
      by_cases same : other = bridgeName
      · rw [same, update_self] at here
        cases here
        rcases mem_cons.mp listed with rfl | before
        · rw [there]
          rfl
        · exact consistent.members found (mem_filter.mp before).1
      · rw [update_of_ne same] at here
        obtain ⟨before, was, members⟩ := linksWithout_members here
        exact consistent.members was (members member listed).2
  · exact consistent

theorem keeps_deleteIface : Keeps (deleteIface name) := by
  intro host consistent
  unfold deleteIface
  split
  · refine ⟨fun {other link member} here listed => ?_, consistent.pids⟩
    dsimp only at here ⊢
    by_cases same : other = name
    · rw [same, update_self] at here
      cases here
    · rw [update_of_ne same] at here
      obtain ⟨before, was, members⟩ := linksWithout_members here
      obtain ⟨apart, kept⟩ := members member listed
      rw [update_of_ne apart, linksWithout_isSome]
      exact consistent.members was kept
  · exact consistent

theorem keeps_nftConfig {network : String} {add : Bool} : Keeps (nftConfig fails network add) := by
  intro host consistent
  unfold nftConfig
  split
  · exact consistent
  · exact ⟨consistent.members, consistent.pids⟩

theorem keeps_startDnsmasq {dhcpRange : String} :
    Keeps (startDnsmasq fails name gateway dhcpRange) := by
  intro host consistent
  unfold startDnsmasq
  split
  · exact consistent
  · refine ⟨consistent.members, fun {process} listed => ?_⟩
    rcases mem_cons.mp listed with rfl | before
    · exact lt_succ_self _
    · exact lt_succ_of_lt (consistent.pids before)

theorem keeps_stopDnsmasq : Keeps (stopDnsmasq name) := by
  intro host consistent
  unfold stopDnsmasq
  split
  · exact consistent
  · split
    · exact ⟨consistent.members, fun listed => consistent.pids (mem_filter.mp listed).1⟩
    · exact consistent

theorem keeps_createTap : Keeps (createTap fails name) := by
  unfold createTap
  refine keeps_addTapIface.bind fun added => .ite (.pure _) ?_
  exact keeps_bringUpIface.bind fun up => .ite (keeps_deleteIface.bind fun _ => .pure _) (.pure _)

theorem keeps_destroyIface : Keeps (destroyIface name) :=
  keeps_shutdownIface.bind fun _ => keeps_deleteIface

theorem keeps_destroyBridge : Keeps (destroyBridge name) := by
  unfold destroyBridge
  exact Keeps.bind (fun _ consistent => consistent) fun used => .ite (.pure _) keeps_deleteIface

theorem keeps_cleanupBridgeGateway {config : GatewayConfig} :
    Keeps (cleanupBridgeGateway fails name ipaddr config) := by
  unfold cleanupBridgeGateway
  refine .ite (keeps_nftConfig.bind fun _ => ?_) ?_
  all_goals refine .ite (keeps_stopDnsmasq.bind fun _ => ?_) ?_
  all_goals exact .ite (keeps_destroyGateway.bind fun _ => .pure _) (.pure _)

theorem keeps_setupBridgeGateway : Keeps (setupBridgeGateway fails name ipaddr) := by
  unfold setupBridgeGateway
  refine keeps_addGateway.bind fun added => .ite (.pure _) ?_
  refine keeps_startDnsmasq.bind fun started =>
    .ite (keeps_cleanupBridgeGateway.bind fun _ => .pure _) ?_
  exact keeps_nftConfig.bind fun configured =>
    .ite (keeps_cleanupBridgeGateway.bind fun _ => .pure _) (.pure _)

theorem keeps_createMobileIface {id : UInt16} : Keeps (createMobileIface fails name id ipaddr) := by
  have last : Keeps (nftConfig fails (mobileNetworkName ipaddr "/30" id) true >>= fun added =>
      if !added then do
        let _ ← destroyGateway name (mobileGatewayName ipaddr id) "/30"
        let _ ← destroyIface name
        pure false
      else pure true) :=
    keeps_nftConfig.bind fun added =>
      .ite (keeps_destroyGateway.bind fun _ => keeps_destroyIface.bind fun _ => .pure _) (.pure _)
  unfold createMobileIface
  refine .ite (.pure _) (keeps_createTap.bind fun created => .ite (.pure _) ?_)
  exact keeps_addGateway.bind fun added => .ite (keeps_destroyIface.bind fun _ => last) last

theorem keeps_run (call : Call) : Keeps (call.run fails) := by
  cases call with
  | createMobileIface name id ipaddr => exact keeps_createMobileIface
  | destroyMobileIface name id ipaddr =>
    refine .ite (.pure _) (keeps_nftConfig.bind fun _ => ?_)
    exact keeps_destroyGateway.bind fun _ => keeps_destroyIface
  | createEthernetIface name bridgeName =>
    refine keeps_createTap.bind fun created => .ite (.pure _) ?_
    exact keeps_linkTapToBridge.bind fun linked =>
      .ite (keeps_destroyIface.bind fun _ => .pure _) (.pure _)
  | destroyEthernetIface name => exact keeps_destroyIface
  | createEthernetBridgeIface name ipaddr =>
    refine Keeps.bind (fun _ consistent => consistent) fun found => .ite keeps_bringUpIface ?_
    refine keeps_createBridge.bind fun created => .ite (.pure _) ?_
    refine keeps_bringUpIface.bind fun up => .ite (keeps_destroyBridge.bind fun _ => .pure _) ?_
    exact keeps_setupBridgeGateway.bind fun ready =>
      .ite (keeps_destroyBridge.bind fun _ => .pure _) (.pure _)
  | destroyEthernetBridgeIface name ipaddr =>
    exact keeps_cleanupBridgeGateway.bind fun _ => keeps_destroyBridge

end Keeping

theorem steps_consistent {host : Host} (consistent : host.Consistent)
    (calls : List (Call × (Forward → Bool))) : ∀ step ∈ steps host calls, step.host.Consistent := by
  induction calls generalizing host with
  | nil => exact nofun
  | cons first rest ih =>
    intro step listed
    rcases mem_cons.mp listed with rfl | later
    · exact consistent
    · exact ih (keeps_run first.1 host consistent) step later

section Calls

variable {host : Host} {name : String} {fails : Forward → Bool}

theorem mobile_iff (consistent : host.Consistent) (id : UInt16) (ipaddr : String) :
    AllOrNothing ⟨host, .createMobileIface name id ipaddr, fails⟩ ↔
      Met ⟨host, .createMobileIface name id ipaddr, fails⟩ := by
  have same : host.Same host := ⟨rfl, rfl, rfl⟩
  unfold AllOrNothing Met
  dsimp only [Call.run]
  by_cases tapped : id.toNat ≤ kMaxIfaceNameId ∧ fails .addTapIface = false ∧
    fails .bringUpIface = false ∧ host.links name = none
  · obtain ⟨fits, free⟩ := tapped
    by_cases refused : fails .addGateway = true ∧ fails .nftConfig = false
    · obtain ⟨after, done, gone⟩ :=
        createMobileIface_refused consistent ipaddr fits free refused.1 refused.2
      -- the call says that it was done, and the interface it is for is gone
      refine iff_of_false (fun all => ?_) fun kept => ?_
      · rw [done] at all
        obtain ⟨⟨link, found, -⟩, -⟩ := (all rfl).1 rfl
        rw [gone] at found
        cases found
      · exact kept ⟨fits, free.2.2, free.1, free.2.1, refused.1, refused.2⟩
    · refine iff_of_true (fun _ => ?_) fun both => refused ⟨both.2.2.2.2.1, both.2.2.2.2.2⟩
      rcases createMobileIface_cases consistent ipaddr fits free refused with
        failed | ⟨after, done, established⟩
      · rw [failed]
        exact ⟨nofun, fun _ => same⟩
      · rw [done]
        exact ⟨fun _ => established, nofun⟩
  · refine iff_of_true (fun _ => ?_) fun both =>
      tapped ⟨both.1, both.2.2.1, both.2.2.2.1, both.2.1⟩
    rw [createMobileIface_untapped consistent ipaddr tapped]
    exact ⟨nofun, fun _ => same⟩

theorem ethernet_all (consistent : host.Consistent) (bridgeName : String) :
    AllOrNothing ⟨host, .createEthernetIface name bridgeName, fails⟩ := by
  intro _
  dsimp only [Call.run]
  rcases @createEthernetIface_cases host name fails consistent bridgeName with
    failed | ⟨after, done, established⟩
  · rw [failed]
    exact ⟨nofun, fun _ => ⟨rfl, rfl, rfl⟩⟩
  · rw [done]
    exact ⟨fun _ => established, nofun⟩

theorem setUp_withLink {link : Link} (found : host.links name = some link) (ipaddr : String) :
    (host.withLink name (some {link with up := true})).SetUp name ipaddr ↔
      host.SetUp name ipaddr := by
  unfold Host.SetUp
  rw [withLink_links_self, found]
  simp only [Option.some.injEq, exists_eq_left']
  rfl

theorem bridge_iff (consistent : host.Consistent) (ipaddr : String) :
    AllOrNothing ⟨host, .createEthernetBridgeIface name ipaddr, fails⟩ ↔
      Met ⟨host, .createEthernetBridgeIface name ipaddr, fails⟩ := by
  unfold AllOrNothing Met
  dsimp only [Call.run]
  cases found : host.links name with
  | none =>
    refine iff_of_true (fun _ => ?_) nofun
    rcases @createEthernetBridgeIface_new host name fails consistent found ipaddr with
      ⟨before, failed, kept⟩ | ⟨after, done, established⟩
    · rw [failed]
      exact ⟨nofun, fun _ => kept⟩
    · rw [done]
      exact ⟨fun _ => established, nofun⟩
  | some link =>
    -- nothing is set up, so that it has to be so before
    rw [createEthernetBridgeIface_found found]
    cases down : fails .bringUpIface with
    | true => exact iff_of_true (fun _ => ⟨nofun, fun _ => ⟨rfl, rfl, rfl⟩⟩) nofun
    | false =>
      rw [if_neg (by decide)]
      have up : (host.withLink name (some {link with up := true})).IsUp name :=
        ⟨_, withLink_links_self _, rfl⟩
      rw [← setUp_withLink found]
      constructor
      · exact fun all _ _ => ((all rfl).1 rfl).2
      · exact fun ready _ => ⟨fun _ => ⟨up, ready rfl rfl⟩, nofun⟩

end Calls

/-- In every run a call creates all that it is for or nothing, exactly where the steps of its calls
meet their condition. -/
theorem creates_all_or_nothing {host : Host} (consistent : host.Consistent)
    (calls : List (Call × (Forward → Bool))) :
    ∀ step ∈ steps host calls, AllOrNothing step ↔ Met step := by
  intro step listed
  have stands := steps_consistent consistent calls step listed
  obtain ⟨host, call, fails⟩ := step
  cases call with
  | createMobileIface name id ipaddr => exact mobile_iff stands id ipaddr
  | createEthernetIface name bridgeName => exact iff_of_true (ethernet_all stands bridgeName) trivial
  | createEthernetBridgeIface name ipaddr => exact bridge_iff stands ipaddr
  | destroyMobileIface name id ipaddr => exact iff_of_true nofun trivial
  | destroyEthernetIface name => exact iff_of_true nofun trivial
  | destroyEthernetBridgeIface name ipaddr => exact iff_of_true nofun trivial

def bare : Host := ⟨fun _ => none, [], fun _ => none, 0, fun _ => false⟩

theorem bare_consistent : bare.Consistent := ⟨nofun, nofun⟩

def bridged : Host :=
  ((Call.createEthernetBridgeIface "cvd-ebr" "192.168.192").run (fun _ => false) bare).2

/-- An interface is linked to the bridge that was made before. -/
theorem creates_all_or_nothing_bare :
    AllOrNothing ⟨bridged, .createEthernetIface "cvd-etap-01" "cvd-ebr", fun _ => false⟩ ↔
      Met ⟨bridged, .createEthernetIface "cvd-etap-01" "cvd-ebr", fun _ => false⟩ :=
  creates_all_or_nothing bare_consistent
    [(.createEthernetBridgeIface "cvd-ebr" "192.168.192", fun _ => false),
      (.createEthernetIface "cvd-etap-01" "cvd-ebr", fun _ => false)] _
    (mem_cons_of_mem _ mem_cons_self)

/-- A refused gateway leaves an interface, and a bridge is created where a tap has its name. -/
theorem creates_something :
    ¬AllOrNothing ⟨bare, .createMobileIface "cvd-mtap-01" 1 "192.168.97",
      fun step => step = .addGateway⟩ ∧
    ∃ step ∈ steps bare [(.createMobileIface "cvd-ebr" 1 "192.168.97", fun _ => false),
      (.createEthernetBridgeIface "cvd-ebr" "192.168.192", fun _ => false)],
      ¬AllOrNothing step := by
  constructor
  · intro all
    obtain ⟨⟨link, found, -⟩, -⟩ := (all rfl).1 rfl
    cases found
  · refine ⟨_, mem_cons_of_mem _ mem_cons_self, fun all => ?_⟩
    obtain ⟨-, ⟨link, found, kind, -⟩, -⟩ := (all rfl).1 rfl
    cases found
    cases kind

end Ika.Cvdalloc.Creation
