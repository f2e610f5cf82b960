import HomelabBuilder.Ipam.DomainLedger
import HomelabBuilder.Ipam.Opening

/-! # Address safety

No two devices of a domain get the same address, and no device gets the
network, the broadcast, a leased or a gateway address. Across domains the same
holds as far as their subnets are apart.
-/

namespace HomelabBuilder.Ipam

open Net

/-! ## The turn of one domain -/

/-- The turn of a domain in the response to a request. -/
abbrev Turn (req : AllocateRequest) (owner : String → Option Nat) (domain : AllocationDomain)
    (before : AllocateResponse) : Prop :=
  TurnOf req.nodes (mergeZones req.customZones)
    (domainNodeIndexes req.nodes (normalizeRouters req.routers) owner) (allocateOwned req owner)
    domain before

abbrev turnEnd (req : AllocateRequest) (owner : String → Option Nat) (domain : AllocationDomain)
    (before : AllocateResponse) : DomainState :=
  allocateDomain req.nodes (mergeZones req.customZones)
    (domainNodeIndexes req.nodes (normalizeRouters req.routers) owner domain.key)
    (domain.turn before)

theorem exists_turn (req : AllocateRequest) (owner : String → Option Nat)
    {domain : AllocationDomain}
    (listed : domain ∈ (openDomains req.nodes (normalizeRouters req.routers) owner).domains) :
    ∃ before, Turn req owner domain before :=
  exists_turnOf (membersApart_domainNodeIndexes _ _ _) _ (upcoming_startResponse req owner) listed

theorem Turn.sound {req : AllocateRequest} {owner : String → Option Nat}
    {domain : AllocationDomain} {before : AllocateResponse}
    (turn : Turn req owner domain before) (distinct : DistinctEntities req.nodes) :
    Ledger.Sound domain.allocator.pool {ip | ip ∈ domain.allocator.used}
      (ledgerOf req.nodes (domainNodeIndexes req.nodes (normalizeRouters req.routers) owner
          domain.key) (turnEnd req owner domain before)) :=
  (runDomain_turn before domain).sound distinct turn.upcoming.lists
    (turn.upcoming.addresses domain) rfl
    (turn.upcoming.unassigned domain List.mem_cons_self)

/-! ## Inside a domain -/

/-- The domain of the node an entity is or runs on. -/
def domainOf (req : AllocateRequest) (entity : Entity) : Option DomainKey :=
  req.nodes[entity.nodeIndex]?.bind fun node =>
    nodeDomain (normalizeRouters req.routers) (ownerRouter req) node.id

theorem domainOf_eq_some {req : AllocateRequest} {entity : Entity} {key : DomainKey} :
    domainOf req entity = some key ↔ entity.nodeIndex ∈
      domainNodeIndexes req.nodes (normalizeRouters req.routers) (ownerRouter req) key := by
  rw [domainOf, Option.bind_eq_some_iff, mem_domainNodeIndexes]

theorem routerDomain_eq_some {normal : List NormalRouter} {ri : Nat} {key : DomainKey} :
    routerDomain normal ri = some key ↔
      ∃ entry, normal[ri]? = some entry ∧ entry.domain = key :=
  Option.map_eq_some_iff

theorem allocate_of_routerDomain {req : AllocateRequest} {ri : Nat} {key : DomainKey}
    (served : routerDomain (normalizeRouters req.routers) ri = some key) :
    allocate req = allocateOwned req (ownerRouter req) := by
  unfold allocate
  split
  · rename_i none
    rw [none] at served
    cases served
  · rfl

theorem allocateOwned_routers (req : AllocateRequest) (owner : String → Option Nat) :
    (allocateOwned req owner).routers =
      (openDomains req.nodes (normalizeRouters req.routers) owner).routers :=
  foldl_runDomain_routers _

theorem allocateOwned_conflicts (req : AllocateRequest) (owner : String → Option Nat) :
    routerConflicts (normalizeRouters req.routers) ++
        (openDomains req.nodes (normalizeRouters req.routers) owner).conflicts <+:
      (allocateOwned req owner).conflicts := by
  unfold allocateOwned
  refine List.IsPrefix.trans ?_ (foldl_runDomain_conflicts _)
  exact List.prefix_refl _

theorem exists_router_of_domainOf {req : AllocateRequest} {entity : Entity} {key : DomainKey}
    (member : domainOf req entity = some key) :
    ∃ ri, routerDomain (normalizeRouters req.routers) ri = some key := by
  rcases Option.bind_eq_some_iff.mp member with ⟨_, _, domain⟩
  rcases Option.bind_eq_some_iff.mp domain with ⟨ri, _, served⟩
  exact ⟨ri, served⟩

theorem isDHCPReserved_eq_false {sa : SubnetAllocator} {ip : Nat} :
    sa.isDHCPReserved ip = false ↔
      sa.dhcpStart = 0 ∨ ip < sa.dhcpStart ∨ sa.dhcpEnd < ip := by
  simp [SubnetAllocator.isDHCPReserved]
  omega

/-- What a device of a domain can be given: an address strictly inside the
domain that no router of the domain leases or has as its gateway. -/
structure SafeAddress (req : AllocateRequest) (key : DomainKey) (ip : Nat) : Prop where
  inside : key.1 < ip ∧ ip < key.broadcast
  outside : ∀ ri, routerDomain (normalizeRouters req.routers) ri = some key →
    ∃ router, (allocate req).routers[ri]? = some router ∧
      (router.dhcpStart = "" ∨ ip < ipToUint32 router.dhcpStart ∨
        ipToUint32 router.dhcpEnd < ip) ∧
      parseIPTo4 router.gatewayIP ≠ some ip

@[simp]
theorem routerResult_gatewayIP (entry : NormalRouter) (sa : SubnetAllocator) (demand : Int) :
    (routerResult entry sa demand).gatewayIP = entry.router.gatewayIP := by
  unfold routerResult
  dsimp only
  split <;> rfl

theorem routerResult_outside {entry : NormalRouter} {sa : SubnetAllocator} {demand : Int} {ip : Nat}
    (start : sa.dhcpStart < 2 ^ 32) (stop : sa.dhcpEnd < 2 ^ 32)
    (free : sa.isDHCPReserved ip = false) :
    (routerResult entry sa demand).dhcpStart = "" ∨
      ip < ipToUint32 (routerResult entry sa demand).dhcpStart ∨
      ipToUint32 (routerResult entry sa demand).dhcpEnd < ip := by
  unfold routerResult
  dsimp only
  split
  · exact .inl rfl
  · rename_i enabled
    dsimp only
    rw [ipToUint32_formatIPv4 _ start, ipToUint32_formatIPv4 _ stop]
    exact .inr ((isDHCPReserved_eq_false.mp free).resolve_left enabled)

theorem safeAddress_of_pool {req : AllocateRequest} {domain : AllocationDomain} {ip : Nat}
    (listed : domain ∈
      (openDomains req.nodes (normalizeRouters req.routers) (ownerRouter req)).domains)
    (inPool : ip ∈ domain.allocator.pool) (fresh : ip ∉ domain.allocator.used) :
    SafeAddress req domain.key ip := by
  have opened := opened_openDomains req.routers req.nodes (ownerRouter req)
  have wellFormed := opened.wellFormed domain listed
  refine ⟨wellFormed.within ip inPool.1, fun ri served => ?_⟩
  rcases routerDomain_eq_some.mp served with ⟨entry, located, key⟩
  rcases opened.joined located with ⟨other, joined⟩
  have same := eq_of_key_eq opened.keys joined.listed listed (joined.key.trans key)
  subst same
  rcases joined.result with ⟨sa, demand, shown, start, stop⟩
  refine ⟨routerResult entry sa demand, ?_, ?_, ?_⟩
  · rw [allocate_of_routerDomain served, allocateOwned_routers]
    exact shown
  · refine routerResult_outside (start ▸ wellFormed.dhcpStart) (stop ▸ wellFormed.dhcpEnd) ?_
    rw [isDHCPReserved_eq_false, start, stop, ← isDHCPReserved_eq_false]
    exact inPool.2
  · rw [routerResult_gatewayIP]
    intro gateway
    have value : ipToUint32 entry.router.gatewayIP = ip := by
      rw [ipToUint32, gateway]
      rfl
    rcases wellFormed.owned ip (value ▸ joined.gateway) with taken | unusable
    · exact fresh taken
    · rw [inPool.1] at unusable
      cases unusable

/-- A response is safe in one domain: its devices have safe addresses, and no
two of them the same. -/
structure AddressSafe (req : AllocateRequest) (key : DomainKey) : Prop where
  safe : ∀ entity, domainOf req entity = some key → (allocate req).assignedIP entity ≠ "" →
    ∃ ip, parseIPTo4 ((allocate req).assignedIP entity) = some ip ∧
      (allocate req).assignedIP entity = formatIPv4 ip ∧ SafeAddress req key ip
  distinct : ∀ left right, domainOf req left = some key → domainOf req right = some key →
    (allocate req).assignedIP left ≠ "" →
    (allocate req).assignedIP left = (allocate req).assignedIP right → left = right

/-- Allocation is address-safe in every domain. -/
theorem allocate_addressSafe (req : AllocateRequest) (distinct : (entityIDs req.nodes).Nodup)
    (key : DomainKey) : AddressSafe req key := by
  by_cases served : ∃ ri, routerDomain (normalizeRouters req.routers) ri = some key
  · rcases served with ⟨ri, served⟩
    have opened := opened_openDomains req.routers req.nodes (ownerRouter req)
    rcases routerDomain_eq_some.mp served with ⟨entry, located, entryKey⟩
    rcases opened.joined located with ⟨domain, joined⟩
    have domainKey : domain.key = key := joined.key.trans entryKey
    subst domainKey
    rcases exists_turn req (ownerRouter req) joined.listed with ⟨before, turn⟩
    have sound := Turn.sound turn (distinctEntities_of_nodup distinct)
    have granted (entity : Entity) (member : domainOf req entity = some domain.key) :
        (ledgerOf req.nodes (domainNodeIndexes req.nodes (normalizeRouters req.routers)
          (ownerRouter req) domain.key) (turnEnd req (ownerRouter req) domain before)).granted entity =
            parseIPTo4 ((allocate req).assignedIP entity) := by
      rw [domainOf_eq_some] at member
      rw [allocate_of_routerDomain served, turn.final entity member]
      simp only [ledgerOf, member, if_true]
    have address (entity : Entity) (member : domainOf req entity = some domain.key)
        (assigned : (allocate req).assignedIP entity ≠ "") :
        ∃ ip, parseIPTo4 ((allocate req).assignedIP entity) = some ip ∧
          (allocate req).assignedIP entity = formatIPv4 ip := by
      have text := turn.isAddressText (domainOf_eq_some.mp member)
      rw [← allocate_of_routerDomain served] at text
      rcases text.resolve_left assigned with ⟨ip, bound, equal⟩
      exact ⟨ip, equal ▸ parseIPTo4_formatIPv4 ip bound, equal⟩
    refine ⟨?_, ?_⟩
    · intro entity member assigned
      rcases address entity member assigned with ⟨ip, read, text⟩
      have facts := sound.granted ((granted entity member).trans read)
      exact ⟨ip, read, text, safeAddress_of_pool joined.listed facts.1 facts.2.1⟩
    · intro left right leftMember rightMember assigned same
      rcases address left leftMember assigned with ⟨ip, read, _⟩
      exact sound.grantedOnce ((granted left leftMember).trans read)
        ((granted right rightMember).trans (same ▸ read))
  · refine ⟨?_, ?_⟩
    · intro entity member
      exact absurd (exists_router_of_domainOf member) served
    · intro left right member
      exact absurd (exists_router_of_domainOf member) served

/-- Two routers on one network, with a switch and a server with a guest. -/
def sharedNetwork : AllocateRequest where
  routers :=
    [ { id := "r1", gatewayIP := "10.0.0.1", dhcpEnabled := true },
      { id := "r2", gatewayIP := "10.0.0.2" } ]
  nodes :=
    [ { id := "sw1", type := "switch", connections := ["r1"], existingIP := "10.0.0.2" },
      { id := "srv1", type := "server", connections := ["r2"], vms := [{ id := "vm1" }] } ]

theorem allocate_addressSafe_sharedNetwork :
    AddressSafe sharedNetwork (10 * 2 ^ 24, 2 ^ 32 - 2 ^ 8) :=
  allocate_addressSafe sharedNetwork (by decide) _

/-! ## Across domains -/

inductive Holder
  | gateway (ri : Nat)
  | device (entity : Entity)
  deriving DecidableEq

def AllocateResponse.addressOf (resp : AllocateResponse) : Holder → Option Nat
  | .gateway ri => resp.routers[ri]?.bind fun router => parseIPTo4 router.gatewayIP
  | .device entity => parseIPTo4 (resp.assignedIP entity)

/-- Routers on different networks share no address. -/
def SubnetsApart (req : AllocateRequest) : Prop :=
  ∀ left ∈ normalizeRouters req.routers, ∀ right ∈ normalizeRouters req.routers,
    left.domain ≠ right.domain →
    left.domain.broadcast < right.domain.1 ∨ right.domain.broadcast < left.domain.1

instance (req : AllocateRequest) : Decidable (SubnetsApart req) :=
  inferInstanceAs (Decidable (∀ left ∈ normalizeRouters req.routers,
    ∀ right ∈ normalizeRouters req.routers, left.domain ≠ right.domain →
    left.domain.broadcast < right.domain.1 ∨ right.domain.broadcast < left.domain.1))

/-- The ids of routers, nodes and guests do not repeat. -/
def DistinctIDs (req : AllocateRequest) : Prop :=
  (req.routers.map (·.id) ++ entityIDs req.nodes).Nodup

theorem DistinctIDs.entities {req : AllocateRequest} (distinct : DistinctIDs req) :
    (entityIDs req.nodes).Nodup :=
  (List.nodup_append.mp distinct).2.1

def holderDomain (req : AllocateRequest) : Holder → Option DomainKey
  | .gateway ri => routerDomain (normalizeRouters req.routers) ri
  | .device entity => domainOf req entity

theorem domainOf_of_assignedIP {req : AllocateRequest} {entity : Entity}
    (assigned : (allocate req).assignedIP entity ≠ "") :
    ∃ key, domainOf req entity = some key := by
  by_contra foreign
  apply assigned
  unfold allocate
  split
  · exact assignedIPIn_emptyResults _ _
  · refine (foldl_runDomain_frame _ fun domain _ member => ?_).trans
      (assignedIPIn_emptyResults _ _)
    exact foreign ⟨domain.key, domainOf_eq_some.mpr member⟩

theorem gateway_of_addressOf {req : AllocateRequest} {ri ip : Nat}
    (shown : (allocate req).addressOf (.gateway ri) = some ip) :
    ∃ entry, (normalizeRouters req.routers)[ri]? = some entry ∧
      parseIPTo4 entry.router.gatewayIP = some ip := by
  rcases Option.bind_eq_some_iff.mp shown with ⟨router, listed, read⟩
  have served : ∃ key, routerDomain (normalizeRouters req.routers) ri = some key := by
    unfold allocate at listed
    split at listed
    · cases listed
    · have opened := opened_openDomains req.routers req.nodes (ownerRouter req)
      rw [allocateOwned_routers] at listed
      have bound := (List.getElem?_eq_some_iff.mp listed).1
      rw [opened.length] at bound
      exact ⟨_, routerDomain_eq_some.mpr ⟨_, List.getElem?_eq_getElem bound, rfl⟩⟩
  rcases served with ⟨key, served⟩
  rcases routerDomain_eq_some.mp served with ⟨entry, located, _⟩
  have opened := opened_openDomains req.routers req.nodes (ownerRouter req)
  rcases opened.joined located with ⟨domain, joined⟩
  rcases joined.result with ⟨sa, demand, result, _⟩
  rw [allocate_of_routerDomain served, allocateOwned_routers, result] at listed
  cases listed
  refine ⟨entry, located, ?_⟩
  rw [routerResult_gatewayIP] at read
  exact read

theorem addressOf_within {req : AllocateRequest} (distinct : (entityIDs req.nodes).Nodup)
    {holder : Holder} {ip : Nat} (shown : (allocate req).addressOf holder = some ip) :
    ∃ key ri, holderDomain req holder = some key ∧
      routerDomain (normalizeRouters req.routers) ri = some key ∧
      ip ∈ Set.Icc key.1 key.broadcast := by
  cases holder with
  | gateway ri =>
      rcases gateway_of_addressOf shown with ⟨entry, located, read⟩
      have served : routerDomain (normalizeRouters req.routers) ri = some entry.domain :=
        routerDomain_eq_some.mpr ⟨entry, located, rfl⟩
      have normal := isNormal_of_mem (List.mem_of_getElem? located)
      exact ⟨entry.domain, ri, served, served, normal.gateway_within read⟩
  | device entity =>
      have assigned : (allocate req).assignedIP entity ≠ "" := by
        intro empty
        rw [AllocateResponse.addressOf, empty] at shown
        cases shown
      rcases domainOf_of_assignedIP assigned with ⟨key, member⟩
      rcases exists_router_of_domainOf member with ⟨ri, served⟩
      rcases (allocate_addressSafe req distinct key).safe entity member assigned with
        ⟨other, read, _, safe⟩
      have same : other = ip := Option.some.inj (read.symm.trans shown)
      subst same
      exact ⟨key, ri, member, served, Nat.le_of_lt safe.inside.1, Nat.le_of_lt safe.inside.2⟩

theorem gateway_injective {req : AllocateRequest} (quiet : (allocate req).conflicts = [])
    {left right ip : Nat} {leftEntry rightEntry : NormalRouter}
    (leftLocated : (normalizeRouters req.routers)[left]? = some leftEntry)
    (rightLocated : (normalizeRouters req.routers)[right]? = some rightEntry)
    (sameDomain : leftEntry.domain = rightEntry.domain)
    (leftRead : parseIPTo4 leftEntry.router.gatewayIP = some ip)
    (rightRead : parseIPTo4 rightEntry.router.gatewayIP = some ip) : left = right := by
  have served : routerDomain (normalizeRouters req.routers) left = some leftEntry.domain :=
    routerDomain_eq_some.mpr ⟨leftEntry, leftLocated, rfl⟩
  have opened := opened_openDomains req.routers req.nodes (ownerRouter req)
  have openingQuiet :
      (openDomains req.nodes (normalizeRouters req.routers) (ownerRouter req)).conflicts = [] := by
    rw [allocate_of_routerDomain served] at quiet
    have start := allocateOwned_conflicts req (ownerRouter req)
    rw [quiet, List.prefix_nil] at start
    exact (List.append_eq_nil_iff.mp start).2
  have apart := List.pairwise_iff_getElem.mp (opened.gateways openingQuiet)
  rcases List.getElem?_eq_some_iff.mp leftLocated with ⟨leftBound, rfl⟩
  rcases List.getElem?_eq_some_iff.mp rightLocated with ⟨rightBound, rfl⟩
  have sameGateway : ipToUint32 (normalizeRouters req.routers)[left].router.gatewayIP =
      ipToUint32 (normalizeRouters req.routers)[right].router.gatewayIP := by
    simp only [ipToUint32, leftRead, rightRead]
  rcases Nat.lt_trichotomy left right with before | same | behind
  · exact absurd sameGateway (apart _ _ leftBound rightBound before sameDomain)
  · exact same
  · exact absurd sameGateway.symm (apart _ _ rightBound leftBound behind sameDomain.symm)

/-- In a response without conflicts, no address occurs twice, as long as
routers on different networks share none. -/
theorem allocate_addresses_unique (req : AllocateRequest) (distinct : DistinctIDs req)
    (apart : SubnetsApart req) (quiet : (allocate req).conflicts = [])
    (left right : Holder) (ip : Nat) (leftShown : (allocate req).addressOf left = some ip)
    (rightShown : (allocate req).addressOf right = some ip) : left = right := by
  rcases addressOf_within distinct.entities leftShown with
    ⟨leftKey, leftRouter, leftDomain, leftServed, leftInside⟩
  rcases addressOf_within distinct.entities rightShown with
    ⟨rightKey, rightRouter, rightDomain, rightServed, rightInside⟩
  have sameKey : leftKey = rightKey := by
    by_contra different
    rcases routerDomain_eq_some.mp leftServed with ⟨leftEntry, leftLocated, rfl⟩
    rcases routerDomain_eq_some.mp rightServed with ⟨rightEntry, rightLocated, rfl⟩
    rcases apart leftEntry (List.mem_of_getElem? leftLocated) rightEntry
        (List.mem_of_getElem? rightLocated) different with below | above
    · exact Nat.lt_irrefl _ (Nat.lt_of_le_of_lt (leftInside.2.trans' rightInside.1) below)
    · exact Nat.lt_irrefl _ (Nat.lt_of_le_of_lt (rightInside.2.trans' leftInside.1) above)
  subst sameKey
  have safe := allocate_addressSafe req distinct.entities leftKey
  -- A device never has a gateway address of its own domain.
  have device {entity : Entity} {ri : Nat} (member : domainOf req entity = some leftKey)
      (served : routerDomain (normalizeRouters req.routers) ri = some leftKey)
      (ofDevice : (allocate req).addressOf (.device entity) = some ip)
      (ofGateway : (allocate req).addressOf (.gateway ri) = some ip) : False := by
    have assigned : (allocate req).assignedIP entity ≠ "" := by
      intro empty
      rw [AllocateResponse.addressOf, empty] at ofDevice
      cases ofDevice
    rcases safe.safe entity member assigned with ⟨other, read, _, outside⟩
    have same : other = ip := Option.some.inj (read.symm.trans ofDevice)
    rcases outside.outside ri served with ⟨router, listed, _, foreign⟩
    rcases Option.bind_eq_some_iff.mp ofGateway with ⟨shown, located, gateway⟩
    rw [listed] at located
    cases located
    exact foreign (same ▸ gateway)
  cases left with
  | gateway leftIndex =>
      cases right with
      | gateway rightIndex =>
          rcases gateway_of_addressOf leftShown with ⟨leftEntry, leftLocated, leftRead⟩
          rcases gateway_of_addressOf rightShown with ⟨rightEntry, rightLocated, rightRead⟩
          have sameDomain : leftEntry.domain = rightEntry.domain := by
            rcases routerDomain_eq_some.mp leftDomain with ⟨_, again, leftKeyed⟩
            rcases routerDomain_eq_some.mp rightDomain with ⟨_, alsoAgain, rightKeyed⟩
            rw [leftLocated] at again
            rw [rightLocated] at alsoAgain
            cases again
            cases alsoAgain
            exact leftKeyed.trans rightKeyed.symm
          rw [gateway_injective quiet leftLocated rightLocated sameDomain leftRead rightRead]
      | device entity => exact (device rightDomain leftDomain rightShown leftShown).elim
  | device leftEntity =>
      cases right with
      | gateway ri => exact (device leftDomain rightDomain leftShown rightShown).elim
      | device rightEntity =>
          have assigned : (allocate req).assignedIP leftEntity ≠ "" := by
            intro empty
            rw [AllocateResponse.addressOf, empty] at leftShown
            cases leftShown
          rcases safe.safe leftEntity leftDomain assigned with ⟨leftIP, leftRead, leftText, _⟩
          have rightAssigned : (allocate req).assignedIP rightEntity ≠ "" := by
            intro empty
            rw [AllocateResponse.addressOf, empty] at rightShown
            cases rightShown
          rcases safe.safe rightEntity rightDomain rightAssigned with
            ⟨rightIP, rightRead, rightText, _⟩
          have same : leftIP = rightIP := Option.some.inj
            ((leftRead.symm.trans leftShown).trans (rightRead.symm.trans rightShown).symm)
          rw [safe.distinct leftEntity rightEntity leftDomain rightDomain assigned
            (by rw [leftText, rightText, same])]

def sideBySide : AllocateRequest where
  routers := [{ id := "r1", gatewayIP := "10.0.0.1" }, { id := "r2", gatewayIP := "10.0.1.1" }]
  nodes :=
    [ { id := "sw1", type := "switch", connections := ["r1"] },
      { id := "sw2", type := "switch", connections := ["r2"] } ]

theorem allocate_addresses_unique_sideBySide :
    (allocate sideBySide).addressOf (.device (.node 0)) ≠
      (allocate sideBySide).addressOf (.device (.node 1)) := by
  intro same
  have shown : (allocate sideBySide).addressOf (.device (.node 0)) = some (10 * 2 ^ 24 + 10) := by
    decide
  have equal := allocate_addresses_unique sideBySide (by unfold DistinctIDs; decide)
    (by decide) (by decide) _ _ _ shown (same ▸ shown)
  cases equal

def nestedSubnets : AllocateRequest where
  routers :=
    [ { id := "r1", gatewayIP := "10.0.0.1", subnet := "10.0.0.1/16" },
      { id := "r2", gatewayIP := "10.0.1.1", subnet := "10.0.1.1/24" } ]
  nodes :=
    [ { id := "sw1", type := "switch", connections := ["r1"], existingIP := "10.0.1.10" },
      { id := "sw2", type := "switch", connections := ["r2"] } ]

/-- Overlapping networks can hand out the same address without a conflict. -/
theorem nestedSubnets_share_an_address :
    ¬ ∀ req : AllocateRequest, DistinctIDs req → (allocate req).conflicts = [] →
      ∀ (left right : Holder) (ip : Nat), (allocate req).addressOf left = some ip →
        (allocate req).addressOf right = some ip → left = right := by
  intro claim
  have equal := claim nestedSubnets (by unfold DistinctIDs; decide) (by decide)
    (.device (.node 0)) (.device (.node 1)) (10 * 2 ^ 24 + 2 ^ 8 + 10)
    (by decide) (by decide)
  cases equal

end HomelabBuilder.Ipam
