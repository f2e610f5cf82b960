import Mathlib.Data.List.Nodup
import HomelabBuilder.Foundation.Table
import HomelabBuilder.Ipam.Steps

/-! # Opening the domains

What the loop over the routers leaves behind: one domain for each network and
mask, in which the gateway of every router of the domain is taken.
-/

namespace HomelabBuilder.Ipam

open Net

/-- The last address of a domain, `network + capacity`. -/
def DomainKey.broadcast (key : DomainKey) : Nat := key.1 + (2 ^ 32 - 1 - key.2)

/-! ## Normalised routers -/

theorem parseCIDR_capacity {text : String} {subnet : Subnet}
    (parsed : parseCIDR text = some subnet) : subnet.capacity = 2 ^ 32 - 1 - subnet.mask := by
  have ofPrefix {subnet : Subnet} (parsed : parsePrefix text = some subnet) :
      subnet.capacity = 2 ^ 32 - 1 - subnet.mask := by
    unfold parsePrefix at parsed
    split at parsed
    · cases parsed
      rfl
    · rcases Option.map_eq_some_iff.mp parsed with ⟨_, _, rfl⟩
      rfl
  unfold parseCIDR at parsed
  split at parsed
  · split at parsed
    · split at parsed
      · cases parsed
      · split at parsed
        · cases parsed
          rfl
        · exact ofPrefix parsed
    · exact ofPrefix parsed
  · exact ofPrefix parsed

/-- Either the subnet of a router is usable with its gateway, or the router
moves to the /24 of the gateway. -/
theorem normalizeSubnet_cases (router : RouterDTO) :
    (normalizeSubnet router).router.gatewayIP = router.gatewayIP ∧
      ((∃ subnet, parseCIDR (normalizeSubnet router).router.subnet = some subnet ∧
          gatewayFits (ipToUint32 router.gatewayIP) subnet = true ∧
          (normalizeSubnet router).domain = (subnet.network, subnet.mask)) ∨
        ((normalizeSubnet router).router.subnet = router.gatewayIP ++ "/24" ∧
          (normalizeSubnet router).domain =
            (((parseCIDR (router.gatewayIP ++ "/24")).getD .zero).network,
              ((parseCIDR (router.gatewayIP ++ "/24")).getD .zero).mask))) := by
  unfold normalizeSubnet
  dsimp only
  split
  · exact ⟨rfl, .inr ⟨rfl, rfl⟩⟩
  · rename_i subnet parsed
    split
    · rename_i fits
      exact ⟨rfl, .inl ⟨subnet, parsed, fits, rfl⟩⟩
    · exact ⟨rfl, .inr ⟨rfl, rfl⟩⟩

/-- The subnet the allocator of a router works on. -/
def NormalRouter.subnet (normal : NormalRouter) : Subnet :=
  (parseCIDR normal.router.subnet).getD
    ((parseCIDR (normal.router.gatewayIP ++ "/24")).getD .zero)

theorem normalizeSubnet_domain (router : RouterDTO) :
    (normalizeSubnet router).domain =
        ((normalizeSubnet router).subnet.network, (normalizeSubnet router).subnet.mask) ∧
      ((normalizeSubnet router).subnet.capacity =
          2 ^ 32 - 1 - (normalizeSubnet router).subnet.mask ∨
        (normalizeSubnet router).subnet.capacity = 0) := by
  unfold NormalRouter.subnet
  rcases normalizeSubnet_cases router with ⟨gateway, ⟨subnet, parsed, _, domain⟩ | ⟨own, domain⟩⟩
  · rw [parsed, domain]
    exact ⟨rfl, .inl (parseCIDR_capacity parsed)⟩
  · rw [own, domain, gateway]
    cases parsed : parseCIDR (router.gatewayIP ++ "/24") with
    | none => exact ⟨rfl, .inr rfl⟩
    | some subnet => exact ⟨rfl, .inl (parseCIDR_capacity parsed)⟩

theorem newSubnetAllocator_network (normal : NormalRouter) (dhcp : Bool) (demand : Int) :
    (newSubnetAllocator normal.router.subnet normal.router.gatewayIP dhcp demand).network =
        normal.subnet.network ∧
      (newSubnetAllocator normal.router.subnet normal.router.gatewayIP dhcp demand).capacity =
        normal.subnet.capacity := by
  unfold newSubnetAllocator
  dsimp only
  split <;> exact ⟨rfl, rfl⟩

theorem dhcpPool_lt (network capacity : Nat) (demand : Int) :
    (dhcpPool network capacity demand).1 < 2 ^ 32 ∧
      (dhcpPool network capacity demand).2 < 2 ^ 32 := by
  unfold dhcpPool
  dsimp only
  generalize (if capacity < 100 then capacity / 4 else 50) = offset
  split
  · exact ⟨by decide, by decide⟩
  · split <;> exact ⟨wrap32_lt _, wrap32_lt _⟩

theorem newSubnetAllocator_dhcp_lt (subnetText gatewayIP : String) (dhcp : Bool) (demand : Int) :
    (newSubnetAllocator subnetText gatewayIP dhcp demand).dhcpStart < 2 ^ 32 ∧
      (newSubnetAllocator subnetText gatewayIP dhcp demand).dhcpEnd < 2 ^ 32 := by
  simp only [newSubnetAllocator]
  cases (dhcp && decide (1 < ((parseCIDR subnetText).getD
      ((parseCIDR (gatewayIP ++ "/24")).getD .zero)).capacity)) with
  | true => exact dhcpPool_lt _ _ _
  | false => exact ⟨Nat.two_pow_pos 32, Nat.two_pow_pos 32⟩

/-- The entries of `normalizeRouters`. -/
def IsNormal (entry : NormalRouter) : Prop :=
  ∃ router issues, entry = { normalizeSubnet router with issues := issues }

theorem isNormal_of_mem {routers : List RouterDTO} {entry : NormalRouter}
    (member : entry ∈ normalizeRouters routers) : IsNormal entry := by
  rcases List.mem_map.mp member with ⟨⟨router, index⟩, _, rfl⟩
  exact ⟨(normalizeGateway index router).1, _, rfl⟩

theorem parseCIDR_own {gateway : String} {ip : Nat} (readable : parseIPTo4 gateway = some ip) :
    ∃ subnet, parseCIDR (gateway ++ "/24") = some subnet ∧ subnet.network ≤ ip ∧
      ip ≤ DomainKey.broadcast (subnet.network, subnet.mask) := by
  rcases netParseCIDR_own readable with ⟨network, mask, parsed, low, high⟩
  rcases Option.bind_eq_some_iff.mp readable with ⟨_, ipParsed, _⟩
  rcases Option.map_eq_some_iff.mp ipParsed with ⟨_, read, _⟩
  have parts : cut '/' (gateway ++ "/24").toList = some (gateway.toList, ['2', '4']) := by
    rw [String.toList_append]
    exact cut_append _ (slash_not_mem_of_parseAddr read)
  have noDot : ¬ '.' ∈ ['2', '4'] := by decide
  refine ⟨.ofMask ((to4 network).getD 0) ((to4 mask).getD 0), ?_, low, high⟩
  simp only [parseCIDR, parts, noDot, if_false, parsePrefix, parsed]

theorem IsNormal.gateway_within {entry : NormalRouter} (normal : IsNormal entry) {ip : Nat}
    (readable : parseIPTo4 entry.router.gatewayIP = some ip) :
    entry.domain.1 ≤ ip ∧ ip ≤ entry.domain.broadcast := by
  rcases normal with ⟨router, issues, rfl⟩
  rcases normalizeSubnet_cases router with ⟨gateway, ⟨subnet, parsed, fits, domain⟩ | ⟨_, domain⟩⟩
  · dsimp only at readable ⊢
    rw [gateway] at readable
    have value : ipToUint32 router.gatewayIP = ip := by
      rw [ipToUint32, readable]
      rfl
    simp only [gatewayFits, value, Bool.and_eq_true, decide_eq_true_eq] at fits
    have below := Nat.lt_of_lt_of_le fits.2 (wrap32_le _)
    rw [parseCIDR_capacity parsed] at below
    rw [domain]
    exact ⟨Nat.le_of_lt fits.1.2, Nat.le_of_lt below⟩
  · dsimp only at readable ⊢
    rw [gateway] at readable
    rcases parseCIDR_own readable with ⟨subnet, parsed, low, high⟩
    rw [domain, parsed]
    exact ⟨low, high⟩

/-! ## Domains -/

/-- What holds of a domain from its opening on. -/
structure AllocationDomain.WellFormed (domain : AllocationDomain) : Prop where
  within : ∀ ip, domain.allocator.isUsable ip = true →
    domain.key.1 < ip ∧ ip < domain.key.broadcast
  /-- Nobody can be given an address that has an owner. -/
  owned : ∀ ip, (domain.owners.lookup ip).isSome = true →
    ip ∈ domain.allocator.used ∨ domain.allocator.isUsable ip = false
  dhcpStart : domain.allocator.dhcpStart < 2 ^ 32
  dhcpEnd : domain.allocator.dhcpEnd < 2 ^ 32

theorem newDomain_wellFormed (normal : List NormalRouter) (demand : DomainKey → Int)
    (router : RouterDTO) (issues : List Issue) :
    (newDomain normal demand
      { normalizeSubnet router with issues := issues }).WellFormed := by
  have spelled := normalizeSubnet_domain router
  have fields := newSubnetAllocator_network (normalizeSubnet router)
    (domainDHCP normal (normalizeSubnet router).domain) (demand (normalizeSubnet router).domain)
  have pool := newSubnetAllocator_dhcp_lt (normalizeSubnet router).router.subnet
    (normalizeSubnet router).router.gatewayIP (domainDHCP normal (normalizeSubnet router).domain)
    (demand (normalizeSubnet router).domain)
  refine ⟨?_, ?_, pool.1, pool.2⟩
  · intro ip usable
    rcases SubnetAllocator.isUsable_iff.mp usable with ⟨wide, above, below⟩
    simp only [newDomain, fields.1, fields.2] at wide above below
    simp only [newDomain, DomainKey.broadcast, spelled.1]
    have unwrapped := Nat.lt_of_lt_of_le below (wrap32_le _)
    refine ⟨above, ?_⟩
    rcases spelled.2 with capacity | capacity
    · rwa [capacity] at unwrapped
    · rw [capacity] at wide
      cases wide
  · intro ip known
    right
    by_contra usable
    rw [Bool.not_eq_false, SubnetAllocator.isUsable_iff] at usable
    simp only [newDomain, Table.lookup_cons] at known usable
    split at known
    · rename_i broadcast
      omega
    · split at known
      · rename_i network
        omega
      · cases known

structure AllocationDomain.Grows (old new : AllocationDomain) : Prop where
  key : new.key = old.key
  dhcpStart : new.allocator.dhcpStart = old.allocator.dhcpStart
  dhcpEnd : new.allocator.dhcpEnd = old.allocator.dhcpEnd
  owners : ∀ ip, (old.owners.lookup ip).isSome = true → (new.owners.lookup ip).isSome = true

theorem AllocationDomain.Grows.refl (domain : AllocationDomain) : domain.Grows domain :=
  ⟨rfl, rfl, rfl, fun _ known => known⟩

theorem joinDomain_cases (domain : AllocationDomain) (router : RouterDTO) :
    ((domain.owners.lookup (ipToUint32 router.gatewayIP)).isSome = true ∧
      (joinDomain domain router).1 = domain ∧ (joinDomain domain router).2 ≠ []) ∨
    ((domain.owners.lookup (ipToUint32 router.gatewayIP)).isSome = false ∧
      (joinDomain domain router).1 =
        { domain with
          allocator := domain.allocator.markUsed (ipToUint32 router.gatewayIP)
          owners := (ipToUint32 router.gatewayIP, router.id) :: domain.owners }) := by
  cases known : domain.owners.lookup (ipToUint32 router.gatewayIP) with
  | some previous =>
      left
      simp [joinDomain, known]
  | none =>
      right
      simp [joinDomain, known]

theorem joinDomain_grows (domain : AllocationDomain) (router : RouterDTO) :
    domain.Grows (joinDomain domain router).1 := by
  rcases joinDomain_cases domain router with ⟨_, same, _⟩ | ⟨_, joined⟩
  · rw [same]
    exact .refl domain
  · rw [joined]
    refine ⟨rfl, rfl, rfl, fun ip known => ?_⟩
    rw [Table.lookup_cons]
    split
    · rfl
    · exact known

theorem joinDomain_wellFormed {domain : AllocationDomain} (router : RouterDTO)
    (wellFormed : domain.WellFormed) : (joinDomain domain router).1.WellFormed := by
  rcases joinDomain_cases domain router with ⟨_, same, _⟩ | ⟨_, joined⟩
  · rw [same]
    exact wellFormed
  · rw [joined]
    refine ⟨wellFormed.within, ?_, wellFormed.dhcpStart, wellFormed.dhcpEnd⟩
    intro ip known
    rw [Table.lookup_cons] at known
    split at known
    · rename_i gateway
      exact .inl (gateway ▸ List.mem_cons_self)
    · exact (wellFormed.owned ip known).imp (List.mem_cons_of_mem _) id

theorem joinDomain_gateway (domain : AllocationDomain) (router : RouterDTO) :
    ((joinDomain domain router).1.owners.lookup (ipToUint32 router.gatewayIP)).isSome = true := by
  rcases joinDomain_cases domain router with ⟨known, same, _⟩ | ⟨_, joined⟩
  · rw [same]
    exact known
  · simp [joined]

theorem joinDomain_free {domain : AllocationDomain} {router : RouterDTO}
    (quiet : (joinDomain domain router).2 = []) :
    (domain.owners.lookup (ipToUint32 router.gatewayIP)).isSome = false := by
  rcases joinDomain_cases domain router with ⟨_, _, reported⟩ | ⟨free, _⟩
  · exact absurd quiet reported
  · exact free

/-! ## The loop -/

structure Joined (pass : DomainPass) (index : Nat) (entry : NormalRouter)
    (domain : AllocationDomain) : Prop where
  listed : domain ∈ pass.domains
  key : domain.key = entry.domain
  gateway : (domain.owners.lookup (ipToUint32 entry.router.gatewayIP)).isSome = true
  result : ∃ sa demand, pass.routers[index]? = some (routerResult entry sa demand) ∧
    sa.dhcpStart = domain.allocator.dhcpStart ∧ sa.dhcpEnd = domain.allocator.dhcpEnd

/-- What holds once the routers of `done` have joined. -/
structure Opened (done : List NormalRouter) (pass : DomainPass) : Prop where
  keys : (pass.domains.map (·.key)).Nodup
  wellFormed : ∀ domain ∈ pass.domains, domain.WellFormed
  sourced : ∀ domain ∈ pass.domains, ∃ entry ∈ done, entry.domain = domain.key
  length : pass.routers.length = done.length
  joined : ∀ {index entry}, done[index]? = some entry → ∃ domain, Joined pass index entry domain
  /-- Without conflicts, routers of one domain have different gateways. -/
  gateways : pass.conflicts = [] → done.Pairwise fun left right =>
    left.domain = right.domain →
      ipToUint32 left.router.gatewayIP ≠ ipToUint32 right.router.gatewayIP

theorem eq_of_key_eq {domains : List AllocationDomain} (keys : (domains.map (·.key)).Nodup)
    {left right : AllocationDomain} (leftMember : left ∈ domains) (rightMember : right ∈ domains)
    (same : left.key = right.key) : left = right :=
  List.inj_on_of_nodup_map keys leftMember rightMember same

/-- The common part of both branches of `openDomain`: the domains of the new
pass grow out of the old ones, and the entry has joined the last. -/
private theorem Opened.extend {done : List NormalRouter} {pass next : DomainPass}
    {entry : NormalRouter} {sa : SubnetAllocator} {demand : Int} (opened : Opened done pass)
    (joined : AllocationDomain) (keys : (next.domains.map (·.key)).Nodup)
    (routers : next.routers = pass.routers ++ [routerResult entry sa demand])
    (grown : ∀ domain ∈ pass.domains, ∃ later ∈ next.domains, domain.Grows later)
    (origin : ∀ domain ∈ next.domains, domain = joined ∨ domain ∈ pass.domains)
    (listed : joined ∈ next.domains) (wellFormed : joined.WellFormed)
    (key : joined.key = entry.domain)
    (gateway : (joined.owners.lookup (ipToUint32 entry.router.gatewayIP)).isSome = true)
    (dhcpStart : sa.dhcpStart = joined.allocator.dhcpStart)
    (dhcpEnd : sa.dhcpEnd = joined.allocator.dhcpEnd)
    (quiet : next.conflicts = [] → pass.conflicts = [] ∧
      ∀ domain ∈ pass.domains, domain.key = entry.domain →
        (domain.owners.lookup (ipToUint32 entry.router.gatewayIP)).isSome = false) :
    Opened (done ++ [entry]) next := by
  refine ⟨keys, ?_, ?_, by simp [routers, opened.length], ?_, ?_⟩
  · intro domain member
    rcases origin domain member with rfl | old
    · exact wellFormed
    · exact opened.wellFormed domain old
  · intro domain member
    rcases origin domain member with rfl | old
    · exact ⟨entry, by simp, key.symm⟩
    · rcases opened.sourced domain old with ⟨source, known, equal⟩
      exact ⟨source, List.mem_append_left _ known, equal⟩
  · intro index other located
    by_cases last : index = done.length
    · subst last
      have same : entry = other := by simpa using located
      subst same
      refine ⟨joined, listed, key, gateway, sa, demand, ?_, dhcpStart, dhcpEnd⟩
      rw [routers, ← opened.length, List.getElem?_concat_length]
    · have bound := (List.getElem?_eq_some_iff.mp located).1
      have inside : index < done.length := by
        simp only [List.length_append, List.length_singleton] at bound
        omega
      rw [List.getElem?_append_left inside] at located
      rcases opened.joined located with ⟨domain, old⟩
      rcases grown domain old.listed with ⟨later, member, grows⟩
      rcases old.result with ⟨oldAllocator, oldDemand, shown, start, stop⟩
      refine ⟨later, member, grows.key.trans old.key, grows.owners _ old.gateway,
        oldAllocator, oldDemand, ?_, start.trans grows.dhcpStart.symm,
        stop.trans grows.dhcpEnd.symm⟩
      rw [routers, List.getElem?_append_left (opened.length ▸ inside)]
      exact shown
  · intro silent
    rcases quiet silent with ⟨before, free⟩
    rw [List.pairwise_append]
    refine ⟨opened.gateways before, List.pairwise_singleton _ _, ?_⟩
    intro other known last isLast sameDomain sameGateway
    rw [List.mem_singleton.mp isLast] at sameDomain sameGateway
    rcases List.getElem?_of_mem known with ⟨index, located⟩
    rcases opened.joined located with ⟨domain, joined⟩
    have unknown := free domain joined.listed (joined.key.trans sameDomain)
    rw [← sameGateway, joined.gateway] at unknown
    cases unknown

theorem Opened.openDomain {normal done : List NormalRouter} {demand : DomainKey → Int}
    {pass : DomainPass} (opened : Opened done pass) (router : RouterDTO) (issues : List Issue) :
    Opened (done ++ [{ normalizeSubnet router with issues := issues }])
      (openDomain normal demand pass { normalizeSubnet router with issues := issues }) := by
  generalize shape : ({ normalizeSubnet router with issues := issues } : NormalRouter) = entry
  unfold Ipam.openDomain
  cases found : pass.domains.find? (·.key = entry.domain) with
  | some domain =>
      have member := List.mem_of_find?_eq_some found
      have key : domain.key = entry.domain := by simpa using List.find?_some found
      have grows := joinDomain_grows domain entry.router
      have replaced : ∀ other ∈ pass.domains,
          (if other.key = entry.domain then (joinDomain domain entry.router).1 else other).key =
            other.key := by
        intro other _
        split
        · rename_i same
          exact grows.key.trans (key.trans same.symm)
        · rfl
      refine opened.extend (joinDomain domain entry.router).1 ?_ rfl ?_ ?_ ?_
        (joinDomain_wellFormed _ (opened.wellFormed domain member)) (grows.key.trans key)
        (joinDomain_gateway _ _) grows.dhcpStart.symm grows.dhcpEnd.symm ?_
      · rw [List.map_map, List.map_congr_left (g := (·.key)) replaced]
        exact opened.keys
      · intro other old
        refine ⟨_, List.mem_map_of_mem old, ?_⟩
        split
        · rename_i same
          rw [eq_of_key_eq opened.keys old member (same.trans key.symm)]
          exact grows
        · exact .refl other
      · intro other new
        rcases List.mem_map.mp new with ⟨old, oldMember, rfl⟩
        split
        · exact .inl rfl
        · exact .inr oldMember
      · exact List.mem_map.mpr ⟨domain, member, by simp [key]⟩
      · intro silent
        rcases List.append_eq_nil_iff.mp silent with ⟨before, quiet⟩
        refine ⟨before, fun other old same => ?_⟩
        rw [eq_of_key_eq opened.keys old member (same.trans key.symm)]
        exact joinDomain_free quiet
  | none =>
      have unknown : ∀ domain ∈ pass.domains, domain.key ≠ entry.domain := by
        simpa using found
      have grows := joinDomain_grows (newDomain normal demand entry) entry.router
      have wellFormed : (newDomain normal demand entry).WellFormed :=
        shape ▸ newDomain_wellFormed normal demand router issues
      refine opened.extend (joinDomain (newDomain normal demand entry) entry.router).1
        ?_ rfl ?_ ?_ ?_ (joinDomain_wellFormed _ wellFormed) grows.key
        (joinDomain_gateway _ _) grows.dhcpStart.symm grows.dhcpEnd.symm ?_
      · rw [List.map_append, List.nodup_append]
        refine ⟨opened.keys, by simp, ?_⟩
        intro key old other new
        rcases List.mem_map.mp old with ⟨domain, member, rfl⟩
        rw [List.map_singleton, List.mem_singleton] at new
        rw [new, grows.key]
        exact unknown domain member
      · intro domain old
        exact ⟨domain, List.mem_append_left _ old, .refl domain⟩
      · intro domain new
        exact (List.mem_append.mp new).symm.imp_left List.mem_singleton.mp
      · simp
      · intro silent
        exact ⟨(List.append_eq_nil_iff.mp silent).1, fun domain old same =>
          absurd same (unknown domain old)⟩

private theorem Opened.foldl {normal : List NormalRouter} {demand : DomainKey → Int} :
    ∀ (rest done : List NormalRouter) {pass : DomainPass},
    (∀ entry ∈ rest, IsNormal entry) → Opened done pass →
    Opened (done ++ rest) (rest.foldl (Ipam.openDomain normal demand) pass)
  | [], done, pass, _, opened => by simpa using opened
  | head :: tail, done, pass, normalized, opened => by
      rw [List.append_cons, List.foldl_cons]
      rcases normalized head List.mem_cons_self with ⟨router, issues, rfl⟩
      exact Opened.foldl tail _
        (fun entry member => normalized entry (List.mem_cons_of_mem _ member))
        (opened.openDomain router issues)

theorem opened_openDomains (routers : List RouterDTO) (nodes : List NodeDTO)
    (owner : String → Option Nat) :
    Opened (normalizeRouters routers) (openDomains nodes (normalizeRouters routers) owner) := by
  have empty : Opened [] { domains := [], routers := [], conflicts := [], warnings := [] } := by
    refine ⟨List.nodup_nil, ?_, ?_, rfl, ?_, ?_⟩ <;> simp
  exact Opened.foldl (normalizeRouters routers) [] (fun _ member => isNormal_of_mem member) empty

/-! ## What all domains have in common -/

/-- What holds of every new domain, and still holds when a router joins it,
holds of all domains. -/
theorem forall_openDomains {motive : AllocationDomain → Prop} {nodes : List NodeDTO}
    {normal : List NormalRouter} {owner : String → Option Nat}
    (opens : ∀ entry ∈ normal, motive (newDomain normal (domainDemand nodes normal owner) entry))
    (joins : ∀ domain router, motive domain → motive (joinDomain domain router).1) :
    ∀ domain ∈ (openDomains nodes normal owner).domains, motive domain := by
  unfold openDomains
  apply List.foldlRecOn (motive := fun pass : DomainPass => ∀ domain ∈ pass.domains, motive domain)
    normal
  · exact fun _ member => absurd member List.not_mem_nil
  intro pass holds head inside
  unfold openDomain
  cases found : pass.domains.find? (·.key = head.domain) with
  | some domain =>
      have known := holds domain (List.mem_of_find?_eq_some found)
      intro other member
      rcases List.mem_map.mp member with ⟨old, oldMember, rfl⟩
      split
      · exact joins domain head.router known
      · exact holds old oldMember
  | none =>
      intro other member
      rcases List.mem_append.mp member with old | new
      · exact holds other old
      · rw [List.mem_singleton.mp new]
        exact joins _ _ (opens head inside)

theorem getD_to4_lt (ip : Nat) : (to4 ip).getD 0 < 2 ^ 32 := by
  cases low : to4 ip with
  | none => exact Nat.two_pow_pos 32
  | some address => exact to4_lt low

theorem parseCIDR_lt {text : String} {subnet : Subnet} (parsed : parseCIDR text = some subnet) :
    subnet.network < 2 ^ 32 ∧ subnet.capacity < 2 ^ 32 := by
  refine ⟨?_, by rw [parseCIDR_capacity parsed]; omega⟩
  have ofPrefix {subnet : Subnet} (parsed : parsePrefix text = some subnet) :
      subnet.network < 2 ^ 32 := by
    unfold parsePrefix at parsed
    split at parsed
    · cases parsed
      exact getD_to4_lt _
    · rcases Option.map_eq_some_iff.mp parsed with ⟨ip, _, rfl⟩
      exact Nat.lt_of_le_of_lt Nat.and_le_left (getD_to4_lt ip)
  unfold parseCIDR at parsed
  split at parsed
  · split at parsed
    · split at parsed
      · cases parsed
      · split at parsed
        · cases parsed
          exact Nat.lt_of_le_of_lt Nat.and_le_left (getD_to4_lt _)
        · exact ofPrefix parsed
    · exact ofPrefix parsed
  · exact ofPrefix parsed

theorem NormalRouter.subnet_lt (normal : NormalRouter) :
    normal.subnet.network < 2 ^ 32 ∧ normal.subnet.capacity < 2 ^ 32 := by
  unfold NormalRouter.subnet
  cases parsed : parseCIDR normal.router.subnet with
  | some subnet => exact parseCIDR_lt parsed
  | none =>
      cases own : parseCIDR (normal.router.gatewayIP ++ "/24") with
      | some subnet => exact parseCIDR_lt own
      | none => exact ⟨Nat.two_pow_pos 32, Nat.two_pow_pos 32⟩

theorem allocator_lt {nodes : List NodeDTO} {normal : List NormalRouter}
    {owner : String → Option Nat} {domain : AllocationDomain}
    (listed : domain ∈ (openDomains nodes normal owner).domains) :
    domain.allocator.network < 2 ^ 32 ∧ domain.allocator.capacity < 2 ^ 32 := by
  refine forall_openDomains (motive := fun domain => domain.allocator.network < 2 ^ 32 ∧
    domain.allocator.capacity < 2 ^ 32) (fun entry _ => ?_) (fun domain router holds => ?_)
    domain listed
  · have fields := newSubnetAllocator_network entry (domainDHCP normal entry.domain)
      (domainDemand nodes normal owner entry.domain)
    simp only [newDomain, fields.1, fields.2]
    exact entry.subnet_lt
  · rcases joinDomain_cases domain router with ⟨_, same, _⟩ | ⟨_, joined⟩
    · rw [same]
      exact holds
    · rw [joined]
      exact holds

end HomelabBuilder.Ipam
