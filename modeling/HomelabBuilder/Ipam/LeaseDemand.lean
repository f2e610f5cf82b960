import HomelabBuilder.Ipam.HostBlocks
import HomelabBuilder.Ipam.LeasePools

/-! # Lease demand

What a response says about the leases the devices of a domain ask for, and how
many addresses its pool really has for them.
-/

namespace HomelabBuilder.Ipam

open Net

/-! ## The demand of a domain -/

/-- The leases the nodes of a domain ask for, each node counted once. -/
def leasesWanted (req : AllocateRequest) (key : DomainKey) : Int :=
  ((req.nodes.filter fun node => 0 < node.dhcpClients &&
    nodeDomain (normalizeRouters req.routers) (ownerRouter req) node.id = some key).map
      (·.dhcpClients)).sum

/-- The counter of a domain, an `int` of 64 bits. -/
def leasesCounted (req : AllocateRequest) (key : DomainKey) : Int :=
  (leasesWanted req key).bmod (2 ^ 64)

theorem domainDemand_eq (req : AllocateRequest) (key : DomainKey) :
    domainDemand req.nodes (normalizeRouters req.routers) (ownerRouter req) key =
      leasesCounted req key := by
  unfold domainDemand leasesCounted leasesWanted
  have loop (nodes : List NodeDTO) (sum : Int) : nodes.foldl (fun demand node =>
      if node.dhcpClients ≤ 0 then demand
      else if nodeDomain (normalizeRouters req.routers) (ownerRouter req) node.id = some key then
        addInt demand node.dhcpClients
      else demand) (sum.bmod (2 ^ 64)) =
        (sum + ((nodes.filter fun node => 0 < node.dhcpClients &&
          nodeDomain (normalizeRouters req.routers) (ownerRouter req) node.id = some key).map
            (·.dhcpClients)).sum).bmod (2 ^ 64) := by
    induction nodes generalizing sum with
    | nil => simp
    | cons head tail induction =>
        rw [List.foldl_cons, List.filter_cons]
        by_cases silent : head.dhcpClients ≤ 0
        · rw [if_pos silent, induction, if_neg (by simp [silent])]
        · rw [if_neg silent]
          by_cases inside : nodeDomain (normalizeRouters req.routers) (ownerRouter req) head.id =
              some key
          · have joined : addInt (sum.bmod (2 ^ 64)) head.dhcpClients =
                (sum + head.dhcpClients).bmod (2 ^ 64) := Int.bmod_add_bmod ..
            rw [if_pos inside, joined, induction, if_pos (by simp [inside]; omega), List.map_cons,
              List.sum_cons, Int.add_assoc]
          · rw [if_neg inside, induction, if_neg (by simp [inside])]
  have start := loop req.nodes 0
  rwa [Int.zero_bmod, Int.zero_add] at start

/-! ## Warnings -/

def IsLeaseWarning (issue : Issue) : Prop :=
  ∃ sa demand, issue ∈ demandWarnings sa demand issue.nodeID

/-- The response warns about the leases of a domain. -/
def Warned (req : AllocateRequest) (key : DomainKey) : Prop :=
  ∃ issue ∈ (allocate req).warnings, IsLeaseWarning issue ∧
    ∃ entry ∈ normalizeRouters req.routers, entry.domain = key ∧ issue.nodeID = entry.router.id

theorem demandWarnings_ne_nil (sa : SubnetAllocator) (demand : Int) (routerID : String) :
    demandWarnings sa demand routerID ≠ [] ↔ sa.dhcpPoolSize < demand := by
  unfold demandWarnings
  split
  · rename_i off
    have empty : sa.dhcpPoolSize = 0 := by
      unfold SubnetAllocator.dhcpPoolSize
      rw [if_pos off.2]
    simp only [ne_eq, not_false_eq_true, true_iff, List.cons_ne_self]
    omega
  · split <;> simp_all

theorem nodeID_of_mem_demandWarnings {sa : SubnetAllocator} {demand : Int} {routerID : String}
    {issue : Issue} (member : issue ∈ demandWarnings sa demand routerID) :
    issue.nodeID = routerID := by
  unfold demandWarnings at member
  split at member
  · rw [List.mem_singleton.mp member]
  · split at member
    · rw [List.mem_singleton.mp member]
    · cases member

/-- Every domain has said once what there is to say about its leases. -/
structure WarnedPass (normal : List NormalRouter) (demand : DomainKey → Int) (pass : DomainPass) :
    Prop where
  keys : (pass.domains.map (·.key)).Nodup
  emitted : ∀ domain ∈ pass.domains, ∃ entry ∈ normal, entry.domain = domain.key ∧
    demandWarnings domain.allocator (demand domain.key) entry.router.id ⊆ pass.warnings
  origin : ∀ issue ∈ pass.warnings, ∃ domain ∈ pass.domains, ∃ entry ∈ normal,
    entry.domain = domain.key ∧
      issue ∈ demandWarnings domain.allocator (demand domain.key) entry.router.id

theorem demandWarnings_joinDomain (domain : AllocationDomain) (router : RouterDTO) (demand : Int)
    (routerID : String) :
    demandWarnings (joinDomain domain router).1.allocator demand routerID =
      demandWarnings domain.allocator demand routerID := by
  have grows := joinDomain_grows domain router
  have size : (joinDomain domain router).1.allocator.dhcpPoolSize =
      domain.allocator.dhcpPoolSize := by
    unfold SubnetAllocator.dhcpPoolSize
    rw [grows.dhcpStart, grows.dhcpEnd]
  unfold demandWarnings
  rw [size, grows.dhcpStart]

theorem WarnedPass.openDomain {normal : List NormalRouter} {demand : DomainKey → Int}
    {pass : DomainPass} (warned : WarnedPass normal demand pass) {entry : NormalRouter}
    (inside : entry ∈ normal) : WarnedPass normal demand (openDomain normal demand pass entry) := by
  unfold Ipam.openDomain
  cases found : pass.domains.find? (·.key = entry.domain) with
  | some domain =>
      have member := List.mem_of_find?_eq_some found
      have key : domain.key = entry.domain := by simpa using List.find?_some found
      have joinedKey := (joinDomain_grows domain entry.router).key
      -- The domain that is joined keeps its key and its pool, the others stay.
      have kept : ∀ other ∈ pass.domains,
          (if other.key = entry.domain then (joinDomain domain entry.router).1 else other).key =
            other.key ∧ ∀ routerID, demandWarnings
              (if other.key = entry.domain then (joinDomain domain entry.router).1
                else other).allocator (demand other.key) routerID =
              demandWarnings other.allocator (demand other.key) routerID := by
        intro other old
        split
        · rename_i same
          have equal := eq_of_key_eq warned.keys old member (same.trans key.symm)
          subst equal
          exact ⟨joinedKey, fun routerID => demandWarnings_joinDomain _ _ _ _⟩
        · exact ⟨rfl, fun _ => rfl⟩
      refine ⟨?_, ?_, ?_⟩
      · have keys : (pass.domains.map fun other => if other.key = entry.domain then
            (joinDomain domain entry.router).1 else other).map (·.key) =
              pass.domains.map (·.key) := by
          rw [List.map_map]
          exact List.map_congr_left fun other old => (kept other old).1
        exact keys ▸ warned.keys
      · intro other new
        rcases List.mem_map.mp new with ⟨old, oldMember, rfl⟩
        rcases warned.emitted old oldMember with ⟨opener, known, openerKey, emitted⟩
        rw [(kept old oldMember).1]
        refine ⟨opener, known, openerKey, ?_⟩
        rw [(kept old oldMember).2]
        exact emitted
      · intro issue reported
        rcases warned.origin issue reported with ⟨old, oldMember, opener, known, openerKey, about⟩
        refine ⟨_, List.mem_map_of_mem oldMember, opener, known, ?_, ?_⟩
        · rw [(kept old oldMember).1]
          exact openerKey
        · rw [(kept old oldMember).1, (kept old oldMember).2]
          exact about
  | none =>
      have unknown : ∀ domain ∈ pass.domains, domain.key ≠ entry.domain := by simpa using found
      have joinedKey := (joinDomain_grows (newDomain normal demand entry) entry.router).key
      refine ⟨?_, ?_, ?_⟩
      · rw [List.map_append, List.nodup_append]
        refine ⟨warned.keys, by simp, ?_⟩
        intro key old other new
        rcases List.mem_map.mp old with ⟨domain, member, rfl⟩
        rw [List.map_singleton, List.mem_singleton] at new
        rw [new, joinedKey]
        exact unknown domain member
      · intro domain new
        rcases List.mem_append.mp new with old | new
        · rcases warned.emitted domain old with ⟨opener, known, openerKey, emitted⟩
          exact ⟨opener, known, openerKey, List.subset_append_of_subset_left _ emitted⟩
        · rw [List.mem_singleton.mp new]
          refine ⟨entry, inside, joinedKey.symm, ?_⟩
          rw [demandWarnings_joinDomain, joinedKey]
          exact List.subset_append_right _ _
      · intro issue reported
        rcases List.mem_append.mp reported with old | new
        · rcases warned.origin issue old with ⟨domain, member, rest⟩
          exact ⟨domain, List.mem_append_left _ member, rest⟩
        · refine ⟨_, List.mem_append_right _ (List.mem_singleton.mpr rfl), entry, inside,
            joinedKey.symm, ?_⟩
          rw [demandWarnings_joinDomain, joinedKey]
          exact new

theorem warnedPass_openDomains (nodes : List NodeDTO) (normal : List NormalRouter)
    (owner : String → Option Nat) :
    WarnedPass normal (domainDemand nodes normal owner) (openDomains nodes normal owner) := by
  apply List.foldlRecOn (motive := WarnedPass normal (domainDemand nodes normal owner)) normal
  · refine ⟨List.nodup_nil, ?_, ?_⟩ <;> simp
  · exact fun pass warned entry inside => warned.openDomain inside

/-! ## Other warnings -/

/-- Warnings are only added, and the new ones are about devices. -/
structure WarnsDevices (nodes : List NodeDTO) (before after : List Issue) : Prop where
  grows : before ⊆ after
  about : ∀ issue ∈ after, issue ∈ before ∨ issue.nodeID ∈ entityIDs nodes

theorem WarnsDevices.refl (nodes : List NodeDTO) (warnings : List Issue) :
    WarnsDevices nodes warnings warnings :=
  ⟨List.Subset.refl _, fun _ => .inl⟩

theorem WarnsDevices.trans {nodes : List NodeDTO} {first second third : List Issue}
    (left : WarnsDevices nodes first second) (right : WarnsDevices nodes second third) :
    WarnsDevices nodes first third where
  grows := List.Subset.trans left.grows right.grows
  about := fun issue member => (right.about issue member).elim (left.about issue) .inr

section Warns

variable {nodes : List NodeDTO}

theorem WarnsDevices.foldl {σ α : Type} (warnings : σ → List Issue) {round : σ → α → σ} :
    ∀ (items : List α) {state : σ}, (∀ state, ∀ item ∈ items,
        WarnsDevices nodes (warnings state) (warnings (round state item))) →
      WarnsDevices nodes (warnings state) (warnings (items.foldl round state))
  | [], _, _ => .refl _ _
  | head :: tail, state, single =>
      (single state head List.mem_cons_self).trans
        (WarnsDevices.foldl warnings tail fun state item member =>
          single state item (List.mem_cons_of_mem head member))

theorem settle_warns (state : DomainState) (entity : Entity) {id : String} (message : String)
    (found : Nat) (known : id ∈ entityIDs nodes) :
    WarnsDevices nodes state.warnings (state.settle entity id message found).warnings := by
  unfold DomainState.settle
  split
  · exact .refl _ _
  · split
    · refine ⟨List.subset_append_left _ _, fun issue member => ?_⟩
      refine (List.mem_append.mp member).imp_right fun new => ?_
      rw [List.mem_singleton.mp new]
      exact known
    · exact .refl _ _

@[simp]
theorem preReserveExisting_warnings (state : DomainState) (id value : String) :
    (preReserveExisting state id value).warnings = state.warnings := by
  by_cases given : value = ""
  · unfold preReserveExisting
    rw [if_pos given]
  · rcases accepted_or_reported state id given with ⟨ip, _, equal⟩ | ⟨message, equal⟩
    · rw [equal]
      rfl
    · rw [equal]
      rfl

@[simp]
theorem preReserveNode_warnings (state : DomainState) (index : Nat) :
    (preReserveNode nodes state index).warnings = state.warnings := by
  unfold preReserveNode
  cases nodes[index]? with
  | none => rfl
  | some node =>
      exact (foldl_keeps DomainState.warnings (fun state (vm : VMDTO) =>
        preReserveExisting_warnings state vm.id vm.existingIP) node.vms _).trans
          (preReserveExisting_warnings state node.id node.existingIP)

@[simp]
theorem reportInfraGuests_warnings (state : DomainState) (index : Nat) :
    (reportInfraGuests nodes state index).warnings = state.warnings := by
  unfold reportInfraGuests
  split
  · rfl
  · split <;> rfl

theorem placeInfra_warns (zones : List (String × ZoneConfig)) (state : DomainState) (index : Nat) :
    WarnsDevices nodes state.warnings (placeInfra nodes zones state index).warnings := by
  cases found : nodes[index]? with
  | none =>
      simp only [placeInfra, found]
      exact .refl _ _
  | some node =>
      have named : entityID nodes (.node index) = some node.id := by simp [entityID, found]
      rw [placeInfra_eq zones state found]
      exact settle_warns _ _ _ _ (mem_entityIDs named)

theorem finishHost_warns {index : Nat} {node : NodeDTO} (found : nodes[index]? = some node)
    (step : Int) (hostIP : Nat) (state : DomainState × Int) :
    WarnsDevices nodes state.1.warnings (finishHost node step index hostIP state).1.warnings := by
  have guests (blockEnd : Nat) : WarnsDevices nodes state.1.warnings
      (node.vms.zipIdx.foldl (placeVM index node.id hostIP blockEnd) state.1).warnings := by
    refine WarnsDevices.foldl DomainState.warnings _ fun placed entry member => ?_
    have guest : entityID nodes (.vm index entry.2) = some entry.1.id := by
      simp [entityID, found, List.mem_zipIdx_iff_getElem?.mp member]
    rw [placeVM_eq]
    exact settle_warns _ _ _ _ (mem_entityIDs guest)
  simp only [finishHost]
  exact guests _

theorem placeHost_warns (step : Int) (state : DomainState × Int) (index : Nat) :
    WarnsDevices nodes state.1.warnings (placeHost nodes step state index).1.warnings := by
  cases found : nodes[index]? with
  | none =>
      simp only [placeHost, found]
      exact .refl _ _
  | some node =>
      have named : entityID nodes (.node index) = some node.id := by simp [entityID, found]
      have settled : WarnsDevices nodes state.1.warnings
          (settledHost state index node).1.warnings :=
        settle_warns _ _ _ _ (mem_entityIDs named)
      rw [placeHost_eq step state found]
      cases state.1.choose node.id (hostSearch state) with
      | none => exact settled
      | some hostIP =>
          exact settled.trans (finishHost_warns found step hostIP _)

theorem allocateDomain_warns (zones : List (String × ZoneConfig)) (nodeIndexes : List Nat)
    (state : DomainState) :
    WarnsDevices nodes state.warnings (allocateDomain nodes zones nodeIndexes state).warnings := by
  rw [allocateDomain_eq]
  have reserved : (reserveMembers nodes nodeIndexes state).warnings = state.warnings :=
    foldl_keeps DomainState.warnings preReserveNode_warnings _ _
  rw [← reserved]
  generalize reserveMembers nodes nodeIndexes state = before
  unfold placeMembers
  dsimp only
  generalize domainZonesOf zones (memberStep nodes zones nodeIndexes state.allocator) = domainZones
  have reported (infra : List Nat) :
      (infra.foldl (reportInfraGuests nodes) before).warnings = before.warnings :=
    foldl_keeps DomainState.warnings reportInfraGuests_warnings infra before
  rw [← reported ((networkIndexes nodes nodeIndexes).filter fun index =>
    !isHost nodes domainZones index)]
  refine WarnsDevices.trans ?_ (WarnsDevices.foldl (fun placed : DomainState × Int =>
    placed.1.warnings) _ fun placed index _ => placeHost_warns _ placed index)
  exact WarnsDevices.foldl DomainState.warnings _ fun state index _ =>
    placeInfra_warns domainZones state index

end Warns

theorem allocateOwned_warns (req : AllocateRequest) (owner : String → Option Nat) :
    WarnsDevices req.nodes
      (openDomains req.nodes (normalizeRouters req.routers) owner).warnings
      (allocateOwned req owner).warnings := by
  have unreachable : WarnsDevices req.nodes
      (openDomains req.nodes (normalizeRouters req.routers) owner).warnings
      (startResponse req owner).warnings := by
    have shown : (startResponse req owner).warnings =
        (openDomains req.nodes (normalizeRouters req.routers) owner).warnings ++
          unreachableWarnings req.routers req.nodes owner := rfl
    rw [shown]
    generalize (openDomains req.nodes (normalizeRouters req.routers) owner).warnings = warnings
    refine ⟨List.subset_append_left _ _, fun issue member => ?_⟩
    refine (List.mem_append.mp member).imp_right fun new => ?_
    rcases List.mem_filterMap.mp new with ⟨node, inside, isIssue⟩
    split at isIssue
    · cases isIssue
      exact List.mem_flatMap.mpr ⟨node, inside, List.mem_cons_self⟩
    · cases isIssue
  rw [allocateOwned_eq]
  generalize mergeZones req.customZones = zones
  generalize domainNodeIndexes req.nodes (normalizeRouters req.routers) owner = members
  refine unreachable.trans (WarnsDevices.foldl AllocateResponse.warnings _ fun resp domain _ => ?_)
  have shown : (runDomain req.nodes zones members resp domain).warnings =
      (allocateDomain req.nodes zones (members domain.key) (domain.turn resp)).warnings := rfl
  rw [shown]
  exact allocateDomain_warns zones (members domain.key) (domain.turn resp)

theorem eq_of_router_id {req : AllocateRequest} (distinct : DistinctIDs req)
    {left right : NormalRouter} (leftMember : left ∈ normalizeRouters req.routers)
    (rightMember : right ∈ normalizeRouters req.routers) (same : left.router.id = right.router.id) :
    left = right := by
  have nodup : ((normalizeRouters req.routers).map (·.router.id)).Nodup := by
    rw [normalizeRouters_ids]
    exact (List.nodup_append.mp distinct).1
  exact List.inj_on_of_nodup_map nodup leftMember rightMember same

/-- A domain is warned about exactly when its pool shows fewer addresses than
its counter. -/
theorem warned_iff {req : AllocateRequest} (distinct : DistinctIDs req) {domain : AllocationDomain}
    (listed : domain ∈
      (openDomains req.nodes (normalizeRouters req.routers) (ownerRouter req)).domains) :
    Warned req domain.key ↔ domain.allocator.dhcpPoolSize < leasesCounted req domain.key := by
  have pass := warnedPass_openDomains req.nodes (normalizeRouters req.routers) (ownerRouter req)
  have warns := allocateOwned_warns req (ownerRouter req)
  rw [← allocate_of_listed listed] at warns
  constructor
  · rintro ⟨issue, reported, _, entry, inside, key, about⟩
    rcases warns.about issue reported with early | device
    · rcases pass.origin issue early with ⟨other, member, opener, known, openerKey, emitted⟩
      have sameRouter : opener = entry := eq_of_router_id distinct known inside
        ((nodeID_of_mem_demandWarnings emitted).symm.trans about)
      have same : other = domain := by
        apply eq_of_key_eq pass.keys member listed
        rw [← openerKey, sameRouter, key]
      subst same
      rw [← domainDemand_eq, ← demandWarnings_ne_nil _ _ opener.router.id]
      exact List.ne_nil_of_mem emitted
    · -- A device has another id than the router.
      have router : entry.router.id ∈ req.routers.map (·.id) := by
        rw [← normalizeRouters_ids]
        exact List.mem_map_of_mem inside
      rw [about] at device
      exact absurd rfl ((List.nodup_append.mp distinct).2.2 _ router _ device)
  · intro small
    rcases pass.emitted domain listed with ⟨entry, inside, key, emitted⟩
    rw [← domainDemand_eq, ← demandWarnings_ne_nil _ _ entry.router.id] at small
    rcases List.exists_mem_of_ne_nil _ small with ⟨issue, member⟩
    have about := nodeID_of_mem_demandWarnings member
    exact ⟨issue, warns.grows (emitted member), ⟨_, _, about ▸ member⟩, entry, inside, key, about⟩

/-! ## The pool of a domain -/

theorem domain_pool {req : AllocateRequest} {domain : AllocationDomain}
    (listed : domain ∈
      (openDomains req.nodes (normalizeRouters req.routers) (ownerRouter req)).domains) :
    domain.allocator.network + domain.allocator.capacity < 2 ^ 32 ∧
      (domain.allocator.dhcpStart, domain.allocator.dhcpEnd) =
        if domainDHCP (normalizeRouters req.routers) domain.key = true ∧
            1 < domain.allocator.capacity then
          dhcpPool domain.allocator.network domain.allocator.capacity
            (leasesCounted req domain.key)
        else (0, 0) := by
  refine forall_openDomains (motive := fun domain =>
    domain.allocator.network + domain.allocator.capacity < 2 ^ 32 ∧
      (domain.allocator.dhcpStart, domain.allocator.dhcpEnd) =
        if domainDHCP (normalizeRouters req.routers) domain.key = true ∧
            1 < domain.allocator.capacity then
          dhcpPool domain.allocator.network domain.allocator.capacity
            (leasesCounted req domain.key)
        else (0, 0)) (fun entry inside => ?_) (fun domain router holds => ?_) domain listed
  · have fields := newSubnetAllocator_network entry
      (domainDHCP (normalizeRouters req.routers) entry.domain)
      (leasesCounted req entry.domain)
    rw [newDomain, domainDemand_eq]
    refine ⟨?_, newSubnetAllocator_pool _ _ _ _⟩
    dsimp only
    rw [fields.1, fields.2]
    exact (isNormal_of_mem inside).subnet_inside
  · rcases joinDomain_cases domain router with ⟨_, same, _⟩ | ⟨_, joined⟩
    · rw [same]
      exact holds
    · rw [joined]
      exact holds

/-! ## Leases that are left -/

/-- A router of the domain has this gateway address. -/
def IsGateway (req : AllocateRequest) (key : DomainKey) (ip : Nat) : Prop :=
  ∃ entry ∈ normalizeRouters req.routers, entry.domain = key ∧
    ipToUint32 entry.router.gatewayIP = ip

instance (req : AllocateRequest) (key : DomainKey) (ip : Nat) : Decidable (IsGateway req key ip) :=
  inferInstanceAs (Decidable (∃ entry ∈ normalizeRouters req.routers, _))

/-- The address lies inside the subnet of a router of another domain. -/
def IsForeign (req : AllocateRequest) (key : DomainKey) (ip : Nat) : Prop :=
  ∃ entry ∈ normalizeRouters req.routers, entry.domain ≠ key ∧
    entry.domain.1 < ip ∧ ip < entry.domain.broadcast

instance (req : AllocateRequest) (key : DomainKey) (ip : Nat) : Decidable (IsForeign req key ip) :=
  inferInstanceAs (Decidable (∃ entry ∈ normalizeRouters req.routers, _))

/-- The leases of a domain that nothing else has. -/
def freeLeases (req : AllocateRequest) (domain : AllocationDomain) : Set Nat :=
  {ip ∈ domain.allocator.leases | ip ≠ domain.allocator.network ∧
    ip ≠ domain.allocator.network + domain.allocator.capacity ∧ ¬ IsGateway req domain.key ip ∧
    ∀ entity, ¬ Given req entity ip}

/-- The pool of a domain, by its subnet, the DHCP settings of its routers and its demand. -/
def domainPool (req : AllocateRequest) (domain : AllocationDomain) : Finset Nat :=
  poolAddresses domain.allocator.network domain.allocator.capacity
    (domainDHCP (normalizeRouters req.routers) domain.key) (leasesCounted req domain.key)

/-- The addresses of the pool that are the network address or a gateway of the domain. -/
def routerLeases (req : AllocateRequest) (domain : AllocationDomain) : Finset Nat :=
  (domainPool req domain).filter fun ip =>
    ip = domain.allocator.network ∨ IsGateway req domain.key ip

/-- The addresses of the pool that lie inside other subnets of the request. -/
def foreignLeases (req : AllocateRequest) (domain : AllocationDomain) : Finset Nat :=
  (domainPool req domain).filter (IsForeign req domain.key)

/-- No other subnet of the request reaches into the pool. -/
def LeasesApart (req : AllocateRequest) (domain : AllocationDomain) : Prop :=
  ∀ ip ∈ domainPool req domain, ¬ IsForeign req domain.key ip

/-- None are asked for, or the pool shows too few and so is warned about, or it has an
address for every lease next to those set aside. -/
def LeasesFit (req : AllocateRequest) (domain : AllocationDomain) (aside : Finset Nat) : Prop :=
  leasesWanted req domain.key ≤ 0 ∨
  shownLeases domain.allocator.network domain.allocator.capacity
      (domainDHCP (normalizeRouters req.routers) domain.key) (leasesCounted req domain.key) <
    leasesCounted req domain.key ∨
  leasesWanted req domain.key + aside.card ≤ (domainPool req domain).card

/-- Without a warning, the pool of a domain has a free address for every lease
that is asked for. -/
def LeasesHold (req : AllocateRequest) (domain : AllocationDomain) : Prop :=
  0 < leasesWanted req domain.key → ¬ Warned req domain.key →
    leasesWanted req domain.key ≤ (freeLeases req domain).ncard

section Leases

variable {req : AllocateRequest} {domain : AllocationDomain}

theorem usable_of_given (distinct : DistinctIDs req)
    (listed : domain ∈
      (openDomains req.nodes (normalizeRouters req.routers) (ownerRouter req)).domains)
    {entity : Entity} (member : domainOf req entity = some domain.key) {ip : Nat}
    (given : Given req entity ip) :
    domain.allocator.isUsable ip = true ∧ ip ∉ domain.allocator.leases := by
  rcases served_of_listed listed with ⟨before, served⟩
  have sound := Turn.sound served.turn (distinctEntities_of_nodup distinct.entities)
  have inDomain := domainOf_eq_some.mp member
  have granted : (ledgerOf req.nodes (membersOf req domain)
      (turnEnd req (ownerRouter req) domain before)).granted entity = some ip := by
    simp only [ledgerOf]
    rw [if_pos inDomain, ← served.final entity inDomain, given.2,
      parseIPTo4_formatIPv4 ip given.1]
  have facts := (sound.granted granted).1
  refine ⟨facts.1, fun leased => ?_⟩
  rw [SubnetAllocator.leases, Set.mem_ofPred_eq, facts.2] at leased
  cases leased

theorem leases_eq_domainPool (listed : domain ∈
      (openDomains req.nodes (normalizeRouters req.routers) (ownerRouter req)).domains) :
    domain.allocator.leases = domainPool req domain := by
  rcases domain_pool listed with ⟨inside, pool⟩
  exact leases_eq inside pool

theorem lease_below (listed : domain ∈
      (openDomains req.nodes (normalizeRouters req.routers) (ownerRouter req)).domains) {ip : Nat}
    (leased : ip ∈ domainPool req domain) :
    ip < domain.allocator.network + domain.allocator.capacity := by
  have inside := (domain_pool listed).1
  unfold domainPool poolAddresses at leased
  split at leased
  · rename_i carved
    have wide := carved.1.2.1
    have last := (Finset.mem_Icc.mp leased).2
    omega
  · cases leased

theorem exists_domain_of_given {entity : Entity} {ip : Nat} (given : Given req entity ip)
    (routed : allocate req = allocateOwned req (ownerRouter req)) :
    ∃ other ∈ (openDomains req.nodes (normalizeRouters req.routers) (ownerRouter req)).domains,
      domainOf req entity = some other.key := by
  by_contra none
  have outside : ∀ other ∈
      (openDomains req.nodes (normalizeRouters req.routers) (ownerRouter req)).domains,
      entity.nodeIndex ∉ domainNodeIndexes req.nodes (normalizeRouters req.routers)
        (ownerRouter req) other.key :=
    fun other member inside => none ⟨other, member, domainOf_eq_some.mpr inside⟩
  have assigned := given.2
  rw [routed, allocateOwned_eq, foldl_runDomain_frame _ outside] at assigned
  rw [AllocateResponse.assignedIP, startResponse, assignedIPIn_emptyResults] at assigned
  exact formatIPv4_ne_empty ip assigned.symm

theorem isForeign_of_given (distinct : DistinctIDs req)
    (listed : domain ∈
      (openDomains req.nodes (normalizeRouters req.routers) (ownerRouter req)).domains)
    {entity : Entity} {ip : Nat} (given : Given req entity ip)
    (foreign : domainOf req entity ≠ some domain.key) : IsForeign req domain.key ip := by
  rcases exists_domain_of_given given (allocate_of_listed listed) with ⟨other, member, inOther⟩
  have opened := opened_openDomains req.routers req.nodes (ownerRouter req)
  rcases opened.sourced other member with ⟨entry, known, named⟩
  have usable := (usable_of_given distinct member inOther given).1
  refine ⟨entry, known, ?_, ?_⟩
  · intro same
    exact foreign (by rw [inOther, ← named, same])
  · rw [named]
    exact (opened.wellFormed other member).within ip usable

theorem freeLeases_subset (listed : domain ∈
      (openDomains req.nodes (normalizeRouters req.routers) (ownerRouter req)).domains) :
    freeLeases req domain ⊆ (domainPool req domain \ routerLeases req domain : Finset Nat) := by
  rintro ip ⟨leased, notNetwork, _, noGateway, _⟩
  rw [leases_eq_domainPool listed] at leased
  rw [Finset.mem_coe, Finset.mem_sdiff]
  refine ⟨leased, fun held => ?_⟩
  rcases (Finset.mem_filter.mp held).2 with network | gateway
  · exact notNetwork network
  · exact noGateway gateway

theorem subset_freeLeases (distinct : DistinctIDs req)
    (listed : domain ∈
      (openDomains req.nodes (normalizeRouters req.routers) (ownerRouter req)).domains) :
    ((domainPool req domain \ (routerLeases req domain ∪ foreignLeases req domain) :
      Finset Nat) : Set Nat) ⊆ freeLeases req domain := by
  intro ip member
  rw [Finset.mem_coe, Finset.mem_sdiff, Finset.mem_union, not_or] at member
  rcases member with ⟨pooled, notRouter, notForeign⟩
  have leased : ip ∈ domain.allocator.leases := by
    rw [leases_eq_domainPool listed]
    exact pooled
  refine ⟨leased, ?_, ?_, ?_, ?_⟩
  · exact fun network => notRouter (Finset.mem_filter.mpr ⟨pooled, .inl network⟩)
  · exact Nat.ne_of_lt (lease_below listed pooled)
  · exact fun gateway => notRouter (Finset.mem_filter.mpr ⟨pooled, .inr gateway⟩)
  · intro entity given
    by_cases inside : domainOf req entity = some domain.key
    · exact (usable_of_given distinct listed inside given).2 leased
    · exact notForeign (Finset.mem_filter.mpr
        ⟨pooled, isForeign_of_given distinct listed given inside⟩)

/-- Leases hold when none are asked for, when too few are shown, or when enough are free. -/
theorem leasesHold_iff (distinct : DistinctIDs req)
    (listed : domain ∈
      (openDomains req.nodes (normalizeRouters req.routers) (ownerRouter req)).domains) :
    LeasesHold req domain ↔
      leasesWanted req domain.key ≤ 0 ∨
      shownLeases domain.allocator.network domain.allocator.capacity
          (domainDHCP (normalizeRouters req.routers) domain.key) (leasesCounted req domain.key) <
        leasesCounted req domain.key ∨
      leasesWanted req domain.key ≤ (freeLeases req domain).ncard := by
  rcases domain_pool listed with ⟨inside, pool⟩
  rw [LeasesHold, warned_iff distinct listed, dhcpPoolSize_eq inside pool]
  generalize (shownLeases domain.allocator.network domain.allocator.capacity
    (domainDHCP (normalizeRouters req.routers) domain.key) (leasesCounted req domain.key) : Int) =
      shown
  constructor
  · intro holds
    by_cases none : leasesWanted req domain.key ≤ 0
    · exact .inl none
    · by_cases small : shown < leasesCounted req domain.key
      · exact .inr (.inl small)
      · exact .inr (.inr (holds (by omega) small))
  · rintro (none | small | enough) asked quiet
    · omega
    · exact absurd small quiet
    · exact enough

theorem leasesFit_of_hold (distinct : DistinctIDs req)
    (listed : domain ∈
      (openDomains req.nodes (normalizeRouters req.routers) (ownerRouter req)).domains)
    (holds : LeasesHold req domain) : LeasesFit req domain (routerLeases req domain) := by
  refine ((leasesHold_iff distinct listed).mp holds).imp_right (Or.imp_right fun enough => ?_)
  have free := Set.ncard_le_ncard (freeLeases_subset listed) (Finset.finite_toSet _)
  have inside : routerLeases req domain ⊆ domainPool req domain := Finset.filter_subset _ _
  have split := Finset.card_sdiff_add_card_eq_card inside
  rw [Set.ncard_coe_finset] at free
  omega

theorem leasesHold_of_fit (distinct : DistinctIDs req)
    (listed : domain ∈
      (openDomains req.nodes (normalizeRouters req.routers) (ownerRouter req)).domains)
    (fits : LeasesFit req domain (routerLeases req domain ∪ foreignLeases req domain)) :
    LeasesHold req domain := by
  refine (leasesHold_iff distinct listed).mpr (fits.imp_right (Or.imp_right fun enough => ?_))
  have finite : (freeLeases req domain).Finite :=
    (Finset.finite_toSet _).subset (freeLeases_subset listed)
  have free := Set.ncard_le_ncard (subset_freeLeases distinct listed) finite
  have inside : routerLeases req domain ∪ foreignLeases req domain ⊆ domainPool req domain :=
    Finset.union_subset (Finset.filter_subset _ _) (Finset.filter_subset _ _)
  have split := Finset.card_sdiff_add_card_eq_card inside
  rw [Set.ncard_coe_finset] at free
  omega

end Leases

/-- Where no other subnet of the request reaches into the pool, the leases of a domain are
promised rightly exactly when none are asked for, when the pool shows too few and so is
warned about, or when it has an address for every lease next to those of the routers. Where
subnets overlap, this is needed, and it is enough when the addresses that the pool shares
with them are set aside as well. -/
theorem leases_hold_iff (req : AllocateRequest) (distinct : DistinctIDs req)
    {domain : AllocationDomain} (listed : domain ∈
      (openDomains req.nodes (normalizeRouters req.routers) (ownerRouter req)).domains) :
    (LeasesApart req domain →
      (LeasesHold req domain ↔ LeasesFit req domain (routerLeases req domain))) ∧
    (LeasesHold req domain → LeasesFit req domain (routerLeases req domain)) ∧
    (LeasesFit req domain (routerLeases req domain ∪ foreignLeases req domain) →
      LeasesHold req domain) := by
  have needed := leasesFit_of_hold distinct listed
  have enough := leasesHold_of_fit distinct listed
  refine ⟨fun apart => ⟨needed, fun fits => enough ?_⟩, needed, enough⟩
  have none : foreignLeases req domain = ∅ := Finset.filter_eq_empty_iff.mpr fun {ip} => apart ip
  rw [none, Finset.union_empty]
  exact fits

/-- A router with the last address of a /24 and a table of 205 seats. -/
def fullHouse : AllocateRequest where
  routers :=
    [{ id := "r1", gatewayIP := "192.168.1.254", subnet := "192.168.1.0/24", dhcpEnabled := true }]
  nodes := [{ id := "table1", type := "lan_table", connections := ["r1"], dhcpClients := 205 }]

/-- Its domain, with the pool from .50 to .254. -/
def fullHouseDomain : AllocationDomain where
  key := (3232235776, 4294967040)
  allocator :=
    { network := 3232235776
      capacity := 255
      used := [3232236030, 3232236030, 3232236031, 3232235776]
      dhcpStart := 3232235826
      dhcpEnd := 3232236030 }
  owners :=
    [ (3232236030, "r1"), (3232236031, "broadcast address"), (3232235776, "network address") ]

theorem fullHouseDomain_listed : fullHouseDomain ∈
    (openDomains fullHouse.nodes (normalizeRouters fullHouse.routers)
      (ownerRouter fullHouse)).domains := by
  decide +kernel

theorem distinctIDs_fullHouse : DistinctIDs fullHouse := by
  unfold DistinctIDs
  decide

theorem leases_hold_iff_fullHouse :
    LeasesHold fullHouse fullHouseDomain ↔
      LeasesFit fullHouse fullHouseDomain (routerLeases fullHouse fullHouseDomain) :=
  have only : ∀ entry ∈ normalizeRouters fullHouse.routers,
      entry.domain = fullHouseDomain.key := by decide +kernel
  (leases_hold_iff fullHouse distinctIDs_fullHouse fullHouseDomain_listed).1
    fun _ _ ⟨entry, known, other, _⟩ => other (only entry known)

/-- The pool shows 205 addresses, but one of them is the gateway. -/
theorem fullHouse_lacks_a_lease :
    ¬ ∀ req : AllocateRequest, DistinctIDs req → ∀ domain ∈
      (openDomains req.nodes (normalizeRouters req.routers) (ownerRouter req)).domains,
      LeasesHold req domain := by
  intro claim
  have wanted : leasesWanted fullHouse fullHouseDomain.key = 205 := by decide
  have quiet : ¬ Warned fullHouse fullHouseDomain.key := by
    rintro ⟨issue, reported, _⟩
    have none : (allocate fullHouse).warnings = [] := by decide
    rw [none] at reported
    cases reported
  have gateway : IsGateway fullHouse fullHouseDomain.key 3232236030 := by
    unfold IsGateway
    decide
  have some : freeLeases fullHouse fullHouseDomain ⊆ Finset.Ico 3232235826 3232236030 := by
    rintro ip ⟨leased, _, _, noGateway, _⟩
    rcases mem_leases.mp leased with ⟨_, low, high⟩
    have different : ip ≠ 3232236030 := fun same => noGateway (same ▸ gateway)
    have stop : fullHouseDomain.allocator.dhcpEnd = 3232236030 := rfl
    have start : fullHouseDomain.allocator.dhcpStart = 3232235826 := rfl
    rw [Finset.mem_coe, Finset.mem_Ico]
    omega
  have few := Set.ncard_le_ncard some (Finset.finite_toSet _)
  rw [Set.ncard_coe_finset, Nat.card_Ico] at few
  have held := claim fullHouse distinctIDs_fullHouse fullHouseDomain fullHouseDomain_listed
  unfold LeasesHold at held
  rw [wanted] at held
  have enough := held (by decide) quiet
  omega

end HomelabBuilder.Ipam
