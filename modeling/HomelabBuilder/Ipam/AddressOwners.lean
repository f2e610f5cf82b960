import HomelabBuilder.Ipam.AddressSafety
import HomelabBuilder.Ipam.Opening
import HomelabBuilder.Ipam.Turns

/-! # The shape of a response

The response lists the routers, nodes and guests of its request, each in its
place.
-/

namespace HomelabBuilder.Ipam

theorem foldl_runDomain_resultID {nodes : List NodeDTO} {zones : List (String × ZoneConfig)}
    {members : DomainKey → List Nat} (entity : Entity) :
    ∀ (domains : List AllocationDomain) (resp : AllocateResponse),
      resultID (domains.foldl (runDomain nodes zones members) resp).nodes entity =
        resultID resp.nodes entity
  | [], _ => rfl
  | head :: tail, resp =>
      (foldl_runDomain_resultID entity tail _).trans ((runDomain_turn resp head).resultID_eq entity)

theorem allocate_lists (req : AllocateRequest) : Lists req.nodes (allocate req).nodes := by
  intro entity
  unfold allocate
  split
  · exact resultID_emptyResults req.nodes entity
  · rw [allocateOwned_eq, foldl_runDomain_resultID]
    exact resultID_emptyResults req.nodes entity

theorem allocate_nodeIDs (req : AllocateRequest) :
    (allocate req).nodes.map (·.id) = req.nodes.map (·.id) := by
  apply List.ext_getElem?
  intro index
  rw [List.getElem?_map, List.getElem?_map]
  exact allocate_lists req (.node index)

theorem normalizeRouter_id (index : Nat) (router : RouterDTO) :
    (normalizeRouter index router).router.id = router.id := by
  have gateway : (normalizeGateway index router).1.id = router.id := by
    unfold normalizeGateway
    dsimp only
    split
    · rfl
    · split <;> rfl
  have subnet (other : RouterDTO) : (normalizeSubnet other).router.id = other.id := by
    unfold normalizeSubnet
    dsimp only
    split
    · rfl
    · split <;> rfl
  unfold normalizeRouter
  exact (subnet _).trans gateway

@[simp]
theorem routerResult_id (entry : NormalRouter) (sa : SubnetAllocator) (demand : Int) :
    (routerResult entry sa demand).id = entry.router.id := by
  unfold routerResult
  dsimp only
  split <;> rfl

theorem allocate_routerIDs (req : AllocateRequest) :
    (allocate req).routers.map (·.id) = req.routers.map (·.id) := by
  unfold allocate
  split
  · rename_i none
    rw [none]
    rfl
  · have opened := opened_openDomains req.routers req.nodes (ownerRouter req)
    have routers : (allocateOwned req (ownerRouter req)).routers =
        (openDomains req.nodes (normalizeRouters req.routers) (ownerRouter req)).routers :=
      foldl_runDomain_routers _
    rw [routers]
    apply List.ext_getElem?
    intro index
    rw [List.getElem?_map, List.getElem?_map]
    cases located : req.routers[index]? with
    | none =>
        have beyond : (openDomains req.nodes (normalizeRouters req.routers)
            (ownerRouter req)).routers[index]? = none := by
          rw [List.getElem?_eq_none_iff, opened.length]
          simpa [normalizeRouters] using List.getElem?_eq_none_iff.mp located
        rw [beyond]
        rfl
    | some router =>
        have normal : (normalizeRouters req.routers)[index]? =
            some (normalizeRouter index router) := by
          simp [normalizeRouters, located]
        rcases opened.joined normal with ⟨domain, joined⟩
        rcases joined.result with ⟨sa, demand, shown, _⟩
        rw [shown, Option.map_some, Option.map_some, routerResult_id, normalizeRouter_id]

end HomelabBuilder.Ipam

/-! # The owner of an address

A domain writes down whom an address belongs to, by id. Entities that share an
address therefore share an id, whatever ids the request repeats.
-/

namespace HomelabBuilder.Ipam

open Net

/-- What a domain has promised or handed out is taken and written down. -/
structure OwnersKnown (nodes : List NodeDTO) (members : List Nat) (state : DomainState) : Prop where
  accepted : ∀ {id ip}, state.accepted.lookup id = some ip →
    ip ∈ state.allocator.used ∧ state.owners.lookup ip = some id
  granted : ∀ {entity : Entity} {ip}, entity.nodeIndex ∈ members →
    parseIPTo4 (assignedIPIn state.results entity) = some ip →
    ip ∈ state.allocator.used ∧ state.owners.lookup ip = entityID nodes entity

section Run

variable {nodes : List NodeDTO} {members : List Nat} {before after : DomainState}

theorem OwnersKnown.reserve (known : OwnersKnown nodes members before) {ip : Nat} (id : String)
    (available : before.allocator.isAvailable ip = true) :
    OwnersKnown nodes members (before.reserve ip id) := by
  have fresh := (SubnetAllocator.isAvailable_iff.mp available).2.2
  have kept {other : Nat} {owner : Option String}
      (facts : other ∈ before.allocator.used ∧ before.owners.lookup other = owner) :
      other ∈ (before.reserve ip id).allocator.used ∧
        (before.reserve ip id).owners.lookup other = owner := by
    have different : other ≠ ip := fun same => fresh (same ▸ facts.1)
    refine ⟨List.mem_cons_of_mem ip facts.1, ?_⟩
    rw [DomainState.reserve, Table.lookup_cons, if_neg different]
    exact facts.2
  exact ⟨fun found => kept (known.accepted found),
    fun member assigned => kept (known.granted member assigned)⟩

theorem OwnersKnown.assign (known : OwnersKnown nodes members before) {entity : Entity} {ip : Nat}
    (bound : ip < 2 ^ 32)
    (owned : ip ∈ before.allocator.used ∧ before.owners.lookup ip = entityID nodes entity) :
    OwnersKnown nodes members (before.assign entity ip) := by
  refine ⟨known.accepted, ?_⟩
  intro other address member assigned
  by_cases equal : other = entity
  · subst equal
    simp only [DomainState.assign, assignedIPIn_setNodeIP_self] at assigned
    split at assigned
    · rw [parseIPTo4_formatIPv4 ip bound] at assigned
      cases assigned
      exact owned
    · cases assigned
  · rw [DomainState.assign, assignedIPIn_setNodeIP_other _ _ equal] at assigned
    exact known.granted member assigned

theorem DomainStep.ownersKnown (step : DomainStep nodes members before after)
    (addresses : Addresses before) (known : OwnersKnown nodes members before) :
    OwnersKnown nodes members after := by
  cases step with
  | report => exact ⟨known.accepted, known.granted⟩
  | @accept entity id ip _ _ available =>
      have reserved := known.reserve id available
      refine ⟨?_, reserved.granted⟩
      intro other address found
      by_cases equal : other = id
      · subst equal
        simp only [DomainState.accept, Table.lookup_cons, if_true] at found
        cases found
        simp [DomainState.accept, DomainState.reserve, SubnetAllocator.markUsed]
      · simp only [DomainState.accept, Table.lookup_cons, equal, if_false] at found
        exact reserved.accepted found
  | keep _ _ named found =>
      apply known.assign (addresses.accepted (Table.mem_of_lookup found))
      rw [named]
      exact known.accepted found
  | place _ _ named available =>
      apply (known.reserve _ available).assign (SubnetAllocator.lt_of_isAvailable available)
      rw [named]
      simp [DomainState.reserve, SubnetAllocator.markUsed]
  | block grows =>
      exact ⟨fun found => ⟨grows (known.accepted found).1, (known.accepted found).2⟩,
        fun member assigned =>
          ⟨grows (known.granted member assigned).1, (known.granted member assigned).2⟩⟩

theorem DomainRun.ownersKnown (run : DomainRun nodes members before after)
    (addresses : Addresses before) (known : OwnersKnown nodes members before) :
    OwnersKnown nodes members after := by
  induction run with
  | refl => exact known
  | tail run step induction => exact step.ownersKnown (DomainRun.addresses run addresses) induction

end Run

theorem entityID_eq_of_assignedIP_eq (req : AllocateRequest) {left right : Entity}
    {key : DomainKey} (leftMember : domainOf req left = some key)
    (rightMember : domainOf req right = some key)
    (assigned : (allocate req).assignedIP left ≠ "")
    (same : (allocate req).assignedIP left = (allocate req).assignedIP right) :
    entityID req.nodes left = entityID req.nodes right := by
  rcases exists_router_of_domainOf leftMember with ⟨ri, served⟩
  rcases routerDomain_eq_some.mp served with ⟨entry, located, entryKey⟩
  have opened := opened_openDomains req.routers req.nodes (ownerRouter req)
  rcases opened.joined located with ⟨domain, joined⟩
  have domainKey : domain.key = key := joined.key.trans entryKey
  subst domainKey
  rcases exists_turn req (ownerRouter req) joined.listed with ⟨before, turn⟩
  rw [domainOf_eq_some] at leftMember rightMember
  rw [allocate_of_routerDomain served] at assigned same
  have start : OwnersKnown req.nodes (domainNodeIndexes req.nodes
      (normalizeRouters req.routers) (ownerRouter req) domain.key) (domain.turn before) := by
    constructor
    · intro id ip found
      cases found
    intro entity ip member found
    have empty : assignedIPIn (domain.turn before).results entity = "" :=
      turn.upcoming.unassigned domain List.mem_cons_self entity member
    rw [empty] at found
    cases found
  have known := (@runDomain_turn _ (mergeZones req.customZones) _ before domain).ownersKnown
    (turn.upcoming.addresses domain) start
  rcases (turn.isAddressText leftMember).resolve_left assigned with ⟨ip, bound, text⟩
  have leftRead : parseIPTo4 ((allocateOwned req (ownerRouter req)).assignedIP left) = some ip :=
    text ▸ parseIPTo4_formatIPv4 ip bound
  have rightRead := leftRead
  rw [same] at rightRead
  rw [turn.final left leftMember] at leftRead
  rw [turn.final right rightMember] at rightRead
  exact (known.granted leftMember leftRead).2.symm.trans (known.granted rightMember rightRead).2

end HomelabBuilder.Ipam
