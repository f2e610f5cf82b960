import HomelabBuilder.Ipam.AddressSafety
import HomelabBuilder.Ipam.Membership
import HomelabBuilder.Ipam.ReplayDomain

/-! # Allocating again

A request that brings the addresses of an earlier response gets the same
response again, apart from what it reports.
-/

namespace HomelabBuilder.Ipam

open Net

/-! ## Reservations of a request -/

def DomainState.books (state : DomainState) :
    SubnetAllocator × List (Nat × String) × List (String × Nat) :=
  (state.allocator, state.owners, state.accepted)

theorem books_preReserveExisting {first second : DomainState}
    (same : first.books = second.books) (id value : String) :
    (preReserveExisting first id value).books = (preReserveExisting second id value).books := by
  cases first
  cases second
  simp only [DomainState.books, Prod.mk.injEq] at same
  rcases same with ⟨rfl, rfl, rfl⟩
  unfold preReserveExisting
  split
  · rfl
  · cases parseIPTo4 value with
    | none => rfl
    | some ip =>
        dsimp only
        split_ifs <;> rfl

theorem books_reserveAll (nodes : List NodeDTO) (values : Entity → String) :
    ∀ (entities : List Entity) {first second : DomainState}, first.books = second.books →
    (reserveAll nodes values entities first).books =
      (reserveAll nodes values entities second).books
  | [], _, _, same => same
  | head :: tail, _, _, same =>
      books_reserveAll nodes values tail
        (books_preReserveExisting same (idOf nodes head) (values head))

/-- The address an entity has reserved before the domain places anything. -/
def reservedIn (nodes : List NodeDTO) (nodeIndexes : List Nat) (domain : AllocationDomain)
    (entity : Entity) : Option Nat :=
  (reserveMembers nodes nodeIndexes domain.opening).accepted.lookup (idOf nodes entity)

theorem accepted_allocateDomain_turn (nodes : List NodeDTO) (zones : List (String × ZoneConfig))
    (nodeIndexes : List Nat) (domain : AllocationDomain) (resp : AllocateResponse)
    (entity : Entity) :
    (allocateDomain nodes zones nodeIndexes (domain.turn resp)).accepted.lookup
        (idOf nodes entity) = reservedIn nodes nodeIndexes domain entity := by
  have books : (reserveAll nodes (existingOf nodes) (reservingEntities nodes nodeIndexes)
      (domain.turn resp)).books = (reserveAll nodes (existingOf nodes)
        (reservingEntities nodes nodeIndexes) domain.opening).books :=
    books_reserveAll nodes _ _ rfl
  have accepted := congrArg (fun parts => parts.2.2) books
  rw [reserveMembers_accepted, reservedIn, reserveMembers_eq, reserveMembers_eq]
  exact congrArg (fun table : List (String × Nat) => table.lookup (idOf nodes entity)) accepted

/-- The address a device of the request has reserved, if it was free. -/
def reservedIP (req : AllocateRequest) (entity : Entity) : Option Nat :=
  (domainOf req entity).bind fun key =>
    ((openDomains req.nodes (normalizeRouters req.routers) (ownerRouter req)).domains.find?
      (·.key = key)).bind fun domain =>
        reservedIn req.nodes
          (domainNodeIndexes req.nodes (normalizeRouters req.routers) (ownerRouter req) key)
          domain entity

theorem find?_openDomains {req : AllocateRequest} {owner : String → Option Nat}
    {domain : AllocationDomain}
    (listed : domain ∈ (openDomains req.nodes (normalizeRouters req.routers) owner).domains) :
    (openDomains req.nodes (normalizeRouters req.routers) owner).domains.find?
      (·.key = domain.key) = some domain := by
  have opened := opened_openDomains req.routers req.nodes owner
  cases search : (openDomains req.nodes (normalizeRouters req.routers) owner).domains.find?
      (·.key = domain.key) with
  | none => exact absurd (List.find?_eq_none.mp search domain listed) (by simp)
  | some other =>
      have key : other.key = domain.key := by simpa using List.find?_some search
      rw [eq_of_key_eq opened.keys (List.mem_of_find?_eq_some search) listed key]

theorem reservedIP_of_member {req : AllocateRequest} {domain : AllocationDomain}
    (listed : domain ∈
      (openDomains req.nodes (normalizeRouters req.routers) (ownerRouter req)).domains)
    {entity : Entity} (member : entity.nodeIndex ∈
      domainNodeIndexes req.nodes (normalizeRouters req.routers) (ownerRouter req) domain.key) :
    reservedIP req entity = reservedIn req.nodes
      (domainNodeIndexes req.nodes (normalizeRouters req.routers) (ownerRouter req) domain.key)
      domain entity := by
  rw [reservedIP, domainOf_eq_some.mpr member, Option.bind_some, find?_openDomains listed,
    Option.bind_some]

theorem owned_turn {domain : AllocationDomain} (wellFormed : domain.WellFormed)
    (resp : AllocateResponse) : Owned (domain.turn resp) := by
  intro ip usable known
  refine (wellFormed.owned ip known).resolve_right ?_
  rw [show domain.allocator.isUsable ip = true from usable]
  simp

theorem Upcoming.pending {nodes : List NodeDTO} {members : DomainKey → List Nat}
    {domains : List AllocationDomain} {resp : AllocateResponse}
    (upcoming : Upcoming nodes members domains resp) {domain : AllocationDomain}
    (listed : domain ∈ domains) : Pending nodes (members domain.key) (domain.turn resp) :=
  ⟨upcoming.lists, upcoming.addresses domain, upcoming.unassigned domain listed⟩

theorem eq_of_reservedIP {req : AllocateRequest} (distinct : DistinctEntities req.nodes)
    {entity : Entity} {id : String} (named : entityID req.nodes entity = some id) {ip : Nat}
    (reserved : reservedIP req entity = some ip) :
    parseIPTo4 (existingOf req.nodes entity) = some ip ∧
      ((allocate req).assignedIP entity = "" ∨
        parseIPTo4 ((allocate req).assignedIP entity) = some ip) := by
  have ownID : idOf req.nodes entity = id := by rw [idOf, named, Option.getD_some]
  rcases Option.bind_eq_some_iff.mp reserved with ⟨key, inDomain, rest⟩
  rcases Option.bind_eq_some_iff.mp rest with ⟨domain, found, holds⟩
  have listed := List.mem_of_find?_eq_some found
  have sameKey : domain.key = key := by simpa using List.find?_some found
  subst sameKey
  have member := domainOf_eq_some.mp inDomain
  rcases exists_turn req (ownerRouter req) listed with ⟨before, turn⟩
  rcases exists_router_of_domainOf inDomain with ⟨ri, served⟩
  have wellFormed := turn.upcoming.wellFormed domain List.mem_cons_self
  have names : Named req.nodes (domainNodeIndexes req.nodes (normalizeRouters req.routers)
      (ownerRouter req) domain.key) _ := named_reservingEntities (List.nodup_range.filter _)
  refine ⟨?_, ?_⟩
  · have owned : Owned { domain.opening with accepted := [] } :=
      owned_turn wellFormed ⟨[], [], [], []⟩
    rw [reservedIn, reserveMembers_eq] at holds
    by_cases reserving : entity ∈ reservingEntities req.nodes (domainNodeIndexes req.nodes
        (normalizeRouters req.routers) (ownerRouter req) domain.key)
    · exact parse_of_accepted_reserveAll distinct _ names owned reserving rfl holds
    · rw [accepted_reserveAll _ _ owned] at holds
      · cases holds
      · intro other known same
        have otherNamed := names.named other known
        rw [same, ownID] at otherNamed
        exact reserving (distinct other entity id otherNamed named ▸ known)
  · have honoured := honoured_allocateDomain (mergeZones req.customZones) rfl
      (turn.upcoming.pending List.mem_cons_self)
    rw [← accepted_allocateDomain_turn req.nodes (mergeZones req.customZones) _ domain before,
      ownID] at holds
    have kept := honoured entity id ip member named holds
    rw [givenIP, ← turn.final entity member] at kept
    rw [allocate_of_routerDomain served]
    exact kept

/-! ## The domains again -/

/-- The members of all domains bring what they had reserved, and beyond that
only old texts or what they were given. -/
def AllRestate (left right : List NodeDTO) (members : DomainKey → List Nat)
    (domains : List AllocationDomain) (final : AllocateResponse) : Prop :=
  ∀ domain ∈ domains, ∀ entity ∈ reservingEntities left (members domain.key),
    Restates (reservedIn left (members domain.key) domain entity)
      (parseIPTo4 (final.assignedIP entity)) (existingOf left entity) (existingOf right entity)

theorem foldl_runDomain_replay {left right : List NodeDTO} (bare : SameBare left right)
    (distinct : DistinctEntities left) {zones : List (String × ZoneConfig)}
    {members : DomainKey → List Nat} (nodup : ∀ key, (members key).Nodup)
    (apart : MembersApart members) :
    ∀ (domains : List AllocationDomain) {first second : AllocateResponse},
    Upcoming left members domains first → second.nodes = first.nodes →
    AllRestate left right members domains
      (domains.foldl (runDomain left zones members) first) →
    (domains.foldl (runDomain right zones members) second).nodes =
      (domains.foldl (runDomain left zones members) first).nodes
  | [], _, _, _, same, _ => same
  | head :: tail, first, second, upcoming, same, restate => by
      have turn := upcoming.head zones apart
      have step : (runDomain right zones members second head).nodes =
          (runDomain left zones members first head).nodes := by
        rw [runDomain_nodes, runDomain_nodes]
        refine allocateDomain_replay bare distinct zones (nodup head.key) rfl rfl same
          (owned_turn (upcoming.wellFormed head List.mem_cons_self) first) rfl
          (upcoming.pending List.mem_cons_self) fun entity listed => ?_
        have member := (named_reservingEntities (nodup head.key)).member entity listed
        have restated := restate head List.mem_cons_self entity listed
        rw [turn.final entity member] at restated
        rw [accepted_allocateDomain_turn]
        exact restated
      exact foldl_runDomain_replay bare distinct nodup apart tail (upcoming.next apart) step
        fun domain listed => restate domain (List.mem_cons_of_mem head listed)

/-! ## Routers that come to the same -/

/-- A normalised router without what it has to say. -/
def NormalRouter.quiet (entry : NormalRouter) : NormalRouter := { entry with issues := [] }

private theorem domainDHCP_quiet (normal : List NormalRouter) :
    domainDHCP (normal.map NormalRouter.quiet) = domainDHCP normal := by
  funext key
  rw [domainDHCP, List.any_map]
  rfl

private theorem routerDomain_quiet (normal : List NormalRouter) :
    routerDomain (normal.map NormalRouter.quiet) = routerDomain normal := by
  funext index
  rw [routerDomain, List.getElem?_map, Option.map_map]
  rfl

private theorem nodeDomain_quiet (normal : List NormalRouter) (owner : String → Option Nat) :
    nodeDomain (normal.map NormalRouter.quiet) owner = nodeDomain normal owner := by
  funext id
  rw [nodeDomain, nodeDomain, routerDomain_quiet]

private theorem domainDemand_quiet (nodes : List NodeDTO) (normal : List NormalRouter)
    (owner : String → Option Nat) :
    domainDemand nodes (normal.map NormalRouter.quiet) owner = domainDemand nodes normal owner := by
  funext key
  simp only [domainDemand, nodeDomain_quiet]

private theorem openDomain_quiet (normal : List NormalRouter) (demand : DomainKey → Int)
    (pass : DomainPass) (entry : NormalRouter) :
    openDomain (normal.map NormalRouter.quiet) demand pass entry.quiet =
      openDomain normal demand pass entry := by
  have opening : newDomain (normal.map NormalRouter.quiet) demand entry.quiet =
      newDomain normal demand entry := by
    rw [newDomain, newDomain, domainDHCP_quiet]
    rfl
  rw [openDomain, openDomain, opening]
  rfl

private theorem openDomains_quiet (nodes : List NodeDTO) (normal : List NormalRouter)
    (owner : String → Option Nat) :
    openDomains nodes (normal.map NormalRouter.quiet) owner = openDomains nodes normal owner := by
  simp only [openDomains, domainDemand_quiet, List.foldl_map, openDomain_quiet]

private theorem domainNodeIndexes_quiet (nodes : List NodeDTO) (normal : List NormalRouter)
    (owner : String → Option Nat) :
    domainNodeIndexes nodes (normal.map NormalRouter.quiet) owner =
      domainNodeIndexes nodes normal owner := by
  funext key
  simp only [domainNodeIndexes, nodeDomain_quiet]

/-- Two requests that come to the same gateways, domains and cables. -/
structure SameNetwork (left right : AllocateRequest) : Prop where
  topology : SameTopology left right
  routers : (normalizeRouters left.routers).map NormalRouter.quiet =
    (normalizeRouters right.routers).map NormalRouter.quiet
  customZones : left.customZones = right.customZones

/-- Whatever devices bring to the second request, as long as they restate what
they had reserved and bring no other address of somebody else, they and the
routers get the same response. -/
theorem SameNetwork.allocate_replay {left right : AllocateRequest} (same : SameNetwork left right)
    (distinct : (entityIDs left.nodes).Nodup) (distinctNodes : DistinctNodeIDs left)
    (restates : ∀ entity id, entityID left.nodes entity = some id →
      Restates (reservedIP left entity) (parseIPTo4 ((allocate left).assignedIP entity))
        (existingOf left.nodes entity) (existingOf right.nodes entity)) :
    (allocate right).nodes = (allocate left).nodes ∧
      (allocate right).routers = (allocate left).routers := by
  have bare := same.topology.nodes
  have owner := same.topology.ownerRouter_eq distinctNodes
  have counts : left.routers.length = right.routers.length := by
    simpa using congrArg List.length same.topology.routers
  by_cases none : left.routers = []
  · have alsoNone : right.routers = [] := List.eq_nil_of_length_eq_zero (by simp [← counts, none])
    simp only [allocate, none, alsoNone, if_true, bare.emptyResults, and_self]
  · have some : right.routers ≠ [] := fun empty => none
      (List.eq_nil_of_length_eq_zero (by simp [counts, empty]))
    have members : domainNodeIndexes right.nodes (normalizeRouters right.routers)
          (ownerRouter left) =
        domainNodeIndexes left.nodes (normalizeRouters left.routers) (ownerRouter left) := by
      rw [← domainNodeIndexes_quiet, ← same.routers, domainNodeIndexes_quiet,
        bare.domainNodeIndexes]
    have pass : openDomains right.nodes (normalizeRouters right.routers) (ownerRouter left) =
        openDomains left.nodes (normalizeRouters left.routers) (ownerRouter left) := by
      rw [← openDomains_quiet, ← same.routers, openDomains_quiet]
      simp only [openDomains, bare.domainDemand]
    have whole : allocate left = allocateOwned left (ownerRouter left) := by simp [allocate, none]
    have again : allocate right = allocateOwned right (ownerRouter left) := by
      simp [allocate, some, owner]
    rw [again, whole]
    refine ⟨?_, ?_⟩
    · rw [allocateOwned_eq, allocateOwned_eq, pass, members, ← same.customZones]
      refine foldl_runDomain_replay bare (distinctEntities_of_nodup distinct) (fun key => ?_)
        (membersApart_domainNodeIndexes _ _ _) _ (upcoming_startResponse left _)
        bare.emptyResults.symm fun domain listed entity known => ?_
      · exact List.nodup_range.filter _
      · have names : Named left.nodes (domainNodeIndexes left.nodes
            (normalizeRouters left.routers) (ownerRouter left) domain.key) _ :=
          named_reservingEntities (List.nodup_range.filter _)
        have restated := restates entity _ (names.named entity known)
        rw [reservedIP_of_member listed (names.member entity known), whole] at restated
        exact restated
    · rw [allocateOwned_routers, allocateOwned_routers, pass]

/-! ## Conflicts about devices that have their own address -/

theorem mem_entityIDs {nodes : List NodeDTO} {entity : Entity} {id : String}
    (named : entityID nodes entity = some id) : id ∈ entityIDs nodes := by
  cases entity with
  | node index =>
      rcases Option.map_eq_some_iff.mp named with ⟨node, found, rfl⟩
      exact List.mem_flatMap.mpr ⟨node, List.mem_of_getElem? found, List.mem_cons_self⟩
  | vm host index =>
      rcases Option.map_eq_some_iff.mp named with ⟨vm, found, rfl⟩
      rcases Option.bind_eq_some_iff.mp found with ⟨node, located, guest⟩
      exact List.mem_flatMap.mpr ⟨node, List.mem_of_getElem? located,
        List.mem_cons_of_mem _ (List.mem_map_of_mem (List.mem_of_getElem? guest))⟩

/-- A conflict about a device of a domain says that it cannot host guests, or
that the address it has brought was turned down in the turn of its domain. -/
theorem turnedDown_of_reported (req : AllocateRequest) (distinct : DistinctIDs req)
    {entity : Entity} {id : String} (named : entityID req.nodes entity = some id)
    {key : DomainKey} (inDomain : domainOf req entity = some key) {issue : Issue}
    (reported : issue ∈ (allocate req).conflicts) (about : issue.nodeID = id) :
    CannotHost req.nodes (mergeZones req.customZones) issue ∨
      ∃ domain before, Turn req (ownerRouter req) domain before ∧
        domain ∈ (openDomains req.nodes (normalizeRouters req.routers)
          (ownerRouter req)).domains ∧
        entity ∈ reservingEntities req.nodes (domainNodeIndexes req.nodes
          (normalizeRouters req.routers) (ownerRouter req) domain.key) ∧
        ∀ ip, parseIPTo4 (existingOf req.nodes entity) = some ip →
          TurnedDown req.nodes { domain.turn before with accepted := [] }
            (reserveMembers req.nodes (domainNodeIndexes req.nodes (normalizeRouters req.routers)
              (ownerRouter req) domain.key) (domain.turn before))
            (reservingEntities req.nodes (domainNodeIndexes req.nodes
              (normalizeRouters req.routers) (ownerRouter req) domain.key)) entity ip := by
  have entities := distinctEntities_of_nodup distinct.entities
  rcases exists_router_of_domainOf inDomain with ⟨ri, served⟩
  rw [allocate_of_routerDomain served, allocateOwned_eq] at reported
  rcases exists_turnOf_conflict (membersApart_domainNodeIndexes _ _ _) _
      (upcoming_startResponse req (ownerRouter req)) reported with
    early | ⟨domain, listed, before, turn, fresh, late⟩
  · -- Routers share no id with devices.
    have router : About (req.routers.map (·.id)) issue :=
      (List.mem_append.mp early).elim routerConflicts_about openDomains_about
    exact absurd rfl ((List.nodup_append.mp distinct).2.2 _ router _ (about ▸ mem_entityIDs named))
  · rw [allocateDomain_eq] at late
    rcases mem_conflicts_placeMembers late with reserving | infra
    · right
      rw [reserveMembers_eq] at reserving
      have names : Named req.nodes (domainNodeIndexes req.nodes (normalizeRouters req.routers)
          (ownerRouter req) domain.key) _ := named_reservingEntities (List.nodup_range.filter _)
      have owned : Owned { domain.turn before with accepted := [] } :=
        owned_turn (turn.upcoming.wellFormed domain List.mem_cons_self) before
      rcases mem_conflicts_reserveAll entities _ names owned reserving with
        old | ⟨other, known, otherID, reason⟩
      · exact absurd old fresh
      · have same : other = entity := by
          have otherNamed := names.named other known
          rw [← otherID, about] at otherNamed
          exact entities other entity id otherNamed named
        subst same
        refine ⟨domain, before, turn, listed, known, ?_⟩
        rw [reserveMembers_eq]
        exact reason
    · exact .inl infra

theorem promised_of_accepted {req : AllocateRequest} {owner : String → Option Nat}
    {domain : AllocationDomain} {before : AllocateResponse} {holder : Entity} {ip : Nat}
    (listed : holder ∈ reservingEntities req.nodes (domainNodeIndexes req.nodes
      (normalizeRouters req.routers) owner domain.key))
    (holds : (reserveMembers req.nodes (domainNodeIndexes req.nodes (normalizeRouters req.routers)
      owner domain.key) (domain.turn before)).accepted.lookup (idOf req.nodes holder) = some ip) :
    (ledgerOf req.nodes (domainNodeIndexes req.nodes (normalizeRouters req.routers) owner
      domain.key) (turnEnd req owner domain before)).promised holder = some ip := by
  have names : Named req.nodes (domainNodeIndexes req.nodes (normalizeRouters req.routers)
      owner domain.key) _ := named_reservingEntities (List.nodup_range.filter _)
  have named := names.named holder listed
  rw [← reserveMembers_accepted] at holds
  simpa only [ledgerOf, named, Option.bind_some] using holds

/-- A device that gets the address it has brought is reported as an
infrastructure node with guests, or not at all. -/
theorem cannotHost_of_own_address (req : AllocateRequest) (distinct : DistinctIDs req)
    {entity : Entity} {id : String} (named : entityID req.nodes entity = some id) {ip : Nat}
    (given : parseIPTo4 ((allocate req).assignedIP entity) = some ip)
    (own : parseIPTo4 (existingOf req.nodes entity) = some ip) {issue : Issue}
    (reported : issue ∈ (allocate req).conflicts) (about : issue.nodeID = id) :
    CannotHost req.nodes (mergeZones req.customZones) issue := by
  have entities := distinctEntities_of_nodup distinct.entities
  have assigned : (allocate req).assignedIP entity ≠ "" := by
    intro empty
    rw [empty] at given
    cases given
  rcases domainOf_of_assignedIP assigned with ⟨key, inDomain⟩
  rcases exists_router_of_domainOf inDomain with ⟨ri, served⟩
  rcases turnedDown_of_reported req distinct named inDomain reported about with
    infra | ⟨domain, before, turn, _, known, reason⟩
  · exact infra
  · have names : Named req.nodes (domainNodeIndexes req.nodes (normalizeRouters req.routers)
        (ownerRouter req) domain.key) _ := named_reservingEntities (List.nodup_range.filter _)
    have member := names.member entity known
    have sound := Turn.sound turn entities
    have granted : (ledgerOf req.nodes (domainNodeIndexes req.nodes
        (normalizeRouters req.routers) (ownerRouter req) domain.key)
        (turnEnd req (ownerRouter req) domain before)).granted entity = some ip := by
      rw [granted_ledgerOf member, givenIP, ← turn.final entity member,
        ← allocate_of_routerDomain served]
      exact given
    have facts := sound.granted granted
    rcases reason ip own with foreign | taken | ⟨holder, holderKnown, different, holds⟩
    · exact absurd facts.1 foreign
    · exact absurd taken facts.2.1
    · -- Somebody else has reserved the address.
      have promised := promised_of_accepted holderKnown holds
      exact absurd (congrArg (idOf req.nodes) (sound.apart granted promised)) different

/-! ## Keeping the addresses -/

/-- The address of a response, or else another text. -/
def AllocateResponse.addressOr (resp : AllocateResponse) (entity : Entity) (value : String) :
    String :=
  if resp.assignedIP entity = "" then value else resp.assignedIP entity

/-- The request whose devices bring the addresses of a response. -/
def AllocateRequest.withAddresses (req : AllocateRequest) (resp : AllocateResponse) :
    AllocateRequest :=
  { req with
    nodes := req.nodes.mapIdx fun index node =>
      { node with
        existingIP := resp.addressOr (.node index) node.existingIP
        vms := node.vms.mapIdx fun position vm =>
          { vm with existingIP := resp.addressOr (.vm index position) vm.existingIP } } }

section WithAddresses

variable (req : AllocateRequest) (resp : AllocateResponse)

theorem existingOf_withAddresses {entity : Entity} {id : String}
    (named : entityID req.nodes entity = some id) :
    existingOf (req.withAddresses resp).nodes entity =
      resp.addressOr entity (existingOf req.nodes entity) := by
  cases entity with
  | node index =>
      rcases Option.map_eq_some_iff.mp named with ⟨node, found, rfl⟩
      simp [existingOf, AllocateRequest.withAddresses, found]
  | vm host index =>
      rcases Option.map_eq_some_iff.mp named with ⟨vm, found, rfl⟩
      rcases Option.bind_eq_some_iff.mp found with ⟨node, located, guest⟩
      simp [existingOf, AllocateRequest.withAddresses, located, guest]

/-- A node without its existing addresses. -/
def NodeDTO.unaddressed (node : NodeDTO) : NodeDTO :=
  { node with existingIP := "", vms := node.vms.map VMDTO.bare }

theorem unaddressed_withAddresses :
    (req.withAddresses resp).nodes.map NodeDTO.unaddressed =
      req.nodes.map NodeDTO.unaddressed := by
  apply List.ext_getElem?
  intro index
  cases found : req.nodes[index]? with
  | none => simp [AllocateRequest.withAddresses, found]
  | some node =>
      simp only [AllocateRequest.withAddresses, List.getElem?_map, List.getElem?_mapIdx, found,
        Option.map_some, NodeDTO.unaddressed, Option.some.injEq, NodeDTO.mk.injEq, true_and,
        and_true]
      apply List.ext_getElem?
      intro position
      cases guest : node.vms[position]? <;> simp [guest, VMDTO.bare]

end WithAddresses

theorem SameBare.of_unaddressed {left right : List NodeDTO}
    (same : left.map NodeDTO.unaddressed = right.map NodeDTO.unaddressed) :
    SameBare left right := by
  have ofUnaddressed (nodes : List NodeDTO) :
      nodes.map NodeDTO.bare = (nodes.map NodeDTO.unaddressed).map NodeDTO.bare := by
    simp [NodeDTO.bare, NodeDTO.unaddressed, VMDTO.bare]
  rw [SameBare, ofUnaddressed, same, ← ofUnaddressed]

theorem adjacent_of_unaddressed {left right : List NodeDTO}
    (same : left.map NodeDTO.unaddressed = right.map NodeDTO.unaddressed) {source target : String}
    (adjacent : Adjacent left source target) : Adjacent right source target := by
  rcases adjacent with ⟨node, member, ends⟩
  have image : node.unaddressed ∈ right.map NodeDTO.unaddressed :=
    same ▸ List.mem_map_of_mem member
  rcases List.mem_map.mp image with ⟨other, otherMember, equal⟩
  have id : other.id = node.id := (congrArg NodeDTO.id equal :)
  have connections : other.connections = node.connections :=
    (congrArg NodeDTO.connections equal :)
  exact ⟨other, otherMember, by rwa [id, connections]⟩

theorem SameTopology.of_unaddressed {left right : AllocateRequest}
    (routers : left.routers.map (·.id) = right.routers.map (·.id))
    (same : left.nodes.map NodeDTO.unaddressed = right.nodes.map NodeDTO.unaddressed) :
    SameTopology left right where
  routers := routers
  nodes := .of_unaddressed same
  adjacent := fun _ _ =>
    ⟨adjacent_of_unaddressed same, adjacent_of_unaddressed same.symm⟩

theorem distinctNodeIDs_of_nodup {req : AllocateRequest} (distinct : (entityIDs req.nodes).Nodup) :
    DistinctNodeIDs req := by
  have heads : (req.nodes.map (·.id)).Sublist (entityIDs req.nodes) := by
    unfold entityIDs
    induction req.nodes with
    | nil => exact .slnil
    | cons head tail induction =>
        rw [List.map_cons, List.flatMap_cons, List.cons_append]
        exact .cons_cons _ (induction.trans (List.sublist_append_right _ _))
  exact heads.nodup distinct

theorem SameBare.entityIDs {left right : List NodeDTO} (same : SameBare left right) :
    entityIDs left = Ipam.entityIDs right := by
  have ofBare (nodes : List NodeDTO) :
      Ipam.entityIDs nodes = Ipam.entityIDs (nodes.map NodeDTO.bare) := by
    simp [Ipam.entityIDs, List.flatMap_map, NodeDTO.bare, VMDTO.bare, Function.comp_def]
  rw [ofBare left, same, ← ofBare right]

theorem CannotHost.of_sameBare {left right : List NodeDTO} (same : SameBare left right)
    {zones : List (String × ZoneConfig)} {issue : Issue} (reported : CannotHost left zones issue) :
    CannotHost right zones issue := by
  rcases reported with ⟨index, node, found, infra, guests, rfl⟩
  have shape := same.getElem? index
  rw [found, Option.map_some] at shape
  rcases Option.map_eq_some_iff.mp shape.symm with ⟨other, otherFound, bare⟩
  have id : other.id = node.id := (congrArg NodeDTO.id bare :)
  have type : other.type = node.type := (congrArg NodeDTO.type bare :)
  have vms : other.vms.map VMDTO.bare = node.vms.map VMDTO.bare := (congrArg NodeDTO.vms bare :)
  refine ⟨index, other, otherFound, ?_, ?_, by rw [id, type]⟩
  · simpa [isHost, found, otherFound, type] using infra
  · intro empty
    rw [empty] at vms
    exact guests (List.map_eq_nil_iff.mp vms.symm)

/-- A request that brings the addresses of its response gets the same response,
and no conflict about a device with an address but those about infrastructure
nodes with guests. -/
theorem reallocation_is_fixpoint (req : AllocateRequest) (distinct : DistinctIDs req) :
    (∀ entity, (allocate (req.withAddresses (allocate req))).assignedIP entity =
      (allocate req).assignedIP entity) ∧
    (allocate (req.withAddresses (allocate req))).routers = (allocate req).routers ∧
    ∀ entity id, entityID req.nodes entity = some id → (allocate req).assignedIP entity ≠ "" →
      ∀ issue ∈ (allocate (req.withAddresses (allocate req))).conflicts, issue.nodeID = id →
        CannotHost req.nodes (mergeZones req.customZones) issue := by
  have bare : SameBare req.nodes (req.withAddresses (allocate req)).nodes :=
    .of_unaddressed (unaddressed_withAddresses req (allocate req)).symm
  have network : SameNetwork req (req.withAddresses (allocate req)) :=
    ⟨.of_unaddressed rfl (unaddressed_withAddresses req (allocate req)).symm, rfl, rfl⟩
  have entities := distinctEntities_of_nodup distinct.entities
  have replayed := network.allocate_replay distinct.entities
    (distinctNodeIDs_of_nodup distinct.entities) fun entity id named => by
      rw [existingOf_withAddresses req _ named, AllocateResponse.addressOr]
      cases reserved : reservedIP req entity with
      | none =>
          dsimp only [Restates]
          split
          · exact .inl rfl
          · exact .inr (.inr rfl)
      | some ip =>
          have facts := eq_of_reservedIP entities named reserved
          dsimp only [Restates]
          split
          · exact facts.1
          · rename_i assigned
            exact facts.2.resolve_left assigned
  have sameIP (entity : Entity) :
      (allocate (req.withAddresses (allocate req))).assignedIP entity =
        (allocate req).assignedIP entity := by
    rw [AllocateResponse.assignedIP, replayed.1, AllocateResponse.assignedIP]
  refine ⟨sameIP, replayed.2, ?_⟩
  intro entity id named assigned issue reported about
  rcases domainOf_of_assignedIP assigned with ⟨key, inDomain⟩
  rcases (allocate_addressSafe req distinct.entities key).safe entity inDomain assigned with
    ⟨ip, read, _⟩
  have stillNamed : entityID (req.withAddresses (allocate req)).nodes entity = some id := by
    rw [← bare.entityID]
    exact named
  have brought : parseIPTo4 (existingOf (req.withAddresses (allocate req)).nodes entity) =
      some ip := by
    rw [existingOf_withAddresses req _ named, AllocateResponse.addressOr, if_neg assigned]
    exact read
  have stillDistinct : DistinctIDs (req.withAddresses (allocate req)) := by
    rw [DistinctIDs, ← bare.entityIDs]
    exact distinct
  exact (cannotHost_of_own_address _ stillDistinct stillNamed ((sameIP entity).symm ▸ read) brought
    reported about).of_sameBare bare.symm

def guestOnSwitch : AllocateRequest where
  routers := [{ id := "r1", gatewayIP := "10.0.0.1" }]
  nodes := [{ id := "sw1", type := "switch", connections := ["r1"], vms := [{ id := "vm1" }] }]

theorem reallocation_is_fixpoint_guestOnSwitch :
    (∀ entity, (allocate (guestOnSwitch.withAddresses (allocate guestOnSwitch))).assignedIP entity =
      (allocate guestOnSwitch).assignedIP entity) ∧
    (allocate (guestOnSwitch.withAddresses (allocate guestOnSwitch))).routers =
      (allocate guestOnSwitch).routers ∧
    ∀ entity id, entityID guestOnSwitch.nodes entity = some id →
      (allocate guestOnSwitch).assignedIP entity ≠ "" →
      ∀ issue ∈ (allocate (guestOnSwitch.withAddresses (allocate guestOnSwitch))).conflicts,
        issue.nodeID = id →
        CannotHost guestOnSwitch.nodes (mergeZones guestOnSwitch.customZones) issue :=
  reallocation_is_fixpoint guestOnSwitch (by unfold DistinctIDs; decide)

/-- The switch keeps its address and is reported all the same. -/
theorem guestOnSwitch_reported_with_address :
    ¬ ∀ req : AllocateRequest, DistinctIDs req → ∀ entity id,
      entityID req.nodes entity = some id → (allocate req).assignedIP entity ≠ "" →
      ∀ issue ∈ (allocate (req.withAddresses (allocate req))).conflicts, issue.nodeID ≠ id := by
  intro claim
  refine claim guestOnSwitch (by unfold DistinctIDs; decide) (.node 0) "sw1" rfl
    (by decide) ⟨"sw1", "switch nodes cannot host virtual machines or services"⟩ ?_ rfl
  decide

end HomelabBuilder.Ipam
