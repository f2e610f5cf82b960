import HomelabBuilder.Ipam.Ownership
import HomelabBuilder.Ipam.Turns
import HomelabBuilder.Ipam.Skeleton

/-! # Membership in address domains

What ownership means for the response: a node without an owner gets no address,
the connections of a request count only as the graph they describe, and a
synthetic gateway can own its node over a detour.
-/

namespace HomelabBuilder.Ipam

open Net

/-! ## Nodes without an owner -/

theorem assignedIP_of_unowned (req : AllocateRequest) {index : Nat} {node : NodeDTO}
    (found : req.nodes[index]? = some node) (unowned : ownerRouter req node.id = none)
    {entity : Entity} (onNode : entity.nodeIndex = index) :
    (allocate req).assignedIP entity = "" := by
  unfold allocate
  split
  · exact assignedIPIn_emptyResults _ _
  · unfold allocateOwned
    refine (foldl_runDomain_frame _ fun domain _ member => ?_).trans
      (assignedIPIn_emptyResults _ _)
    have listed := (List.mem_filter.mp member).2
    simp [onNode, found, nodeDomain, unowned] at listed

/-! ## Who owns whom -/

/-- Two requests over the same routers, nodes and cables, whatever else they say. -/
structure SameTopology (left right : AllocateRequest) : Prop where
  routers : left.routers.map (·.id) = right.routers.map (·.id)
  nodes : SameBare left.nodes right.nodes
  adjacent : ∀ source target, Adjacent left.nodes source target ↔ Adjacent right.nodes source target

namespace SameTopology

variable {left right : AllocateRequest}

theorem symm (same : SameTopology left right) : SameTopology right left where
  routers := same.routers.symm
  nodes := same.nodes.symm
  adjacent := fun source target => (same.adjacent source target).symm

theorem isRouterID (same : SameTopology left right) (id : String) :
    isRouterID left.routers id = Ipam.isRouterID right.routers id := by
  have ofIDs (routers : List RouterDTO) :
      Ipam.isRouterID routers id = (routers.map (·.id)).any (· = id) := by
    rw [List.any_map]
    rfl
  rw [ofIDs, same.routers, ← ofIDs]

private theorem forwards (same : SameTopology left right) {id : String}
    (passes : Forwards left id) : Forwards right id := by
  rcases passes with ⟨plain, node, member, equal, type⟩
  rcases same.nodes.exists_bare member with ⟨other, otherMember, bare⟩
  have sameID : other.id = node.id := (congrArg NodeDTO.id bare :)
  have sameType : other.type = node.type := (congrArg NodeDTO.type bare :)
  exact ⟨same.isRouterID id ▸ plain, other, otherMember, sameID.trans equal, sameType ▸ type⟩

theorem gatewayPath (same : SameTopology left right) {routerID id : String}
    (path : GatewayPath left routerID id) : GatewayPath right routerID id := by
  induction path with
  | first adjacent allowed => exact .first ((same.adjacent _ _).mp adjacent) allowed
  | extend _ passes adjacent induction =>
      exact .extend induction (same.forwards passes) ((same.adjacent _ _).mp adjacent)

theorem distinct (same : SameTopology left right) (distinct : DistinctNodeIDs left) :
    DistinctNodeIDs right := by
  have ids (nodes : List NodeDTO) :
      nodes.map (·.id) = (nodes.map NodeDTO.bare).map (·.id) := by
    simp only [List.map_map]
    rfl
  rw [DistinctNodeIDs, ids, ← same.nodes, ← ids]
  exact distinct

private theorem reachingRouters_subset (same : SameTopology left right) (id : String) :
    reachingRouters left left.routers id ⊆ reachingRouters right right.routers id := by
  rintro index ⟨router, located, path⟩
  have ids := congrArg (fun names : List String => names[index]?) same.routers
  simp only [List.getElem?_map, located, Option.map_some] at ids
  rcases Option.map_eq_some_iff.mp ids.symm with ⟨other, otherLocated, sameID⟩
  exact ⟨other, otherLocated, sameID ▸ same.gatewayPath path⟩

private theorem ownerRouter_of_some (same : SameTopology left right)
    (distinctIDs : DistinctNodeIDs left) {id : String} {owner : Nat}
    (owned : ownerRouter left id = some owner) : ownerRouter right id = some owner := by
  have listed : ∃ node ∈ left.nodes, node.id = id := by
    by_contra unlisted
    rw [ownerRouter_eq_none_of_foreign (.inr fun node member equal =>
      unlisted ⟨node, member, equal⟩)] at owned
    cases owned
  have plain : Ipam.isRouterID left.routers id = false := by
    by_contra isRouter
    rw [ownerRouter_eq_none_of_foreign (.inl (by simpa using isRouter))] at owned
    cases owned
  have least := (ownerRouter_eq_some_iff distinctIDs listed plain owner).mp owned
  have reaching : reachingRouters left left.routers id = reachingRouters right right.routers id :=
    Set.Subset.antisymm (same.reachingRouters_subset id) (same.symm.reachingRouters_subset id)
  rcases listed with ⟨node, member, equal⟩
  rcases same.nodes.exists_bare member with ⟨other, otherMember, bare⟩
  have sameID : other.id = node.id := (congrArg NodeDTO.id bare :)
  refine (ownerRouter_eq_some_iff (same.distinct distinctIDs)
    ⟨other, otherMember, sameID.trans equal⟩ (same.isRouterID id ▸ plain) owner).mpr ?_
  rwa [← reaching]

theorem ownerRouter_eq (same : SameTopology left right) (distinctIDs : DistinctNodeIDs left) :
    ownerRouter left = ownerRouter right := by
  funext id
  cases owned : ownerRouter right id with
  | some owner => exact same.symm.ownerRouter_of_some (same.distinct distinctIDs) owned
  | none =>
      cases claimed : ownerRouter left id with
      | none => rfl
      | some owner =>
          rw [same.ownerRouter_of_some distinctIDs claimed] at owned
          cases owned

end SameTopology

/-! ## Connections -/

/-- Everything about a node but its connections. -/
def NodeDTO.unwired (node : NodeDTO) : NodeDTO := { node with connections := [] }

/-- Two requests that differ in their connections only, with the same graph. -/
structure SameGraph (left right : AllocateRequest) : Prop where
  routers : left.routers = right.routers
  customZones : left.customZones = right.customZones
  nodes : left.nodes.map NodeDTO.unwired = right.nodes.map NodeDTO.unwired
  adjacent : ∀ source target, Adjacent left.nodes source target ↔ Adjacent right.nodes source target

private theorem preReserveNode_unwired (nodes : List NodeDTO) :
    preReserveNode (nodes.map NodeDTO.unwired) = preReserveNode nodes := by
  funext state index
  cases found : nodes[index]? <;> simp [preReserveNode, NodeDTO.unwired, found]

namespace SameGraph

variable {left right : AllocateRequest}

theorem sameBare (same : SameGraph left right) : SameBare left.nodes right.nodes := by
  have ofUnwired (nodes : List NodeDTO) :
      nodes.map NodeDTO.bare = (nodes.map NodeDTO.unwired).map NodeDTO.bare := by
    simp only [List.map_map]
    rfl
  rw [SameBare, ofUnwired, same.nodes, ← ofUnwired]

theorem sameTopology (same : SameGraph left right) : SameTopology left right :=
  ⟨congrArg _ same.routers, same.sameBare, same.adjacent⟩

theorem allocate_eq (same : SameGraph left right) (distinctIDs : DistinctNodeIDs left) :
    allocate left = allocate right := by
  have reserve : preReserveNode left.nodes = preReserveNode right.nodes := by
    rw [← preReserveNode_unwired left.nodes, same.nodes, preReserveNode_unwired right.nodes]
  have owned : allocateOwned left (ownerRouter left) =
      allocateOwned right (ownerRouter right) := by
    rw [same.sameTopology.ownerRouter_eq distinctIDs]
    exact same.sameBare.allocateOwned same.routers same.customZones reserve _
  simp only [allocate, same.routers, owned, same.sameBare.emptyResults]

end SameGraph

/-- Ownership is constrained reachability, a node out of every router's reach
has no address, and nothing else about the connections matters. -/
theorem ownership_is_constrained_reachability (req : AllocateRequest)
    (distinct : DistinctNodeIDs req) (index : Nat) {node : NodeDTO}
    (listed : req.nodes[index]? = some node)
    (plain : isRouterID req.routers node.id = false) :
    (∀ owner, ownerRouter req node.id = some owner ↔
      IsLeast {ri | ∃ router, req.routers[ri]? = some router ∧
        GatewayPath req router.id node.id} owner) ∧
    (ownerRouter req node.id = none ↔
      ∀ router ∈ req.routers, ¬ GatewayPath req router.id node.id) ∧
    (ownerRouter req node.id = none →
      ∀ entity : Entity, entity.nodeIndex = index → (allocate req).assignedIP entity = "") ∧
    (∀ other : AllocateRequest, SameGraph req other → allocate other = allocate req) := by
  have member : ∃ other ∈ req.nodes, other.id = node.id :=
    ⟨node, List.mem_of_getElem? listed, rfl⟩
  refine ⟨ownerRouter_eq_some_iff distinct member plain, ?_, ?_, ?_⟩
  · rw [ownerRouter_eq_none_iff distinct member plain, Set.eq_empty_iff_forall_notMem]
    constructor
    · intro unreached router declared path
      rcases List.getElem?_of_mem declared with ⟨ri, located⟩
      exact unreached ri ⟨router, located, path⟩
    · rintro unreached ri ⟨router, located, path⟩
      exact unreached router (List.mem_of_getElem? located) path
  · intro unowned entity onNode
    exact assignedIP_of_unowned req listed unowned onNode
  · intro other same
    exact (same.allocate_eq distinct).symm

/-- A NAT server between a router and a LAN of its own: a computer behind a switch of that LAN,
the server itself, which its own gateway steps over, and a node without a cable. -/
def natServer : AllocateRequest where
  routers :=
    [ { id := "srv1:lan", gatewayIP := "10.0.0.1", subnet := "10.0.0.0/24" },
      { id := "r1", gatewayIP := "192.168.1.1", subnet := "192.168.1.0/24" } ]
  nodes :=
    [ { id := "sw1", type := "switch", connections := ["r1"] },
      { id := "srv1", type := "server", connections := ["srv1:lan", "sw1"] },
      { id := "sw2", type := "switch", connections := ["srv1:lan"] },
      { id := "pc1", type := "pc", connections := ["sw2"] },
      { id := "attic", type := "pc" } ]

theorem natServer_distinct : DistinctNodeIDs natServer := by
  simp [DistinctNodeIDs, natServer]

theorem ownership_is_constrained_reachability_natServer :
    IsLeast {ri | ∃ router, natServer.routers[ri]? = some router ∧
      GatewayPath natServer router.id "pc1"} 0 ∧
    IsLeast {ri | ∃ router, natServer.routers[ri]? = some router ∧
      GatewayPath natServer router.id "srv1"} 1 ∧
    (∀ router ∈ natServer.routers, ¬ GatewayPath natServer router.id "attic") ∧
    (allocate natServer).assignedIP (.node 4) = "" := by
  have computer := ownership_is_constrained_reachability natServer natServer_distinct 3 rfl
    (by decide)
  have server := ownership_is_constrained_reachability natServer natServer_distinct 1 rfl
    (by decide)
  have alone := ownership_is_constrained_reachability natServer natServer_distinct 4 rfl (by decide)
  have unowned : ownerRouter natServer "attic" = none := by decide
  exact ⟨(computer.1 0).mp (by decide), (server.1 1).mp (by decide), alone.2.1.mp unowned,
    alone.2.2.1 unowned (.node 4) rfl⟩

/-! ## Synthetic gateways -/

/-- `routerID` is `<node>:<suffix>` for this node. -/
def IsSynthetic (routerID nodeID : String) : Prop :=
  ∃ suffix, cut ':' routerID.toList = some (nodeID.toList, suffix)

/-- Cables from a synthetic gateway to its node that go over another device. -/
def Detour (req : AllocateRequest) (routerID nodeID : String) : Prop :=
  ∃ device, device ≠ nodeID ∧ Adjacent req.nodes routerID device ∧
    Relation.ReflTransGen
      (fun source target => Forwards req source ∧ Adjacent req.nodes source target)
      device nodeID

theorem skipNATBoundary_synthetic {routerID nodeID neighbor : String}
    (synthetic : IsSynthetic routerID nodeID) :
    skipNATBoundary routerID routerID neighbor = decide (neighbor = nodeID) := by
  rcases synthetic with ⟨suffix, parts⟩
  simp [skipNATBoundary, parts, String.toList_inj]

theorem gatewayPath_synthetic_iff {req : AllocateRequest} {routerID nodeID : String}
    (synthetic : IsSynthetic routerID nodeID) :
    GatewayPath req routerID nodeID ↔ Detour req routerID nodeID := by
  constructor
  · intro path
    have general {id : String} (reached : GatewayPath req routerID id) :
        ∃ device, device ≠ nodeID ∧ Adjacent req.nodes routerID device ∧
          Relation.ReflTransGen
            (fun source target => Forwards req source ∧ Adjacent req.nodes source target)
            device id := by
      induction reached with
      | @first device adjacent allowed =>
          rw [skipNATBoundary_synthetic synthetic, decide_eq_false_iff_not] at allowed
          exact ⟨device, allowed, adjacent, .refl⟩
      | extend _ passes adjacent induction =>
          rcases induction with ⟨device, other, first, rest⟩
          exact ⟨device, other, first, rest.tail ⟨passes, adjacent⟩⟩
    exact general path
  · rintro ⟨device, other, first, rest⟩
    have start : GatewayPath req routerID device := by
      refine .first first ?_
      rw [skipNATBoundary_synthetic synthetic, decide_eq_false_iff_not]
      exact other
    clear synthetic first other
    induction rest with
    | refl => exact start
    | tail _ step induction => exact .extend induction step.1 step.2

/-- The router does not own the node, and hands it no address from its own
domain unless the owner of the node shares that domain. -/
def StaysOffNode (req : AllocateRequest) (ri : Nat) (nodeID : String) : Prop :=
  ownerRouter req nodeID ≠ some ri ∧
    ∀ domain, nodeDomain (normalizeRouters req.routers) (ownerRouter req) nodeID = some domain →
      routerDomain (normalizeRouters req.routers) ri = some domain →
      ∃ other ≠ ri, ownerRouter req nodeID = some other ∧
        routerDomain (normalizeRouters req.routers) other = some domain

/-- A synthetic gateway stays off its own node, and with it off the address of
that node, exactly when the node is none the allocator serves, when an earlier
router reaches it, or when no detour leads back to it. -/
theorem synthetic_gateway_stays_off_node_iff (req : AllocateRequest)
    (distinct : DistinctNodeIDs req) (ri : Nat) (router : RouterDTO) {nodeID : String}
    (declared : req.routers[ri]? = some router) (synthetic : IsSynthetic router.id nodeID) :
    StaysOffNode req ri nodeID ↔
      (∀ node ∈ req.nodes, node.id ≠ nodeID) ∨ isRouterID req.routers nodeID = true ∨
        (∃ earlier < ri, ∃ other, req.routers[earlier]? = some other ∧
          GatewayPath req other.id nodeID) ∨
        ¬ Detour req router.id nodeID := by
  have ownerIff : ownerRouter req nodeID ≠ some ri ↔
      (∀ node ∈ req.nodes, node.id ≠ nodeID) ∨ isRouterID req.routers nodeID = true ∨
        (∃ earlier < ri, ∃ other, req.routers[earlier]? = some other ∧
          GatewayPath req other.id nodeID) ∨
        ¬ Detour req router.id nodeID := by
    by_cases listed : ∃ node ∈ req.nodes, node.id = nodeID
    · have notUnlisted : ¬ ∀ node ∈ req.nodes, node.id ≠ nodeID := by
        simpa using listed
      cases plain : isRouterID req.routers nodeID with
      | true => simp [ownerRouter_eq_none_of_foreign (.inl plain)]
      | false =>
          rw [ne_eq, ownerRouter_eq_some_iff distinct listed plain,
            ← gatewayPath_synthetic_iff synthetic]
          simp only [notUnlisted, false_or, Bool.false_eq_true]
          rw [not_iff_comm]
          push Not
          constructor
          · rintro ⟨unreached, path⟩
            refine ⟨⟨router, declared, path⟩, ?_⟩
            rintro other ⟨otherRouter, located, otherPath⟩
            by_contra earlier
            exact unreached other (Nat.lt_of_not_le earlier) otherRouter located otherPath
          · rintro ⟨⟨found, located, path⟩, least⟩
            rw [declared] at located
            cases located
            refine ⟨?_, path⟩
            intro earlier before other otherLocated otherPath
            exact absurd (least ⟨other, otherLocated, otherPath⟩) (Nat.not_le_of_lt before)
    · have unlisted : ∀ node ∈ req.nodes, node.id ≠ nodeID := by simpa using listed
      exact iff_of_true (by simp [ownerRouter_eq_none_of_foreign (.inr unlisted)]) (.inl unlisted)
  rw [← ownerIff, StaysOffNode]
  refine and_iff_left_of_imp fun foreign domain ofNode _ => ?_
  rcases Option.bind_eq_some_iff.mp ofNode with ⟨other, owned, same⟩
  refine ⟨other, ?_, owned, same⟩
  rintro rfl
  exact foreign owned

/-- A switch cabled to both sides of a NAT server. -/
def bridgedNAT : AllocateRequest where
  routers :=
    [ { id := "srv1:lan", gatewayIP := "10.0.0.1", subnet := "10.0.0.0/24" },
      { id := "r1", gatewayIP := "192.168.1.1", subnet := "192.168.1.0/24" } ]
  nodes :=
    [ { id := "sw1", type := "switch", connections := ["srv1:lan", "srv1"] },
      { id := "srv1", type := "server", connections := ["r1"] } ]

theorem bridgedNAT_distinct : DistinctNodeIDs bridgedNAT := by
  simp [DistinctNodeIDs, bridgedNAT]

theorem bridgedNAT_synthetic : IsSynthetic "srv1:lan" "srv1" := ⟨"lan".toList, by decide⟩

theorem synthetic_gateway_stays_off_node_iff_bridgedNAT :
    StaysOffNode bridgedNAT 0 "srv1" ↔
      (∀ node ∈ bridgedNAT.nodes, node.id ≠ "srv1") ∨
        isRouterID bridgedNAT.routers "srv1" = true ∨
        (∃ earlier < 0, ∃ other, bridgedNAT.routers[earlier]? = some other ∧
          GatewayPath bridgedNAT other.id "srv1") ∨
        ¬ Detour bridgedNAT "srv1:lan" "srv1" :=
  synthetic_gateway_stays_off_node_iff bridgedNAT bridgedNAT_distinct 0
    { id := "srv1:lan", gatewayIP := "10.0.0.1", subnet := "10.0.0.0/24" } rfl
    bridgedNAT_synthetic

/-- The gateway of the server's own LAN takes the server. -/
theorem synthetic_gateway_claims_its_own_node :
    ¬ ∀ req : AllocateRequest, (req.routers.map (·.id) ++ req.nodes.map (·.id)).Nodup →
      ∀ (ri : Nat) (router : RouterDTO) (nodeID : String), req.routers[ri]? = some router →
        IsSynthetic router.id nodeID → StaysOffNode req ri nodeID := by
  intro claim
  have distinct : (bridgedNAT.routers.map (·.id) ++ bridgedNAT.nodes.map (·.id)).Nodup := by decide
  have stays := claim bridgedNAT distinct 0 _ "srv1" rfl bridgedNAT_synthetic
  exact stays.1 (by decide)

end HomelabBuilder.Ipam
