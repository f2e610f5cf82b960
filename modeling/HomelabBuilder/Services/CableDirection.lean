import Mathlib.Data.List.Forall2
import Mathlib.Data.List.Sort
import HomelabBuilder.Services.PlanIPAM

/-! # The way a cable was drawn

A cable is undirected, but the request is built from its source and target.
Drawing it the other way makes no difference, except between two NAT gateways.
-/

namespace HomelabBuilder.Services

open Net

def Edge.reversed (edge : Edge) : Edge :=
  { edge with
    sourceNodeID := edge.targetNodeID
    sourceHandle := edge.targetHandle
    targetNodeID := edge.sourceNodeID
    targetHandle := edge.sourceHandle }

def Edge.isNetwork (edge : Edge) : Bool :=
  edge.type ≠ "vpn" && edge.type ≠ Wiring.edgeTypePower

/-! ## Gateway ids -/

/-- The id of the node a gateway id belongs to. -/
def nodeOf (id : String) : List Char := id.toList.takeWhile (· ≠ ':')

theorem nodeOf_uuid (id : UUID) : nodeOf id.text = id.text.toList := by
  unfold nodeOf
  rw [List.takeWhile_eq_self_iff]
  intro char member
  have plain : char ≠ ':' := fun same => id.colon_not_mem (same ▸ member)
  simpa using plain

theorem nodeOf_append (id : UUID) (suffix : String) :
    nodeOf (id.text ++ ":" ++ suffix) = id.text.toList := by
  have colon : (":" : String).toList = [':'] := by decide
  unfold nodeOf
  rw [String.toList_append, String.toList_append, colon, List.append_assoc,
    List.takeWhile_append_of_pos]
  · simp
  · intro char member
    have plain : char ≠ ':' := fun same => id.colon_not_mem (same ▸ member)
    simpa using plain

theorem routerID_of_portGateway {node : Node} {handle : String}
    {settings : Wiring.PortSettings} {gateway : PortGateway}
    (built : portGateway node handle settings = some gateway) :
    gateway.routerID = node.id.text ++ ":" ++ handle := by
  unfold portGateway at built
  dsimp only at built
  generalize (if settings.role = "" then Wiring.defaultRole handle else settings.role) = role
    at built
  split at built
  · cases built
  · cases built
    rfl

theorem handle_of_portGateway {node : Node} {handle : String} {settings : Wiring.PortSettings}
    {gateway : PortGateway} (built : portGateway node handle settings = some gateway) :
    gateway.handle = handle := by
  unfold portGateway at built
  dsimp only at built
  generalize (if settings.role = "" then Wiring.defaultRole handle else settings.role) = role
    at built
  split at built
  · cases built
  · cases built
    rfl

theorem UUID.eq_of_toList {left right : UUID} (same : left.text.toList = right.text.toList) :
    left = right := by
  cases left
  cases right
  rw [UUID.mk.injEq]
  exact String.toList_inj.mp same

namespace Lookups

variable {plan : Lookups}

theorem nodeOf_portRouterID {id : UUID} {handle routerID : String}
    (found : plan.portRouterID id.text handle = some routerID) :
    nodeOf routerID = id.text.toList := by
  rcases Option.map_eq_some_iff.mp found with ⟨⟨owner, gateway⟩, search, rfl⟩
  have matched := List.find?_some search
  simp only [Bool.and_eq_true, decide_eq_true_eq] at matched
  rcases List.mem_flatMap.mp (List.mem_of_find?_eq_some search) with ⟨node, _, listed⟩
  rcases List.mem_map.mp listed with ⟨port, opened, equal⟩
  cases equal
  unfold portGateways at opened
  split at opened
  · cases opened
  · rcases List.mem_filterMap.mp opened with ⟨name, _, built⟩
    rw [routerID_of_portGateway built, nodeOf_append, matched.1]

theorem natGatewayID_eq {id routerID : String} (found : plan.natGatewayID id = some routerID) :
    routerID = id ++ ":lan" := by
  unfold natGatewayID at found
  split at found
  · cases found
    rfl
  · cases found

theorem nodeOf_lan (id : UUID) : nodeOf (id.text ++ ":lan") = id.text.toList := by
  have parts := nodeOf_append id "lan"
  rwa [String.append_assoc] at parts

theorem nodeOf_natGatewayID {id : UUID} {routerID : String}
    (found : plan.natGatewayID id.text = some routerID) : nodeOf routerID = id.text.toList := by
  rw [natGatewayID_eq found, nodeOf_lan]

/-! ## The ends of a cable -/

/-- The ids a cable connects, at its source and at its target. -/
def edgeEnds (plan : Lookups) (edge : Edge) : String × String :=
  let src := edge.sourceNodeID.text
  let tgt := edge.targetNodeID.text
  let srcHandle := if edge.sourceHandle = "" then "eth0" else edge.sourceHandle
  let tgtHandle := if edge.targetHandle = "" then "target-0" else edge.targetHandle
  let srcPortRouter := plan.portRouterID src srcHandle
  let tgtPortRouter := plan.portRouterID tgt tgtHandle
  if srcPortRouter.isSome || tgtPortRouter.isSome then
    (srcPortRouter.getD src, tgtPortRouter.getD tgt)
  else
    match plan.natGatewayID src, plan.natGatewayID tgt with
    | some natRouterID, _ =>
        if plan.isLANEdge edge edge.sourceHandle true tgt then (natRouterID, tgt) else (src, tgt)
    | none, some natRouterID =>
        if plan.isLANEdge edge edge.targetHandle false src then (src, natRouterID) else (src, tgt)
    | none, none => (src, tgt)

theorem nodeOf_edgeEnds (edge : Edge) :
    nodeOf (plan.edgeEnds edge).1 = edge.sourceNodeID.text.toList ∧
      nodeOf (plan.edgeEnds edge).2 = edge.targetNodeID.text.toList := by
  have ofPort (id : UUID) (handle : String) :
      nodeOf ((plan.portRouterID id.text handle).getD id.text) = id.text.toList := by
    cases found : plan.portRouterID id.text handle with
    | none => exact nodeOf_uuid id
    | some routerID => exact nodeOf_portRouterID found
  have source := nodeOf_uuid edge.sourceNodeID
  have target := nodeOf_uuid edge.targetNodeID
  unfold edgeEnds
  dsimp only
  generalize (if edge.sourceHandle = "" then "eth0" else edge.sourceHandle) = srcHandle
  generalize (if edge.targetHandle = "" then "target-0" else edge.targetHandle) = tgtHandle
  split
  · exact ⟨ofPort _ _, ofPort _ _⟩
  · split
    · rename_i found
      split
      · exact ⟨nodeOf_natGatewayID found, target⟩
      · exact ⟨source, target⟩
    · rename_i found
      split
      · exact ⟨source, nodeOf_natGatewayID found⟩
      · exact ⟨source, target⟩
    · exact ⟨source, target⟩

theorem edgeEnds_ne {edge : Edge} (loopless : edge.sourceNodeID ≠ edge.targetNodeID) :
    (plan.edgeEnds edge).1 ≠ (plan.edgeEnds edge).2 := by
  intro same
  have ends := @nodeOf_edgeEnds plan edge
  rw [same, ends.2] at ends
  exact loopless (UUID.eq_of_toList ends.1.symm)

theorem filter_bothWays_comm {left right : String} (different : left ≠ right)
    (leftPort rightPort : Nat) (id : String) :
    (bothWays left right leftPort rightPort).filter (·.source = id) =
      (bothWays right left rightPort leftPort).filter (·.source = id) := by
  by_cases isLeft : left = id
  · have notRight : right ≠ id := fun isRight => different (isLeft.trans isRight.symm)
    simp [bothWays, isLeft, notRight]
  · simp [bothWays, List.filter_cons, isLeft]

theorem exists_bothWays_iff {left right source target : String} {leftPort rightPort : Nat} :
    (∃ call ∈ bothWays left right leftPort rightPort,
      call.source = source ∧ call.target = target) ↔
      (left = source ∧ right = target) ∨ (right = source ∧ left = target) := by
  simp only [bothWays, List.mem_cons, List.not_mem_nil, or_false, exists_eq_or_imp, exists_eq_left]

theorem edgeConnections_eq {edge : Edge} (network : edge.isNetwork = true) :
    plan.edgeConnections edge =
        bothWays (plan.edgeEnds edge).1 (plan.edgeEnds edge).2 (handleNumber edge.sourceHandle)
          (handleNumber edge.targetHandle) ∨
      plan.edgeConnections edge =
        bothWays (plan.edgeEnds edge).2 (plan.edgeEnds edge).1 (handleNumber edge.targetHandle)
          (handleNumber edge.sourceHandle) := by
  have kind : (edge.type = "vpn" || edge.type = Wiring.edgeTypePower) = false := by
    simpa [Edge.isNetwork] using network
  unfold edgeConnections edgeEnds
  dsimp only
  rw [kind, if_neg Bool.false_ne_true]
  generalize (if edge.sourceHandle = "" then "eth0" else edge.sourceHandle) = srcHandle
  generalize (if edge.targetHandle = "" then "target-0" else edge.targetHandle) = tgtHandle
  split
  · exact .inl rfl
  · cases plan.natGatewayID edge.sourceNodeID.text with
    | some natRouterID =>
        apply Or.inl
        dsimp only
        split <;> rfl
    | none =>
        cases plan.natGatewayID edge.targetNodeID.text with
        | none => exact .inl rfl
        | some natRouterID =>
            dsimp only
            split
            · exact .inr rfl
            · exact .inl rfl

theorem edgeConnections_eq_nil {edge : Edge} (plain : edge.isNetwork = false) :
    plan.edgeConnections edge = [] := by
  have kind : (edge.type = "vpn" || edge.type = Wiring.edgeTypePower) = true := by
    simpa [Edge.isNetwork, Bool.or_eq_true, or_iff_not_imp_left] using plain
  unfold edgeConnections
  rw [kind, if_pos rfl]

theorem filter_edgeConnections {edge : Edge} (network : edge.isNetwork = true)
    (loopless : edge.sourceNodeID ≠ edge.targetNodeID) (id : String) :
    (plan.edgeConnections edge).filter (·.source = id) =
      (bothWays (plan.edgeEnds edge).1 (plan.edgeEnds edge).2 (handleNumber edge.sourceHandle)
        (handleNumber edge.targetHandle)).filter (·.source = id) := by
  rcases @edgeConnections_eq plan _ network with forward | backward
  · rw [forward]
  · rw [backward, filter_bothWays_comm (edgeEnds_ne loopless)]

theorem exists_edgeConnection_iff {edge : Edge} (network : edge.isNetwork = true)
    {source target : String} :
    (∃ call ∈ plan.edgeConnections edge, call.source = source ∧ call.target = target) ↔
      plan.edgeEnds edge = (source, target) ∨ plan.edgeEnds edge = (target, source) := by
  rcases @edgeConnections_eq plan _ network with forward | backward
  · rw [forward, exists_bothWays_iff, Prod.ext_iff, Prod.ext_iff, and_comm (a := _ = target)]
  · rw [backward, exists_bothWays_iff, Prod.ext_iff, Prod.ext_iff, or_comm]
    simp only [and_comm]

/-! ## Reversing a cable -/

/-- A cable between two NAT gateways that opens the LAN of one of them. -/
def ambiguousBoundary (plan : Lookups) (edge : Edge) : Bool :=
  let src := edge.sourceNodeID.text
  let tgt := edge.targetNodeID.text
  edge.isNetwork &&
    (plan.portRouterID src edge.sourceHandle).isNone &&
    (plan.portRouterID tgt edge.targetHandle).isNone &&
    (plan.natGatewayID src).isSome && (plan.natGatewayID tgt).isSome &&
    (plan.isLANEdge edge edge.sourceHandle true tgt ||
      plan.isLANEdge edge edge.targetHandle false src)

theorem isNetwork_of_ambiguous {edge : Edge} (ambiguous : plan.ambiguousBoundary edge = true) :
    edge.isNetwork = true := by
  simp only [ambiguousBoundary, Bool.and_eq_true] at ambiguous
  exact ambiguous.1.1.1.1.1

theorem boundary_of_ambiguous {edge : Edge} (ambiguous : plan.ambiguousBoundary edge = true) :
    plan.isLANEdge edge edge.sourceHandle true edge.targetNodeID.text = true ∨
      plan.isLANEdge edge edge.targetHandle false edge.sourceNodeID.text = true := by
  simp only [ambiguousBoundary, Bool.and_eq_true, Bool.or_eq_true] at ambiguous
  exact ambiguous.2

theorem isLANEdge_reversed {edge : Edge} {handle : String} (named : handle ≠ "")
    (isSource : Bool) (other : String) :
    plan.isLANEdge edge.reversed handle isSource other =
      plan.isLANEdge edge handle (!isSource) other := by
  simp only [isLANEdge, isAutoLANPort, Edge.reversed, if_neg named]
  rfl

theorem edgeEnds_reversed {edge : Edge} (sourceNamed : edge.sourceHandle ≠ "")
    (targetNamed : edge.targetHandle ≠ "") (network : edge.isNetwork = true)
    (clear : plan.ambiguousBoundary edge = false) :
    plan.edgeEnds edge.reversed = (plan.edgeEnds edge).swap := by
  have fromSource := @isLANEdge_reversed plan edge _ targetNamed true
    edge.sourceNodeID.text
  have fromTarget := @isLANEdge_reversed plan edge _ sourceNamed false
    edge.targetNodeID.text
  simp only [Bool.not_true, Bool.not_false] at fromSource fromTarget
  simp only [ambiguousBoundary, network, Bool.true_and] at clear
  simp only [edgeEnds, Edge.reversed, sourceNamed, targetNamed, if_false] at fromSource fromTarget ⊢
  simp only [fromSource, fromTarget]
  cases sourcePort : plan.portRouterID edge.sourceNodeID.text edge.sourceHandle with
  | some routerID => simp
  | none =>
      cases targetPort : plan.portRouterID edge.targetNodeID.text edge.targetHandle with
      | some routerID => simp
      | none =>
          cases source : plan.natGatewayID edge.sourceNodeID.text with
          | none =>
              cases target : plan.natGatewayID edge.targetNodeID.text with
              | none => simp
              | some targetLAN =>
                  simp only [Option.isSome_none, Bool.or_self, Bool.false_eq_true, if_false]
                  split <;> rfl
          | some sourceLAN =>
              cases target : plan.natGatewayID edge.targetNodeID.text with
              | none =>
                  simp only [Option.isSome_none, Bool.or_self, Bool.false_eq_true, if_false]
                  split <;> rfl
              | some targetLAN =>
                  simp_all

theorem ambiguousBoundary_reversed {edge : Edge} (sourceNamed : edge.sourceHandle ≠ "")
    (targetNamed : edge.targetHandle ≠ "") :
    plan.ambiguousBoundary edge.reversed = plan.ambiguousBoundary edge := by
  have fromSource := @isLANEdge_reversed plan edge _ targetNamed true
    edge.sourceNodeID.text
  have fromTarget := @isLANEdge_reversed plan edge _ sourceNamed false
    edge.targetNodeID.text
  unfold ambiguousBoundary
  simp only [Edge.reversed, Edge.isNetwork, Bool.not_true, Bool.not_false] at fromSource fromTarget ⊢
  rw [fromSource, fromTarget]
  ac_rfl

theorem edgeEnds_of_ambiguous {edge : Edge} (sourceNamed : edge.sourceHandle ≠ "")
    (targetNamed : edge.targetHandle ≠ "") (ambiguous : plan.ambiguousBoundary edge = true) :
    plan.edgeEnds edge =
      if plan.isLANEdge edge edge.sourceHandle true edge.targetNodeID.text then
        (edge.sourceNodeID.text ++ ":lan", edge.targetNodeID.text)
      else (edge.sourceNodeID.text, edge.targetNodeID.text) := by
  simp only [ambiguousBoundary, Bool.and_eq_true, Option.isNone_iff_eq_none,
    Option.isSome_iff_exists] at ambiguous
  rcases ambiguous with ⟨⟨⟨⟨⟨_, sourcePort⟩, targetPort⟩, ⟨routerID, source⟩⟩, _⟩, _⟩
  unfold edgeEnds
  simp only [sourceNamed, targetNamed, if_false, sourcePort, targetPort, source,
    Option.isSome_none, Bool.or_self, Bool.false_eq_true, natGatewayID_eq source]

/-! ## What the request reads of the calls -/

theorem filter_connections {front back : List Edge} {edge : Edge} (id : String) :
    (plan.connections (front ++ edge :: back)).filter (·.source = id) =
      (plan.connections front).filter (·.source = id) ++
        (plan.edgeConnections edge).filter (·.source = id) ++
          (plan.connections back).filter (·.source = id) := by
  simp only [connections, List.flatMap_append, List.flatMap_cons, List.filter_append,
    List.append_assoc]

theorem exists_connection_iff {front back : List Edge} {edge : Edge} {source target : String} :
    (∃ call ∈ plan.connections (front ++ edge :: back),
      call.source = source ∧ call.target = target) ↔
      (∃ call ∈ plan.connections (front ++ back), call.source = source ∧ call.target = target) ∨
        ∃ call ∈ plan.edgeConnections edge, call.source = source ∧ call.target = target := by
  have split (call : Connection) : call ∈ plan.connections (front ++ edge :: back) ↔
      call ∈ plan.connections (front ++ back) ∨ call ∈ plan.edgeConnections edge := by
    simp only [connections, List.flatMap_append, List.flatMap_cons, List.mem_append]
    tauto
  simp only [split, or_and_right, exists_or]

theorem edgePort_congr {left right : List Connection} {source : String}
    (same : left.filter (·.source = source) = right.filter (·.source = source)) (target : String) :
    edgePort left source target = edgePort right source target := by
  have viaFilter (calls : List Connection) :
      calls.reverse.find? (fun call => call.source = source && call.target = target) =
        (calls.filter (·.source = source)).reverse.find? (·.target = target) := by
    rw [← List.filter_reverse, List.find?_filter]
    simp
  unfold edgePort
  rw [viaFilter left, viaFilter right, same]

theorem neighbors_congr {left right : List Connection} {id : String}
    (same : left.filter (·.source = id) = right.filter (·.source = id)) :
    plan.neighbors left id = plan.neighbors right id := by
  unfold neighbors
  simp only [edgePort_congr same, same]

theorem mem_neighbors_iff {calls : List Connection} {id neighbor : String} :
    neighbor ∈ plan.neighbors calls id ↔
      ∃ call ∈ calls, call.source = id ∧ call.target = neighbor := by
  unfold neighbors
  rw [(plan.sorting.perm _ _).mem_iff]
  simp [and_assoc]

theorem natRouters_congr {left right : List Connection}
    (same : plan.neighbors left = plan.neighbors right) (nodes : List Node) (used : List String) :
    plan.natRouters left nodes used = plan.natRouters right nodes used := by
  induction nodes generalizing used with
  | nil => rfl
  | cons node rest induction =>
      unfold natRouters
      simp only [nextNATLAN, same, induction]

theorem nodeDTO_congr {left right : List Connection}
    (same : plan.neighbors left = plan.neighbors right) (node : Node) :
    plan.nodeDTO left node = plan.nodeDTO right node := by
  have preserved : plan.preserveLocked left node = plan.preserveLocked right node := by
    simp only [preserveLocked, same]
  unfold nodeDTO existingIP
  rw [same, preserved]

end Lookups

theorem planIPAM_congr {sorting : SliceSort} {nodes : List Node} {left right : List Edge}
    (same : Lookups.neighbors ⟨sorting, nodes⟩ (Lookups.connections ⟨sorting, nodes⟩ left) =
      Lookups.neighbors ⟨sorting, nodes⟩ (Lookups.connections ⟨sorting, nodes⟩ right)) :
    planIPAM sorting nodes left = planIPAM sorting nodes right := by
  unfold planIPAM
  simp only [Lookups.natRouters_congr same, funext (Lookups.nodeDTO_congr same)]

/-! ## The symmetry of a cable -/

/-- Two requests with the same routers and, node by node, the same set of
connections. -/
structure SameWiring (left right : Ipam.AllocateRequest) : Prop where
  routers : left.routers = right.routers
  connections : List.Forall₂
    (fun before after => before.id = after.id ∧
      ∀ id, id ∈ before.connections ↔ id ∈ after.connections) left.nodes right.nodes

theorem SameWiring.refl (request : Ipam.AllocateRequest) : SameWiring request request :=
  ⟨rfl, List.forall₂_same.mpr fun _ _ => ⟨rfl, fun _ => Iff.rfl⟩⟩

theorem SameWiring.symm {left right : Ipam.AllocateRequest} (same : SameWiring left right) :
    SameWiring right left :=
  ⟨same.routers.symm, same.connections.flip.imp fun _ _ both =>
    ⟨both.1.symm, fun id => (both.2 id).symm⟩⟩

def Edge.Parallel (left right : Edge) : Prop :=
  (left.sourceNodeID = right.sourceNodeID ∧ left.targetNodeID = right.targetNodeID) ∨
    (left.sourceNodeID = right.targetNodeID ∧ left.targetNodeID = right.sourceNodeID)

section Reversal

variable {sorting : SliceSort} {nodes : List Node} {front back : List Edge} {edge : Edge}

theorem planIPAM_reversed (loopless : edge.sourceNodeID ≠ edge.targetNodeID)
    (network : edge.isNetwork = true)
    (swapped : Lookups.edgeEnds ⟨sorting, nodes⟩ edge.reversed =
      (Lookups.edgeEnds ⟨sorting, nodes⟩ edge).swap) :
    planIPAM sorting nodes (front ++ edge :: back) =
      planIPAM sorting nodes (front ++ edge.reversed :: back) := by
  apply planIPAM_congr
  funext id
  apply Lookups.neighbors_congr
  rw [Lookups.filter_connections, Lookups.filter_connections,
    Lookups.filter_edgeConnections network loopless,
    @Lookups.filter_edgeConnections _ edge.reversed network loopless.symm, swapped,
    Lookups.filter_bothWays_comm (Lookups.edgeEnds_ne loopless)]
  rfl

theorem planIPAM_reversed_of_plain (plain : edge.isNetwork = false) :
    planIPAM sorting nodes (front ++ edge :: back) =
      planIPAM sorting nodes (front ++ edge.reversed :: back) := by
  apply planIPAM_congr
  unfold Lookups.connections
  rw [List.flatMap_append, List.flatMap_append, List.flatMap_cons, List.flatMap_cons,
    Lookups.edgeConnections_eq_nil plain,
    @Lookups.edgeConnections_eq_nil _ edge.reversed plain]

theorem Edge.Parallel.symm {left right : Edge} (parallel : left.Parallel right) :
    right.Parallel left := by
  rcases parallel with ⟨source, target⟩ | ⟨source, target⟩
  · exact .inl ⟨source.symm, target.symm⟩
  · exact .inr ⟨target.symm, source.symm⟩

theorem Edge.Parallel.of_reversed {other : Edge} (parallel : edge.reversed.Parallel other) :
    edge.Parallel other := by
  rcases parallel with ⟨source, target⟩ | ⟨source, target⟩
  · exact .inr ⟨target, source⟩
  · exact .inl ⟨target, source⟩

theorem apart_of_single
    (single : (front ++ edge :: back).Pairwise fun left right =>
      left.isNetwork = true → right.isNetwork = true → ¬left.Parallel right)
    (network : edge.isNetwork = true) :
    ∀ other ∈ front ++ back, other.isNetwork = true → ¬edge.Parallel other := by
  intro other member plain parallel
  rw [List.pairwise_append, List.pairwise_cons] at single
  rcases List.mem_append.mp member with before | after
  · exact single.2.2 other before edge (List.mem_cons_self ..) plain network parallel.symm
  · exact single.2.1.1 other after network plain parallel

theorem no_connection_of_unparalleled {calls : List Edge}
    (apart : ∀ other ∈ calls, other.isNetwork = true → ¬edge.Parallel other)
    {source target : String} (sourceNode : nodeOf source = edge.sourceNodeID.text.toList)
    (targetNode : nodeOf target = edge.targetNodeID.text.toList) {plan : Lookups} :
    ¬∃ call ∈ plan.connections calls, call.source = target ∧ call.target = source := by
  intro connected
  rcases connected with ⟨call, member, called⟩
  rcases List.mem_flatMap.mp member with ⟨other, listed, added⟩
  cases network : other.isNetwork with
  | false =>
      rw [Lookups.edgeConnections_eq_nil network] at added
      cases added
  | true =>
      have ends := (Lookups.exists_edgeConnection_iff network).mp ⟨call, added, called⟩
      have located := @Lookups.nodeOf_edgeEnds plan other
      apply apart other listed network
      rcases ends with backward | forward
      · rw [backward, targetNode, sourceNode] at located
        exact .inr ⟨UUID.eq_of_toList located.2, UUID.eq_of_toList located.1⟩
      · rw [forward, targetNode, sourceNode] at located
        exact .inl ⟨UUID.eq_of_toList located.1, UUID.eq_of_toList located.2⟩

theorem text_ne_lan (id : UUID) (text : UUID) : text.text ≠ id.text ++ ":lan" := by
  intro same
  apply text.colon_not_mem
  rw [same, String.toList_append]
  exact List.mem_append_right _ (by decide)

/-- The LAN a cable opens at its source is lost when it is drawn the other way
and its other end is a NAT gateway as well. -/
theorem not_sameWiring_of_boundary (loopless : edge.sourceNodeID ≠ edge.targetNodeID)
    (apart : ∀ other ∈ front ++ back, other.isNetwork = true → ¬edge.Parallel other)
    (sourceNamed : edge.sourceHandle ≠ "") (targetNamed : edge.targetHandle ≠ "")
    (ambiguous : Lookups.ambiguousBoundary ⟨sorting, nodes⟩ edge = true)
    (boundary : Lookups.isLANEdge ⟨sorting, nodes⟩ edge edge.sourceHandle true
      edge.targetNodeID.text = true) :
    ¬SameWiring (planIPAM sorting nodes (front ++ edge :: back))
      (planIPAM sorting nodes (front ++ edge.reversed :: back)) := by
  intro same
  have gateways := ambiguous
  simp only [Lookups.ambiguousBoundary, Bool.and_eq_true, Option.isSome_iff_exists] at gateways
  rcases gateways with ⟨⟨⟨⟨⟨network, _⟩, _⟩, _⟩, ⟨routerID, target⟩⟩, _⟩
  -- The node at the target knows the LAN of the source only before.
  have node : ∃ node ∈ nodes, node.id.text = edge.targetNodeID.text := by
    unfold Lookups.natGatewayID at target
    split at target
    · rename_i gateway
      rcases List.any_eq_true.mp gateway with ⟨node, listed, capable⟩
      simp only [Bool.and_eq_true, decide_eq_true_eq] at capable
      exact ⟨node, listed, capable.1⟩
    · cases target
  rcases node with ⟨node, listed, identified⟩
  have kept : ∀ id, id ∈ Lookups.neighbors ⟨sorting, nodes⟩
        (Lookups.connections ⟨sorting, nodes⟩ (front ++ edge :: back)) edge.targetNodeID.text ↔
      id ∈ Lookups.neighbors ⟨sorting, nodes⟩
        (Lookups.connections ⟨sorting, nodes⟩ (front ++ edge.reversed :: back))
          edge.targetNodeID.text := by
    have wired := same.connections
    simp only [planIPAM, List.forall₂_map_left_iff, List.forall₂_map_right_iff,
      List.forall₂_same] at wired
    rw [← identified]
    exact (wired node listed).2
  have opened : edge.sourceNodeID.text ++ ":lan" ∈ Lookups.neighbors ⟨sorting, nodes⟩
      (Lookups.connections ⟨sorting, nodes⟩ (front ++ edge :: back)) edge.targetNodeID.text := by
    apply Lookups.mem_neighbors_iff.mpr
    apply Lookups.exists_connection_iff.mpr
    apply Or.inr
    apply (Lookups.exists_edgeConnection_iff network).mpr
    apply Or.inr
    rw [Lookups.edgeEnds_of_ambiguous sourceNamed targetNamed ambiguous, if_pos boundary]
  rcases Lookups.exists_connection_iff.mp (Lookups.mem_neighbors_iff.mp ((kept _).mp opened)) with
    other | reversed
  · exact no_connection_of_unparalleled apart (Lookups.nodeOf_lan _) (nodeOf_uuid _) other
  · have ends := (@Lookups.exists_edgeConnection_iff _ edge.reversed network _ _).mp reversed
    rw [Lookups.edgeEnds_of_ambiguous targetNamed sourceNamed
      ((Lookups.ambiguousBoundary_reversed sourceNamed targetNamed).trans ambiguous)] at ends
    rcases ends with backward | forward
    · split at backward
      · exact text_ne_lan _ _ (congrArg Prod.snd backward)
      · exact text_ne_lan _ _ (congrArg Prod.snd backward)
    · have swapped : edge.sourceNodeID.text = edge.targetNodeID.text := by
        split at forward
        · exact congrArg Prod.snd forward
        · exact congrArg Prod.snd forward
      exact loopless (UUID.eq_of_toList (congrArg String.toList swapped))

/-- **Cable direction.** Drawing a cable with named ports the other way changes
the request exactly when both ends are NAT gateways and the cable opens the LAN of
one of them: the boundary of the drawn source is tested first. -/
theorem planIPAM_reversed_iff
    (sourceNamed : edge.sourceHandle ≠ "") (targetNamed : edge.targetHandle ≠ "")
    (loopless : edge.isNetwork = true → edge.sourceNodeID ≠ edge.targetNodeID)
    (single : (front ++ edge :: back).Pairwise fun left right =>
      left.isNetwork = true → right.isNetwork = true → ¬left.Parallel right) :
    SameWiring (planIPAM sorting nodes (front ++ edge :: back))
        (planIPAM sorting nodes (front ++ edge.reversed :: back)) ↔
      Lookups.ambiguousBoundary ⟨sorting, nodes⟩ edge = false := by
  constructor
  · intro same
    rw [← Bool.not_eq_true]
    intro ambiguous
    have network := Lookups.isNetwork_of_ambiguous ambiguous
    have apart := apart_of_single single network
    rcases Lookups.boundary_of_ambiguous ambiguous with source | target
    · exact not_sameWiring_of_boundary (loopless network) apart sourceNamed targetNamed ambiguous
        source same
    · -- Drawn the other way, the boundary is that of the source.
      have opened : Lookups.isLANEdge ⟨sorting, nodes⟩ edge.reversed edge.reversed.sourceHandle true
          edge.reversed.targetNodeID.text = true :=
        (Lookups.isLANEdge_reversed targetNamed true _).trans target
      exact @not_sameWiring_of_boundary _ _ _ _ edge.reversed (loopless network).symm
        (fun other listed plain parallel => apart other listed plain parallel.of_reversed)
        targetNamed sourceNamed
        ((Lookups.ambiguousBoundary_reversed sourceNamed targetNamed).trans ambiguous) opened
        same.symm
  · intro clear
    cases network : edge.isNetwork with
    | true =>
        rw [planIPAM_reversed (loopless network) network
          (Lookups.edgeEnds_reversed sourceNamed targetNamed network clear)]
        exact SameWiring.refl _
    | false =>
        rw [planIPAM_reversed_of_plain network]
        exact SameWiring.refl _

end Reversal

/-! ## Examples -/

/-- A server that shares its uplink with the network behind it. -/
def natServer : Node where
  id := ⟨"00000000-0000-0000-0000-000000000001", by decide⟩
  type := "server_v2"
  details := .obj [("nat_enabled", .bool true)]

def natFirewall : Node where
  id := ⟨"00000000-0000-0000-0000-000000000002", by decide⟩
  type := "firewall"
  details := .obj [("nat_enabled", .bool true)]

def plainSwitch : Node where
  id := ⟨"00000000-0000-0000-0000-000000000003", by decide⟩
  type := "switch"

def serverToFirewall : Edge where
  sourceNodeID := natServer.id
  sourceHandle := "eth1"
  targetNodeID := natFirewall.id
  targetHandle := "target-0"

def firewallToSwitch : Edge where
  sourceNodeID := natFirewall.id
  sourceHandle := "eth1"
  targetNodeID := plainSwitch.id
  targetHandle := "eth0"

theorem planIPAM_reversed_iff_switch :
    SameWiring
      (planIPAM .insertion [natServer, natFirewall, plainSwitch]
        ([serverToFirewall] ++ [firewallToSwitch]))
      (planIPAM .insertion [natServer, natFirewall, plainSwitch]
        ([serverToFirewall] ++ [firewallToSwitch.reversed])) :=
  (@planIPAM_reversed_iff .insertion [natServer, natFirewall, plainSwitch] [serverToFirewall] []
    firewallToSwitch
    (by decide) (by decide) (by decide)
    (by simp [Edge.Parallel, serverToFirewall, firewallToSwitch, natServer, natFirewall,
      plainSwitch])).mpr (by decide)

/-- A server shares its uplink over a port that leads to the uplink of a
firewall. Drawn from the firewall, the cable no longer opens the LAN. -/
theorem serverToFirewall_depends_on_direction :
    ¬SameWiring (planIPAM .insertion [natServer, natFirewall] [serverToFirewall])
      (planIPAM .insertion [natServer, natFirewall] [serverToFirewall.reversed]) :=
  @not_sameWiring_of_boundary _ _ [] [] serverToFirewall (by decide) (by simp) (by decide)
    (by decide) (by decide) (by decide)

end HomelabBuilder.Services
