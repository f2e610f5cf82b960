import HomelabBuilder.Foundation.Keyed
import HomelabBuilder.Services.EdgeWalk
import HomelabBuilder.Services.SyncGraph

/-! # The order of a graph

A save accepts a graph in any order of its nodes, and looks at no more of a cable
than its ends and its type.
-/

namespace HomelabBuilder.Services

/-! ## Nodes -/

structure GuestsFit (seen : List String) (ids : List String) : Prop where
  named : ∀ id ∈ ids, trimSpace id ≠ ""
  nodup : ids.Nodup
  new : ∀ id ∈ ids, id ∉ seen

theorem vmIssues_eq_nil_iff (nodeID : String) : ∀ {seen : List String} {vms : List VMDTO},
    (vmIssues nodeID seen vms).1 = [] ↔ GuestsFit seen (vms.map (·.id))
  | seen, [] => ⟨fun _ => ⟨nofun, List.nodup_nil, nofun⟩, fun _ => rfl⟩
  | seen, vm :: rest => by
      unfold vmIssues
      split
      · rename_i blank
        refine ⟨nofun, fun fits => ?_⟩
        exact absurd blank (fits.named vm.id List.mem_cons_self)
      · rename_i named
        split
        · rename_i old
          refine ⟨nofun, fun fits => ?_⟩
          exact absurd old (fits.new vm.id List.mem_cons_self)
        · rename_i new
          rw [vmIssues_eq_nil_iff nodeID]
          constructor
          · intro fits
            refine ⟨List.forall_mem_cons.mpr ⟨named, fits.named⟩,
              List.nodup_cons.mpr ⟨?_, fits.nodup⟩, List.forall_mem_cons.mpr ⟨new, ?_⟩⟩
            · exact fun repeated => fits.new vm.id repeated List.mem_cons_self
            · exact fun id member old => fits.new id member (List.mem_cons_of_mem _ old)
          · intro fits
            rw [List.map_cons] at fits
            have apart := List.nodup_cons.mp fits.nodup
            refine ⟨(List.forall_mem_cons.mp fits.named).2, apart.2, ?_⟩
            intro id member old
            rcases List.mem_cons.mp old with rfl | old
            · exact apart.1 member
            · exact fits.new id (List.mem_cons_of_mem _ member) old

theorem mem_vmIssues_seen (nodeID : String) {id : String} {vms : List VMDTO} {seen : List String}
    (fits : GuestsFit seen (vms.map (·.id))) :
    id ∈ (vmIssues nodeID seen vms).2 ↔ id ∈ seen ∨ id ∈ vms.map (·.id) := by
  induction vms generalizing seen with
  | nil => simp [vmIssues]
  | cons vm rest induction =>
      have silent := (vmIssues_eq_nil_iff nodeID).mpr fits
      rw [List.map_cons] at fits
      have named := (List.forall_mem_cons.mp fits.named).1
      have new := (List.forall_mem_cons.mp fits.new).1
      rw [vmIssues, if_neg named, if_neg new] at silent ⊢
      rw [induction ((vmIssues_eq_nil_iff nodeID).mp silent), List.mem_cons, List.map_cons,
        List.mem_cons, or_assoc, or_left_comm]

/-- A node without issues of its own. -/
structure NodeFits (runtime : Runtime) (node : NodeDTO) : Prop where
  named : trimSpace node.id ≠ ""
  known : node.type ∈ knownNodeTypes
  hosts : node.vms = [] ∨ node.type ∈ vmHostNodeTypes
  gaming : gamingNodeIssues runtime.profileBySlug node = []

def guestIDs (nodes : List NodeDTO) : List String := nodes.flatMap fun node => node.vms.map (·.id)

theorem nodeIssues_eq_nil_iff {runtime : Runtime} : ∀ {seen seenVMs : List String}
    {nodes : List NodeDTO}, nodeIssues runtime seen seenVMs nodes = [] ↔
      (∀ node ∈ nodes, NodeFits runtime node) ∧ (nodes.map (·.id)).Nodup ∧
        (∀ node ∈ nodes, node.id ∉ seen) ∧ GuestsFit seenVMs (guestIDs nodes)
  | seen, seenVMs, [] =>
      ⟨fun _ => ⟨nofun, List.nodup_nil, nofun, nofun, List.nodup_nil, nofun⟩, fun _ => rfl⟩
  | seen, seenVMs, node :: rest => by
      have ids : guestIDs (node :: rest) = node.vms.map (·.id) ++ guestIDs rest :=
        List.flatMap_cons
      unfold nodeIssues
      split
      · rename_i blank
        refine ⟨nofun, fun fits => ?_⟩
        exact absurd blank (fits.1 node List.mem_cons_self).named
      · rename_i named
        split
        · rename_i old
          refine ⟨nofun, fun fits => ?_⟩
          exact absurd old (fits.2.2.1 node List.mem_cons_self)
        · rename_i new
          dsimp only
          simp only [List.append_eq_nil_iff, List.map_eq_nil_iff]
          rw [vmIssues_eq_nil_iff, nodeIssues_eq_nil_iff, ids]
          constructor
          · rintro ⟨⟨⟨⟨known, hosts⟩, gaming⟩, guests⟩, others, nodup, fresh, later⟩
            have isKnown : node.type ∈ knownNodeTypes := by
              by_contra unknown
              rw [if_pos unknown] at known
              cases known
            have canHost : node.vms = [] ∨ node.type ∈ vmHostNodeTypes := by
              by_contra cannot
              rw [not_or] at cannot
              rw [if_pos cannot] at hosts
              cases hosts
            have seenNow (id : String) :=
              @mem_vmIssues_seen node.id id node.vms seenVMs guests
            refine ⟨List.forall_mem_cons.mpr ⟨⟨named, isKnown, canHost, gaming⟩, others⟩, ?_,
              List.forall_mem_cons.mpr ⟨new, ?_⟩, ?_, ?_, ?_⟩
            · rw [List.map_cons, List.nodup_cons]
              refine ⟨?_, nodup⟩
              intro repeated
              rcases List.mem_map.mp repeated with ⟨other, member, same⟩
              exact fresh other member (same ▸ List.mem_cons_self)
            · exact fun other member old => fresh other member (List.mem_cons_of_mem _ old)
            · exact List.forall_mem_append.mpr ⟨guests.named, later.named⟩
            · refine List.nodup_append.mpr ⟨guests.nodup, later.nodup, ?_⟩
              rintro id here _ there rfl
              exact later.new id there ((seenNow id).mpr (.inr here))
            · refine List.forall_mem_append.mpr ⟨guests.new, ?_⟩
              exact fun id member old => later.new id member ((seenNow id).mpr (.inl old))
          · rintro ⟨fits, nodup, fresh, guests⟩
            rcases List.forall_mem_cons.mp fits with ⟨own, others⟩
            rcases List.forall_mem_cons.mp fresh with ⟨_, freshRest⟩
            rw [List.map_cons, List.nodup_cons] at nodup
            rcases List.nodup_append.mp guests.nodup with ⟨nodupHere, nodupLater, apart⟩
            have here : GuestsFit seenVMs (node.vms.map (·.id)) :=
              ⟨fun id member => guests.named id (List.mem_append_left _ member), nodupHere,
                fun id member => guests.new id (List.mem_append_left _ member)⟩
            have hosts : ¬ (node.vms ≠ [] ∧ node.type ∉ vmHostNodeTypes) := by
              rintro ⟨some_, cannot⟩
              exact own.hosts.elim some_ cannot
            refine ⟨⟨⟨⟨if_neg (not_not.mpr own.known), if_neg hosts⟩, own.gaming⟩, here⟩, others,
              nodup.2, ?_, ?_, nodupLater, ?_⟩
            · intro other member old
              rcases List.mem_cons.mp old with same | old
              · exact nodup.1 (same ▸ List.mem_map_of_mem member)
              · exact freshRest other member old
            · exact fun id member => guests.named id (List.mem_append_right _ member)
            · intro id member old
              rcases (mem_vmIssues_seen node.id here).mp old with old | inHere
              · exact guests.new id (List.mem_append_right _ member) old
              · exact apart id inHere id member rfl

section Order

variable {runtime : Runtime} {nodes others : List NodeDTO}

theorem nodesByID_of_perm (perm : nodes.Perm others) (nodup : (nodes.map (·.id)).Nodup) :
    nodesByID nodes = nodesByID others := by
  funext id
  unfold nodesByID
  split
  · rfl
  · have distinct := (perm.map (·.id)).nodup_iff.mp nodup
    cases found : nodes.find? fun node => node.id = id with
    | none =>
        symm
        rw [List.find?_eq_none] at found ⊢
        exact fun node member => found node (perm.mem_iff.mpr member)
    | some node =>
        have same : node.id = id := by simpa using List.find?_some found
        have member := perm.mem_iff.mp (List.mem_of_find?_eq_some found)
        symm
        apply Keyed.find?_of_unique member (decide_eq_true same)
        intro other listed isID
        exact Keyed.eq_of_key_eq distinct listed member
          ((of_decide_eq_true isID).trans same.symm)

theorem checkEdge_of_nodesByID {floats : Wiring.Floats} (same : nodesByID nodes = nodesByID others)
    (scan : EdgeScan) (edge : EdgeDTO) :
    EdgeScan.checkEdge floats nodes scan edge = EdgeScan.checkEdge floats others scan edge := by
  unfold EdgeScan.checkEdge
  rw [same]

theorem edgeIssues_of_nodesByID {floats : Wiring.Floats}
    (same : nodesByID nodes = nodesByID others) (edges : List EdgeDTO) :
    edgeIssues floats nodes edges = edgeIssues floats others edges := by
  have walk : EdgeScan.checkEdge floats nodes = EdgeScan.checkEdge floats others := by
    funext scan edge
    exact checkEdge_of_nodesByID same scan edge
  unfold edgeIssues
  rw [walk]

theorem graphIssues_of_perm {edges : List EdgeDTO} (perm : nodes.Perm others)
    (accepted : graphIssues runtime nodes edges = []) :
    graphIssues runtime others edges = [] := by
  unfold graphIssues at accepted ⊢
  simp only [List.append_eq_nil_iff, List.map_eq_nil_iff] at accepted ⊢
  rcases accepted with ⟨⟨rows, mounts⟩, cables⟩
  rcases nodeIssues_eq_nil_iff.mp rows with ⟨fits, nodup, fresh, guests⟩
  have same := nodesByID_of_perm perm nodup
  have guestsPerm : (guestIDs nodes).Perm (guestIDs others) := perm.flatMap_right _
  refine ⟨⟨nodeIssues_eq_nil_iff.mpr ⟨?_, (perm.map _).nodup_iff.mp nodup, ?_, ?_, ?_, ?_⟩, ?_⟩, ?_⟩
  · exact fun node member => fits node (perm.mem_iff.mpr member)
  · exact fun node member => fresh node (perm.mem_iff.mpr member)
  · exact fun id member => guests.named id (guestsPerm.mem_iff.mpr member)
  · exact guestsPerm.nodup_iff.mp guests.nodup
  · exact fun id member => guests.new id (guestsPerm.mem_iff.mpr member)
  · rw [List.flatMap_eq_nil_iff] at mounts ⊢
    intro node member
    have fine := mounts node (perm.mem_iff.mpr member)
    unfold parentIssues at fine ⊢
    rw [← same]
    exact fine
  · rw [← edgeIssues_of_nodesByID same]
    exact cables

theorem validateEach_eq_ok_iff {α : Type} {validate : α → Except String Unit} :
    ∀ {items : List α}, validateEach validate items = .ok () ↔
      ∀ item ∈ items, validate item = .ok ()
  | [] => ⟨fun _ => nofun, fun _ => rfl⟩
  | item :: rest => by
      unfold validateEach
      cases checked : validate item with
      | error message =>
          refine ⟨nofun, fun fine => ?_⟩
          rw [fine item List.mem_cons_self] at checked
          cases checked
      | ok =>
          dsimp only
          rw [validateEach_eq_ok_iff, List.forall_mem_cons, checked]
          exact ⟨fun fine => ⟨rfl, fine⟩, And.right⟩

theorem validateGraph_eq_ok_iff {edges : List EdgeDTO} :
    validateGraph runtime nodes edges = .ok () ↔
      (∀ node ∈ nodes, validateVirtualNetwork runtime node = .ok ()) ∧
        (∀ node ∈ nodes, validateNodeWiring runtime node = .ok ()) ∧
        graphIssues runtime nodes edges = [] := by
  rw [← validateEach_eq_ok_iff, ← validateEach_eq_ok_iff]
  unfold validateGraph validateVirtualNetworks validateWiringDetails
  cases validateEach (validateVirtualNetwork runtime) nodes with
  | error => simp
  | ok =>
      cases validateEach (validateNodeWiring runtime) nodes with
      | error => simp
      | ok => cases graphIssues runtime nodes edges <;> simp

theorem mounted_of_validateGraph {edges : List EdgeDTO}
    (accepted : validateGraph runtime nodes edges = .ok ()) {node : NodeDTO} (member : node ∈ nodes)
    {parent : String} (mounted : node.parentID = some parent) (given : parent ≠ "") :
    node.type ≠ "rack" ∧ ∃ rack ∈ nodes, rack.id = parent ∧ rack.type = "rack" := by
  have graph := (validateGraph_eq_ok_iff.mp accepted).2.2
  unfold graphIssues at graph
  simp only [List.append_eq_nil_iff, List.map_eq_nil_iff, List.flatMap_eq_nil_iff] at graph
  have fine := graph.1.2 node member
  rw [parentIssues, mounted, Option.filter_some, if_pos (by simpa using given)] at fine
  dsimp only at fine
  split at fine
  · cases fine
  · split at fine
    · cases fine
    · rename_i rack found
      rcases id_of_nodesByID found with ⟨listed, same⟩
      simp only [List.append_eq_nil_iff] at fine
      refine ⟨?_, rack, listed, same, ?_⟩
      · intro isRack
        rw [if_pos isRack] at fine
        cases fine.1.2
      · by_contra noRack
        rw [if_pos noRack] at fine
        cases fine.1.1

theorem validateGraph_of_perm {edges : List EdgeDTO} (perm : nodes.Perm others)
    (accepted : validateGraph runtime nodes edges = .ok ()) :
    validateGraph runtime others edges = .ok () := by
  rcases validateGraph_eq_ok_iff.mp accepted with ⟨networks, wiring, graph⟩
  exact validateGraph_eq_ok_iff.mpr ⟨fun node member => networks node (perm.mem_iff.mpr member),
    fun node member => wiring node (perm.mem_iff.mpr member), graphIssues_of_perm perm graph⟩

end Order

/-! ## Cables -/

/-- Two cables of the same type on the same ends. -/
structure SameCable (left right : EdgeDTO) : Prop where
  source : left.source = right.source
  sourceHandle : left.sourceHandle = right.sourceHandle
  target : left.target = right.target
  targetHandle : left.targetHandle = right.targetHandle
  type : left.type = right.type

section Cables

variable {runtime : Runtime} {floats : Wiring.Floats} {nodes : List NodeDTO}

theorem checkEdge_of_sameCable {left right : EdgeDTO} (same : SameCable left right)
    (scan : EdgeScan) :
    EdgeScan.checkEdge floats nodes scan left = EdgeScan.checkEdge floats nodes scan right := by
  rcases left with ⟨source, sourceHandle, target, targetHandle, type, _, _, _, _⟩
  rcases right with ⟨_, _, _, _, _, _, _, _, _⟩
  rcases same with ⟨rfl, rfl, rfl, rfl, rfl⟩
  rfl

theorem foldl_checkEdge_map {change : EdgeDTO → EdgeDTO} : ∀ {edges : List EdgeDTO}
    (scan : EdgeScan), (∀ edge ∈ edges, SameCable (change edge) edge) →
    (edges.map change).foldl (EdgeScan.checkEdge floats nodes) scan =
      edges.foldl (EdgeScan.checkEdge floats nodes) scan
  | [], _, _ => rfl
  | edge :: rest, scan, same => by
      rcases List.forall_mem_cons.mp same with ⟨here, others⟩
      rw [List.map_cons, List.foldl_cons, List.foldl_cons, checkEdge_of_sameCable here,
        foldl_checkEdge_map _ others]

theorem powerArcs_map {change : EdgeDTO → EdgeDTO} : ∀ {edges : List EdgeDTO},
    (∀ edge ∈ edges, SameCable (change edge) edge) →
    powerArcs (edges.map change) = powerArcs edges
  | [], _ => rfl
  | edge :: rest, same => by
      rcases List.forall_mem_cons.mp same with ⟨here, others⟩
      have power : (change edge).isPower = edge.isPower := by
        rw [EdgeDTO.isPower, EdgeDTO.isPower, here.type]
      have later := powerArcs_map others
      unfold powerArcs at later ⊢
      rw [List.map_cons, List.filter_cons, List.filter_cons, power]
      split
      · rw [List.map_cons, List.map_cons, here.source, here.target, later]
      · exact later

theorem validateGraph_map_edges {change : EdgeDTO → EdgeDTO} {edges : List EdgeDTO}
    (same : ∀ edge ∈ edges, SameCable (change edge) edge) :
    validateGraph runtime nodes (edges.map change) = .ok () ↔
      validateGraph runtime nodes edges = .ok () := by
  have cables : edgeIssues runtime.floats nodes (edges.map change) =
      edgeIssues runtime.floats nodes edges := by
    unfold edgeIssues powerLoopNode
    rw [foldl_checkEdge_map _ same, powerArcs_map same]
  simp only [validateGraph_eq_ok_iff, graphIssues, cables]

end Cables

end HomelabBuilder.Services
