import HomelabBuilder.Foundation.Keyed
import HomelabBuilder.Ipam.AddressOwners
import HomelabBuilder.Services.CableDirection
import HomelabBuilder.Services.CalculateNetwork

/-! # What a run stores

A row that is no router and can hold an address is left with the address it was
assigned. A locked row keeps the address it had when it was assigned none.
-/

namespace HomelabBuilder.Services

open Net

/-! ## Lookups by id -/

def DistinctNodes (nodes : List Node) : Prop := (nodes.map (·.id)).Nodup

theorem DistinctNodes.texts {nodes : List Node} (distinct : DistinctNodes nodes) :
    (nodes.map (·.id.text)).Nodup := by
  have texts : nodes.map (·.id.text) = (nodes.map (·.id)).map UUID.text := by
    rw [List.map_map]
    rfl
  rw [texts]
  apply List.Nodup.map _ distinct
  intro left right same
  exact UUID.eq_of_toList (congrArg String.toList same)

namespace Lookups

variable {plan : Lookups} {node : Node}

theorem nodeByID_of_mem (distinct : DistinctNodes plan.nodes) (member : node ∈ plan.nodes) :
    plan.nodeByID node.id.text = some node :=
  @Keyed.find?_reverse_key _ _ (fun node : Node => node.id.text) _ _ distinct.texts _ member

theorem detailsByID_of_mem (distinct : DistinctNodes plan.nodes) (member : node ∈ plan.nodes) :
    plan.detailsByID node.id.text = node.network := by
  rw [detailsByID, nodeByID_of_mem distinct member]
  rfl

theorem realGateway_of_mem (distinct : DistinctNodes plan.nodes) (member : node ∈ plan.nodes) :
    plan.realGateway node.id.text = decide (node.type = "router") := by
  rw [realGateway, nodeByID_of_mem distinct member]
  rfl

end Lookups

/-! ## The routers of a request -/

theorem natRouters_id {plan : Lookups} {connections : List Lookups.Connection}
    {router : Ipam.RouterDTO} : ∀ {nodes : List Node} {used : List String},
    router ∈ plan.natRouters connections nodes used →
      ∃ node ∈ nodes, plan.natGatewayID node.id.text = some router.id
  | [], _, member => by cases member
  | node :: rest, used, member => by
      unfold Lookups.natRouters at member
      split at member
      · rcases natRouters_id member with ⟨other, listed, gateway⟩
        exact ⟨other, List.mem_cons_of_mem node listed, gateway⟩
      · rename_i gateway
        rcases List.mem_cons.mp member with rfl | member
        · exact ⟨node, List.mem_cons_self, gateway⟩
        · rcases natRouters_id member with ⟨other, listed, found⟩
          exact ⟨other, List.mem_cons_of_mem node listed, found⟩

theorem portRouter_id {plan : Lookups} {entry : String × PortGateway}
    (member : entry ∈ plan.portRouters) :
    ∃ node ∈ plan.nodes, entry.2.routerID = node.id.text ++ ":" ++ entry.2.handle := by
  rcases List.mem_flatMap.mp member with ⟨node, listed, ports⟩
  rcases List.mem_map.mp ports with ⟨gateway, opened, rfl⟩
  refine ⟨node, listed, ?_⟩
  unfold portGateways at opened
  split at opened
  · cases opened
  · rcases List.mem_filterMap.mp opened with ⟨handle, _, built⟩
    rw [routerID_of_portGateway built, handle_of_portGateway built]

/-- A gateway that is named after a node but is not the node itself. -/
def Synthetic (id : String) : Prop := ∃ (node : UUID) (suffix : String),
  id = node.text ++ ":" ++ suffix

theorem Synthetic.ne_text {id : String} (synthetic : Synthetic id) (node : UUID) :
    id ≠ node.text := by
  intro same
  rcases synthetic with ⟨owner, suffix, rfl⟩
  apply node.colon_not_mem
  rw [← same, String.toList_append, String.toList_append]
  simp

theorem router_id_of_planIPAM {sorting : SliceSort} {nodes : List Node} {edges : List Edge}
    {router : Ipam.RouterDTO} (member : router ∈ (planIPAM sorting nodes edges).routers) :
    (∃ node ∈ nodes, router.id = node.id.text ∧
        Lookups.realGateway ⟨sorting, nodes⟩ node.id.text = true) ∨ Synthetic router.id := by
  simp only [planIPAM, List.mem_append] at member
  rcases member with (real | nat) | port
  · rcases List.mem_map.mp real with ⟨node, listed, rfl⟩
    rcases List.mem_filter.mp listed with ⟨listed, gateway⟩
    exact .inl ⟨node, listed, rfl, gateway⟩
  · rcases natRouters_id nat with ⟨node, _, gateway⟩
    refine .inr ⟨node.id, "lan", ?_⟩
    rw [Lookups.natGatewayID_eq gateway, String.append_assoc]
    rfl
  · rcases List.mem_map.mp port with ⟨entry, listed, rfl⟩
    rcases portRouter_id listed with ⟨node, _, named⟩
    exact .inr ⟨node.id, entry.2.handle, named⟩

/-! ## One row -/

section Row

variable {sorting : SliceSort} {nodes : List Node} {edges : List Edge}

theorem routerIPByID_eq_none (distinct : DistinctNodes nodes) {node : Node} (member : node ∈ nodes)
    (plain : node.type ≠ "router") :
    Lookups.routerIPByID ⟨sorting, nodes⟩ (Ipam.allocate (planIPAM sorting nodes edges))
      node.id.text = none := by
  rw [Lookups.routerIPByID, Option.map_eq_none_iff, List.find?_eq_none]
  intro result listed found
  rw [List.mem_reverse] at listed
  simp only [Bool.and_eq_true, decide_eq_true_eq] at found
  have answered : result.id ∈ (planIPAM sorting nodes edges).routers.map (·.id) := by
    rw [← Ipam.allocate_routerIDs]
    exact List.mem_map_of_mem (List.mem_filter.mp listed).1
  rcases List.mem_map.mp answered with ⟨router, requested, same⟩
  rcases router_id_of_planIPAM requested with ⟨other, otherListed, named, gateway⟩ | synthetic
  · have equal : other = node := by
      apply Keyed.eq_of_key_eq distinct.texts otherListed member
      rw [← named, same, found.1]
    rw [equal, Lookups.realGateway_of_mem distinct member, decide_eq_true_eq] at gateway
    exact plain gateway
  · exact synthetic.ne_text node.id (same.trans found.1)

theorem ipByID_eq (distinct : DistinctNodes nodes) {index : Nat} {node : Node}
    (located : nodes[index]? = some node) :
    ipByID (Ipam.allocate (planIPAM sorting nodes edges)) node.id.text =
      if (Ipam.allocate (planIPAM sorting nodes edges)).assignedIP (.node index) = "" then none
      else some ((Ipam.allocate (planIPAM sorting nodes edges)).assignedIP (.node index)) := by
  generalize requested : planIPAM sorting nodes edges = request
  have ids : (Ipam.allocate request).nodes.map (·.id) = nodes.map (·.id.text) := by
    rw [Ipam.allocate_nodeIDs, ← requested, planIPAM, List.map_map]
    rfl
  have unique : ((Ipam.allocate request).nodes.map (·.id)).Nodup := ids ▸ distinct.texts
  have answered : ((Ipam.allocate request).nodes.map (·.id))[index]? = some node.id.text := by
    rw [ids, List.getElem?_map, located]
    rfl
  rw [List.getElem?_map, Option.map_eq_some_iff] at answered
  rcases answered with ⟨result, found, named⟩
  have assigned : (Ipam.allocate request).assignedIP (.node index) = result.assignedIP := by
    simp [Ipam.AllocateResponse.assignedIP, Ipam.assignedIPIn, found]
  have only (other : Ipam.NodeResult) (listed : other ∈ (Ipam.allocate request).nodes.reverse)
      (same : other.id = node.id.text) : other = result :=
    Keyed.eq_of_key_eq unique (List.mem_reverse.mp listed) (List.mem_of_getElem? found)
      (same.trans named.symm)
  rw [ipByID, assigned]
  split
  · rename_i empty
    rw [Option.map_eq_none_iff, List.find?_eq_none]
    intro other listed fits
    simp only [Bool.and_eq_true, decide_eq_true_eq] at fits
    rw [only other listed fits.1] at fits
    exact fits.2 empty
  · rename_i shown
    rw [@Keyed.find?_of_unique _ _ _ result]
    · rfl
    · exact List.mem_reverse.mpr (List.mem_of_getElem? found)
    · simp [named, shown]
    · intro other listed fits
      simp only [Bool.and_eq_true, decide_eq_true_eq] at fits
      exact only other listed fits.1

theorem storedIP_eq (distinct : DistinctNodes nodes) {index : Nat} {node : Node}
    (located : nodes[index]? = some node) (plain : node.type ≠ "router")
    (addressable : node.type ∉ nonNetworkTypes) :
    Lookups.storedIP ⟨sorting, nodes⟩ (Ipam.allocate (planIPAM sorting nodes edges)) node =
      if (Ipam.allocate (planIPAM sorting nodes edges)).assignedIP (.node index) = "" ∧
        node.network.dhcpLocked = true then node.ip
      else (Ipam.allocate (planIPAM sorting nodes edges)).assignedIP (.node index) := by
  have member : node ∈ nodes := List.mem_of_getElem? located
  rw [Lookups.storedIP, routerIPByID_eq_none distinct member plain, ipByID_eq distinct located,
    Lookups.realGateway_of_mem distinct member, Lookups.detailsByID_of_mem distinct member]
  by_cases unassigned : (Ipam.allocate (planIPAM sorting nodes edges)).assignedIP (.node index) = ""
  · cases locked : node.network.dhcpLocked <;> simp [unassigned, addressable, plain]
  · simp [unassigned]

theorem ip_of_saveNode {plan : Lookups} {result : Ipam.AllocateResponse} {before after : Node}
    (saved : plan.saveNode result before = .ok after) :
    after = plan.storedNode result before := by
  unfold Lookups.saveNode at saved
  dsimp only at saved
  split at saved
  · cases saved
    rfl
  · split at saved
    · cases saved
    · cases saved
      rfl

theorem stored_of_calculateNetwork {stored : List Node}
    (done : calculateNetwork sorting nodes edges = .ok stored) :
    stored = nodes.map (Lookups.storedNode ⟨sorting, nodes⟩
      (Ipam.allocate (planIPAM sorting nodes edges))) := by
  unfold calculateNetwork at done
  split at done
  · rename_i none
    rw [List.isEmpty_iff.mp none]
    cases done
    rfl
  · have rows := Keyed.forall₂_of_mapM done
    rw [← List.forall₂_eq_eq_eq, List.forall₂_map_right_iff]
    exact (rows.imp fun _ _ saved => ip_of_saveNode saved).flip

/-- The row keeps the address it is locked to although it was assigned none. -/
def keepsLocked (sorting : SliceSort) (nodes : List Node) (edges : List Edge) (index : Nat) : Prop :=
  (Ipam.allocate (planIPAM sorting nodes edges)).assignedIP (.node index) = "" ∧
    ∃ node, nodes[index]? = some node ∧ node.network.dhcpLocked = true

/-- A row that is no router and can hold an address. -/
def Node.isAddressed (node : Node) : Prop := node.type ≠ "router" ∧ node.type ∉ nonNetworkTypes

/-- **Stored addresses.** A row that is no router and can hold an address is
stored with the address it was assigned, except that a locked row that was
assigned none stays as it was. Rows of one domain that were assigned what they
store share no address. -/
theorem stored_addresses_are_assigned {stored : List Node} (distinct : DistinctNodes nodes)
    (done : calculateNetwork sorting nodes edges = .ok stored) :
    (∀ index before after, nodes[index]? = some before → stored[index]? = some after →
      before.isAddressed →
        (¬keepsLocked sorting nodes edges index →
          after.ip = (Ipam.allocate (planIPAM sorting nodes edges)).assignedIP (.node index)) ∧
        (keepsLocked sorting nodes edges index → after.ip = before.ip)) ∧
    ∀ key left right leftBefore rightBefore leftAfter rightAfter,
      nodes[left]? = some leftBefore → nodes[right]? = some rightBefore →
      stored[left]? = some leftAfter → stored[right]? = some rightAfter →
      leftBefore.isAddressed → rightBefore.isAddressed →
      Ipam.domainOf (planIPAM sorting nodes edges) (.node left) = some key →
      Ipam.domainOf (planIPAM sorting nodes edges) (.node right) = some key →
      ¬keepsLocked sorting nodes edges left → ¬keepsLocked sorting nodes edges right →
      leftAfter.ip ≠ "" → leftAfter.ip = rightAfter.ip → left = right := by
  have row : ∀ index before after, nodes[index]? = some before → stored[index]? = some after →
      before.isAddressed →
        (¬keepsLocked sorting nodes edges index →
          after.ip = (Ipam.allocate (planIPAM sorting nodes edges)).assignedIP (.node index)) ∧
        (keepsLocked sorting nodes edges index → after.ip = before.ip) := by
    intro index before after located storedAt addressed
    rw [stored_of_calculateNetwork done, List.getElem?_map, located] at storedAt
    cases storedAt
    have written := @storedIP_eq sorting _ edges distinct _ _ located
      addressed.1 addressed.2
    constructor
    · intro notKept
      rw [if_neg] at written
      · exact written
      · intro kept
        exact notKept ⟨kept.1, before, located, kept.2⟩
    · intro kept
      rcases kept with ⟨unassigned, node, found, locked⟩
      rw [located] at found
      cases found
      rw [if_pos ⟨unassigned, locked⟩] at written
      exact written
  refine ⟨row, ?_⟩
  intro key left right leftBefore rightBefore leftAfter rightAfter leftAt rightAt leftStored
    rightStored leftAddressed rightAddressed leftDomain rightDomain leftFree rightFree shown same
  have leftIP := (row left _ _ leftAt leftStored leftAddressed).1 leftFree
  have rightIP := (row right _ _ rightAt rightStored rightAddressed).1 rightFree
  have ids := Ipam.entityID_eq_of_assignedIP_eq (planIPAM sorting nodes edges) leftDomain
    rightDomain (leftIP ▸ shown) (leftIP ▸ rightIP ▸ same)
  simp only [Ipam.entityID, planIPAM, List.getElem?_map, leftAt, rightAt, Option.map_some,
    Option.some.injEq] at ids
  have texts : (nodes.map (·.id.text))[left]? = (nodes.map (·.id.text))[right]? := by
    rw [List.getElem?_map, List.getElem?_map, leftAt, rightAt]
    exact congrArg some ids
  have bound : left < (nodes.map (·.id.text)).length := by
    rw [List.length_map]
    exact (List.getElem?_eq_some_iff.mp leftAt).1
  exact (List.getElem?_inj bound distinct.texts).mp texts

end Row

/-! ## Examples -/

theorem isCanonicalUUID_first : isCanonicalUUID "00000000-0000-0000-0000-000000000001" = true := by
  decide

theorem isCanonicalUUID_second :
    isCanonicalUUID "00000000-0000-0000-0000-000000000002" = true := by
  decide

theorem isCanonicalUUID_third : isCanonicalUUID "00000000-0000-0000-0000-000000000003" = true := by
  decide

def smallRouter : Node where
  id := ⟨"00000000-0000-0000-0000-000000000001", isCanonicalUUID_first⟩
  type := "router"
  ip := "10.0.0.1"
  details := .obj [("subnet_mask", .str "255.255.255.252")]

/-- A computer that insists on the only address of the subnet. -/
def lockedPC (id : UUID) : Node where
  id := id
  type := "pc"
  ip := "10.0.0.2"
  details := .obj [("dhcp_locked", .bool true)]

def firstPC : Node := lockedPC ⟨"00000000-0000-0000-0000-000000000002", isCanonicalUUID_second⟩

def secondPC : Node := lockedPC ⟨"00000000-0000-0000-0000-000000000003", isCanonicalUUID_third⟩

def routerPort (handle : String) (node : Node) : Edge where
  sourceNodeID := smallRouter.id
  sourceHandle := handle
  targetNodeID := node.id
  targetHandle := "eth0"

def smallNetwork : List Node := [smallRouter, firstPC, secondPC]

def smallCables : List Edge := [routerPort "eth0" firstPC, routerPort "eth1" secondPC]

private theorem smallNetwork_addresses :
    (calculateNetwork .insertion smallNetwork smallCables).map (fun stored => stored.map (·.ip)) =
      .ok ["10.0.0.1", "10.0.0.2", "10.0.0.2"] := by
  decide

private theorem exists_of_map {α β ε : Type} {result : Except ε α} {f : α → β} {value : β}
    (mapped : result.map f = .ok value) : ∃ item, result = .ok item ∧ f item = value := by
  cases result with
  | error message => cases mapped
  | ok item =>
      cases mapped
      exact ⟨item, rfl, rfl⟩

def freePC (pc : Node) : Node :=
  { pc with ip := "", details := .null }

def roomyNetwork : List Node :=
  [ { smallRouter with details := .obj [("subnet_mask", .str "255.255.255.240")] },
    freePC firstPC, freePC secondPC ]

theorem stored_addresses_are_assigned_firstPC :
    ∃ stored : List Node, ∃ first second : Node,
      calculateNetwork .insertion roomyNetwork smallCables = .ok stored ∧
        stored[1]? = some first ∧ stored[2]? = some second ∧
        first.ip = (Ipam.allocate (planIPAM .insertion roomyNetwork smallCables)).assignedIP
          (.node 1) ∧ first.ip ≠ "" ∧
        second.ip = (Ipam.allocate (planIPAM .insertion roomyNetwork smallCables)).assignedIP
          (.node 2) ∧ second.ip ≠ "" ∧ first.ip ≠ second.ip := by
  have succeeds : (calculateNetwork .insertion roomyNetwork smallCables).map List.length =
      .ok 3 := by
    decide
  rcases exists_of_map succeeds with ⟨stored, done, count⟩
  have distinct : DistinctNodes roomyNetwork := by
    unfold DistinctNodes
    decide
  have assigned : ∀ index ∈ [1, 2], (Ipam.allocate (planIPAM .insertion roomyNetwork
      smallCables)).assignedIP (.node index) ≠ "" := by
    decide
  have free : ∀ index ∈ [1, 2], ¬keepsLocked .insertion roomyNetwork smallCables index :=
    fun index member kept => assigned index member kept.1
  have addressed : (freePC firstPC).isAddressed ∧ (freePC secondPC).isAddressed := by
    unfold Node.isAddressed
    decide
  have addresses := stored_addresses_are_assigned distinct done
  have first := (addresses.1 1 _ _ rfl (List.getElem?_eq_getElem (by omega)) addressed.1).1
    (free 1 (by decide))
  have second := (addresses.1 2 _ _ rfl (List.getElem?_eq_getElem (by omega)) addressed.2).1
    (free 2 (by decide))
  have shown := assigned 1 (by decide)
  rw [← first] at shown
  have sameDomain : Ipam.domainOf (planIPAM .insertion roomyNetwork smallCables) (.node 1) =
      some (167772160, 4294967280) ∧
      Ipam.domainOf (planIPAM .insertion roomyNetwork smallCables) (.node 2) =
        some (167772160, 4294967280) := by
    decide
  refine ⟨stored, _, _, done, List.getElem?_eq_getElem (by omega),
    List.getElem?_eq_getElem (by omega), first, shown, second,
    second ▸ assigned 2 (by decide), ?_⟩
  intro same
  have one : 1 = 2 := addresses.2 _ 1 2 _ _ _ _ rfl rfl (List.getElem?_eq_getElem (by omega))
    (List.getElem?_eq_getElem (by omega)) addressed.1 addressed.2
    sameDomain.1 sameDomain.2 (free 1 (by decide)) (free 2 (by decide)) shown same
  exact absurd one (by decide)

/-- The second computer is turned down, yet both are stored with one address. -/
theorem lockedPCs_share_an_address :
    (∃ stored : List Node, ∃ first second : Node,
      calculateNetwork .insertion smallNetwork smallCables = .ok stored ∧
        stored[1]? = some first ∧ stored[2]? = some second ∧
        first.ip = "10.0.0.2" ∧ second.ip = "10.0.0.2") ∧
    (Ipam.allocate (planIPAM .insertion smallNetwork smallCables)).assignedIP (.node 2) = "" ∧
    Ipam.domainOf (planIPAM .insertion smallNetwork smallCables) (.node 1) =
      Ipam.domainOf (planIPAM .insertion smallNetwork smallCables) (.node 2) := by
  refine ⟨?_, by decide, by decide⟩
  rcases exists_of_map smallNetwork_addresses with ⟨stored, done, addresses⟩
  have first := congrArg (·[1]?) addresses
  have second := congrArg (·[2]?) addresses
  simp only [List.getElem?_map, List.getElem?_cons_succ, List.getElem?_cons_zero,
    Option.map_eq_some_iff] at first second
  rcases first with ⟨firstRow, firstAt, firstIP⟩
  rcases second with ⟨secondRow, secondAt, secondIP⟩
  exact ⟨stored, firstRow, secondRow, done, firstAt, secondAt, firstIP, secondIP⟩

end HomelabBuilder.Services
