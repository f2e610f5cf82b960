import HomelabBuilder.Foundation.Keyed
import HomelabBuilder.Services.EdgeWalk
import HomelabBuilder.Wiring.SharedDependency

/-! # Power loads of a saved build

`writePowerLoads` after a save: what the rules on power cables give the computation of
the loads.
-/

namespace HomelabBuilder.Services

open Wiring Flows

/-- A node as the checks see it, with the draw of its components. -/
def NodeDTO.wired (node : NodeDTO) : Wiring.Node where
  id := node.id
  name := node.name
  type := node.type
  details := node.details
  drawW := node.powerDraw + (node.internalComponents.map ComponentDTO.powerDraw).sum

def EdgeDTO.wired (edge : EdgeDTO) : Wiring.Edge where
  source := edge.source
  sourceHandle := edge.sourceHandle
  target := edge.target
  targetHandle := edge.targetHandle
  type := edge.type

def wiredGraph (nodes : List NodeDTO) (edges : List EdgeDTO) : PowerGraph :=
  newPowerGraph (nodes.map NodeDTO.wired) (edges.map EdgeDTO.wired)

def storedLoads (floats : Floats) (nodes : List NodeDTO) (edges : List EdgeDTO) :
    Option (List (String × SourceLoad)) :=
  powerLoads floats (nodes.map NodeDTO.wired) (edges.map EdgeDTO.wired)

def isFed (edges : List EdgeDTO) (id : String) : Bool :=
  edges.any fun edge => edge.isPower && edge.target = id

variable {floats : Floats} {nodes : List NodeDTO} {edges : List EdgeDTO}

theorem map_wired_id (nodes : List NodeDTO) :
    (nodes.map NodeDTO.wired).map Wiring.Node.id = nodes.map NodeDTO.id := by
  rw [List.map_map]
  rfl

theorem node_wired (distinct : (nodes.map NodeDTO.id).Nodup) {node : NodeDTO}
    (listed : node ∈ nodes) :
    PowerGraph.node (nodes.map NodeDTO.wired) node.id = some node.wired := by
  rw [← map_wired_id] at distinct
  exact Keyed.find?_reverse_key distinct (List.mem_map_of_mem listed)

theorem node_of_nodesByID (distinct : (nodes.map NodeDTO.id).Nodup) {id : String} {node : NodeDTO}
    (found : nodesByID nodes id = some node) :
    node ∈ nodes ∧ node.id = id ∧
      PowerGraph.node (nodes.map NodeDTO.wired) id = some node.wired := by
  unfold nodesByID at found
  split at found
  · cases found
  · have listed := List.mem_of_find?_eq_some found
    have same := List.find?_some found
    have equal : node.id = id := of_decide_eq_true same
    exact ⟨listed, equal, equal ▸ node_wired distinct listed⟩

theorem cables_wiredGraph (distinct : (nodes.map NodeDTO.id).Nodup)
    (rules : PowerRules floats nodes edges) :
    (wiredGraph nodes edges).cables = (edges.filter EdgeDTO.isPower).map EdgeDTO.wired := by
  unfold wiredGraph newPowerGraph
  rw [List.filter_map]
  refine congrArg (List.map EdgeDTO.wired) (List.filter_congr fun edge listed => ?_)
  cases power : edge.isPower with
  | false =>
      have other : decide (edge.wired.type = edgeTypePower) = false := power
      simp only [Function.comp_apply, other, Bool.false_and]
  | true =>
      have same : decide (edge.wired.type = edgeTypePower) = true := power
      have fits := rules.fits edge listed power
      rcases fits.source with ⟨source, foundSource, _⟩
      rcases fits.target with ⟨target, foundTarget, _⟩
      have first := (node_of_nodesByID distinct foundSource).2.2
      have second := (node_of_nodesByID distinct foundTarget).2.2
      simp only [Function.comp_apply, same, Bool.true_and]
      change ((PowerGraph.node _ edge.source).isSome && (PowerGraph.node _ edge.target).isSome) = true
      rw [first, second]
      rfl

theorem arcs_wiredGraph (distinct : (nodes.map NodeDTO.id).Nodup)
    (rules : PowerRules floats nodes edges) :
    (wiredGraph nodes edges).arcs = powerArcs edges := by
  rw [PowerGraph.arcs, cables_wiredGraph distinct rules, List.map_map]
  rfl

theorem apart_wiredGraph (distinct : (nodes.map NodeDTO.id).Nodup)
    (rules : PowerRules floats nodes edges) : (wiredGraph nodes edges).Apart := by
  intro id
  rw [cables_wiredGraph distinct rules, List.filter_map, List.map_map]
  have ports : ((edges.filter EdgeDTO.isPower).map fun edge =>
      EdgeScan.portKey edge.target edge.targetHandle).Nodup := by
    have both := rules.ports
    rw [List.nodup_flatMap] at both
    refine (List.pairwise_map.mpr (both.2.imp fun disjoint => ?_))
    intro same
    refine disjoint (List.mem_cons_of_mem _ List.mem_cons_self) ?_
    rw [same]
    exact List.mem_cons_of_mem _ List.mem_cons_self
  have own : ∀ edge ∈ (edges.filter EdgeDTO.isPower).filter (fun edge => edge.target = id),
      edge ∈ edges ∧ edge.isPower = true ∧ edge.target = id := by
    intro edge listed
    rcases List.mem_filter.mp listed with ⟨kept, target⟩
    rcases List.mem_filter.mp kept with ⟨member, power⟩
    exact ⟨member, power, of_decide_eq_true target⟩
  have few : (((edges.filter EdgeDTO.isPower).filter fun edge => edge.target = id).map fun edge =>
      EdgeScan.portKey edge.target edge.targetHandle).Nodup :=
    ports.sublist (List.filter_sublist.map _)
  refine List.Nodup.map_on ?_ (List.Nodup.of_map _ few)
  intro left inLeft right inRight same
  have leftOwn := own left inLeft
  have rightOwn := own right inRight
  rcases (rules.fits left leftOwn.1 leftOwn.2.1).target with ⟨_, _, plugged, _⟩
  have index := Int.toNat_of_nonneg plugged
  have handles := eq_of_powerHandleIndex_eq index.symm (same.symm.trans index.symm)
  refine List.inj_on_of_nodup_map few inLeft inRight ?_
  rw [leftOwn.2.2, rightOwn.2.2, handles]
  rfl

theorem reordered_wiredGraph (distinct : (nodes.map NodeDTO.id).Nodup)
    {otherNodes : List NodeDTO} {otherEdges : List EdgeDTO} (sameNodes : otherNodes.Perm nodes)
    (sameEdges : otherEdges.Perm edges) :
    (wiredGraph nodes edges).Reordered (wiredGraph otherNodes otherEdges) := by
  have otherDistinct : (otherNodes.map NodeDTO.id).Nodup :=
    (sameNodes.map _).nodup_iff.mpr distinct
  have node : ∀ id, PowerGraph.node (nodes.map NodeDTO.wired) id =
      PowerGraph.node (otherNodes.map NodeDTO.wired) id := by
    intro id
    by_cases listed : id ∈ nodes.map NodeDTO.id
    · rcases List.mem_map.mp listed with ⟨node, member, rfl⟩
      rw [node_wired distinct member, node_wired otherDistinct (sameNodes.mem_iff.mpr member)]
    · have missing : ∀ nodes : List NodeDTO, id ∉ nodes.map NodeDTO.id →
          PowerGraph.node (nodes.map NodeDTO.wired) id = none := by
        intro nodes unlisted
        cases found : PowerGraph.node (nodes.map NodeDTO.wired) id with
        | none => rfl
        | some node =>
            have known := PowerGraph.mem_of_node found
            refine absurd ?_ unlisted
            rw [← map_wired_id, ← known.2]
            exact List.mem_map_of_mem known.1
      rw [missing nodes listed, missing otherNodes (mt (sameNodes.map _).mem_iff.mp listed)]
  refine ⟨node, ?_, ?_⟩
  · exact (sameNodes.map NodeDTO.wired).length_eq.symm
  · unfold wiredGraph newPowerGraph
    dsimp only
    simp only [node]
    exact ((sameEdges.map EdgeDTO.wired).filter _).symm

theorem fed_iff (distinct : (nodes.map NodeDTO.id).Nodup) (rules : PowerRules floats nodes edges)
    (id : String) : (wiredGraph nodes edges).network.Fed id ↔ isFed edges id = true := by
  have arcs : (wiredGraph nodes edges).network.arcs = powerArcs edges :=
    arcs_wiredGraph distinct rules
  unfold Network.Fed isFed
  rw [arcs, List.any_eq_true]
  constructor
  · rintro ⟨arc, listed, same⟩
    rcases List.mem_map.mp listed with ⟨edge, kept, rfl⟩
    rcases List.mem_filter.mp kept with ⟨member, power⟩
    exact ⟨edge, member, by rw [power, Bool.true_and]; exact decide_eq_true same⟩
  · rintro ⟨edge, member, both⟩
    rcases Bool.and_eq_true_iff.mp both with ⟨power, same⟩
    exact ⟨_, List.mem_map_of_mem (List.mem_filter.mpr ⟨member, power⟩), of_decide_eq_true same⟩

theorem sum_ids (distinct : (nodes.map NodeDTO.id).Nodup) (kept : String → Bool)
    (value : String → Rat) :
    ∑ id ∈ (nodes.map NodeDTO.id).toFinset with kept id = true, value id =
      ((nodes.filter fun node => kept node.id).map fun node => value node.id).sum := by
  rw [← List.toFinset_filter, List.sum_toFinset _ (distinct.filter _), List.filter_map, List.map_map]
  rfl

/-- What the sources that nothing feeds are loaded with is what the fed devices draw. -/
theorem loads_conserved (distinct : (nodes.map NodeDTO.id).Nodup)
    (rules : PowerRules floats nodes edges) {load : String → Rat}
    (balanced : (wiredGraph nodes edges).network.Balanced load) :
    ((nodes.filter fun node => isPowerSource node.type && !isFed edges node.id).map
        fun node => load node.id).sum =
      ((nodes.filter fun node => isFed edges node.id).map fun node => node.wired.drawW).sum := by
  have arcs : (wiredGraph nodes edges).network.arcs = powerArcs edges :=
    arcs_wiredGraph distinct rules
  have passes : ∀ node ∈ nodes,
      (wiredGraph nodes edges).network.passes node.id = isPowerSource node.type := by
    intro node listed
    have found := node_wired distinct listed
    unfold PowerGraph.network
    dsimp only
    exact (congrArg (Option.any _) found).trans Option.any_some
  have draw : ∀ node ∈ nodes, (wiredGraph nodes edges).network.draw node.id = node.wired.drawW := by
    intro node listed
    have found := node_wired distinct listed
    unfold PowerGraph.network
    dsimp only
    exact (congrArg (fun found => Option.elim found 0 Node.drawW) found)
  have ends : ∀ arc ∈ (wiredGraph nodes edges).network.arcs,
      arc.1 ∈ (nodes.map NodeDTO.id).toFinset ∧ arc.2 ∈ (nodes.map NodeDTO.id).toFinset ∧
        (wiredGraph nodes edges).network.passes arc.1 = true := by
    rw [arcs]
    intro arc listed
    rcases List.mem_map.mp listed with ⟨edge, kept, rfl⟩
    rcases List.mem_filter.mp kept with ⟨member, power⟩
    have fits := rules.fits edge member power
    rcases fits.source with ⟨source, foundSource, isSource, _⟩
    rcases fits.target with ⟨target, foundTarget, _⟩
    have first := node_of_nodesByID distinct foundSource
    have second := node_of_nodesByID distinct foundTarget
    refine ⟨List.mem_toFinset.mpr (first.2.1 ▸ List.mem_map_of_mem first.1),
      List.mem_toFinset.mpr (second.2.1 ▸ List.mem_map_of_mem second.1), ?_⟩
    dsimp only
    rw [← first.2.1, passes source first.1]
    exact isSource
  have whole : ∀ id, (wiredGraph nodes edges).network.Fed id →
      ((wiredGraph nodes edges).network.arcs.filter fun arc => arc.2 = id).length *
        (wiredGraph nodes edges).network.share id = 1 := by
    rintro id ⟨arc, listed, same⟩
    have count : ((wiredGraph nodes edges).network.arcs.filter fun arc => arc.2 = id).length =
        (wiredGraph nodes edges).pluggedInputs id := by
      rw [PowerGraph.pluggedInputs_eq (apart_wiredGraph distinct rules)]
      change (((wiredGraph nodes edges).cables.map fun edge => (edge.source, edge.target)).filter
        fun arc => arc.2 = id).length = _
      rw [List.filter_map, List.length_map]
      rfl
    have some : (wiredGraph nodes edges).pluggedInputs id ≠ 0 := by
      rw [← count]
      exact List.length_pos_iff_exists_mem.mpr
        ⟨arc, List.mem_filter.mpr ⟨listed, decide_eq_true same⟩⟩ |>.ne'
    rw [count]
    exact mul_one_div_cancel (Nat.cast_ne_zero.mpr some)
  have conserved := balanced.conserved (fun arc listed => (ends arc listed).1)
    (fun arc listed => (ends arc listed).2.1) (fun arc listed => (ends arc listed).2.2) whole
  have unfed : ∀ id, ((wiredGraph nodes edges).network.passes id = true ∧
      ¬isFed edges id = true) ↔
        ((wiredGraph nodes edges).network.passes id && !isFed edges id) = true := by
    intro id
    rw [Bool.and_eq_true, Bool.not_eq_true, Bool.not_eq_true']
  simp only [fed_iff distinct rules] at conserved
  simp only [unfed] at conserved
  rw [sum_ids distinct, sum_ids distinct] at conserved
  have left : nodes.filter (fun node =>
      (wiredGraph nodes edges).network.passes node.id && !isFed edges node.id) =
        nodes.filter fun node => isPowerSource node.type && !isFed edges node.id :=
    List.filter_congr fun node listed => by rw [passes node listed]
  rw [left] at conserved
  refine conserved.trans (congrArg List.sum (List.map_congr_left fun node kept => ?_))
  exact draw node (List.mem_filter.mp kept).1

/-- A server with one supply on a UPS and one on the PDU behind it. -/
def serverOnTwoFeeds : List NodeDTO :=
  [{ id := "wall", type := "power_outlet", name := "wall" },
    { id := "ups", type := "ups", name := "ups", powerDraw := 10 },
    { id := "pdu", type := "pdu", name := "pdu" },
    { id := "host", type := "server", name := "host", powerDraw := 90,
      details := [("psu_count", .num 2)] }]

def twoFeeds : List EdgeDTO :=
  [{ source := "wall", sourceHandle := "pwr-out-0", target := "ups", targetHandle := "pwr-in-0",
     type := "power" },
    { source := "ups", sourceHandle := "pwr-out-0", target := "pdu", targetHandle := "pwr-in-0",
      type := "power" },
    { source := "ups", sourceHandle := "pwr-out-1", target := "host", targetHandle := "pwr-in-0",
      type := "power" },
    { source := "pdu", sourceHandle := "pwr-out-0", target := "host", targetHandle := "pwr-in-1",
      type := "power" }]

/-- Of a build that passes validation a device is warned about exactly when the outage of one
source or one circuit can take the power of two of its supplies. -/
theorem sharedDependency_silent_iff (distinct : (nodes.map NodeDTO.id).Nodup)
    (silent : edgeIssues floats nodes edges = [])
    (plain : ∀ node ∈ nodes, cutPrefix "circuit:" node.id = none) (formatFloat : Rat → String)
    (id name : String) :
    (wiredGraph nodes edges).sharedDependency formatFloat id name = none ↔
      ∀ left ∈ (wiredGraph nodes edges).feeds id, ∀ right ∈ (wiredGraph nodes edges).feeds id,
        ∀ outage, (wiredGraph nodes edges).Cuts formatFloat outage left →
          (wiredGraph nodes edges).Cuts formatFloat outage right → left.input = right.input := by
  have rules := (rules_of_edgeIssues_eq_nil silent).2
  have apart := apart_wiredGraph distinct rules
  have plainIDs : (wiredGraph nodes edges).PlainIDs := by
    intro node listed
    rcases List.mem_map.mp listed with ⟨original, member, rfl⟩
    exact plain original member
  have inputs := ((wiredGraph nodes edges).inputs_perm id).nodup_iff.mpr (apart id)
  have joined : (wiredGraph nodes edges).Joined := PowerGraph.joined_newPowerGraph _ _
  rw [PowerGraph.sharedDependency_eq_none formatFloat joined apart plainIDs]
  constructor
  · intro safe left inLeft right inRight outage cutLeft cutRight
    by_contra different
    have symmetric : Std.Symm fun left right => ∀ outage,
        ¬((wiredGraph nodes edges).Cuts formatFloat outage left ∧
          (wiredGraph nodes edges).Cuts formatFloat outage right) :=
      ⟨fun _ _ apart outage both => apart outage ⟨both.2, both.1⟩⟩
    exact safe.forall inLeft inRight (fun same => different (congrArg Feed.input same)) outage
      ⟨cutLeft, cutRight⟩
  · intro safe
    refine (List.Nodup.of_map _ inputs).pairwise_of_forall_ne ?_
    intro left inLeft right inRight different outage both
    have same := safe left inLeft right inRight outage both.1 both.2
    exact different (List.inj_on_of_nodup_map inputs inLeft inRight same)

theorem sharedDependency_silent_iff_serverOnTwoFeeds :
    (wiredGraph serverOnTwoFeeds twoFeeds).sharedDependency (fun _ => "") "host" "host" = none ↔
      ∀ left ∈ (wiredGraph serverOnTwoFeeds twoFeeds).feeds "host",
        ∀ right ∈ (wiredGraph serverOnTwoFeeds twoFeeds).feeds "host",
          ∀ outage, (wiredGraph serverOnTwoFeeds twoFeeds).Cuts (fun _ => "") outage left →
            (wiredGraph serverOnTwoFeeds twoFeeds).Cuts (fun _ => "") outage right →
              left.input = right.input :=
  @sharedDependency_silent_iff ⟨fun _ => none, fun _ => 0⟩ serverOnTwoFeeds twoFeeds
    (by decide) (by decide) (by decide) (fun _ => "") "host" "host"

end HomelabBuilder.Services
