import Mathlib.Algebra.Order.Floor.Ring
import Mathlib.Data.Rat.Floor
import HomelabBuilder.Foundation.Extremes
import HomelabBuilder.Services.ValidationOrder
import HomelabBuilder.Topology.Batch
import HomelabBuilder.Topology.Layout

/-! # Room on the canvas

Placing puts the devices that wait on the grid, each where it covers nothing that
already stands there.
-/

namespace HomelabBuilder.Topology

open Services Wiring

/-! ## The grid -/

structure OnGrid (node : NodeDTO) : Prop where
  x : ∃ column : Int, node.x = column * layoutGrid
  y : ∃ row : Int, node.y = row * layoutGrid

theorem sub_half_le_mathRound (value : Rat) : value - 1 / 2 ≤ mathRound value := by
  unfold mathRound
  split
  · have above : value + 1 / 2 < (value + 1 / 2).floor + 1 := Int.lt_floor_add_one (value + 1 / 2)
    linarith
  · exact Rat.le_ceil

theorem sub_ten_le_snapToGrid (value : Rat) : value - 10 ≤ snapToGrid value := by
  have rounded := sub_half_le_mathRound (value / layoutGrid)
  unfold snapToGrid
  unfold layoutGrid at rounded ⊢
  linarith

/-! ## Boxes -/

theorem LayoutBox.overlaps_comm (box other : LayoutBox) :
    box.overlaps other = other.overlaps box := by
  simp only [LayoutBox.overlaps, Bool.and_assoc]
  rw [Bool.and_left_comm, Bool.and_comm (other.y < box.y + box.h : Bool)]

theorem overlaps_eq_false_of_right {box other : LayoutBox} (right : other.x + other.w ≤ box.x) :
    box.overlaps other = false := by
  have beyond : ¬ box.x < other.x + other.w := not_lt.mpr right
  simp [LayoutBox.overlaps, beyond]

theorem right_of_lastResort {boxes : List LayoutBox} {box : LayoutBox} (member : box ∈ boxes) :
    box.x + box.w ≤ snapToGrid (lastResort boxes).1 := by
  have listed : box.x + box.w ∈ boxes.map fun box => box.x + box.w :=
    List.mem_map_of_mem member
  have reached := ((Extremes.foldl_max_le_iff (boxes.map fun box => box.x + box.w)
    ((boxes.map fun box => box.x + box.w).headD layoutOriginX) _).mp le_rfl).2 _ listed
  have snapped := sub_ten_le_snapToGrid (lastResort boxes).1
  unfold lastResort at snapped ⊢
  dsimp only at snapped ⊢
  linarith

/-! ## One device -/

section

variable {floats : Floats} {nodes : List NodeDTO} {edges : List EdgeDTO} {waiting : List String}

/-- A device that already has its place on the canvas. -/
def Stands (waiting : List String) (node : NodeDTO) : Prop :=
  node.id ∉ waiting ∧ node.parentID = none

theorem onGrid_placeNode (node : NodeDTO) : OnGrid (placeNode floats nodes edges waiting node) :=
  ⟨⟨_, rfl⟩, ⟨_, rfl⟩⟩

theorem placeNode_apart (node : NodeDTO) {other : NodeDTO} (member : other ∈ nodes)
    (stands : Stands waiting other) :
    (nodeBox floats (placeNode floats nodes edges waiting node)).overlaps (nodeBox floats other) =
      false := by
  let boxes := (nodes.filter fun other => other.id ∉ waiting && other.parentID.isNone).map
    (nodeBox floats)
  have listed : nodeBox floats other ∈ boxes := by
    apply List.mem_map_of_mem
    rw [List.mem_filter, stands.2, decide_eq_true stands.1]
    exact ⟨member, rfl⟩
  let size := nodeBox floats node
  let free := fun place : Rat × Rat =>
    boxes.all fun box =>
      !(LayoutBox.mk (snapToGrid place.1) (snapToGrid place.2) size.w size.h).overlaps box
  let place := ((candidates nodes boxes node (anchorFor nodes edges waiting node.id)).find?
    free).getD (lastResort boxes)
  have sized : nodeBox floats (placeNode floats nodes edges waiting node) =
      ⟨snapToGrid place.1, snapToGrid place.2, size.w, size.h⟩ := by
    simp only [size, nodeBox]
    show (if node.type = "rack" then _ else _) = _
    split <;> rfl
  rw [sized]
  cases found : (candidates nodes boxes node (anchorFor nodes edges waiting node.id)).find? free with
  | none =>
      have isLast : place = lastResort boxes := by
        simp only [place, found, Option.getD_none]
      apply overlaps_eq_false_of_right
      rw [isLast]
      exact right_of_lastResort listed
  | some chosen =>
      have isChosen : place = chosen := by
        simp only [place, found, Option.getD_some]
      have fits : free chosen = true := List.find?_some found
      rw [isChosen]
      have apart := List.all_eq_true.mp fits _ listed
      rwa [Bool.not_eq_true'] at apart

/-! ## All devices -/

theorem modifyLast_eq_map {id : String} {change : NodeDTO → NodeDTO}
    (distinct : (nodes.map NodeDTO.id).Nodup) :
    modifyLast nodes id change =
      nodes.map fun node => if node.id = id then change node else node := by
  unfold modifyLast
  split
  · rename_i absent
    have others := List.findIdx?_eq_none_iff.mp absent
    symm
    rw [List.map_congr_left (g := fun node => node), List.map_id']
    intro node member
    have differs := others node (List.mem_reverse.mpr member)
    rw [if_neg (of_decide_eq_false differs)]
  · rename_i index found
    rcases List.findIdx?_eq_some_iff_getElem.mp found with ⟨small, fits, _⟩
    rw [List.length_reverse] at small
    rw [List.getElem_reverse, decide_eq_true_eq] at fits
    apply List.ext_getElem
    · rw [List.length_modify, List.length_map]
    · intro place inModified inMapped
      rw [List.length_map] at inMapped
      rw [List.getElem_modify, List.getElem_map]
      by_cases here : nodes.length - 1 - index = place
      · subst here
        rw [if_pos rfl, if_pos fits]
      · rw [if_neg here, if_neg]
        intro same
        apply here
        have first : nodes.length - 1 - index < (nodes.map NodeDTO.id).length := by
          rw [List.length_map]
          omega
        have second : place < (nodes.map NodeDTO.id).length := by rwa [List.length_map]
        have sameID : (nodes.map NodeDTO.id)[nodes.length - 1 - index] =
            (nodes.map NodeDTO.id)[place] := by
          rw [List.getElem_map, List.getElem_map, fits, same]
        exact distinct.getElem_inj_iff.mp sameID

/-- The devices that were asked for and have their place cover nothing that
stands. -/
def PlacedApart (floats : Floats) (asked waiting : List String) (nodes : List NodeDTO) : Prop :=
  ∀ node ∈ nodes, node.id ∈ asked → Stands waiting node →
    OnGrid node ∧ ∀ other ∈ nodes, Stands waiting other → other.id ≠ node.id →
      (nodeBox floats node).overlaps (nodeBox floats other) = false

/-- What holds between two rounds: the ids, who waits, and who has its place. -/
structure Placing (floats : Floats) (asked waiting remaining : List String)
    (nodes : List NodeDTO) : Prop where
  distinct : (nodes.map NodeDTO.id).Nodup
  waits : ∀ node ∈ nodes, node.id ∈ waiting → node.id ∈ remaining
  apart : PlacedApart floats asked waiting nodes

theorem mem_still {id : String} {node : NodeDTO} (member : node ∈ nodes) :
    node.id ∈ (if (lastOf nodes id).isSome then waiting.filter (· ≠ id) else waiting) ↔
      node.id ∈ waiting ∧ node.id ≠ id := by
  split
  · rw [List.mem_filter, decide_eq_true_eq]
  · rename_i absent
    have nobody : lastOf nodes id = none := Option.not_isSome_iff_eq_none.mp absent
    have differs := List.find?_eq_none.mp nobody node (List.mem_reverse.mpr member)
    rw [decide_eq_true_eq] at differs
    exact ⟨fun waits => ⟨waits, differs⟩, And.left⟩

theorem Placing.round {asked remaining : List String}
    (placing : Placing floats asked waiting remaining nodes) (edges : List EdgeDTO)
    (id : String) :
    Placing floats asked
      (if (lastOf nodes id).isSome then waiting.filter (· ≠ id) else waiting)
      (remaining.erase id) (modifyLast nodes id (placeNode floats nodes edges waiting)) := by
  let place := placeNode floats nodes edges waiting
  let settle := fun node : NodeDTO => if node.id = id then place node else node
  have sameID (node : NodeDTO) : (settle node).id = node.id := by
    simp only [settle]
    split <;> rfl
  have sameParent (node : NodeDTO) : (settle node).parentID = node.parentID := by
    simp only [settle]
    split <;> rfl
  have stood {node : NodeDTO} (member : node ∈ nodes) (other : node.id ≠ id)
      (stands : Stands (if (lastOf nodes id).isSome then waiting.filter (· ≠ id) else waiting)
        (settle node)) : Stands waiting node := by
    constructor
    · intro waits
      exact stands.1 (sameID node ▸ (mem_still member).mpr ⟨waits, other⟩)
    · rw [← sameParent node]
      exact stands.2
  rw [modifyLast_eq_map placing.distinct]
  change Placing floats asked _ _ (nodes.map settle)
  constructor
  · rw [List.map_map]
    have same : nodes.map (NodeDTO.id ∘ settle) = nodes.map NodeDTO.id :=
      List.map_congr_left fun node _ => sameID node
    rw [same]
    exact placing.distinct
  · intro _ placed waits
    rcases List.mem_map.mp placed with ⟨node, member, rfl⟩
    rw [sameID] at waits ⊢
    rcases (mem_still member).mp waits with ⟨waited, other⟩
    exact (List.mem_erase_of_ne other).mpr (placing.waits node member waited)
  · intro _ placed wanted stands
    rcases List.mem_map.mp placed with ⟨node, member, rfl⟩
    by_cases here : node.id = id
    · have isPlaced : settle node = place node := if_pos here
      rw [isPlaced]
      refine ⟨onGrid_placeNode node, ?_⟩
      intro _ otherPlaced otherStands apart
      rcases List.mem_map.mp otherPlaced with ⟨other, otherMember, rfl⟩
      have elsewhere : other.id ≠ id := by
        rw [sameID] at apart
        exact fun same => apart (same.trans here.symm)
      have isOther : settle other = other := if_neg elsewhere
      rw [isOther]
      exact placeNode_apart node otherMember (stood otherMember elsewhere otherStands)
    · have isNode : settle node = node := if_neg here
      have nodeStands := stood member here stands
      rw [isNode] at wanted ⊢
      rcases placing.apart node member wanted nodeStands with ⟨onGrid, apart⟩
      refine ⟨onGrid, ?_⟩
      intro _ otherPlaced otherStands differs
      rcases List.mem_map.mp otherPlaced with ⟨other, otherMember, rfl⟩
      rw [sameID] at differs
      by_cases there : other.id = id
      · -- The other device is the one this round places.
        have isPlaced : settle other = place other := if_pos there
        rw [isPlaced, LayoutBox.overlaps_comm]
        exact placeNode_apart other member nodeStands
      · have isOther : settle other = other := if_neg there
        rw [isOther]
        exact apart other otherMember (stood otherMember there otherStands) differs

/-- With a round for every device that waits, placing ends with nobody waiting,
and more rounds change nothing. -/
theorem placeNodes_spec {asked : List String} (edges : List EdgeDTO) : ∀ (fuel : Nat)
    {nodes : List NodeDTO} {waiting remaining : List String},
      Placing floats asked waiting remaining nodes →
    remaining.length ≤ fuel →
    (∀ more, remaining.length ≤ more → placeNodes floats edges more nodes waiting remaining =
      placeNodes floats edges fuel nodes waiting remaining) ∧
    ∃ waited, Placing floats asked waited []
      (placeNodes floats edges fuel nodes waiting remaining) := by
  intro fuel
  induction fuel with
  | zero =>
      intro nodes waiting remaining placing enough
      have none : remaining = [] := List.eq_nil_of_length_eq_zero (Nat.le_zero.mp enough)
      subst none
      refine ⟨?_, waiting, placing⟩
      intro more _
      cases more <;> rfl
  | succ fuel induction =>
      intro nodes waiting remaining placing enough
      cases remaining with
      | nil =>
          refine ⟨?_, waiting, placing⟩
          intro more _
          cases more <;> rfl
      | cons first rest =>
          generalize chosen : ((first :: rest).find? fun id =>
            (anchorFor nodes edges waiting id).isSome).getD first = id
          have member : id ∈ first :: rest := chosen ▸ mem_picked _
          have shorter : ((first :: rest).erase id).length = rest.length := by
            rw [List.length_erase_of_mem member, List.length_cons, Nat.add_sub_cancel]
          have next := induction (placing.round edges id)
            (by rw [shorter]; exact Nat.le_of_succ_le_succ enough)
          rw [placeNodes, chosen]
          refine ⟨?_, next.2⟩
          intro more many
          cases more with
          | zero => exact absurd many (Nat.not_succ_le_zero _)
          | succ more =>
              rw [placeNodes, chosen]
              apply next.1
              rw [shorter]
              exact Nat.le_of_succ_le_succ many

end

theorem distinct_of_graphIssues {runtime : Runtime} {nodes : List NodeDTO} {edges : List EdgeDTO}
    (clean : graphIssues runtime nodes edges = []) : (nodes.map NodeDTO.id).Nodup := by
  have silent := List.map_eq_nil_iff.mp (List.append_eq_nil_iff.mp clean).1
  exact (nodeIssues_eq_nil_iff.mp (List.append_eq_nil_iff.mp silent).1).2.1

/-- An accepted batch places the devices that wait, and only those: on the grid
and off every other device that is mounted nowhere. -/
theorem placed_apart {env : Env} {base : SyncGraphInput} {ops : List TopologyOp}
    {applied : AppliedTopology} (done : applyTopologyOps env base ops = .ok applied) :
    ∃ final, applyFrom env (.opening base) 0 ops = .ok (final, applied.resolved) ∧
      (∀ rounds, final.pending.length ≤ rounds →
        placeNodes env.floats final.graph.edges rounds final.graph.nodes final.pending
          final.pending = applied.input.nodes) ∧
      List.Forall₂ (fun before after => after = { before with x := after.x, y := after.y } ∧
        (before.id ∉ final.pending → after = before)) final.graph.nodes applied.input.nodes ∧
      ∀ node ∈ applied.input.nodes, node.id ∈ final.pending → node.parentID = none →
        OnGrid node ∧ ∀ other ∈ applied.input.nodes, other.parentID = none →
          other.id ≠ node.id →
          (nodeBox env.floats node).overlaps (nodeBox env.floats other) = false := by
  rcases applyTopologyOps_eq_ok done with ⟨final, walked, isPlaced, _, clean⟩
  have nodes : applied.input.nodes = placeNodes env.floats final.graph.edges final.pending.length
      final.graph.nodes final.pending final.pending := by rw [isPlaced]; rfl
  have moved := placedFrom_placeNodes env.floats final.graph.edges final.pending.length
    final.graph.nodes final.pending final.pending (List.Subset.refl final.pending)
  have distinct := distinct_of_graphIssues clean
  rw [nodes, moved.map_id] at distinct
  have opening : Placing env.floats final.pending final.pending final.pending
      final.graph.nodes :=
    ⟨distinct, fun _ _ => id, fun _ _ wanted stands => absurd wanted stands.1⟩
  rcases placeNodes_spec final.graph.edges final.pending.length opening
    (Nat.le_refl _) with ⟨settled, waited, placing⟩
  rw [← nodes] at settled moved placing
  refine ⟨final, walked, settled, ?_, ?_⟩
  · apply List.forall₂_iff_get.mpr
    refine ⟨moved.length.symm, ?_⟩
    intro index inBefore inAfter
    rcases moved.moved index _ (List.getElem?_eq_getElem inAfter) with ⟨was, located, isMoved⟩
    rw [List.getElem?_eq_getElem inBefore] at located
    cases located
    exact ⟨isMoved.same, isMoved.still⟩
  · have nobody : ∀ node ∈ applied.input.nodes, node.id ∉ waited :=
      fun node member waits => List.not_mem_nil (placing.waits node member waits)
    intro node member wanted free
    rcases placing.apart node member wanted ⟨nobody node member, free⟩ with ⟨onGrid, apart⟩
    refine ⟨onGrid, ?_⟩
    intro other otherMember otherFree differs
    exact apart other otherMember ⟨nobody other otherMember, otherFree⟩ differs

/-- A switch and a rack that come without a place. -/
def unplacedPair : List TopologyOp :=
  [{ op := "add_node", type := "switch" }, { op := "add_node", type := "rack" }]

theorem placed_apart_pair :
    ∃ (applied : AppliedTopology) (final : Editor),
      applyTopologyOps Env.plain { name := "Office" } unplacedPair = .ok applied ∧
      final.pending.length = 2 ∧
      ∃ switch ∈ applied.input.nodes, ∃ rack ∈ applied.input.nodes,
        switch.type = "switch" ∧ rack.type = "rack" ∧ OnGrid switch ∧ OnGrid rack ∧
        (nodeBox Env.plain.floats switch).overlaps (nodeBox Env.plain.floats rack) = false := by
  have accepted : (applyTopologyOps Env.plain { name := "Office" } unplacedPair).toOption.map
      (fun applied => decide (∃ switch ∈ applied.input.nodes, ∃ rack ∈ applied.input.nodes,
        (switch.type = "switch" ∧ switch.parentID = none ∧
          switch.id = (Env.plain.newID 0).text) ∧
        rack.type = "rack" ∧ rack.parentID = none ∧ rack.id = (Env.plain.newID 1).text)) =
      some true := by
    decide
  have waits : (applyFrom Env.plain (.opening { name := "Office" }) 0 unplacedPair).toOption.map
      (fun walked => walked.1.pending) =
        some [(Env.plain.newID 0).text, (Env.plain.newID 1).text] := by
    decide
  have differ : (Env.plain.newID 1).text ≠ (Env.plain.newID 0).text := by decide
  rcases Option.map_eq_some_iff.mp accepted with ⟨applied, done, both⟩
  have done := toOption_eq_some.mp done
  rcases placed_apart done with ⟨final, walked, _, _, apart⟩
  rw [walked] at waits
  have pending : final.pending = [(Env.plain.newID 0).text, (Env.plain.newID 1).text] :=
    Option.some.inj waits
  rcases of_decide_eq_true both with ⟨switch, switchIn, rack, rackIn,
    ⟨isSwitch, switchFree, switchID⟩, isRack, rackFree, rackID⟩
  have switchWaits : switch.id ∈ final.pending := by
    rw [pending, switchID]
    exact List.mem_cons_self
  have rackWaits : rack.id ∈ final.pending := by
    rw [pending, rackID]
    exact List.mem_cons_of_mem _ List.mem_cons_self
  have switchPlaced := apart switch switchIn switchWaits switchFree
  exact ⟨applied, final, done, by rw [pending]; rfl, switch, switchIn, rack, rackIn, isSwitch,
    isRack, switchPlaced.1, (apart rack rackIn rackWaits rackFree).1,
    switchPlaced.2 rack rackIn rackFree (by rw [rackID, switchID]; exact differ)⟩

end HomelabBuilder.Topology
