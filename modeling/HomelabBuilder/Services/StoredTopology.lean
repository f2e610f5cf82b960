import HomelabBuilder.Foundation.Keyed
import HomelabBuilder.Services.LegacyPowerCables
import HomelabBuilder.Services.PowerRules

/-! # Power cables of a stored topology

The rules of the save validation, read on rows: which socket and which power
input a cable takes, and which node feeds which.
-/

namespace HomelabBuilder.Services

open Wiring

/-- The rows of one build. Ids are primary keys, a save refuses a cable without
both its nodes, and details are written from a map. -/
structure StoredTopology where
  nodes : List NodeRow
  edges : List EdgeRow
  nodeIDs : (nodes.map NodeRow.id).Nodup
  edgeIDs : (edges.map EdgeRow.id).Nodup
  joined : ∀ edge ∈ edges, (∃ node ∈ nodes, node.id = edge.sourceNodeID) ∧
    ∃ node ∈ nodes, node.id = edge.targetNodeID
  readable : ∀ node ∈ nodes, (detailsMap node.details).isSome

/-- Nodes as a save reads them; guests and components play no part in wiring. -/
def inputNodes (nodes : List NodeRow) : List NodeDTO :=
  nodes.map fun node => node.toDTO node.knownDetails [] []

def inputEdges (edges : List EdgeRow) : List EdgeDTO := edges.map EdgeRow.toDTO

namespace EdgeRow

def isPower (edge : EdgeRow) : Bool := edge.type = edgeTypePower

def socketIndex (edge : EdgeRow) : Int := powerHandleIndex edge.sourceHandle powerOutPrefix

def inputIndex (edge : EdgeRow) : Int := powerHandleIndex edge.targetHandle powerInPrefix

/-- The socket a power cable is plugged into. -/
def socket (edge : EdgeRow) : UUID × Int := (edge.sourceNodeID, edge.socketIndex)

def input (edge : EdgeRow) : UUID × Int := (edge.targetNodeID, edge.inputIndex)

def ends (edge : EdgeRow) : UUID × UUID := (edge.sourceNodeID, edge.targetNodeID)

end EdgeRow

/-- A power cable sits on a socket and a power input its devices have. -/
structure Plugged (floats : Floats) (nodes : List NodeRow) (sockets : NodeRow → Int)
    (edge : EdgeRow) : Prop where
  power : edge.isPower = true
  feeder : ∃ node ∈ nodes, node.id = edge.sourceNodeID ∧ isPowerSource node.type = true ∧
    0 ≤ edge.socketIndex ∧ edge.socketIndex < sockets node
  fed : ∃ node ∈ nodes, node.id = edge.targetNodeID ∧ 0 ≤ edge.inputIndex ∧
    edge.inputIndex < node.inputs floats
  apart : edge.sourceNodeID ≠ edge.targetNodeID

/-- Power cables that do not get into each other's way, on nodes with these
many sockets. -/
structure Wired (floats : Floats) (nodes : List NodeRow) (sockets : NodeRow → Int)
    (cables : List EdgeRow) : Prop where
  plugged : ∀ edge ∈ cables, Plugged floats nodes sockets edge
  sockets : (cables.map EdgeRow.socket).Nodup
  inputs : (cables.map EdgeRow.input).Nodup
  acyclic : Arcs.Acyclic (cables.map EdgeRow.ends)

theorem UUID.length_text (id : UUID) : id.text.toList.length = 36 := by
  have canonical := id.canonical
  simp only [isCanonicalUUID, Bool.and_eq_true, decide_eq_true_eq] at canonical
  exact canonical.1

theorem length_inputNodes {nodes : List NodeRow} {dto : NodeDTO} (member : dto ∈ inputNodes nodes) :
    dto.id.toList.length = 36 := by
  rcases List.mem_map.mp member with ⟨node, _, rfl⟩
  exact node.id.length_text

theorem nodesByID_inputNodes {nodes : List NodeRow} {id : UUID} {dto : NodeDTO}
    (found : nodesByID (inputNodes nodes) id.text = some dto) :
    ∃ node ∈ nodes, node.id = id ∧ dto = node.toDTO node.knownDetails [] [] := by
  rcases id_of_nodesByID found with ⟨member, sameID⟩
  rcases List.mem_map.mp member with ⟨node, stored, rfl⟩
  exact ⟨node, stored, UUID.text_inj.mp sameID, rfl⟩

theorem trimSpace_text_ne_empty (id : UUID) : trimSpace id.text ≠ "" := by
  have canonical := id.canonical
  have length := id.length_text
  simp only [isCanonicalUUID, Bool.and_eq_true, List.all_eq_true] at canonical
  -- No character of an id is blank, so none is trimmed.
  have solid : ∀ char ∈ id.text.toList, isSpace char = false := by
    intro char member
    rcases List.getElem?_of_mem member with ⟨index, located⟩
    have spelled := canonical.2 (char, index) (List.mem_zipIdx_iff_getElem?.mpr located)
    dsimp only at spelled
    split at spelled
    · rw [of_decide_eq_true spelled]
      decide
    · have digit : 0x30 ≤ char.toNat ∧ char.toNat ≤ 0x66 := by
        have listed := of_decide_eq_true spelled
        simp only [String.reduceToList, List.mem_cons, List.not_mem_nil, or_false] at listed
        rcases listed with rfl | rfl | rfl | rfl | rfl | rfl | rfl | rfl | rfl | rfl | rfl | rfl |
          rfl | rfl | rfl | rfl <;> decide
      exact isSpace_eq_false (by omega) (by omega)
  intro empty
  have text := congrArg String.toList empty
  have kept : ∀ {text : List Char}, (∀ char ∈ text, isSpace char = false) →
      text.dropWhile isSpace = text := by
    intro text solid
    cases text with
    | nil => rfl
    | cons char rest => rw [List.dropWhile_cons_of_neg (by simp [solid char List.mem_cons_self])]
  rw [trimSpace, kept solid,
    kept (fun char member => solid char (List.mem_reverse.mp member)), List.reverse_reverse] at text
  simp only [String.toList_ofList] at text
  rw [text] at length
  cases length

theorem nodesByID_of_mem {nodes : List NodeRow} (distinct : (nodes.map NodeRow.id).Nodup)
    {node : NodeRow} (member : node ∈ nodes) :
    nodesByID (inputNodes nodes) node.id.text =
      some (node.toDTO node.knownDetails [] []) := by
  rw [nodesByID, if_neg (trimSpace_text_ne_empty node.id)]
  apply Keyed.find?_of_unique (List.mem_map_of_mem member)
  · exact decide_eq_true rfl
  · intro other listed same
    rcases List.mem_map.mp listed with ⟨row, stored, rfl⟩
    have sameID : row.id = node.id := UUID.text_inj.mp (of_decide_eq_true same)
    rw [Keyed.eq_of_key_eq distinct stored member sameID]

/-! ## Rows and rules -/

section

variable {floats : Floats} {nodes : List NodeRow}

theorem wired_of_powerRules {cables : List EdgeRow} (power : ∀ edge ∈ cables, edge.isPower)
    (rules : PowerRules floats (inputNodes nodes) (inputEdges cables)) :
    Wired floats nodes (NodeRow.outlets floats) cables := by
  have all : (inputEdges cables).filter EdgeDTO.isPower = inputEdges cables := by
    apply List.filter_eq_self.mpr
    intro dto member
    rcases List.mem_map.mp member with ⟨edge, stored, rfl⟩
    exact power edge stored
  have plugged : ∀ edge ∈ cables, Plugged floats nodes (NodeRow.outlets floats) edge := by
    intro edge member
    have fits := rules.fits edge.toDTO (List.mem_map_of_mem member) (power edge member)
    rcases fits.source with ⟨source, hasSource, isSource, low, high⟩
    rcases fits.target with ⟨target, hasTarget, inputLow, inputHigh⟩
    rcases nodesByID_inputNodes hasSource with ⟨feeder, feederStored, feederID, rfl⟩
    rcases nodesByID_inputNodes hasTarget with ⟨fed, fedStored, fedID, rfl⟩
    exact ⟨power edge member, ⟨feeder, feederStored, feederID, isSource, low, high⟩,
      ⟨fed, fedStored, fedID, inputLow, inputHigh⟩, fun same => fits.apart (by
        simp only [EdgeRow.toDTO, same])⟩
  have ports := rules.ports
  rw [all, inputEdges, List.flatMap_map] at ports
  have apart := (List.nodup_flatMap.mp ports).2
  refine ⟨plugged, ?_, ?_, ?_⟩
  · apply List.pairwise_map.mpr
    apply apart.imp_of_mem
    intro left right leftMember _ disjoint same
    rcases (plugged left leftMember).feeder with ⟨_, _, _, _, low, _⟩
    rcases Int.eq_ofNat_of_zero_le low with ⟨index, isIndex⟩
    have ids : left.sourceNodeID = right.sourceNodeID := congrArg Prod.fst same
    have indices : left.socketIndex = right.socketIndex := congrArg Prod.snd same
    have handles : left.sourceHandle = right.sourceHandle :=
      eq_of_powerHandleIndex_eq isIndex (indices.symm.trans isIndex)
    apply @disjoint (EdgeScan.portKey left.sourceNodeID.text left.sourceHandle)
    · exact List.mem_cons_self
    · rw [ids, handles]
      exact List.mem_cons_self
  · apply List.pairwise_map.mpr
    apply apart.imp_of_mem
    intro left right leftMember _ disjoint same
    rcases (plugged left leftMember).fed with ⟨_, _, _, low, _⟩
    rcases Int.eq_ofNat_of_zero_le low with ⟨index, isIndex⟩
    have ids : left.targetNodeID = right.targetNodeID := congrArg Prod.fst same
    have indices : left.inputIndex = right.inputIndex := congrArg Prod.snd same
    have handles : left.targetHandle = right.targetHandle :=
      eq_of_powerHandleIndex_eq isIndex (indices.symm.trans isIndex)
    apply @disjoint (EdgeScan.portKey left.targetNodeID.text left.targetHandle)
    · exact List.mem_cons_of_mem _ List.mem_cons_self
    · rw [ids, handles]
      exact List.mem_cons_of_mem _ List.mem_cons_self
  · intro id cycle
    apply rules.acyclic id.text
    rw [powerArcs, all, inputEdges, List.map_map]
    apply cycle.lift
    intro left right arc
    rcases List.mem_map.mp arc with ⟨edge, stored, same⟩
    cases same
    exact List.mem_map_of_mem stored

theorem not_socket_and_input {handle : String} (socket : 0 ≤ powerHandleIndex handle powerOutPrefix)
    (input : 0 ≤ powerHandleIndex handle powerInPrefix) : False := by
  unfold powerHandleIndex at socket input
  split at socket
  · rename_i rest foundOut
    split at input
    · rename_i more foundIn
      have spelled := (eq_append_of_cutPrefix foundOut).symm.trans (eq_append_of_cutPrefix foundIn)
      have lists := congrArg String.toList spelled
      rw [String.toList_append, String.toList_append] at lists
      simp [powerOutPrefix, powerInPrefix] at lists
    · omega
  · omega

theorem powerRules_of_wired {edges : List EdgeRow} (distinct : (nodes.map NodeRow.id).Nodup)
    (wired : Wired floats nodes (NodeRow.outlets floats) (edges.filter EdgeRow.isPower)) :
    PowerRules floats (inputNodes nodes) (inputEdges edges) := by
  have power : (inputEdges edges).filter EdgeDTO.isPower =
      inputEdges (edges.filter EdgeRow.isPower) := by
    rw [inputEdges, List.filter_map]
    rfl
  refine ⟨?_, ?_, ?_⟩
  · intro dto member isPower
    rcases List.mem_map.mp member with ⟨edge, stored, rfl⟩
    have plugged := wired.plugged edge (List.mem_filter.mpr ⟨stored, isPower⟩)
    rcases plugged.feeder with ⟨feeder, feederStored, feederID, isSource, low, high⟩
    rcases plugged.fed with ⟨fed, fedStored, fedID, inputLow, inputHigh⟩
    refine ⟨⟨feeder.toDTO feeder.knownDetails [] [], ?_, isSource, low, high⟩,
      ⟨fed.toDTO fed.knownDetails [] [], ?_, inputLow, inputHigh⟩, ?_⟩
    · rw [EdgeRow.toDTO, ← feederID]
      exact nodesByID_of_mem distinct feederStored
    · rw [EdgeRow.toDTO, ← fedID]
      exact nodesByID_of_mem distinct fedStored
    · exact fun same => plugged.apart (UUID.text_inj.mp same)
  · rw [power, inputEdges, List.flatMap_map]
    have ids : ∀ left right : UUID, left.text.toList.length = right.text.toList.length :=
      fun left right => left.length_text.trans right.length_text.symm
    apply List.nodup_flatMap.mpr
    constructor
    · intro edge member
      simp only [EdgeDTO.portKeys, List.nodup_cons, List.mem_singleton, List.not_mem_nil,
        not_false_eq_true, List.nodup_nil, and_true]
      intro same
      exact (wired.plugged edge member).apart
        (UUID.text_inj.mp (EdgeScan.portKey_inj (ids _ _) same).1)
    · have sockets := List.pairwise_map.mp wired.sockets
      have inputs := List.pairwise_map.mp wired.inputs
      apply (sockets.and inputs).imp_of_mem
      intro left right leftMember rightMember apart port inLeft inRight
      rcases (wired.plugged left leftMember).feeder with ⟨_, _, _, _, leftSocket, _⟩
      rcases (wired.plugged left leftMember).fed with ⟨_, _, _, leftInput, _⟩
      rcases (wired.plugged right rightMember).feeder with ⟨_, _, _, _, rightSocket, _⟩
      rcases (wired.plugged right rightMember).fed with ⟨_, _, _, rightInput, _⟩
      simp only [EdgeDTO.portKeys, EdgeRow.toDTO, List.mem_cons, List.not_mem_nil,
        or_false] at inLeft inRight
      rcases inLeft with rfl | rfl
      · rcases inRight with same | same
        · rcases EdgeScan.portKey_inj (ids _ _) same with ⟨sameID, sameHandle⟩
          apply apart.1
          rw [EdgeRow.socket, EdgeRow.socket, UUID.text_inj.mp sameID, EdgeRow.socketIndex,
            EdgeRow.socketIndex, sameHandle]
        · have sameHandle := (EdgeScan.portKey_inj (ids _ _) same).2
          rw [EdgeRow.socketIndex, sameHandle] at leftSocket
          exact not_socket_and_input leftSocket rightInput
      · rcases inRight with same | same
        · have sameHandle := (EdgeScan.portKey_inj (ids _ _) same).2
          rw [EdgeRow.inputIndex, sameHandle] at leftInput
          exact not_socket_and_input rightSocket leftInput
        · rcases EdgeScan.portKey_inj (ids _ _) same with ⟨sameID, sameHandle⟩
          apply apart.2
          rw [EdgeRow.input, EdgeRow.input, UUID.text_inj.mp sameID, EdgeRow.inputIndex,
            EdgeRow.inputIndex, sameHandle]
  · have text : Function.Injective UUID.text := fun _ _ same => UUID.text_inj.mp same
    have renamed := wired.acyclic.map text
    rw [List.map_map] at renamed
    rw [powerArcs, power, inputEdges, List.map_map]
    exact renamed

end

end HomelabBuilder.Services
