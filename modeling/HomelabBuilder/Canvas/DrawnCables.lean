import HomelabBuilder.Canvas.Connections
import HomelabBuilder.Services.NextCable

/-! # The canvas of a graph that a save accepts

What a graph without issues says in the terms of the canvas: the types of its
devices, the handles of their cards, and which of its cables carry power.
-/

namespace HomelabBuilder.Canvas

open Services (NodeDTO EdgeDTO Runtime nodesByID nodeIssues graphIssues edgeIssues validHandles
  numbered nestedOnlyTypes connectsFreely)
open Services.EdgeScan (Ends Joins FitsNetwork checkEdge pairKey portKey keyOf)
open Wiring (powerInPrefix powerOutPrefix powerInputCount powerOutputCount isPowerSource Floats)

/-! ## Nodes of a valid graph -/

section Nodes

variable {runtime : Runtime} {nodes : List NodeDTO}

theorem nodes_of_nodeIssues : ∀ {nodes : List NodeDTO} {seen seenVMs : List String},
    nodeIssues runtime seen seenVMs nodes = [] →
    (nodes.map (·.id)).Nodup ∧ ∀ node ∈ nodes, trimSpace node.id ≠ "" ∧ node.id ∉ seen ∧
      node.type ∈ Services.knownNodeTypes
  | [], _, _, _ => ⟨List.nodup_nil, nofun⟩
  | node :: rest, seen, seenVMs, silent => by
      unfold nodeIssues at silent
      split at silent
      · cases silent
      · rename_i named
        split at silent
        · cases silent
        · rename_i new
          simp only [List.append_eq_nil_iff] at silent
          rcases silent with ⟨⟨⟨⟨known, _⟩, _⟩, _⟩, later⟩
          have isKnown : node.type ∈ Services.knownNodeTypes := by
            by_contra unknown
            rw [if_pos unknown] at known
            cases known
          rcases nodes_of_nodeIssues later with ⟨nodup, others⟩
          refine ⟨?_, ?_⟩
          · rw [List.map_cons, List.nodup_cons]
            refine ⟨?_, nodup⟩
            intro repeated
            rcases List.mem_map.mp repeated with ⟨other, member, same⟩
            exact (others other member).2.1 (same ▸ List.mem_cons_self)
          · intro other member
            rcases List.mem_cons.mp member with rfl | member
            · exact ⟨named, new, isKnown⟩
            · rcases others other member with ⟨otherNamed, otherNew, otherKnown⟩
              exact ⟨otherNamed, fun inSeen => otherNew (List.mem_cons_of_mem _ inSeen), otherKnown⟩

/-- The devices by their ids, as `checkConnection` gets them. -/
def nodeTypes (nodes : List NodeDTO) : List (String × String) :=
  nodes.map fun node => (node.id, node.type)

structure ValidNodes (nodes : List NodeDTO) : Prop where
  nodup : (nodes.map (·.id)).Nodup
  named : ∀ node ∈ nodes, trimSpace node.id ≠ ""
  known : ∀ node ∈ nodes, node.type ∈ Services.knownNodeTypes

theorem validNodes_of_graphIssues {edges : List EdgeDTO}
    (accepted : graphIssues runtime nodes edges = []) :
    ValidNodes nodes ∧ edgeIssues runtime.floats nodes edges = [] := by
  unfold graphIssues at accepted
  rcases List.append_eq_nil_iff.mp accepted with ⟨nodesFine, edgesFine⟩
  rcases List.append_eq_nil_iff.mp (List.map_eq_nil_iff.mp nodesFine) with ⟨rows, _⟩
  rcases nodes_of_nodeIssues rows with ⟨nodup, others⟩
  exact ⟨⟨nodup, fun node member => (others node member).1,
    fun node member => (others node member).2.2⟩, List.map_eq_nil_iff.mp edgesFine⟩

theorem graphIssues_eq_nil_iff {edges more : List EdgeDTO}
    (accepted : graphIssues runtime nodes edges = []) :
    graphIssues runtime nodes more = [] ↔ edgeIssues runtime.floats nodes more = [] := by
  unfold graphIssues at accepted ⊢
  rw [(List.append_eq_nil_iff.mp accepted).1, List.nil_append, List.map_eq_nil_iff]

namespace ValidNodes

variable (valid : ValidNodes nodes)

include valid

theorem nodesByID_eq {node : NodeDTO} (member : node ∈ nodes) :
    nodesByID nodes node.id = some node := by
  rw [nodesByID, if_neg (valid.named node member)]
  cases found : nodes.find? fun other => other.id = node.id with
  | none =>
      have missing := List.find?_eq_none.mp found node member
      simp at missing
  | some other =>
      have same : other.id = node.id := by simpa using List.find?_some found
      have inNodes := List.mem_of_find?_eq_some found
      rw [List.inj_on_of_nodup_map valid.nodup inNodes member same]

theorem typeOf_eq {node : NodeDTO} (member : node ∈ nodes) :
    typeOf (nodeTypes nodes) node.id = some node.type := by
  unfold nodeTypes
  have keys : ((nodes.map fun node => (node.id, node.type)).reverse.map Prod.fst).Nodup := by
    rw [List.map_reverse, List.nodup_reverse, List.map_map]
    exact valid.nodup
  have listed : (node.id, node.type) ∈ (nodes.map fun node => (node.id, node.type)).reverse :=
    List.mem_reverse.mpr (List.mem_map_of_mem member)
  have given : node.type ≠ "" := by
    intro empty
    have known := valid.known node member
    rw [empty] at known
    revert known
    decide
  rw [typeOf, Table.lookup_of_mem keys listed]
  simp [given]

end ValidNodes

end Nodes

/-! ## Handles of a card -/

/-- The handle of a network port: no power handle, and without the character that
joins keys. -/
structure NetworkHandle (handle : String) : Prop where
  given : handle ≠ ""
  plain : '\x00' ∉ handle.toList
  unpowered : Services.EdgeScan.isPowerHandle handle = false

theorem mem_numbered {start handle : String} {count : Int} (member : handle ∈ numbered start count) :
    ∃ index : Nat, (index : Int) < count ∧ handle = start ++ toString index := by
  rcases List.mem_map.mp member with ⟨index, inRange, rfl⟩
  have bound := List.mem_range.mp inRange
  exact ⟨index, by omega, rfl⟩

theorem plain_numbered {start : String} (plain : '\x00' ∉ start.toList) (index : Nat) :
    '\x00' ∉ (start ++ toString index).toList := by
  rw [String.toList_append, List.mem_append, not_or]
  refine ⟨plain, ?_⟩
  intro member
  have digits : '\x00' ∈ Nat.toDigits 10 index := by
    rw [← Nat.toList_repr]
    exact member
  have digit := Nat.isDigit_of_mem_toDigits (by decide) (by decide) digits
  revert digit
  decide

theorem networkHandle_eth (index : Nat) : NetworkHandle ("eth" ++ toString index) where
  given := by
    intro empty
    have characters := congrArg String.toList empty
    rw [String.toList_append] at characters
    simp at characters
  plain := plain_numbered (by decide) index
  unpowered := by
    rw [Services.EdgeScan.isPowerHandle, cutPrefix, String.toList_append]
    rfl

theorem handle_cases {floats : Floats} {node : NodeDTO} {handle : String}
    (member : handle ∈ validHandles floats node.type node.details) :
    (isPowerSource node.type = false ∧ NetworkHandle handle) ∨
    (∃ index : Nat, (index : Int) < powerInputCount floats node.type node.details ∧
      handle = powerInPrefix ++ toString index) ∨
    ∃ index : Nat, (index : Int) < powerOutputCount floats node.type node.details ∧
      handle = powerOutPrefix ++ toString index := by
  unfold validHandles at member
  split at member
  · cases member
  · rcases List.mem_append.mp member with member | socket
    · rcases List.mem_append.mp member with network | input
      · left
        split at network
        · cases network
        · rename_i other
          refine ⟨by simpa using other, ?_⟩
          rcases List.mem_cons.mp network with rfl | numbered
          · exact ⟨by decide, by decide, by decide⟩
          · rcases mem_numbered numbered with ⟨index, _, rfl⟩
            exact networkHandle_eth index
      · exact .inr (.inl (mem_numbered input))
    · exact .inr (.inr (mem_numbered socket))

theorem keyOf_inj {left right : String × String} (leftPlain : '\x00' ∉ left.2.toList)
    (rightPlain : '\x00' ∉ right.2.toList) (same : keyOf left = keyOf right) : left = right := by
  have lists := congrArg String.toList same
  simp only [keyOf, portKey, String.toList_append, List.append_assoc] at lists
  have joint : ("\x00" : String).toList = ['\x00'] := rfl
  rw [joint, List.singleton_append, List.singleton_append] at lists
  have alone {ids handle other : List Char} (plain : '\x00' ∉ handle)
      (split : '\x00' :: handle = ids ++ '\x00' :: other) : ids = [] := by
    cases ids with
    | nil => rfl
    | cons first rest =>
        rw [List.cons_append, List.cons.injEq] at split
        exact absurd (split.2 ▸ List.mem_append_right rest List.mem_cons_self) plain
  rcases List.append_eq_append_iff.mp lists with ⟨more, ids, rest⟩ | ⟨more, ids, rest⟩
  · have empty := alone leftPlain rest
    subst empty
    rw [List.append_nil] at ids
    rw [List.nil_append, List.cons.injEq] at rest
    exact Prod.ext (String.toList_inj.mp ids.symm) (String.toList_inj.mp rest.2)
  · have empty := alone rightPlain rest
    subst empty
    rw [List.append_nil] at ids
    rw [List.nil_append, List.cons.injEq] at rest
    exact Prod.ext (String.toList_inj.mp ids) (String.toList_inj.mp rest.2.symm)

/-! ## Cables of a valid graph -/

structure ValidGraph (floats : Floats) (nodes : List NodeDTO) (edges : List EdgeDTO) : Prop where
  rows : ValidNodes nodes
  joins : ∀ edge ∈ edges, Joins nodes edge
  power : Services.PowerRules floats nodes edges
  network : Services.EdgeScan.NetworkWalked {} edges
  clean : (edges.foldl (checkEdge floats nodes) {}).IsClean

theorem validGraph_of_graphIssues {runtime : Runtime} {nodes : List NodeDTO}
    {edges : List EdgeDTO} (accepted : graphIssues runtime nodes edges = []) :
    ValidGraph runtime.floats nodes edges := by
  rcases validNodes_of_graphIssues accepted with ⟨nodesFine, silent⟩
  rcases Services.rules_of_edgeIssues_eq_nil silent with ⟨joins, power⟩
  refine ⟨nodesFine, joins, power, Services.networkWalked_of_edgeIssues_eq_nil silent, ?_⟩
  unfold edgeIssues at silent
  rcases List.append_eq_nil_iff.mp silent with ⟨walk, _⟩
  rcases List.append_eq_nil_iff.mp walk with ⟨missing, issues⟩
  exact ⟨issues, missing⟩

theorem isPowerHandle_append (start more : String) (known : start ∈ [powerInPrefix, powerOutPrefix]) :
    isPowerHandle (start ++ more) = true := by
  unfold isPowerHandle
  rcases List.mem_cons.mp known with rfl | known
  · rw [cutPrefix_append]
    rfl
  · rw [List.mem_singleton.mp known, cutPrefix_append]
    simp

theorem unpowered_of_network {handle : String}
    (network : Services.EdgeScan.isPowerHandle handle = false) : isPowerHandle handle = false := by
  by_contra power
  unfold isPowerHandle at power
  rw [Bool.not_eq_false, Bool.or_eq_true, Option.isSome_iff_exists, Option.isSome_iff_exists] at power
  have spelled : ∃ rest, handle = "pwr-" ++ rest := by
    rcases power with ⟨rest, found⟩ | ⟨rest, found⟩
    · refine ⟨"in-" ++ String.ofList rest, ?_⟩
      rw [eq_append_of_cutPrefix found, ← String.append_assoc]
      rfl
    · refine ⟨"out-" ++ String.ofList rest, ?_⟩
      rw [eq_append_of_cutPrefix found, ← String.append_assoc]
      rfl
  rcases spelled with ⟨rest, rfl⟩
  rw [Services.EdgeScan.isPowerHandle, cutPrefix_append] at network
  cases network

theorem isPowerHandle_of_index {handle start : String}
    (known : start ∈ [powerInPrefix, powerOutPrefix])
    (index : 0 ≤ Wiring.powerHandleIndex handle start) : isPowerHandle handle = true := by
  unfold Wiring.powerHandleIndex at index
  split at index
  · rename_i rest found
    rw [eq_append_of_cutPrefix found]
    exact isPowerHandle_append _ _ known
  · omega

namespace ValidGraph

variable {floats : Floats} {nodes : List NodeDTO} {edges : List EdgeDTO}
  (graph : ValidGraph floats nodes edges)

include graph

theorem isPowerEdge_linkEnd {edge : EdgeDTO} (member : edge ∈ edges) :
    isPowerEdge (linkEnd edge) = edge.isPower := by
  cases power : edge.isPower with
  | true =>
      rcases (graph.power.fits edge member power).source with ⟨_, _, _, socket, _⟩
      rw [isPowerEdge, linkEnd, isPowerHandle_of_index (by simp) socket, Bool.true_or]
  | false =>
      rcases graph.network.handles edge member power with ⟨sourceHandle, targetHandle⟩
      rw [isPowerEdge, linkEnd, unpowered_of_network sourceHandle,
        unpowered_of_network targetHandle, Bool.or_self]

end ValidGraph

theorem typeOf_source {nodes : List NodeDTO} (valid : ValidNodes nodes) {edge : EdgeDTO}
    {source target : NodeDTO} (ends : Ends nodes edge source target) :
    typeOf (nodeTypes nodes) edge.source = some source.type ∧
      typeOf (nodeTypes nodes) edge.target = some target.type := by
  rcases Services.id_of_nodesByID ends.source with ⟨sourceMember, sourceID⟩
  rcases Services.id_of_nodesByID ends.target with ⟨targetMember, targetID⟩
  rw [← sourceID, ← targetID]
  exact ⟨valid.typeOf_eq sourceMember, valid.typeOf_eq targetMember⟩

theorem searches_of_reaches {arcs : List (String × String)} {start goal : String}
    (path : Arcs.Reaches arcs start goal) : searches arcs start goal = true := by
  have reached : Worklist.Reaches (Arcs.successors arcs) (fun vertex => vertex ∈ arcs.map Prod.snd)
      start goal := by
    have heads {vertex : String} (path : Arcs.Reaches arcs start vertex) :
        vertex = start ∨ vertex ∈ arcs.map Prod.snd := by
      cases path with
      | refl => exact .inl rfl
      | tail _ arc => exact .inr (List.mem_map.mpr ⟨_, arc, rfl⟩)
    induction path with
    | refl => exact .start
    | tail before arc induction =>
        refine .step induction ?_ (Arcs.mem_successors.mpr arc)
        simpa using heads before
  unfold searches
  rw [decide_eq_true_eq]
  refine (Worklist.mem_seen_drain_iff (arcs.map Prod.snd) ?_ ?_).mpr reached
  · intro vertex expands
    simpa using expands
  · rw [List.length_map]

end HomelabBuilder.Canvas
