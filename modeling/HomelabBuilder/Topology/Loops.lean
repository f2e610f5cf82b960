import HomelabBuilder.Services.NetworkRules
import HomelabBuilder.Topology.Batch

/-! # Network loops

`connect` refuses a physical link between two nodes that already reach each
other, and every other operation only takes links away, except one:
`update_connection` makes a VPN link physical without asking.
-/

namespace HomelabBuilder.Topology

open Services

/-! ## Edits -/

theorem mem_physicalLinks {edges : List EdgeDTO} {link : String × String} :
    link ∈ physicalLinks edges ↔
      ∃ edge ∈ edges, isPhysical edge = true ∧ (edge.source, edge.target) = link := by
  simp [physicalLinks, and_assoc]

theorem physicalLinks_subset {edges fewer : List EdgeDTO} (subset : fewer ⊆ edges) :
    physicalLinks fewer ⊆ physicalLinks edges := by
  intro link member
  rcases mem_physicalLinks.mp member with ⟨edge, inFewer, physical⟩
  exact mem_physicalLinks.mpr ⟨edge, subset inFewer, physical⟩

theorem not_reachable_of_physicalPathExists {edges : List EdgeDTO} {left right : String}
    (noPath : physicalPathExists edges left right = false) :
    ¬ (Links.graph (physicalLinks edges)).Reachable left right := by
  rw [← Links.mem_searched_iff]
  exact of_decide_eq_false noPath

def PhysicalAcyclic (editor : Editor) : Prop :=
  (Links.graph (physicalLinks editor.graph.edges)).IsAcyclic

section

variable {env : Env} {start before after : Editor} {op : TopologyOp}

theorem PhysicalAcyclic.edit (noLoops : env.allowLoops = false)
    (opens : ¬ ClosesLoop env start op) (edit : Edit env start op before after)
    (acyclic : PhysicalAcyclic before) : PhysicalAcyclic after := by
  unfold PhysicalAcyclic at acyclic ⊢
  cases edit with
  | note _ edges _ _ _ =>
      rw [edges]
      exact acyclic
  | addNode | wait | quiet | reshape | addVM | addComponent | mount | unmount => exact acyclic
  | remove _ =>
      exact Links.isAcyclic_of_subset acyclic (physicalLinks_subset List.filter_sublist.subset)
  | unlink index =>
      exact Links.isAcyclic_of_subset acyclic
        (physicalLinks_subset (List.eraseIdx_sublist _ _).subset)
  | @link edge linking =>
      have grown : ∀ link ∈ physicalLinks (before.graph.edges ++ [edge]),
          link ∈ physicalLinks before.graph.edges ∨
            isPhysical edge = true ∧ link = (edge.source, edge.target) := by
        intro link member
        rcases mem_physicalLinks.mp member with ⟨other, inEdges, physical, isLink⟩
        rcases List.mem_append.mp inEdges with old | new
        · exact .inl (mem_physicalLinks.mpr ⟨other, old, physical, isLink⟩)
        · rw [List.mem_singleton.mp new] at physical isLink
          exact .inr ⟨physical, isLink.symm⟩
      cases physical : isPhysical edge with
      | false =>
          apply Links.isAcyclic_of_subset acyclic
          intro link member
          rcases grown link member with old | ⟨isPhysical, _⟩
          · exact old
          · rw [physical] at isPhysical
            cases isPhysical
      | true =>
          apply Links.isAcyclic_insert acyclic (fun link member => (grown link member).imp_right
            And.right)
          rcases linking.loopless physical noLoops with noPath | noPath
          · exact not_reachable_of_physicalPathExists noPath
          · exact fun path => not_reachable_of_physicalPathExists noPath path.symm
  | @relink index edge changed located relinking =>
      have grown : ∀ link ∈ physicalLinks (before.graph.edges.set index changed),
          link ∈ physicalLinks before.graph.edges ∨
            isPhysical changed = true ∧ link = (edge.source, edge.target) := by
        intro link member
        rcases mem_physicalLinks.mp member with ⟨other, inEdges, physical, isLink⟩
        rcases List.mem_or_eq_of_mem_set inEdges with old | rfl
        · exact .inl (mem_physicalLinks.mpr ⟨other, old, physical, isLink⟩)
        · rw [relinking.source.1, relinking.target.1] at isLink
          exact .inr ⟨physical, isLink.symm⟩
      by_cases closed : isPhysical changed = true ∧ isPhysical edge = false
      · apply Links.isAcyclic_insert acyclic (fun link member => (grown link member).imp_right
          And.right)
        rcases relinking.loopless opens closed.1 with wasPhysical | noPath
        · rw [closed.2] at wasPhysical
          cases wasPhysical
        · exact not_reachable_of_physicalPathExists noPath
      · apply Links.isAcyclic_of_subset acyclic
        intro link member
        rcases grown link member with old | ⟨physical, isLink⟩
        · exact old
        · have wasPhysical : isPhysical edge = true :=
            Bool.eq_true_of_not_eq_false fun virtual => closed ⟨physical, virtual⟩
          exact mem_physicalLinks.mpr
            ⟨edge, List.mem_of_getElem? located, wasPhysical, isLink.symm⟩

end

/-! ## Clean graphs -/

/-- No two cables of a graph without issues join the same nodes, and none starts
where it ends. -/
theorem loopFree_of_clean {floats : Wiring.Floats} {nodes : List NodeDTO} {edges : List EdgeDTO}
    (silent : edgeIssues floats nodes edges = [])
    (acyclic : (Links.graph (physicalLinks edges)).IsAcyclic) :
    Links.LoopFree (physicalLinks edges) := by
  have joins := (rules_of_edgeIssues_eq_nil silent).1
  have pairs := (networkWalked_of_edgeIssues_eq_nil silent).pairs
  refine ⟨acyclic, ?_, ?_⟩
  · intro link member
    rcases mem_physicalLinks.mp member with ⟨edge, inEdges, _, rfl⟩
    exact (joins edge inEdges).apart
  · have physical : edges.filter isPhysical =
        (edges.filter fun edge => !edge.isPower).filter fun edge => edge.type ≠ "vpn" := by
      rw [List.filter_filter]
      apply List.filter_congr
      intro edge _
      simp [isPhysical, EdgeDTO.isPower]
    rw [List.Nodup, List.pairwise_map] at pairs
    rw [physicalLinks, List.pairwise_map, physical]
    refine (pairs.filter _).imp ?_
    intro first second different
    constructor
    · intro same
      simp only [Prod.mk.injEq] at same
      apply different
      unfold EdgeScan.pairKey
      rw [same.1, same.2]
    · intro swapped
      simp only [Prod.swap_prod_mk, Prod.mk.injEq] at swapped
      apply different
      unfold EdgeScan.pairKey
      rw [swapped.1, swapped.2]
      -- The smaller id comes first, whichever way the cable is drawn.
      by_cases forward : first.target < first.source
      · simp only [if_pos forward, if_neg (String.lt_asymm forward)]
      · by_cases backward : first.source < first.target
        · simp only [if_neg forward, if_pos backward]
        · have same : first.source = first.target :=
            String.le_antisymm (String.not_lt.mp forward) (String.not_lt.mp backward)
          rw [same]

theorem edgeIssues_of_graphIssues {runtime : Runtime} {nodes : List NodeDTO}
    {edges : List EdgeDTO} (clean : graphIssues runtime nodes edges = []) :
    edgeIssues runtime.floats nodes edges = [] :=
  List.map_eq_nil_iff.mp (List.append_eq_nil_iff.mp clean).2

/-- Where no VPN link is made physical between nodes that already reach each
other, an accepted batch leaves no loop behind. -/
theorem applied_loopFree {env : Env} {base : SyncGraphInput} {ops : List TopologyOp}
    {applied : AppliedTopology} (fresh : FreshIDs env base ops) (noLoops : env.allowLoops = false)
    (acyclic : (Links.graph (physicalLinks base.edges)).IsAcyclic)
    (opens : Along env (fun editor op => ¬ ClosesLoop env editor op) (.opening base) ops)
    (done : applyTopologyOps env base ops = .ok applied) :
    Links.LoopFree (physicalLinks applied.input.edges) := by
  rcases applied_preserves (fun opens edit => PhysicalAcyclic.edit noLoops opens edit) fresh opens
    acyclic done with ⟨final, acyclic, isPlaced, clean⟩
  apply loopFree_of_clean (edgeIssues_of_graphIssues clean)
  rw [isPlaced]
  exact acyclic

/-! ## Examples -/

def twoSwitches : List NodeDTO :=
  [{ id := sampleID 1, type := "router", name := "Router" },
    { id := sampleID 2, type := "switch", name := "Left" },
    { id := sampleID 3, type := "switch", name := "Right" }]

def cable (type : String) (source : Fin 10) (sourceHandle : String) (target : Fin 10)
    (targetHandle : String) : EdgeDTO where
  source := sampleID source
  sourceHandle := sourceHandle
  target := sampleID target
  targetHandle := targetHandle
  type := type

/-- Both switches are cabled to the router, and a tunnel joins them. -/
def tunnelBase : SyncGraphInput where
  name := "Tunnel"
  nodes := twoSwitches
  edges := [cable "ethernet" 1 "eth0" 2 "target-0", cable "ethernet" 1 "eth1" 3 "target-0",
    cable "vpn" 2 "eth0" 3 "eth0"]

def tunnelToCable : TopologyOp where
  op := "update_connection"
  source := sampleID 2
  target := sampleID 3
  connectionType := some "ethernet"

theorem loopFree_tunnelBase : Links.LoopFree (physicalLinks tunnelBase.edges) := by
  have links : physicalLinks tunnelBase.edges =
      [(sampleID 1, sampleID 2), (sampleID 1, sampleID 3)] := by
    decide
  rw [links]
  refine ⟨?_, by decide, by decide⟩
  rw [Links.isAcyclic_cons_iff, Links.isAcyclic_cons_iff, Links.graph_nil]
  refine ⟨⟨SimpleGraph.isAcyclic_bot, ?_⟩, ?_⟩
  · decide
  · decide

theorem update_connection_closes_loop :
    Links.LoopFree (physicalLinks tunnelBase.edges) ∧ Env.plain.allowLoops = false ∧
      ∃ applied, applyTopologyOps Env.plain tunnelBase [tunnelToCable] = .ok applied ∧
        ¬ (Links.graph (physicalLinks applied.input.edges)).IsAcyclic := by
  refine ⟨loopFree_tunnelBase, rfl, ?_⟩
  have accepted : (applyTopologyOps Env.plain tunnelBase [tunnelToCable]).toOption.map
      (fun applied => physicalLinks applied.input.edges) =
        some [(sampleID 1, sampleID 2), (sampleID 1, sampleID 3), (sampleID 2, sampleID 3)] := by
    decide
  rcases Option.map_eq_some_iff.mp accepted with ⟨applied, done, links⟩
  refine ⟨applied, toOption_eq_some.mp done, ?_⟩
  rw [links, Links.isAcyclic_cons_iff]
  rintro ⟨_, closes⟩
  revert closes
  decide

/-- The same base without the cable to the left switch. -/
def openTunnelBase : SyncGraphInput where
  name := "Tunnel"
  nodes := twoSwitches
  edges := [cable "ethernet" 1 "eth1" 3 "target-0", cable "vpn" 2 "eth0" 3 "eth0"]

theorem applied_loopFree_tunnel :
    ∃ applied, applyTopologyOps Env.plain openTunnelBase [tunnelToCable] = .ok applied ∧
      Links.LoopFree (physicalLinks applied.input.edges) := by
  have unused : ¬ Mentions openTunnelBase.nodes (Env.plain.newID 0).text := by
    unfold Mentions
    decide
  have fresh : FreshIDs Env.plain openTunnelBase [tunnelToCable] :=
    freshIDs_single (by decide) unused
  have acyclic : (Links.graph (physicalLinks openTunnelBase.edges)).IsAcyclic := by
    have links : physicalLinks openTunnelBase.edges = [(sampleID 1, sampleID 3)] := by
      decide
    rw [links, Links.isAcyclic_cons_iff, Links.graph_nil]
    refine ⟨SimpleGraph.isAcyclic_bot, ?_⟩
    decide
  have opens : Along Env.plain (fun editor op => ¬ ClosesLoop Env.plain editor op)
      (.opening openTunnelBase) [tunnelToCable] := by
    refine ⟨?_, fun _ _ _ => trivial⟩
    rintro ⟨_, connection, _, _, resolved, _, _, _, _, path⟩
    have apart : (resolveConnection Env.plain (.opening openTunnelBase)
        tunnelToCable.lowered).toOption.map (fun connection => physicalPathExists
          (Editor.opening openTunnelBase).graph.edges connection.edge.source
        connection.edge.target) = some false := by
      decide
    rw [resolved] at apart
    exact absurd path (ne_true_of_eq_false (Option.some.inj apart))
  have accepted :
      (applyTopologyOps Env.plain openTunnelBase [tunnelToCable]).toOption.isSome = true := by
    decide
  rcases Option.isSome_iff_exists.mp accepted with ⟨applied, done⟩
  have done := toOption_eq_some.mp done
  exact ⟨applied, done, applied_loopFree fresh rfl acyclic opens done⟩

end HomelabBuilder.Topology
