import HomelabBuilder.Services.PowerRules

/-! # A walk that finds nothing

What the rules say of every cable of a graph without issues. The walk only ever
adds to what it has found and to the ports it has seen taken.
-/

namespace HomelabBuilder.Services

open Wiring

namespace EdgeScan

variable {floats : Floats} {nodes : List NodeDTO} {before middle after scan : EdgeScan}

structure Grows (before after : EdgeScan) : Prop where
  issues : before.issues ⊆ after.issues
  missingRefs : before.missingRefs ⊆ after.missingRefs
  usedPorts : before.usedPorts ⊆ after.usedPorts

namespace Grows

theorem refl : Grows scan scan :=
  ⟨List.Subset.refl _, List.Subset.refl _, List.Subset.refl _⟩

theorem report (grows : Grows before scan) (wrong : Bool) (issue : EdgeIssue) :
    Grows before (scan.report wrong issue) := by
  cases wrong with
  | false => exact grows
  | true =>
      exact ⟨List.Subset.trans grows.issues (List.subset_append_left _ _), grows.missingRefs,
        grows.usedPorts⟩

theorem usePort (grows : Grows before scan) (id handle : String) :
    Grows before (scan.usePort id handle) := by
  unfold EdgeScan.usePort
  split
  · exact grows.report _ _
  · exact ⟨grows.issues, grows.missingRefs,
      List.Subset.trans grows.usedPorts (List.subset_cons_self _ _)⟩

theorem checkPair (grows : Grows before scan) (edge : EdgeDTO) :
    Grows before (scan.checkPair edge) := by
  have note : ∀ left right, Grows before (scan.notePair left right) := by
    intro left right
    unfold notePair
    split
    · exact grows.report _ _
    · exact ⟨grows.issues, grows.missingRefs, grows.usedPorts⟩
  unfold EdgeScan.checkPair
  split <;> apply note

theorem checkTable (grows : Grows before scan) (node : NodeDTO) (edge : EdgeDTO) :
    Grows before (scan.checkTable node edge) := by
  unfold EdgeScan.checkTable
  split
  · exact grows
  · apply report
    have reported := grows.report (edge.type = "wireless" || edge.type = "vpn")
      (.tableNotCabled node.id)
    exact ⟨reported.issues, reported.missingRefs, reported.usedPorts⟩

theorem takePort (grows : Grows before scan) (isWifiClient : Bool) (node : NodeDTO)
    (handle : String) : Grows before (scan.takePort isWifiClient node handle) := by
  unfold EdgeScan.takePort
  split
  · exact grows
  · exact grows.usePort _ _

theorem checkNetwork (grows : Grows before scan) (source target : NodeDTO) (edge : EdgeDTO) :
    Grows before (scan.checkNetwork source target edge) := by
  have walked : Grows before (((((scan.report
      (isPowerHandle edge.sourceHandle || isPowerHandle edge.targetHandle)
      (.networkInPowerPort edge.source edge.target)).report (isPowerSource source.type)
      (.noNetworkPort source.id source.type)).report (isPowerSource target.type)
      (.noNetworkPort target.id target.type)).checkPair edge).report
      (source.type ∈ nestedOnlyTypes || target.type ∈ nestedOnlyTypes)
      (.nestedOnly edge.source edge.target)) :=
    ((((grows.report _ _).report _ _).report _ _).checkPair edge).report _ _
  have last := (((((walked.report (!isWifiAssociation source.type target.type &&
    source.type ∉ connectsFreely && target.type ∉ connectsFreely)
    (.noGateway edge.source edge.target)).report
    (isWifiAssociation source.type target.type && edge.type ≠ "wireless")
    (.notWireless edge.source edge.target)).checkTable source edge).checkTable target edge).report
    (edge.type = "wireless" && source.type ≠ "access_point" &&
      target.type ≠ "access_point" && source.type ≠ "iot" && target.type ≠ "iot")
    (.wirelessEndpoint edge.source edge.target))
  unfold EdgeScan.checkNetwork
  dsimp only
  split
  · exact last
  · exact (last.takePort _ source edge.sourceHandle).takePort _ target edge.targetHandle

end Grows

theorem grows_checkEdge (scan : EdgeScan) (edge : EdgeDTO) :
    Grows scan (checkEdge floats nodes scan edge) := by
  unfold checkEdge
  split
  · rename_i source target _ _
    split
    · exact Grows.refl.report _ _
    · dsimp only
      split
      · exact ((((Grows.refl.report _ _).report _ _).report _ _).usePort _ _).usePort _ _
      · exact (Grows.refl.report _ _).checkNetwork source target edge
  · exact ⟨List.Subset.refl _, List.subset_append_left _ _, List.Subset.refl _⟩

theorem Grows.isClean (grows : Grows before after) (clean : after.IsClean) : before.IsClean :=
  ⟨List.subset_nil.mp (clean.1 ▸ grows.issues), List.subset_nil.mp (clean.2 ▸ grows.missingRefs)⟩

structure Joins (nodes : List NodeDTO) (edge : EdgeDTO) : Prop where
  source : ∃ node, nodesByID nodes edge.source = some node
  target : ∃ node, nodesByID nodes edge.target = some node
  apart : edge.source ≠ edge.target

theorem joins_of_isClean {edge : EdgeDTO} (clean : (checkEdge floats nodes scan edge).IsClean) :
    Joins nodes edge := by
  unfold checkEdge at clean
  split at clean
  · rename_i source target hasSource hasTarget
    split at clean
    · exact absurd (isClean_report.mp clean).2 (by decide)
    · rename_i apart
      exact ⟨⟨source, hasSource⟩, ⟨target, hasTarget⟩, apart⟩
  · exact absurd clean.2 (by simp)

/-- What a clean walk says of its edges: they join nodes, the power cables among
them fit, and no port is used that was taken before. -/
structure Walked (floats : Floats) (nodes : List NodeDTO) (scan : EdgeScan)
    (edges : List EdgeDTO) : Prop where
  clean : scan.IsClean
  joins : ∀ edge ∈ edges, Joins nodes edge
  fits : ∀ edge ∈ edges, edge.isPower → FitsPower floats nodes edge
  ports : ((edges.filter EdgeDTO.isPower).flatMap EdgeDTO.portKeys).Nodup
  free : ∀ port ∈ (edges.filter EdgeDTO.isPower).flatMap EdgeDTO.portKeys, port ∉ scan.usedPorts

theorem walked_of_isClean : ∀ (edges : List EdgeDTO) (scan : EdgeScan),
    (edges.foldl (checkEdge floats nodes) scan).IsClean → Walked floats nodes scan edges
  | [], _, clean => ⟨clean, nofun, nofun, List.nodup_nil, nofun⟩
  | edge :: rest, scan, clean => by
      have later := walked_of_isClean rest _ clean
      have grows := @grows_checkEdge floats nodes scan edge
      have joins := List.forall_mem_cons.mpr ⟨joins_of_isClean later.clean, later.joins⟩
      cases power : edge.isPower with
      | false =>
          have others : (edge :: rest).filter EdgeDTO.isPower = rest.filter EdgeDTO.isPower :=
            List.filter_cons_of_neg (by simp [power])
          refine ⟨grows.isClean later.clean, joins, ?_, by rw [others]; exact later.ports, ?_⟩
          · intro other member isPower
            rcases List.mem_cons.mp member with rfl | member
            · exact absurd isPower (by simp [power])
            · exact later.fits other member isPower
          · rw [others]
            exact fun port member used => later.free port member (grows.usedPorts used)
      | true =>
          rcases fits_of_isClean power later.clean with ⟨cleanBefore, fits, frees⟩
          have others : (edge :: rest).filter EdgeDTO.isPower =
              edge :: rest.filter EdgeDTO.isPower := List.filter_cons_of_pos power
          have free := later.free
          rw [checkEdge_of_fits power fits frees] at free
          simp only [List.mem_append, List.mem_reverse, not_or] at free
          refine ⟨cleanBefore, joins, ?_, ?_, ?_⟩
          · intro other member isPower
            rcases List.mem_cons.mp member with rfl | member
            · exact fits
            · exact later.fits other member isPower
          · rw [others, List.flatMap_cons]
            apply List.nodup_append.mpr
            refine ⟨frees.1, later.ports, ?_⟩
            intro port inHead other inRest same
            exact (free other inRest).1 (same ▸ inHead)
          · intro port member
            rw [others, List.flatMap_cons] at member
            rcases List.mem_append.mp member with inHead | inRest
            · exact frees.2 port inHead
            · exact (free port inRest).2

end EdgeScan

/-- A graph the walk finds nothing wrong with: its cables join nodes and its
power cables keep the rules. -/
theorem rules_of_edgeIssues_eq_nil {floats : Floats} {nodes : List NodeDTO} {edges : List EdgeDTO}
    (silent : edgeIssues floats nodes edges = []) :
    (∀ edge ∈ edges, EdgeScan.Joins nodes edge) ∧ PowerRules floats nodes edges := by
  unfold edgeIssues at silent
  rcases List.append_eq_nil_iff.mp silent with ⟨walk, loop⟩
  rcases List.append_eq_nil_iff.mp walk with ⟨missing, issues⟩
  have walked := EdgeScan.walked_of_isClean edges {} ⟨issues, missing⟩
  refine ⟨walked.joins, walked.fits, walked.ports, ?_⟩
  apply (Arcs.loopVertex_eq_blank_iff (head_ne_empty walked.fits)).mp
  by_contra found
  rw [powerLoopNode, if_neg found] at loop
  cases loop

end HomelabBuilder.Services
