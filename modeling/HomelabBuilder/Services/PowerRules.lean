import HomelabBuilder.Services.EdgeEndpoints

/-! # What the rules on power cables say

The walk over the edges finds nothing wrong with power exactly when every power
cable sits on ports its devices have, no port is taken twice and no power runs
in a circle.
-/

namespace HomelabBuilder.Services

open Wiring

/-- The ends of a power cable are a socket and a power input that exist. -/
structure FitsPower (floats : Floats) (nodes : List NodeDTO) (edge : EdgeDTO) : Prop where
  source : ∃ node, nodesByID nodes edge.source = some node ∧ isPowerSource node.type ∧
    0 ≤ powerHandleIndex edge.sourceHandle powerOutPrefix ∧
    powerHandleIndex edge.sourceHandle powerOutPrefix <
      powerOutputCount floats node.type node.details
  target : ∃ node, nodesByID nodes edge.target = some node ∧
    0 ≤ powerHandleIndex edge.targetHandle powerInPrefix ∧
    powerHandleIndex edge.targetHandle powerInPrefix <
      powerInputCount floats node.type node.details
  apart : edge.source ≠ edge.target

def EdgeDTO.portKeys (edge : EdgeDTO) : List String :=
  [EdgeScan.portKey edge.source edge.sourceHandle, EdgeScan.portKey edge.target edge.targetHandle]

/-- The rules on the power cables among some edges. -/
structure PowerRules (floats : Floats) (nodes : List NodeDTO) (edges : List EdgeDTO) : Prop where
  fits : ∀ edge ∈ edges, edge.isPower → FitsPower floats nodes edge
  ports : ((edges.filter EdgeDTO.isPower).flatMap EdgeDTO.portKeys).Nodup
  acyclic : Arcs.Acyclic (powerArcs edges)

/-- An issue about power; two network cables on one port are none. -/
def EdgeIssue.isAboutPower : EdgeIssue → Bool
  | .socket _ _ | .powerInput _ _ | .networkInPowerPort _ _ | .noNetworkPort _ _ | .powerLoop _ =>
      true
  | .portUsedTwice _ handle => EdgeScan.isPowerHandle handle
  | _ => false

theorem isPowerHandle_of_powerHandleIndex {handle start : String} (more : String)
    (spelled : start = "pwr-" ++ more) (plugged : 0 ≤ powerHandleIndex handle start) :
    EdgeScan.isPowerHandle handle = true := by
  unfold powerHandleIndex at plugged
  split at plugged
  · rename_i rest found
    have whole := eq_append_of_cutPrefix found
    rw [spelled, String.append_assoc] at whole
    rw [EdgeScan.isPowerHandle, whole, cutPrefix_append]
    rfl
  · omega

theorem FitsPower.handles {floats : Floats} {nodes : List NodeDTO} {edge : EdgeDTO}
    (fits : FitsPower floats nodes edge) :
    EdgeScan.isPowerHandle edge.sourceHandle = true ∧
      EdgeScan.isPowerHandle edge.targetHandle = true := by
  rcases fits.source with ⟨_, _, _, socket, _⟩
  rcases fits.target with ⟨_, _, input, _⟩
  exact ⟨isPowerHandle_of_powerHandleIndex "out-" rfl socket,
    isPowerHandle_of_powerHandleIndex "in-" rfl input⟩

theorem EdgeScan.portKey_inj {left right leftHandle rightHandle : String}
    (length : left.toList.length = right.toList.length)
    (same : portKey left leftHandle = portKey right rightHandle) :
    left = right ∧ leftHandle = rightHandle := by
  have lists := congrArg String.toList same
  simp only [portKey, String.toList_append, List.append_assoc] at lists
  rcases List.append_inj lists length with ⟨ids, rest⟩
  exact ⟨String.toList_inj.mp ids, String.toList_inj.mp (List.append_cancel_left rest)⟩

namespace EdgeScan

variable {floats : Floats} {nodes : List NodeDTO} {scan : EdgeScan}

/-! ## Walking over power cables only -/

def IsClean (scan : EdgeScan) : Prop := scan.issues = [] ∧ scan.missingRefs = []

theorem isClean_report {wrong : Bool} {issue : EdgeIssue} :
    (scan.report wrong issue).IsClean ↔ scan.IsClean ∧ wrong = false := by
  cases wrong <;> simp [report, IsClean]

theorem report_of_fine {wrong : Bool} {issue : EdgeIssue} (fine : wrong = false) :
    scan.report wrong issue = scan := by
  rw [fine]
  rfl

theorem isClean_usePort {id handle : String} :
    (scan.usePort id handle).IsClean ↔
      scan.IsClean ∧ portKey id handle ∉ scan.usedPorts := by
  unfold usePort
  split
  · rename_i taken
    simp [isClean_report, taken]
  · rename_i free
    simp [IsClean, free]

theorem usePort_of_free {id handle : String} (free : portKey id handle ∉ scan.usedPorts) :
    scan.usePort id handle = { scan with usedPorts := portKey id handle :: scan.usedPorts } := by
  rw [usePort, if_neg free]

def Frees (scan : EdgeScan) (edge : EdgeDTO) : Prop :=
  edge.portKeys.Nodup ∧ ∀ port ∈ edge.portKeys, port ∉ scan.usedPorts

theorem checkEdge_of_fits {edge : EdgeDTO} (power : edge.isPower)
    (fits : FitsPower floats nodes edge) (frees : scan.Frees edge) :
    checkEdge floats nodes scan edge =
      { scan with usedPorts := edge.portKeys.reverse ++ scan.usedPorts } := by
  rcases fits.source with ⟨source, hasSource, isSource, socketLow, socketHigh⟩
  rcases fits.target with ⟨target, hasTarget, inputLow, inputHigh⟩
  have isPower : edge.type = edgeTypePower := of_decide_eq_true power
  have allowed : edge.type ∈ allowedEdgeTypes := by
    rw [isPower]
    decide
  have socketFine : (!isPowerSource source.type ||
      decide (powerHandleIndex edge.sourceHandle powerOutPrefix < 0) ||
      decide (powerOutputCount floats source.type source.details ≤
        powerHandleIndex edge.sourceHandle powerOutPrefix)) = false := by
    simp [isSource, socketLow, socketHigh]
  have inputFine : (decide (powerHandleIndex edge.targetHandle powerInPrefix < 0) ||
      decide (powerInputCount floats target.type target.details ≤
        powerHandleIndex edge.targetHandle powerInPrefix)) = false := by
    simp [inputLow, inputHigh]
  rcases frees with ⟨apart, free⟩
  have sourceFree := free _ List.mem_cons_self
  have targetFree := free _ (List.mem_cons_of_mem _ List.mem_cons_self)
  have targetFresh : portKey edge.target edge.targetHandle ∉
      portKey edge.source edge.sourceHandle :: scan.usedPorts := by
    intro member
    rcases List.mem_cons.mp member with equal | member
    · exact (List.nodup_cons.mp apart).1 (equal ▸ List.mem_cons_self)
    · exact targetFree member
  rw [checkEdge, hasSource, hasTarget]
  dsimp only
  rw [if_neg fits.apart, report_of_fine (by simpa using allowed), if_pos isPower, checkPower,
    report_of_fine socketFine, report_of_fine inputFine, usePort_of_free sourceFree,
    usePort_of_free targetFresh]
  rfl

theorem fits_of_isClean {edge : EdgeDTO} (power : edge.isPower)
    (clean : (checkEdge floats nodes scan edge).IsClean) :
    scan.IsClean ∧ FitsPower floats nodes edge ∧ scan.Frees edge := by
  have isPower : edge.type = edgeTypePower := of_decide_eq_true power
  unfold checkEdge at clean
  split at clean
  · rename_i source target hasSource hasTarget
    split at clean
    · exact absurd (isClean_report.mp clean).2 (by decide)
    · rename_i apart
      dsimp only at clean
      rw [checkPower] at clean
      rcases isClean_usePort.mp clean with ⟨clean, targetFree⟩
      rcases isClean_usePort.mp clean with ⟨clean, sourceFree⟩
      rcases isClean_report.mp clean with ⟨clean, inputFine⟩
      rcases isClean_report.mp clean with ⟨clean, socketFine⟩
      rcases isClean_report.mp clean with ⟨clean, allowed⟩
      rw [report_of_fine allowed, report_of_fine socketFine, report_of_fine inputFine]
        at sourceFree targetFree
      rw [usePort_of_free sourceFree] at targetFree
      simp only [Bool.or_eq_false_iff, Bool.not_eq_false', decide_eq_false_iff_not, not_lt,
        not_le] at socketFine inputFine
      refine ⟨clean, ⟨⟨source, hasSource, socketFine.1.1, socketFine.1.2, socketFine.2⟩,
        ⟨target, hasTarget, inputFine.1, inputFine.2⟩, apart⟩, ?_, ?_⟩
      · simp only [List.mem_cons, not_or] at targetFree
        simp only [EdgeDTO.portKeys, List.nodup_cons, List.mem_singleton, List.not_mem_nil,
          not_false_eq_true, List.nodup_nil, and_true]
        exact fun same => targetFree.1 same.symm
      · intro port member
        rcases List.mem_cons.mp member with equal | member
        · exact equal ▸ sourceFree
        · rw [List.mem_singleton.mp member]
          exact fun used => targetFree (List.mem_cons_of_mem _ used)
  · exact absurd clean.2 (by simp)

theorem isClean_foldl : ∀ (edges : List EdgeDTO) (scan : EdgeScan),
    (∀ edge ∈ edges, edge.isPower) →
    (edges.foldl (checkEdge floats nodes) scan).IsClean →
    scan.IsClean ∧ (∀ edge ∈ edges, FitsPower floats nodes edge) ∧
      (edges.flatMap EdgeDTO.portKeys).Nodup ∧
      ∀ port ∈ edges.flatMap EdgeDTO.portKeys, port ∉ scan.usedPorts
  | [], _, _, clean => ⟨clean, nofun, List.nodup_nil, nofun⟩
  | edge :: rest, scan, power, clean => by
      have isPower := power edge List.mem_cons_self
      rcases isClean_foldl rest _ (fun other member => power other (List.mem_cons_of_mem _ member))
        clean with ⟨cleanAfter, fitsRest, nodup, free⟩
      rcases fits_of_isClean isPower cleanAfter with ⟨cleanBefore, fits, frees⟩
      rw [checkEdge_of_fits isPower fits frees] at free
      simp only [List.mem_append, List.mem_reverse, not_or] at free
      refine ⟨cleanBefore, List.forall_mem_cons.mpr ⟨fits, fitsRest⟩, ?_, ?_⟩
      · rw [List.flatMap_cons]
        apply List.nodup_append.mpr
        refine ⟨frees.1, nodup, ?_⟩
        intro port inHead other inRest same
        exact (free other inRest).1 (same ▸ inHead)
      · intro port member
        rcases List.mem_append.mp (List.flatMap_cons ▸ member) with inHead | inRest
        · exact frees.2 port inHead
        · exact (free port inRest).2

end EdgeScan

namespace EdgeScan

variable {floats : Floats} {nodes : List NodeDTO}

/-! ## Walking over network cables -/

/-- Nothing about power is reported and no power port is taken. -/
structure Quiet (nodes : List NodeDTO) (before after : EdgeScan) : Prop where
  issues : ∀ issue ∈ after.issues, issue ∈ before.issues ∨ issue.isAboutPower = false
  missingRefs : ∀ issue ∈ after.missingRefs,
    issue ∈ before.missingRefs ∨ issue.isAboutPower = false
  usedPorts : ∀ port ∈ after.usedPorts, port ∈ before.usedPorts ∨
    ∃ node ∈ nodes, ∃ handle, port = portKey node.id handle ∧ isPowerHandle handle = false

namespace Quiet

variable {before middle after scan : EdgeScan}

theorem refl : Quiet nodes scan scan :=
  ⟨fun _ member => .inl member, fun _ member => .inl member, fun _ member => .inl member⟩

theorem trans (first : Quiet nodes before middle) (second : Quiet nodes middle after) :
    Quiet nodes before after where
  issues issue member := (second.issues issue member).elim (first.issues issue) .inr
  missingRefs issue member := (second.missingRefs issue member).elim (first.missingRefs issue) .inr
  usedPorts port member := (second.usedPorts port member).elim (first.usedPorts port) .inr

theorem report (quiet : Quiet nodes before scan) (wrong : Bool) (issue : EdgeIssue)
    (other : wrong = true → issue.isAboutPower = false) :
    Quiet nodes before (scan.report wrong issue) := by
  apply quiet.trans
  cases wrong with
  | false => exact refl
  | true =>
      refine ⟨?_, fun _ member => .inl member, fun _ member => .inl member⟩
      intro reported member
      rcases List.mem_append.mp member with old | new
      · exact .inl old
      · rw [List.mem_singleton.mp new]
        exact .inr (other rfl)

theorem usePort (quiet : Quiet nodes before scan) {node : NodeDTO} (known : node ∈ nodes)
    {handle : String} (network : isPowerHandle handle = false) :
    Quiet nodes before (scan.usePort node.id handle) := by
  unfold EdgeScan.usePort
  split
  · exact quiet.report _ _ fun _ => network
  · refine quiet.trans ⟨fun _ member => .inl member, fun _ member => .inl member, ?_⟩
    intro port member
    rcases List.mem_cons.mp member with equal | member
    · exact .inr ⟨node, known, handle, equal, network⟩
    · exact .inl member

theorem notePair (quiet : Quiet nodes before scan) (left right : String) :
    Quiet nodes before (scan.notePair left right) := by
  unfold EdgeScan.notePair
  split
  · exact quiet.report _ _ fun _ => rfl
  · exact ⟨quiet.issues, quiet.missingRefs, quiet.usedPorts⟩

theorem checkPair (quiet : Quiet nodes before scan) (edge : EdgeDTO) :
    Quiet nodes before (scan.checkPair edge) := by
  unfold EdgeScan.checkPair
  split <;> exact quiet.notePair _ _

theorem checkTable (quiet : Quiet nodes before scan) (node : NodeDTO) (edge : EdgeDTO) :
    Quiet nodes before (scan.checkTable node edge) := by
  unfold EdgeScan.checkTable
  split
  · exact quiet
  · apply report _ _ _ fun _ => rfl
    have reported := quiet.report (edge.type = "wireless" || edge.type = "vpn")
      (.tableNotCabled node.id) fun _ => rfl
    exact ⟨reported.issues, reported.missingRefs, reported.usedPorts⟩

theorem takePort (quiet : Quiet nodes before scan) {node : NodeDTO} (known : node ∈ nodes)
    (isWifiClient : Bool) {handle : String} (network : isPowerHandle handle = false) :
    Quiet nodes before (scan.takePort isWifiClient node handle) := by
  unfold EdgeScan.takePort
  split
  · exact quiet
  · exact quiet.usePort known network

end Quiet

theorem quiet_checkEdge {scan : EdgeScan} {edge : EdgeDTO} (network : edge.isPower = false)
    (sourceHandle : isPowerHandle edge.sourceHandle = false)
    (targetHandle : isPowerHandle edge.targetHandle = false)
    (unpowered : ∀ id ∈ [edge.source, edge.target], ∀ node, nodesByID nodes id = some node →
      isPowerSource node.type = false) :
    Quiet nodes scan (checkEdge floats nodes scan edge) := by
  have known : ∀ {id : String} {node : NodeDTO}, nodesByID nodes id = some node →
      node ∈ nodes := by
    intro id node found
    unfold nodesByID at found
    split at found
    · cases found
    · exact List.mem_of_find?_eq_some found
  have isNetwork : edge.type ≠ edgeTypePower := of_decide_eq_false network
  unfold checkEdge
  simp only [if_neg isNetwork]
  split
  · rename_i source target hasSource hasTarget
    split
    · exact Quiet.refl.report _ _ fun _ => rfl
    · have reported := (Quiet.refl : Quiet nodes scan scan).report
        (edge.type ∉ allowedEdgeTypes)
        (.unsupportedType edge.source edge.target edge.type) fun _ => rfl
      have sourcePlain := unpowered edge.source List.mem_cons_self source hasSource
      have targetPlain := unpowered edge.target (List.mem_cons_of_mem _ List.mem_cons_self)
        target hasTarget
      have walked := ((((((((reported.report
        (isPowerHandle edge.sourceHandle || isPowerHandle edge.targetHandle)
        (.networkInPowerPort edge.source edge.target)
        (by simp [sourceHandle, targetHandle])).report
        (isPowerSource source.type) (.noNetworkPort source.id source.type)
        (by simp [sourcePlain])).report
        (isPowerSource target.type) (.noNetworkPort target.id target.type)
        (by simp [targetPlain])).checkPair edge).report
        (source.type ∈ nestedOnlyTypes || target.type ∈ nestedOnlyTypes)
        (.nestedOnly edge.source edge.target) fun _ => rfl).report
        (!isWifiAssociation source.type target.type && source.type ∉ connectsFreely &&
          target.type ∉ connectsFreely)
        (.noGateway edge.source edge.target) fun _ => rfl).report
        (isWifiAssociation source.type target.type && edge.type ≠ "wireless")
        (.notWireless edge.source edge.target) fun _ => rfl).checkTable source
          edge).checkTable target edge
      have last := walked.report (edge.type = "wireless" && source.type ≠ "access_point" &&
        target.type ≠ "access_point" && source.type ≠ "iot" && target.type ≠ "iot")
        (.wirelessEndpoint edge.source edge.target) fun _ => rfl
      unfold checkNetwork
      dsimp only
      split
      · exact last
      · exact (last.takePort (known hasSource) _ sourceHandle).takePort (known hasTarget) _
          targetHandle
  · refine ⟨fun _ member => .inl member, ?_, fun _ member => .inl member⟩
    intro issue member
    rcases List.mem_append.mp member with old | new
    · exact .inl old
    · rw [List.mem_singleton.mp new]
      exact .inr rfl

end EdgeScan

theorem head_ne_empty {floats : Floats} {nodes : List NodeDTO} {edges : List EdgeDTO}
    (fits : ∀ edge ∈ edges, edge.isPower → FitsPower floats nodes edge) (tail head : String)
    (arc : Arcs.Arc (powerArcs edges) tail head) : head ≠ "" := by
  rcases List.mem_map.mp arc with ⟨edge, member, same⟩
  rcases List.mem_filter.mp member with ⟨member, power⟩
  cases same
  rcases (fits edge member power).target with ⟨node, found, _⟩
  intro empty
  rw [nodesByID, if_pos (by rw [empty]; decide)] at found
  cases found

theorem powerRules_of_edgeIssues_eq_nil {floats : Floats} {nodes : List NodeDTO}
    {edges : List EdgeDTO} (power : ∀ edge ∈ edges, edge.isPower)
    (silent : edgeIssues floats nodes edges = []) : PowerRules floats nodes edges := by
  unfold edgeIssues at silent
  rcases List.append_eq_nil_iff.mp silent with ⟨walk, loop⟩
  rcases List.append_eq_nil_iff.mp walk with ⟨missing, issues⟩
  rcases EdgeScan.isClean_foldl edges {} power ⟨issues, missing⟩ with ⟨_, fits, nodup, _⟩
  have all : edges.filter EdgeDTO.isPower = edges := List.filter_eq_self.mpr power
  refine ⟨fun edge member _ => fits edge member, by rwa [all], ?_⟩
  apply (Arcs.loopVertex_eq_blank_iff (head_ne_empty fun edge member _ => fits edge member)).mp
  by_contra found
  rw [powerLoopNode, if_neg found] at loop
  cases loop

/-! ## A graph that keeps the rules -/

/-- A cable that keeps away from power: on no power handle and at no power source. -/
structure KeepsOffPower (nodes : List NodeDTO) (edge : EdgeDTO) : Prop where
  sourceHandle : EdgeScan.isPowerHandle edge.sourceHandle = false
  targetHandle : EdgeScan.isPowerHandle edge.targetHandle = false
  unpowered : ∀ id ∈ [edge.source, edge.target], ∀ node, nodesByID nodes id = some node →
    isPowerSource node.type = false

theorem id_of_nodesByID {nodes : List NodeDTO} {id : String} {node : NodeDTO}
    (found : nodesByID nodes id = some node) : node ∈ nodes ∧ node.id = id := by
  unfold nodesByID at found
  split at found
  · cases found
  · exact ⟨List.mem_of_find?_eq_some found, by simpa using List.find?_some found⟩

theorem FitsPower.ports {floats : Floats} {nodes : List NodeDTO} {edge : EdgeDTO}
    (fits : FitsPower floats nodes edge) {port : String} (member : port ∈ edge.portKeys) :
    ∃ node ∈ nodes, ∃ handle, port = EdgeScan.portKey node.id handle ∧
      EdgeScan.isPowerHandle handle = true := by
  rcases fits.source with ⟨source, hasSource, _⟩
  rcases fits.target with ⟨target, hasTarget, _⟩
  rcases id_of_nodesByID hasSource with ⟨sourceKnown, sourceID⟩
  rcases id_of_nodesByID hasTarget with ⟨targetKnown, targetID⟩
  rcases List.mem_cons.mp member with equal | member
  · exact ⟨source, sourceKnown, edge.sourceHandle, by rw [sourceID, equal], fits.handles.1⟩
  · rw [List.mem_singleton.mp member]
    exact ⟨target, targetKnown, edge.targetHandle, by rw [targetID], fits.handles.2⟩

section Rules

variable {floats : Floats} {nodes : List NodeDTO}

/-- What is reported on the way is no matter of power, and nothing at all when
there are power cables only. -/
private theorem foldl_checkEdge {width : Nat}
    (uniform : ∀ node ∈ nodes, node.id.toList.length = width) :
    ∀ (edges : List EdgeDTO) (scan : EdgeScan),
    (∀ edge ∈ edges, edge.isPower → FitsPower floats nodes edge) →
    (∀ edge ∈ edges, edge.isPower = false → KeepsOffPower nodes edge) →
    ((edges.filter EdgeDTO.isPower).flatMap EdgeDTO.portKeys).Nodup →
    (∀ port ∈ (edges.filter EdgeDTO.isPower).flatMap EdgeDTO.portKeys, port ∉ scan.usedPorts) →
    let after := edges.foldl (EdgeScan.checkEdge floats nodes) scan
    (∀ issue ∈ after.missingRefs ++ after.issues, issue ∈ scan.missingRefs ++ scan.issues ∨
      issue.isAboutPower = false) ∧
    ((∀ edge ∈ edges, edge.isPower) →
      after.missingRefs = scan.missingRefs ∧ after.issues = scan.issues)
  | [], _, _, _, _, _ => ⟨fun _ member => .inl member, fun _ => ⟨rfl, rfl⟩⟩
  | edge :: rest, scan, fits, plain, nodup, free => by
      have fitsRest : ∀ other ∈ rest, other.isPower → FitsPower floats nodes other :=
        fun other member => fits other (List.mem_cons_of_mem _ member)
      have plainRest : ∀ other ∈ rest, other.isPower = false → KeepsOffPower nodes other :=
        fun other member => plain other (List.mem_cons_of_mem _ member)
      rw [List.foldl_cons]
      cases power : edge.isPower with
      | true =>
          have fitsHead := fits edge List.mem_cons_self power
          rw [List.filter_cons_of_pos power, List.flatMap_cons] at nodup free
          rcases List.nodup_append.mp nodup with ⟨nodupHead, nodupRest, apart⟩
          have frees : scan.Frees edge :=
            ⟨nodupHead, fun port member => free port (List.mem_append_left _ member)⟩
          rw [EdgeScan.checkEdge_of_fits power fitsHead frees]
          rcases foldl_checkEdge uniform rest
            { scan with usedPorts := edge.portKeys.reverse ++ scan.usedPorts } fitsRest plainRest
            nodupRest (by
              intro port member used
              rcases List.mem_append.mp used with new | old
              · exact apart port (List.mem_reverse.mp new) port member rfl
              · exact free port (List.mem_append_right _ member) old) with ⟨quiet, silent⟩
          exact ⟨quiet, fun all => silent fun other member =>
            all other (List.mem_cons_of_mem _ member)⟩
      | false =>
          have plainHead := plain edge List.mem_cons_self power
          have isFalse : ¬ edge.isPower = true := by simp [power]
          rw [List.filter_cons_of_neg isFalse] at nodup free
          have step : EdgeScan.Quiet nodes scan (EdgeScan.checkEdge floats nodes scan edge) :=
            EdgeScan.quiet_checkEdge power plainHead.sourceHandle plainHead.targetHandle
              plainHead.unpowered
          rcases foldl_checkEdge uniform rest (EdgeScan.checkEdge floats nodes scan edge) fitsRest
            plainRest nodup (by
              intro port member used
              rcases step.usedPorts port used with old | ⟨node, known, handle, spelled, network⟩
              · exact free port member old
              · rcases List.mem_flatMap.mp member with ⟨other, inRest, isPort⟩
                rcases List.mem_filter.mp inRest with ⟨inRest, isPower⟩
                rcases (fitsRest other inRest isPower).ports isPort with
                  ⟨owner, ownerKnown, ownerHandle, spelledToo, powered⟩
                have same := EdgeScan.portKey_inj
                  ((uniform node known).trans (uniform owner ownerKnown).symm)
                  (spelled.symm.trans spelledToo)
                rw [same.2, powered] at network
                cases network) with ⟨quiet, _⟩
          refine ⟨?_, fun all => absurd (all edge List.mem_cons_self) isFalse⟩
          intro issue member
          rcases quiet issue member with old | other
          · rcases List.mem_append.mp old with old | old
            · rcases step.missingRefs issue old with old | other
              · exact .inl (List.mem_append_left _ old)
              · exact .inr other
            · rcases step.issues issue old with old | other
              · exact .inl (List.mem_append_right _ old)
              · exact .inr other
          · exact .inr other

private theorem powerLoopNode_of_powerRules {edges : List EdgeDTO}
    (rules : PowerRules floats nodes edges) : powerLoopNode edges = "" :=
  (Arcs.loopVertex_eq_blank_iff (head_ne_empty rules.fits)).mpr rules.acyclic

/-- Where the rules hold and every other cable keeps away from power, a save is
told nothing about power. -/
theorem not_isAboutPower_of_powerRules {edges : List EdgeDTO} {width : Nat}
    (uniform : ∀ node ∈ nodes, node.id.toList.length = width)
    (rules : PowerRules floats nodes edges)
    (plain : ∀ edge ∈ edges, edge.isPower = false → KeepsOffPower nodes edge)
    {issue : EdgeIssue} (reported : issue ∈ edgeIssues floats nodes edges) :
    issue.isAboutPower = false := by
  rw [edgeIssues, powerLoopNode_of_powerRules rules, if_pos rfl, List.append_nil] at reported
  rcases (foldl_checkEdge uniform edges {} rules.fits plain rules.ports (by simp)).1 issue
    reported with old | other
  · cases old
  · exact other

theorem edgeIssues_eq_nil_of_powerRules {edges : List EdgeDTO} {width : Nat}
    (uniform : ∀ node ∈ nodes, node.id.toList.length = width)
    (power : ∀ edge ∈ edges, edge.isPower) (rules : PowerRules floats nodes edges) :
    edgeIssues floats nodes edges = [] := by
  have silent := (foldl_checkEdge uniform edges {} rules.fits
    (fun edge member network => by simp [power edge member] at network) rules.ports
    (by simp)).2 power
  rw [edgeIssues, powerLoopNode_of_powerRules rules, if_pos rfl, List.append_nil, silent.1,
    silent.2]
  rfl

end Rules

end HomelabBuilder.Services
