import HomelabBuilder.Services.EdgeWalk

/-! # Network cables of a clean graph

A walk that finds nothing wrong has seen no two network cables between the same
nodes, and none in a power port.
-/

namespace HomelabBuilder.Services

open Wiring

namespace EdgeScan

variable {floats : Floats} {nodes : List NodeDTO} {scan : EdgeScan}

/-- The two nodes of a cable as one key, the smaller id first. -/
def pairKey (edge : EdgeDTO) : String :=
  if edge.target < edge.source then portKey edge.target edge.source
  else portKey edge.source edge.target

/-! ## Pairs that have been seen -/

@[simp]
theorem seenPairs_report (wrong : Bool) (issue : EdgeIssue) :
    (scan.report wrong issue).seenPairs = scan.seenPairs := by
  cases wrong <;> rfl

@[simp]
theorem seenPairs_usePort (id handle : String) :
    (scan.usePort id handle).seenPairs = scan.seenPairs := by
  unfold usePort
  split
  · exact seenPairs_report _ _
  · rfl

@[simp]
theorem seenPairs_takePort (isWifiClient : Bool) (node : NodeDTO) (handle : String) :
    (scan.takePort isWifiClient node handle).seenPairs = scan.seenPairs := by
  unfold takePort
  split
  · rfl
  · exact seenPairs_usePort _ _

@[simp]
theorem seenPairs_checkTable (node : NodeDTO) (edge : EdgeDTO) :
    (scan.checkTable node edge).seenPairs = scan.seenPairs := by
  unfold checkTable
  split
  · rfl
  · simp

theorem checkPair_eq (edge : EdgeDTO) :
    (scan.checkPair edge).IsClean → pairKey edge ∉ scan.seenPairs ∧
      (scan.checkPair edge).seenPairs = pairKey edge :: scan.seenPairs := by
  have noted : ∀ left right, (scan.notePair left right).IsClean →
      portKey left right ∉ scan.seenPairs ∧
        (scan.notePair left right).seenPairs = portKey left right :: scan.seenPairs := by
    intro left right clean
    unfold notePair at clean ⊢
    split at clean
    · exact absurd (isClean_report.mp clean).2 (by decide)
    · rename_i new
      rw [if_neg new]
      exact ⟨new, rfl⟩
  intro clean
  unfold checkPair pairKey at *
  split at clean
  · rename_i swapped
    simp only [if_pos swapped]
    exact noted _ _ clean
  · rename_i straight
    simp only [if_neg straight]
    exact noted _ _ clean

theorem pair_of_checkNetwork {source target : NodeDTO} {edge : EdgeDTO}
    (clean : (scan.checkNetwork source target edge).IsClean) :
    (isPowerHandle edge.sourceHandle = false ∧ isPowerHandle edge.targetHandle = false) ∧
      pairKey edge ∉ scan.seenPairs ∧
      (scan.checkNetwork source target edge).seenPairs = pairKey edge :: scan.seenPairs := by
  -- Whatever follows the check of the pair only adds issues.
  have last : ∀ paired : EdgeScan, Grows paired (((((((paired.report
      (source.type ∈ nestedOnlyTypes || target.type ∈ nestedOnlyTypes)
      (.nestedOnly edge.source edge.target)).report
      (!isWifiAssociation source.type target.type && source.type ∉ connectsFreely &&
        target.type ∉ connectsFreely) (.noGateway edge.source edge.target)).report
      (isWifiAssociation source.type target.type && edge.type ≠ "wireless")
      (.notWireless edge.source edge.target)).checkTable source edge).checkTable target
      edge).report (edge.type = "wireless" && source.type ≠ "access_point" &&
        target.type ≠ "access_point" && source.type ≠ "iot" && target.type ≠ "iot")
      (.wirelessEndpoint edge.source edge.target))) := fun paired =>
    (((((Grows.refl.report _ _).report _ _).report _ _).checkTable _ _).checkTable _ _).report _ _
  have rest : ∀ paired, paired = ((scan.report
      (isPowerHandle edge.sourceHandle || isPowerHandle edge.targetHandle)
      (.networkInPowerPort edge.source edge.target)).report (isPowerSource source.type)
      (.noNetworkPort source.id source.type)).report (isPowerSource target.type)
      (.noNetworkPort target.id target.type) →
      (paired.checkPair edge).IsClean ∧
        (scan.checkNetwork source target edge).seenPairs = (paired.checkPair edge).seenPairs := by
    rintro paired rfl
    unfold checkNetwork at clean ⊢
    dsimp only at clean ⊢
    split at clean
    · rename_i vpn
      refine ⟨(last _).isClean clean, ?_⟩
      rw [if_pos vpn]
      simp
    · rename_i wired
      refine ⟨Grows.isClean (((last _).takePort _ source _).takePort _ target _) clean, ?_⟩
      rw [if_neg wired]
      simp
  rcases rest _ rfl with ⟨cleanPair, seen⟩
  rcases checkPair_eq edge cleanPair with ⟨new, noted⟩
  have cleanBefore := Grows.isClean (Grows.checkPair Grows.refl edge) cleanPair
  have plain := (isClean_report.mp (isClean_report.mp (isClean_report.mp cleanBefore).1).1).2
  simp only [seenPairs_report] at new noted
  exact ⟨Bool.or_eq_false_iff.mp plain, new, seen.trans noted⟩

/-- What a clean walk says of the network cables. -/
structure NetworkWalked (scan : EdgeScan) (edges : List EdgeDTO) : Prop where
  handles : ∀ edge ∈ edges, edge.isPower = false →
    isPowerHandle edge.sourceHandle = false ∧ isPowerHandle edge.targetHandle = false
  pairs : ((edges.filter fun edge => !edge.isPower).map pairKey).Nodup
  unseen : ∀ edge ∈ edges, edge.isPower = false → pairKey edge ∉ scan.seenPairs

theorem networkWalked_of_isClean : ∀ (edges : List EdgeDTO) (scan : EdgeScan),
    (edges.foldl (checkEdge floats nodes) scan).IsClean → NetworkWalked scan edges
  | [], _, _ => ⟨nofun, List.nodup_nil, nofun⟩
  | edge :: rest, scan, clean => by
      have later := networkWalked_of_isClean rest _ clean
      have cleanStep := (walked_of_isClean rest _ clean).clean
      have stepped : (edge.isPower = true ∧
            (checkEdge floats nodes scan edge).seenPairs = scan.seenPairs) ∨
          (edge.isPower = false ∧
            (isPowerHandle edge.sourceHandle = false ∧ isPowerHandle edge.targetHandle = false) ∧
            pairKey edge ∉ scan.seenPairs ∧
            (checkEdge floats nodes scan edge).seenPairs = pairKey edge :: scan.seenPairs) := by
        unfold checkEdge at cleanStep ⊢
        split at cleanStep
        · rename_i source target _ _
          split at cleanStep
          · exact absurd (isClean_report.mp cleanStep).2 (by decide)
          · rename_i apart
            rw [if_neg apart]
            dsimp only at cleanStep ⊢
            split at cleanStep
            · rename_i power
              left
              rw [if_pos power]
              exact ⟨decide_eq_true power, by simp [checkPower]⟩
            · rename_i network
              right
              rw [if_neg network]
              have found := pair_of_checkNetwork cleanStep
              simp only [seenPairs_report] at found
              exact ⟨decide_eq_false network, found⟩
        · exact absurd cleanStep.2 (by simp)
      rcases stepped with ⟨power, seen⟩ | ⟨network, handles, new, seen⟩
      · have others : (edge :: rest).filter (fun edge => !edge.isPower) =
            rest.filter fun edge => !edge.isPower := List.filter_cons_of_neg (by simp [power])
        refine ⟨?_, others ▸ later.pairs, ?_⟩
        · intro other member plain
          rcases List.mem_cons.mp member with rfl | member
          · rw [power] at plain
            cases plain
          · exact later.handles other member plain
        · intro other member plain
          rcases List.mem_cons.mp member with rfl | member
          · rw [power] at plain
            cases plain
          · exact seen ▸ later.unseen other member plain
      · have others : (edge :: rest).filter (fun edge => !edge.isPower) =
            edge :: rest.filter fun edge => !edge.isPower :=
          List.filter_cons_of_pos (by simp [network])
        have apart : ∀ other ∈ rest, other.isPower = false →
            pairKey other ≠ pairKey edge ∧ pairKey other ∉ scan.seenPairs := by
          intro other member plain
          have unseen := later.unseen other member plain
          rw [seen, List.mem_cons, not_or] at unseen
          exact unseen
        refine ⟨?_, ?_, ?_⟩
        · intro other member plain
          rcases List.mem_cons.mp member with rfl | member
          · exact handles
          · exact later.handles other member plain
        · rw [others, List.map_cons, List.nodup_cons]
          refine ⟨?_, later.pairs⟩
          intro repeated
          rcases List.mem_map.mp repeated with ⟨other, member, same⟩
          rcases List.mem_filter.mp member with ⟨inRest, plain⟩
          exact (apart other inRest (by simpa using plain)).1 same
        · intro other member plain
          rcases List.mem_cons.mp member with rfl | member
          · exact new
          · exact (apart other member plain).2

end EdgeScan

theorem networkWalked_of_edgeIssues_eq_nil {floats : Floats} {nodes : List NodeDTO}
    {edges : List EdgeDTO} (silent : edgeIssues floats nodes edges = []) :
    EdgeScan.NetworkWalked {} edges := by
  unfold edgeIssues at silent
  rcases List.append_eq_nil_iff.mp silent with ⟨walk, _⟩
  rcases List.append_eq_nil_iff.mp walk with ⟨missing, issues⟩
  exact EdgeScan.networkWalked_of_isClean edges {} ⟨issues, missing⟩

end HomelabBuilder.Services
