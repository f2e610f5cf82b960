import HomelabBuilder.Services.NetworkRules
import HomelabBuilder.Services.TopologyDiff

/-! # Keys of cables

No two cables of a graph that a save accepts have one key.
-/

namespace HomelabBuilder.Services

open EdgeScan (NetworkWalked pairKey portKey portKey_inj)

/-! ## What a key says -/

theorem append_bar_inj {first second third fourth : String}
    (length : first.toList.length = third.toList.length)
    (same : first ++ "|" ++ second = third ++ "|" ++ fourth) : first = third ∧ second = fourth := by
  have lists := congrArg String.toList same
  simp only [String.toList_append, List.append_assoc] at lists
  rcases List.append_inj lists length with ⟨starts, rest⟩
  exact ⟨String.toList_inj.mp starts, String.toList_inj.mp (List.append_cancel_left rest)⟩

structure LongEnds (source target : String) : Prop where
  source : source.toList.length = 36
  target : target.toList.length = 36

theorem longEnds_row (edge : EdgeRow) :
    LongEnds edge.sourceNodeID.text edge.targetNodeID.text :=
  ⟨edge.sourceNodeID.length_text, edge.targetNodeID.length_text⟩

theorem LongEnds.ordered {source target : String} (long : LongEnds source target) :
    LongEnds (orderedPair source target).1 (orderedPair source target).2 := by
  rw [orderedPair]
  split
  · exact ⟨long.target, long.source⟩
  · exact long

theorem keyOfCable_power (source target targetHandle : String) :
    keyOfCable source target "power" targetHandle =
      (orderedPair source target).1 ++ "|" ++ ((orderedPair source target).2 ++ "|" ++
        ("power|" ++ target ++ ":" ++ targetHandle)) := by
  have bars : "|power|" = "|" ++ "power|" := rfl
  rw [keyOfCable, if_pos rfl, bars]
  simp only [String.append_assoc]

theorem keyOfCable_network {source target type targetHandle : String} (network : type ≠ "power") :
    keyOfCable source target type targetHandle =
      (orderedPair source target).1 ++ "|" ++ (orderedPair source target).2 := by
  rw [keyOfCable, if_neg network]

section

variable {source target otherSource otherTarget type otherType handle otherHandle : String}
  (long : LongEnds source target) (otherLong : LongEnds otherSource otherTarget)

include long otherLong

theorem input_of_keyOfCable_eq
    (same : keyOfCable source target "power" handle =
      keyOfCable otherSource otherTarget "power" otherHandle) :
    target = otherTarget ∧ handle = otherHandle := by
  rw [keyOfCable_power, keyOfCable_power] at same
  have first := (append_bar_inj (long.ordered.source.trans otherLong.ordered.source.symm) same).2
  have second := (append_bar_inj (long.ordered.target.trans otherLong.ordered.target.symm) first).2
  have lists := congrArg String.toList second
  simp only [String.toList_append, List.append_assoc] at lists
  have rest := List.append_cancel_left lists
  rcases List.append_inj rest (long.target.trans otherLong.target.symm) with ⟨targets, handles⟩
  exact ⟨String.toList_inj.mp targets, String.toList_inj.mp (List.append_cancel_left handles)⟩

theorem pair_of_keyOfCable_eq (network : type ≠ "power") (otherNetwork : otherType ≠ "power")
    (same : keyOfCable source target type handle =
      keyOfCable otherSource otherTarget otherType otherHandle) :
    orderedPair source target = orderedPair otherSource otherTarget := by
  rw [keyOfCable_network network, keyOfCable_network otherNetwork] at same
  have parts := append_bar_inj (long.ordered.source.trans otherLong.ordered.source.symm) same
  exact Prod.ext parts.1 parts.2

theorem keyOfCable_power_ne (network : otherType ≠ "power") :
    keyOfCable source target "power" handle ≠
      keyOfCable otherSource otherTarget otherType otherHandle := by
  intro same
  rw [keyOfCable_power, keyOfCable_network network] at same
  have second := (append_bar_inj (long.ordered.source.trans otherLong.ordered.source.symm) same).2
  have lengths := congrArg (fun text : String => text.toList.length) second
  simp only [String.toList_append, List.length_append, long.ordered.target,
    otherLong.ordered.target] at lengths
  have bar : "|".toList.length = 1 := rfl
  omega

end

/-! ## Keys of accepted graphs -/

theorem nodup_connectionKey_power {edges : List EdgeRow} (power : ∀ edge ∈ edges, edge.isPower)
    (ports : ((edges.map EdgeRow.toDTO).flatMap EdgeDTO.portKeys).Nodup) :
    (edges.map connectionKey).Nodup := by
  rw [List.flatMap_map] at ports
  apply List.pairwise_map.mpr
  apply (List.nodup_flatMap.mp ports).2.imp_of_mem
  intro left right inLeft inRight disjoint same
  have leftPower : left.type = "power" := of_decide_eq_true (power left inLeft)
  have rightPower : right.type = "power" := of_decide_eq_true (power right inRight)
  rw [connectionKey, connectionKey, leftPower, rightPower] at same
  rcases input_of_keyOfCable_eq (longEnds_row left) (longEnds_row right) same with
    ⟨targets, handles⟩
  have key : portKey left.toDTO.target left.toDTO.targetHandle =
      portKey right.toDTO.target right.toDTO.targetHandle := congrArg₂ portKey targets handles
  apply @disjoint (portKey left.toDTO.target left.toDTO.targetHandle)
  · exact List.mem_cons_of_mem _ List.mem_cons_self
  · rw [key]
    exact List.mem_cons_of_mem _ List.mem_cons_self

theorem nodup_connectionKey_network {edges : List EdgeRow}
    (network : ∀ edge ∈ edges, edge.isPower = false)
    (pairs : ((edges.map EdgeRow.toDTO).map pairKey).Nodup) : (edges.map connectionKey).Nodup := by
  rw [List.map_map] at pairs
  apply List.pairwise_map.mpr
  apply (List.pairwise_map.mp pairs).imp_of_mem
  intro left right inLeft inRight apart same
  have leftNetwork : left.type ≠ "power" := of_decide_eq_false (network left inLeft)
  have rightNetwork : right.type ≠ "power" := of_decide_eq_false (network right inRight)
  have pair := pair_of_keyOfCable_eq (longEnds_row left) (longEnds_row right) leftNetwork
    rightNetwork same
  have keyed : ∀ edge : EdgeRow, pairKey edge.toDTO =
      portKey (orderedPair edge.sourceNodeID.text edge.targetNodeID.text).1
        (orderedPair edge.sourceNodeID.text edge.targetNodeID.text).2 := by
    intro edge
    by_cases swapped : edge.targetNodeID.text < edge.sourceNodeID.text
    · rw [orderedPair, if_pos swapped]
      exact if_pos swapped
    · rw [orderedPair, if_neg swapped]
      exact if_neg swapped
  apply apart
  rw [Function.comp_apply, Function.comp_apply, keyed, keyed, pair]

theorem nodup_connectionKey {floats : Wiring.Floats} {nodes : List NodeDTO} {edges : List EdgeRow}
    (silent : edgeIssues floats nodes (edges.map EdgeRow.toDTO) = []) :
    (edges.map connectionKey).Nodup := by
  have ports := (rules_of_edgeIssues_eq_nil silent).2.ports
  have pairs := (networkWalked_of_edgeIssues_eq_nil silent).pairs
  have power : (edges.map EdgeRow.toDTO).filter EdgeDTO.isPower =
      (edges.filter EdgeRow.isPower).map EdgeRow.toDTO := by
    rw [List.filter_map]
    rfl
  have network : (edges.map EdgeRow.toDTO).filter (fun edge => !edge.isPower) =
      (edges.filter fun edge => !edge.isPower).map EdgeRow.toDTO := by
    rw [List.filter_map]
    rfl
  rw [power] at ports
  rw [network] at pairs
  have split := (List.filter_append_perm EdgeRow.isPower edges).map connectionKey
  rw [← split.nodup_iff, List.map_append, List.nodup_append']
  refine ⟨nodup_connectionKey_power (fun edge listed => (List.mem_filter.mp listed).2) ports,
    nodup_connectionKey_network (fun edge listed => ?_) pairs, ?_⟩
  · simpa using (List.mem_filter.mp listed).2
  · intro key inPower inNetwork
    rcases List.mem_map.mp inPower with ⟨left, leftListed, rfl⟩
    rcases List.mem_map.mp inNetwork with ⟨right, rightListed, same⟩
    have leftPower : left.type = "power" := of_decide_eq_true (List.mem_filter.mp leftListed).2
    have rightNetwork : right.type ≠ "power" := by
      have kept := (List.mem_filter.mp rightListed).2
      rw [Bool.not_eq_true'] at kept
      exact of_decide_eq_false kept
    rw [connectionKey, connectionKey, leftPower] at same
    exact keyOfCable_power_ne (longEnds_row left) (longEnds_row right) rightNetwork same.symm

end HomelabBuilder.Services
