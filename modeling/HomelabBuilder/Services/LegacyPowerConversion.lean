import HomelabBuilder.Services.StoredTopology

/-! # The conversion of old power cables is complete, valid and idempotent -/

namespace HomelabBuilder.Services

open Wiring

/-- A cable at a power source that is not a power cable. -/
def isLegacy (nodes : List NodeRow) (edge : EdgeRow) : Bool :=
  !edge.isPower && nodes.any fun node =>
    (node.id = edge.sourceNodeID || node.id = edge.targetNodeID) && isPowerSource node.type

/-- The sockets of a node as far as the plan raises them. -/
def LegacyPowerPlan.sockets (floats : Floats) (plan : LegacyPowerPlan) (node : NodeRow) : Int :=
  (plan.outlets.lookup node.id).getD (node.outlets floats)

/-- An old cable drawn between two nodes, from either to the other. -/
def EdgeRow.Joins (edge : EdgeRow) (feeder fed : UUID) : Prop :=
  (feeder = edge.sourceNodeID ∧ fed = edge.targetNodeID) ∨
    (feeder = edge.targetNodeID ∧ fed = edge.sourceNodeID)

/-- How a converted cable comes from the old one. -/
def Converts (old new : EdgeRow) : Prop :=
  ∃ feeder socket fed input, old.Joins feeder fed ∧
    new = old.asPowerCable feeder socket fed input

/-! ## What one cable can do to the plan -/

section Step

variable {floats : Floats} {planning : Planning} {edge : EdgeRow}

/-- The device that feeds, the one that is fed, and what was found for a
cable that is converted. -/
structure Convertible (floats : Floats) (planning : Planning) (feeder fed : NodeRow)
    (socket input : Nat) : Prop where
  socketFree : (feeder.id, (socket : Int)) ∉ planning.usedOut
  socketSmall : socket < 48
  inputFree : (fed.id, (input : Int)) ∉ planning.usedIn
  inputSmall : input < fed.inputs floats
  noLoop : ¬ Arcs.Reaches planning.feeds fed.id feeder.id

private theorem free_of_firstFree {used : List (UUID × Int)} {id : UUID} {limit : Int} {index : Nat}
    (found : firstFree used id limit = some index) :
    (id, (index : Int)) ∉ used ∧ index < limit := by
  have free := FirstFit.free_of_pick found
  have listed := List.mem_range.mp (FirstFit.mem_of_pick found)
  exact ⟨of_decide_eq_true free, by omega⟩

theorem planCable_cases (floats : Floats) (planning : Planning) (edge : EdgeRow)
    (feeder fed : NodeRow) :
    (∃ cable reason, planCable floats planning edge feeder fed = planning.drop edge cable reason) ∨
      ∃ cable socket input, Convertible floats planning feeder fed socket input ∧
        planCable floats planning edge feeder fed =
          planning.convert floats edge feeder fed cable socket input := by
  unfold planCable
  dsimp only
  split
  · exact .inl ⟨_, _, rfl⟩
  · split
    · exact .inl ⟨_, _, rfl⟩
    · split
      · exact .inl ⟨_, _, rfl⟩
      · rename_i input foundInput
        split
        · exact .inl ⟨_, _, rfl⟩
        · rename_i noLoop
          split
          · exact .inl ⟨_, _, rfl⟩
          · rename_i socket foundSocket
            rcases free_of_firstFree foundInput with ⟨inputFree, inputSmall⟩
            rcases free_of_firstFree foundSocket with ⟨socketFree, socketSmall⟩
            have small : socket < 48 := by
              unfold maxPowerOutputs at socketSmall
              omega
            refine .inr ⟨_, socket, input, ⟨socketFree, small, inputFree, inputSmall, ?_⟩, rfl⟩
            exact fun path => noLoop (Arcs.reaches_iff.mpr path)

theorem byID_of_mem {nodes : List NodeRow} (distinct : (nodes.map NodeRow.id).Nodup)
    {node : NodeRow} (member : node ∈ nodes) {id : UUID} (same : node.id = id) :
    byID nodes id = some node := by
  subst same
  exact Keyed.find?_reverse_key distinct member

/-- A cable is left alone, or it is an old one that is planned from the device
that feeds to the one that is fed. -/
theorem planEdge_cases (floats : Floats) (topology : StoredTopology) (planning : Planning)
    (stored : edge ∈ topology.edges) :
    (isLegacy topology.nodes edge = false ∧
      planEdge floats topology.nodes planning edge = planning) ∨
    (isLegacy topology.nodes edge = true ∧ ∃ feeder ∈ topology.nodes, ∃ fed ∈ topology.nodes,
      edge.Joins feeder.id fed.id ∧ isPowerSource feeder.type = true ∧
      planEdge floats topology.nodes planning edge = planCable floats planning edge feeder fed) := by
  rcases topology.joined edge stored with
    ⟨⟨source, sourceStored, sourceID⟩, target, targetStored, targetID⟩
  have foundSource := byID_of_mem topology.nodeIDs sourceStored sourceID
  have foundTarget := byID_of_mem topology.nodeIDs targetStored targetID
  have legacy : isLegacy topology.nodes edge = true ↔ edge.isPower = false ∧
      (isPowerSource source.type = true ∨ isPowerSource target.type = true) := by
    simp only [isLegacy, Bool.and_eq_true, Bool.not_eq_true', List.any_eq_true, Bool.or_eq_true,
      decide_eq_true_eq]
    apply and_congr_right
    intro _
    constructor
    · intro found
      rcases found with ⟨node, member, isEnd, isSource⟩
      rcases isEnd with sameID | sameID
      · rw [Keyed.eq_of_key_eq topology.nodeIDs member sourceStored (sameID.trans sourceID.symm)]
          at isSource
        exact .inl isSource
      · rw [Keyed.eq_of_key_eq topology.nodeIDs member targetStored (sameID.trans targetID.symm)]
          at isSource
        exact .inr isSource
    · intro isSource
      rcases isSource with isSource | isSource
      · exact ⟨source, sourceStored, .inl sourceID, isSource⟩
      · exact ⟨target, targetStored, .inr targetID, isSource⟩
  unfold planEdge
  by_cases power : edge.type = edgeTypePower
  · rw [if_pos power]
    refine .inl ⟨?_, rfl⟩
    simp [isLegacy, EdgeRow.isPower, power]
  · rw [if_neg power, foundSource, foundTarget]
    dsimp only
    have isOther : edge.isPower = false := decide_eq_false power
    split
    · rename_i noSource
      simp only [Bool.and_eq_true, Bool.not_eq_true'] at noSource
      refine .inl ⟨Bool.eq_false_iff.mpr fun isLegacy => ?_, rfl⟩
      rcases (legacy.mp isLegacy).2 with isSource | isSource
      · rw [noSource.1] at isSource
        cases isSource
      · rw [noSource.2] at isSource
        cases isSource
    · rename_i someSource
      have either : isPowerSource source.type = true ∨ isPowerSource target.type = true := by
        cases isSource : isPowerSource source.type with
        | true => exact .inl rfl
        | false =>
            right
            simpa [isSource] using someSource
      refine .inr ⟨legacy.mpr ⟨isOther, either⟩, ?_⟩
      split
      · rename_i instead
        refine ⟨target, targetStored, source, sourceStored, .inr ⟨targetID, sourceID⟩, ?_, rfl⟩
        unfold feedsInstead at instead
        split at instead
        · cases instead
        · rename_i isSource
          simpa using isSource
      · rename_i notInstead
        refine ⟨source, sourceStored, target, targetStored, .inl ⟨sourceID, targetID⟩, ?_, rfl⟩
        unfold feedsInstead at notInstead
        rcases either with isSource | isTarget
        · exact isSource
        · simp only [isTarget, Bool.not_true, Bool.false_eq_true, if_false] at notInstead
          split at notInstead
          · exact absurd rfl notInstead
          · rename_i isSource
            simpa using isSource

end Step

/-! ## The plan after some of the cables -/

/-- The power cables there are once a plan is carried out. -/
def LegacyPowerPlan.cables (edges : List EdgeRow) (plan : LegacyPowerPlan) : List EdgeRow :=
  edges.filter EdgeRow.isPower ++ plan.converted

structure Planned (floats : Floats) (topology : StoredTopology) (done : List EdgeRow)
    (planning : Planning) : Prop where
  usedOut : planning.usedOut = (planning.plan.cables topology.edges).map EdgeRow.socket
  usedIn : planning.usedIn = (planning.plan.cables topology.edges).map EdgeRow.input
  feeds : planning.feeds = (planning.plan.cables topology.edges).map EdgeRow.ends
  wired : Wired floats topology.nodes (planning.plan.sockets floats)
    (planning.plan.cables topology.edges)
  grown : ∀ id count, planning.plan.outlets.lookup id = some count →
    ∃ node ∈ topology.nodes, node.id = id ∧ isPowerSource node.type = true ∧
      node.outlets floats ≤ count ∧ count ≤ 48
  idle : planning.plan.converted = [] → planning.plan.outlets = []
  settled : (planning.plan.converted.map EdgeRow.id ++ planning.plan.dropped).Perm
    ((done.filter (isLegacy topology.nodes)).map EdgeRow.id)
  rewritten : ∀ new ∈ planning.plan.converted, ∃ old ∈ done,
    isLegacy topology.nodes old = true ∧ Converts old new

section Invariant

variable {floats : Floats} {topology : StoredTopology} {done : List EdgeRow}
  {planning : Planning} {edge : EdgeRow}

theorem Planned.skip (planned : Planned floats topology done planning)
    (other : isLegacy topology.nodes edge = false) :
    Planned floats topology (done ++ [edge]) planning where
  usedOut := planned.usedOut
  usedIn := planned.usedIn
  feeds := planned.feeds
  wired := planned.wired
  grown := planned.grown
  idle := planned.idle
  settled := by
    rw [List.filter_append, List.filter_singleton, other]
    simpa using planned.settled
  rewritten := by
    intro new member
    rcases planned.rewritten new member with ⟨old, inDone, legacy, converts⟩
    exact ⟨old, List.mem_append_left _ inDone, legacy, converts⟩

theorem Planned.drop (planned : Planned floats topology done planning)
    (legacy : isLegacy topology.nodes edge = true) (cable : NoticeCable) (reason : DropReason) :
    Planned floats topology (done ++ [edge]) (planning.drop edge cable reason) where
  usedOut := planned.usedOut
  usedIn := planned.usedIn
  feeds := planned.feeds
  wired := planned.wired
  grown := planned.grown
  idle := planned.idle
  settled := by
    rw [List.filter_append, List.filter_singleton, legacy, List.map_append]
    simp only [Planning.drop, ← List.append_assoc]
    exact planned.settled.append_right _
  rewritten := by
    intro new member
    rcases planned.rewritten new member with ⟨old, inDone, legacy, converts⟩
    exact ⟨old, List.mem_append_left _ inDone, legacy, converts⟩

private theorem socketIndex_asPowerCable (edge : EdgeRow) (feeder fed : UUID) {socket : Nat}
    (input : Nat) (small : socket < 48) :
    (edge.asPowerCable feeder socket fed input).socketIndex = socket :=
  powerHandleIndex_append small powerOutPrefix

private theorem inputIndex_asPowerCable (edge : EdgeRow) (feeder fed : UUID) (socket : Nat)
    {input : Nat} (small : input < 48) :
    (edge.asPowerCable feeder socket fed input).inputIndex = input :=
  powerHandleIndex_append small powerInPrefix

private theorem sockets_convert (floats : Floats) (planning : Planning) (edge : EdgeRow)
    {feeder node : NodeRow} (fed : NodeRow) (feederStored : feeder ∈ topology.nodes)
    (stored : node ∈ topology.nodes) (cable : NoticeCable) (socket input : Nat) :
    planning.plan.sockets floats node ≤
        (planning.convert floats edge feeder fed cable socket input).plan.sockets floats node ∧
      (node = feeder → (socket : Int) <
        (planning.convert floats edge feeder fed cable socket input).plan.sockets floats node) := by
  have same : node = feeder → node.id = feeder.id := fun equal => by rw [equal]
  simp only [LegacyPowerPlan.sockets, Planning.convert]
  split
  · rename_i full
    rw [Table.lookup_set]
    by_cases isFeeder : node.id = feeder.id
    · have equal := Keyed.eq_of_key_eq topology.nodeIDs stored feederStored isFeeder
      subst equal
      rw [if_pos rfl, Option.getD_some]
      exact ⟨by omega, fun _ => by omega⟩
    · rw [if_neg isFeeder]
      exact ⟨le_rfl, fun equal => absurd (same equal) isFeeder⟩
  · rename_i room
    refine ⟨le_rfl, ?_⟩
    intro equal
    subst equal
    exact not_le.mp room

theorem Planned.convert (planned : Planned floats topology done planning)
    (legacy : isLegacy topology.nodes edge = true) {feeder fed : NodeRow}
    (feederStored : feeder ∈ topology.nodes) (fedStored : fed ∈ topology.nodes)
    (joins : edge.Joins feeder.id fed.id) (isSource : isPowerSource feeder.type = true)
    {socket input : Nat} (found : Convertible floats planning feeder fed socket input)
    (cable : NoticeCable) :
    Planned floats topology (done ++ [edge])
      (planning.convert floats edge feeder fed cable socket input) := by
  have inputSmall : input < 48 := by
    have few := powerInputCount_le floats fed.type fed.knownDetails
    have below : (input : Int) < powerInputCount floats fed.type fed.knownDetails :=
      found.inputSmall
    omega
  have socketOf := socketIndex_asPowerCable edge feeder.id fed.id input found.socketSmall
  have inputOf := inputIndex_asPowerCable edge feeder.id fed.id socket inputSmall
  have cables : (planning.convert floats edge feeder fed cable socket input).plan.cables
      topology.edges = planning.plan.cables topology.edges ++
        [edge.asPowerCable feeder.id socket fed.id input] := by
    simp [LegacyPowerPlan.cables, Planning.convert]
  have newSocket : (edge.asPowerCable feeder.id socket fed.id input).socket =
      (feeder.id, (socket : Int)) := by
    rw [EdgeRow.socket, socketOf]
    rfl
  have newInput : (edge.asPowerCable feeder.id socket fed.id input).input =
      (fed.id, (input : Int)) := by
    rw [EdgeRow.input, inputOf]
    rfl
  have socketFree := found.socketFree
  have inputFree := found.inputFree
  have noLoop := found.noLoop
  rw [planned.usedOut] at socketFree
  rw [planned.usedIn] at inputFree
  rw [planned.feeds] at noLoop
  refine ⟨?_, ?_, ?_, ⟨?_, ?_, ?_, ?_⟩, ?_, ?_, ?_, ?_⟩
  · rw [cables, List.map_append, ← planned.usedOut, List.map_singleton, newSocket]
    rfl
  · rw [cables, List.map_append, ← planned.usedIn, List.map_singleton, newInput]
    rfl
  · rw [cables, List.map_append, ← planned.feeds, List.map_singleton]
    rfl
  · rw [cables]
    intro other member
    rcases List.mem_append.mp member with old | new
    · have plugged := planned.wired.plugged other old
      rcases plugged.feeder with ⟨node, stored, sameID, isFeeder, low, high⟩
      have grows := (sockets_convert floats planning edge fed feederStored stored cable socket
        input).1
      exact ⟨plugged.power, ⟨node, stored, sameID, isFeeder, low, lt_of_lt_of_le high grows⟩,
        plugged.fed, plugged.apart⟩
    · rw [List.mem_singleton.mp new]
      have room := (sockets_convert floats planning edge fed feederStored feederStored cable socket
        input).2 rfl
      refine ⟨rfl, ⟨feeder, feederStored, rfl, isSource, ?_, ?_⟩, ⟨fed, fedStored, rfl, ?_, ?_⟩, ?_⟩
      · rw [socketOf]
        omega
      · rw [socketOf]
        exact room
      · rw [inputOf]
        omega
      · rw [inputOf]
        exact found.inputSmall
      · intro same
        apply noLoop
        have equal : feeder.id = fed.id := same
        rw [equal]
  · rw [cables, List.map_append, List.map_singleton, newSocket]
    apply List.nodup_append.mpr
    refine ⟨planned.wired.sockets, List.nodup_singleton _, ?_⟩
    intro used isUsed new isNew same
    exact socketFree (List.mem_singleton.mp isNew ▸ same ▸ isUsed)
  · rw [cables, List.map_append, List.map_singleton, newInput]
    apply List.nodup_append.mpr
    refine ⟨planned.wired.inputs, List.nodup_singleton _, ?_⟩
    intro used isUsed new isNew same
    exact inputFree (List.mem_singleton.mp isNew ▸ same ▸ isUsed)
  · rw [cables, List.map_append, List.map_singleton]
    apply Arcs.Acyclic.insert planned.wired.acyclic _ noLoop
    intro arc member
    rcases List.mem_append.mp member with old | new
    · exact .inl old
    · exact .inr (List.mem_singleton.mp new)
  · intro id count written
    simp only [Planning.convert] at written
    split at written
    · rename_i full
      rw [Table.lookup_set] at written
      split at written
      · rename_i isFeeder
        cases written
        have small := found.socketSmall
        refine ⟨feeder, feederStored, isFeeder.symm, isSource, ?_, by omega⟩
        -- What the source had grown to before is no less than what it is stored with.
        cases before : planning.plan.outlets.lookup feeder.id with
        | none =>
            rw [before, Option.getD_none] at full
            omega
        | some grown =>
            rcases planned.grown _ _ before with ⟨node, stored, sameID, _, more, _⟩
            rw [Keyed.eq_of_key_eq topology.nodeIDs stored feederStored sameID] at more
            rw [before, Option.getD_some] at full
            omega
      · exact planned.grown id count written
    · exact planned.grown id count written
  · intro empty
    simp [Planning.convert] at empty
  · rw [List.filter_append, List.filter_singleton, legacy, List.map_append]
    simp only [Planning.convert, List.map_append, List.map_singleton, cond_true]
    have sameID : (edge.asPowerCable feeder.id socket fed.id input).id = edge.id := rfl
    rw [sameID, List.append_assoc]
    have moved : ([edge.id] ++ planning.plan.dropped).Perm (planning.plan.dropped ++ [edge.id]) :=
      List.perm_append_comm
    exact (moved.append_left _).trans (by
      rw [← List.append_assoc]
      exact planned.settled.append_right _)
  · intro new member
    rcases List.mem_append.mp member with old | isNew
    · rcases planned.rewritten new old with ⟨stored, inDone, legacy, converts⟩
      exact ⟨stored, List.mem_append_left _ inDone, legacy, converts⟩
    · rw [List.mem_singleton.mp isNew]
      exact ⟨edge, List.mem_append_right _ List.mem_cons_self, legacy,
        feeder.id, socket, fed.id, input, joins, rfl⟩

theorem Planned.step (planned : Planned floats topology done planning)
    (stored : edge ∈ topology.edges) :
    Planned floats topology (done ++ [edge]) (planEdge floats topology.nodes planning edge) := by
  rcases planEdge_cases floats topology planning stored with
    ⟨other, unchanged⟩ |
    ⟨legacy, feeder, feederStored, fed, fedStored, joins, isSource, planned'⟩
  · rw [unchanged]
    exact planned.skip other
  · rw [planned']
    rcases planCable_cases floats planning edge feeder fed with
      ⟨cable, reason, dropped⟩ | ⟨cable, socket, input, found, converted⟩
    · rw [dropped]
      exact planned.drop legacy cable reason
    · rw [converted]
      exact planned.convert legacy feederStored fedStored joins isSource found cable

theorem Planned.run : ∀ (rest : List EdgeRow) {done : List EdgeRow} {planning : Planning},
    Planned floats topology done planning → (∀ edge ∈ rest, edge ∈ topology.edges) →
    Planned floats topology (done ++ rest) (rest.foldl (planEdge floats topology.nodes) planning)
  | [], done, planning, planned, _ => by
      rw [List.append_nil]
      exact planned
  | edge :: rest, done, planning, planned, stored => by
      have next := Planned.run rest (planned.step (stored edge List.mem_cons_self))
        fun other member => stored other (List.mem_cons_of_mem _ member)
      rw [List.append_assoc] at next
      exact next

theorem foldl_plugExisting : ∀ (edges : List EdgeRow) (planning : Planning),
    edges.foldl plugExisting planning = { planning with
      usedOut := planning.usedOut ++ (edges.filter EdgeRow.isPower).map EdgeRow.socket
      usedIn := planning.usedIn ++ (edges.filter EdgeRow.isPower).map EdgeRow.input
      feeds := planning.feeds ++ (edges.filter EdgeRow.isPower).map EdgeRow.ends }
  | [], planning => by simp
  | edge :: rest, planning => by
      rw [List.foldl_cons, foldl_plugExisting rest, plugExisting]
      by_cases power : edge.type = edgeTypePower
      · rw [if_pos power, List.filter_cons_of_pos (by simp [EdgeRow.isPower, power])]
        simp [Planning.plug, EdgeRow.socket, EdgeRow.input, EdgeRow.ends, EdgeRow.socketIndex,
          EdgeRow.inputIndex]
      · rw [if_neg power, List.filter_cons_of_neg (by simp [EdgeRow.isPower, power])]

theorem planned_of_wired
    (wired : Wired floats topology.nodes (NodeRow.outlets floats)
      (topology.edges.filter EdgeRow.isPower)) :
    Planned floats topology topology.edges
      (topology.edges.foldl (planEdge floats topology.nodes)
        (topology.edges.foldl plugExisting {})) := by
  have started : Planned floats topology [] (topology.edges.foldl plugExisting {}) := by
    rw [foldl_plugExisting]
    refine ⟨?_, ?_, ?_, ?_, nofun, fun _ => rfl, List.Perm.refl _, nofun⟩
    · simp [LegacyPowerPlan.cables]
    · simp [LegacyPowerPlan.cables]
    · simp [LegacyPowerPlan.cables]
    · have same : LegacyPowerPlan.sockets floats {} = NodeRow.outlets floats := rfl
      rw [same]
      simpa [LegacyPowerPlan.cables] using wired
  exact Planned.run topology.edges started fun _ member => member

end Invariant

/-! ## The rows after the conversion -/

def LegacyPowerPlan.grow (plan : LegacyPowerPlan) (node : NodeRow) : NodeRow :=
  match plan.outlets.lookup node.id with
  | none => node
  | some outlets =>
      { node with details := .obj (Table.set node.knownDetails "outlets" (.num outlets)) }

/-- What becomes of a row that is not dropped. -/
def LegacyPowerPlan.rewrite (plan : LegacyPowerPlan) (edge : EdgeRow) : EdgeRow :=
  (plan.converted.find? fun new => new.id = edge.id).getD edge

section Rows

variable {floats : Floats} {topology : StoredTopology} {planning : Planning}

@[simp]
theorem grow_id (plan : LegacyPowerPlan) (node : NodeRow) : (plan.grow node).id = node.id := by
  unfold LegacyPowerPlan.grow
  split <;> rfl

@[simp]
theorem grow_type (plan : LegacyPowerPlan) (node : NodeRow) :
    (plan.grow node).type = node.type := by
  unfold LegacyPowerPlan.grow
  split <;> rfl

theorem grow_inputs (floats : Floats) (plan : LegacyPowerPlan) (node : NodeRow) :
    (plan.grow node).inputs floats = node.inputs floats := by
  unfold LegacyPowerPlan.grow
  split
  · rfl
  · exact powerInputCount_set floats node.type node.knownDetails _

theorem grow_readable (plan : LegacyPowerPlan) {node : NodeRow}
    (readable : (detailsMap node.details).isSome) :
    (detailsMap (plan.grow node).details).isSome := by
  unfold LegacyPowerPlan.grow
  split
  · exact readable
  · rfl

theorem writeOutlets_of_readable (plan : LegacyPowerPlan) {node : NodeRow}
    (readable : (detailsMap node.details).isSome) :
    writeOutlets plan node = some (plan.grow node) := by
  rcases Option.isSome_iff_exists.mp readable with ⟨details, known⟩
  unfold writeOutlets LegacyPowerPlan.grow NodeRow.knownDetails
  cases plan.outlets.lookup node.id with
  | none => rfl
  | some outlets => simp [known]

theorem mapM_writeOutlets (plan : LegacyPowerPlan) : ∀ {nodes : List NodeRow},
    (∀ node ∈ nodes, (detailsMap node.details).isSome) →
    nodes.mapM (writeOutlets plan) = some (nodes.map plan.grow)
  | [], _ => rfl
  | node :: rest, readable => by
      rw [List.mapM_cons, writeOutlets_of_readable plan (readable node List.mem_cons_self),
        mapM_writeOutlets plan fun other member => readable other (List.mem_cons_of_mem _ member)]
      rfl

@[simp]
theorem rewrite_id (plan : LegacyPowerPlan) (edge : EdgeRow) :
    (plan.rewrite edge).id = edge.id := by
  unfold LegacyPowerPlan.rewrite
  cases found : plan.converted.find? fun new => new.id = edge.id with
  | none => rfl
  | some new => simpa using List.find?_some found

theorem Planned.outlets_grow {done : List EdgeRow}
    (planned : Planned floats topology done planning) {node : NodeRow}
    (stored : node ∈ topology.nodes) :
    (planning.plan.grow node).outlets floats = planning.plan.sockets floats node := by
  unfold LegacyPowerPlan.grow LegacyPowerPlan.sockets
  cases written : planning.plan.outlets.lookup node.id with
  | none => rfl
  | some count =>
      rcases planned.grown node.id count written with
        ⟨other, otherStored, sameID, isSource, more, few⟩
      rw [Keyed.eq_of_key_eq topology.nodeIDs otherStored stored sameID] at isSource more
      have least := (powerOutputCount_of_isPowerSource isSource floats node.knownDetails).1
      have atLeast : node.outlets floats = powerOutputCount floats node.type node.knownDetails := rfl
      exact powerOutputCount_set isSource floats node.knownDetails (by omega) few

theorem Planned.sockets_le {done : List EdgeRow} (planned : Planned floats topology done planning)
    {node : NodeRow} (stored : node ∈ topology.nodes) :
    node.outlets floats ≤ planning.plan.sockets floats node := by
  unfold LegacyPowerPlan.sockets
  cases written : planning.plan.outlets.lookup node.id with
  | none => exact le_rfl
  | some count =>
      rcases planned.grown node.id count written with ⟨other, otherStored, sameID, _, more, _⟩
      rwa [Keyed.eq_of_key_eq topology.nodeIDs otherStored stored sameID] at more

theorem foldl_writeConverted : ∀ (converted edges : List EdgeRow),
    (converted.map EdgeRow.id).Nodup →
    (∀ new ∈ converted, ∀ old ∈ edges, old.id = new.id → Converts old new ∨ old = new) →
    converted.foldl writeConverted edges =
      edges.map fun edge => (converted.find? fun new => new.id = edge.id).getD edge
  | [], edges, _, _ => by simp
  | new :: rest, edges, distinct, agree => by
      rw [List.map_cons, List.nodup_cons] at distinct
      have written : writeConverted edges new =
          edges.map fun edge => if edge.id = new.id then new else edge := by
        apply List.map_congr_left
        intro old member
        by_cases same : old.id = new.id
        · rw [if_pos same, if_pos same]
          rcases agree new List.mem_cons_self old member same with converts | equal
          · rcases converts with ⟨feeder, socket, fed, input, _, rfl⟩
            rfl
          · rw [equal]
        · rw [if_neg same, if_neg same]
      rw [List.foldl_cons, written, foldl_writeConverted rest _ distinct.2, List.map_map]
      · apply List.map_congr_left
        intro old member
        by_cases same : old.id = new.id
        · have missing : (rest.find? fun other => other.id = new.id) = none := by
            rw [List.find?_eq_none]
            intro other inRest equal
            exact distinct.1 (List.mem_map.mpr ⟨other, inRest, of_decide_eq_true equal⟩)
          simp [same, missing]
        · have different : ¬ new.id = old.id := fun equal => same equal.symm
          simp [same, different]
      · intro later inRest old member sameID
        rcases List.mem_map.mp member with ⟨stored, inEdges, equal⟩
        by_cases same : stored.id = new.id
        · rw [if_pos same] at equal
          subst equal
          exact absurd (List.mem_map.mpr ⟨later, inRest, sameID.symm⟩) distinct.1
        · rw [if_neg same] at equal
          subst equal
          exact agree later (List.mem_cons_of_mem _ inRest) stored inEdges sameID

section Settled

variable (planned : Planned floats topology topology.edges planning)

include planned

theorem Planned.ids_nodup :
    (planning.plan.converted.map EdgeRow.id ++ planning.plan.dropped).Nodup := by
  apply planned.settled.nodup_iff.mpr
  exact topology.edgeIDs.sublist (List.filter_sublist.map _)

theorem Planned.mem_ids_iff {edge : EdgeRow} (stored : edge ∈ topology.edges) :
    (edge.id ∈ planning.plan.converted.map EdgeRow.id ∨ edge.id ∈ planning.plan.dropped) ↔
      isLegacy topology.nodes edge = true := by
  rw [← List.mem_append, planned.settled.mem_iff, List.mem_map]
  constructor
  · intro found
    rcases found with ⟨other, member, sameID⟩
    rcases List.mem_filter.mp member with ⟨otherStored, legacy⟩
    rwa [Keyed.eq_of_key_eq topology.edgeIDs otherStored stored sameID] at legacy
  · exact fun legacy => ⟨edge, List.mem_filter.mpr ⟨stored, legacy⟩, rfl⟩

theorem Planned.not_mem_ids {edge : EdgeRow} (stored : edge ∈ topology.edges)
    (other : isLegacy topology.nodes edge = false) :
    edge.id ∉ planning.plan.converted.map EdgeRow.id ∧ edge.id ∉ planning.plan.dropped := by
  have isOther : ¬ isLegacy topology.nodes edge = true := by simp [other]
  exact not_or.mp ((not_congr (planned.mem_ids_iff stored)).mpr isOther)

theorem Planned.rewrite_other {edge : EdgeRow} (stored : edge ∈ topology.edges)
    (other : isLegacy topology.nodes edge = false) : planning.plan.rewrite edge = edge := by
  have missing : (planning.plan.converted.find? fun new => new.id = edge.id) = none := by
    rw [List.find?_eq_none]
    intro new member sameID
    exact (planned.not_mem_ids stored other).1
      (List.mem_map.mpr ⟨new, member, of_decide_eq_true sameID⟩)
  rw [LegacyPowerPlan.rewrite, missing, Option.getD_none]

theorem Planned.writeEdges_eq :
    writeEdges planning.plan topology.edges =
      (topology.edges.map planning.plan.rewrite).filter fun edge =>
        edge.id ∉ planning.plan.dropped := by
  rw [writeEdges, foldl_writeConverted]
  · rfl
  · exact (List.nodup_append.mp planned.ids_nodup).1
  · intro new member old stored sameID
    rcases planned.rewritten new member with ⟨source, sourceStored, _, converts⟩
    have rowID : new.id = source.id := by
      rcases converts with ⟨_, _, _, _, _, rfl⟩
      rfl
    rw [Keyed.eq_of_key_eq topology.edgeIDs stored sourceStored (sameID.trans rowID)]
    exact .inl converts

theorem Planned.mem_writeEdges {edge : EdgeRow} :
    edge ∈ writeEdges planning.plan topology.edges ↔ edge ∈ planning.plan.converted ∨
      edge ∈ topology.edges ∧ isLegacy topology.nodes edge = false := by
  have nodup := List.nodup_append.mp planned.ids_nodup
  rw [planned.writeEdges_eq, List.mem_filter, decide_eq_true_eq, List.mem_map]
  constructor
  · intro kept
    rcases kept with ⟨⟨old, stored, rfl⟩, notDropped⟩
    unfold LegacyPowerPlan.rewrite at notDropped ⊢
    cases found : planning.plan.converted.find? fun new => new.id = old.id with
    | some new => exact .inl (List.mem_of_find?_eq_some found)
    | none =>
        rw [found, Option.getD_none] at notDropped
        rw [Option.getD_none]
        refine .inr ⟨stored, Bool.eq_false_iff.mpr fun legacy => ?_⟩
        rcases (planned.mem_ids_iff stored).mpr legacy with converted | dropped
        · rcases List.mem_map.mp converted with ⟨new, member, sameID⟩
          rw [List.find?_eq_none] at found
          exact found new member (decide_eq_true sameID)
        · exact notDropped dropped
  · intro either
    rcases either with converted | ⟨stored, other⟩
    · rcases planned.rewritten edge converted with ⟨old, stored, _, converts⟩
      have rowID : edge.id = old.id := by
        rcases converts with ⟨_, _, _, _, _, rfl⟩
        rfl
      refine ⟨⟨old, stored, ?_⟩, ?_⟩
      · rw [LegacyPowerPlan.rewrite, ← rowID, Keyed.find?_key nodup.1 converted, Option.getD_some]
      · intro dropped
        exact nodup.2.2 edge.id (List.mem_map_of_mem converted) edge.id dropped rfl
    · exact ⟨⟨edge, stored, planned.rewrite_other stored other⟩,
        (planned.not_mem_ids stored other).2⟩

theorem Planned.ids_writeEdges :
    ((writeEdges planning.plan topology.edges).map EdgeRow.id).Nodup := by
  rw [planned.writeEdges_eq]
  apply List.Nodup.sublist (List.filter_sublist.map _)
  rw [List.map_map]
  have same : EdgeRow.id ∘ planning.plan.rewrite = EdgeRow.id := funext (rewrite_id planning.plan)
  rw [same]
  exact topology.edgeIDs

theorem Planned.powerCables_perm :
    ((writeEdges planning.plan topology.edges).filter EdgeRow.isPower).Perm
      (planning.plan.cables topology.edges) := by
  have left : ((writeEdges planning.plan topology.edges).filter EdgeRow.isPower).Nodup :=
    planned.ids_writeEdges.of_map.filter _
  apply (List.perm_ext_iff_of_nodup left planned.wired.sockets.of_map).mpr
  intro edge
  rw [List.mem_filter, planned.mem_writeEdges, LegacyPowerPlan.cables, List.mem_append,
    List.mem_filter]
  constructor
  · intro kept
    rcases kept with ⟨converted | ⟨stored, _⟩, power⟩
    · exact .inr converted
    · exact .inl ⟨stored, power⟩
  · intro planned'
    rcases planned' with ⟨stored, power⟩ | converted
    · refine ⟨.inr ⟨stored, ?_⟩, power⟩
      rw [isLegacy, power]
      rfl
    · rcases planned.rewritten edge converted with ⟨_, _, _, _, _, _, _, _, rfl⟩
      exact ⟨.inl converted, rfl⟩

end Settled

theorem isLegacy_grow (plan : LegacyPowerPlan) (nodes : List NodeRow) (edge : EdgeRow) :
    isLegacy (nodes.map plan.grow) edge = isLegacy nodes edge := by
  simp only [isLegacy, List.any_map, Function.comp_def, grow_id, grow_type]

def Planned.after (planned : Planned floats topology topology.edges planning) :
    StoredTopology where
  nodes := topology.nodes.map planning.plan.grow
  edges := writeEdges planning.plan topology.edges
  nodeIDs := by
    rw [List.map_map]
    have same : NodeRow.id ∘ planning.plan.grow = NodeRow.id := funext (grow_id planning.plan)
    rw [same]
    exact topology.nodeIDs
  edgeIDs := planned.ids_writeEdges
  joined := by
    have grown : ∀ {id : UUID}, (∃ node ∈ topology.nodes, node.id = id) →
        ∃ node ∈ topology.nodes.map planning.plan.grow, node.id = id := by
      intro id found
      rcases found with ⟨node, stored, sameID⟩
      exact ⟨_, List.mem_map_of_mem stored, (grow_id _ node).trans sameID⟩
    intro edge member
    rcases planned.mem_writeEdges.mp member with converted | ⟨stored, _⟩
    · rcases planned.rewritten edge converted with
        ⟨old, stored, _, feeder, socket, fed, input, joins, rfl⟩
      rcases topology.joined old stored with ⟨source, target⟩
      rcases joins with ⟨rfl, rfl⟩ | ⟨rfl, rfl⟩
      · exact ⟨grown source, grown target⟩
      · exact ⟨grown target, grown source⟩
    · rcases topology.joined edge stored with ⟨source, target⟩
      exact ⟨grown source, grown target⟩
  readable := by
    intro node member
    rcases List.mem_map.mp member with ⟨old, stored, rfl⟩
    exact grow_readable planning.plan (topology.readable old stored)

theorem Planned.wired_after (planned : Planned floats topology topology.edges planning) :
    Wired floats planned.after.nodes (NodeRow.outlets floats)
      (planned.after.edges.filter EdgeRow.isPower) := by
  have perm : (planned.after.edges.filter EdgeRow.isPower).Perm
      (planning.plan.cables topology.edges) := planned.powerCables_perm
  refine ⟨?_, ?_, ?_, ?_⟩
  · intro edge member
    have plugged := planned.wired.plugged edge (perm.mem_iff.mp member)
    rcases plugged.feeder with ⟨feeder, feederStored, feederID, isSource, low, high⟩
    rcases plugged.fed with ⟨fed, fedStored, fedID, inputLow, inputHigh⟩
    refine ⟨plugged.power, ⟨planning.plan.grow feeder, List.mem_map_of_mem feederStored,
      (grow_id _ feeder).trans feederID, ?_, low, ?_⟩, ⟨planning.plan.grow fed,
      List.mem_map_of_mem fedStored, (grow_id _ fed).trans fedID, inputLow, ?_⟩, plugged.apart⟩
    · rwa [grow_type]
    · rwa [planned.outlets_grow feederStored]
    · rwa [grow_inputs]
  · exact (perm.map _).nodup_iff.mpr planned.wired.sockets
  · exact (perm.map _).nodup_iff.mpr planned.wired.inputs
  · exact planned.wired.acyclic.of_subset (perm.map _).subset

end Rows

/-! ## The conversion -/

/-- What the conversion of a topology promises. -/
structure PowerConversion (floats : Floats) (before : StoredTopology) (plan : LegacyPowerPlan)
    (after : StoredTopology) : Prop where
  /-- No cable at a power source is anything but a power cable. -/
  complete : ∀ edge ∈ after.edges, isLegacy after.nodes edge = false
  /-- Every such cable was either converted or dropped. -/
  settled : ∀ edge ∈ before.edges, isLegacy before.nodes edge = true →
    Xor (edge.id ∈ plan.converted.map EdgeRow.id) (edge.id ∈ plan.dropped)
  onlyLegacy : ∀ id ∈ plan.converted.map EdgeRow.id ++ plan.dropped,
    ∃ edge ∈ before.edges, edge.id = id ∧ isLegacy before.nodes edge = true
  converted : ∀ new ∈ plan.converted, new ∈ after.edges ∧ ∃ old ∈ before.edges, Converts old new
  dropped : ∀ edge ∈ after.edges, edge.id ∉ plan.dropped
  /-- All other edges, existing power cables among them, are as they were. -/
  others : after.edges.filter (fun edge => edge.id ∉ plan.converted.map EdgeRow.id) =
    before.edges.filter fun edge => !isLegacy before.nodes edge
  sockets : ((after.edges.filter EdgeRow.isPower).map EdgeRow.socket).Nodup
  inputs : ((after.edges.filter EdgeRow.isPower).map EdgeRow.input).Nodup
  belowCount : ∀ edge ∈ after.edges, edge.isPower = true → ∃ node ∈ after.nodes,
    node.id = edge.sourceNodeID ∧ 0 ≤ edge.socketIndex ∧ edge.socketIndex < node.outlets floats
  /-- Nodes are as they were, but for counts of sockets that were raised. -/
  counts : List.Forall₂ (fun old new => old.outlets floats ≤ new.outlets floats ∧
    old.inputs floats = new.inputs floats ∧ (new = old ∨ ∃ count : Int,
      new = { old with details := .obj (Table.set old.knownDetails "outlets" (.num count)) }))
    before.nodes after.nodes
  acyclic : Arcs.Acyclic ((after.edges.filter EdgeRow.isPower).map EdgeRow.ends)
  /-- The save validation finds nothing wrong with the power cables. -/
  rules : edgeIssues floats (inputNodes after.nodes)
    (inputEdges (after.edges.filter EdgeRow.isPower)) = []
  /-- Nor with power in the whole graph, as long as no network cable that was
  no old power cable sits on a power port. -/
  validation : (∀ edge ∈ before.edges, edge.isPower = false →
      isLegacy before.nodes edge = false → EdgeScan.isPowerHandle edge.sourceHandle = false ∧
        EdgeScan.isPowerHandle edge.targetHandle = false) →
    ∀ issue ∈ edgeIssues floats (inputNodes after.nodes) (inputEdges after.edges),
      issue.isAboutPower = false
  idempotent : (planLegacyPowerCables floats after.nodes after.edges).isEmpty = true

section Conversion

variable {floats : Floats} {topology : StoredTopology} {planning : Planning}

theorem Planned.not_legacy_after (planned : Planned floats topology topology.edges planning)
    {edge : EdgeRow} (kept : edge ∈ planned.after.edges) :
    isLegacy planned.after.nodes edge = false := by
  have same : isLegacy planned.after.nodes edge = isLegacy topology.nodes edge :=
    isLegacy_grow planning.plan topology.nodes edge
  rw [same]
  rcases planned.mem_writeEdges.mp kept with converted | ⟨_, other⟩
  · rcases planned.rewritten edge converted with ⟨_, _, _, _, _, _, _, _, rfl⟩
    rfl
  · exact other

theorem planLegacyPowerCables_of_none (floats : Floats) {topology : StoredTopology}
    (none_ : ∀ edge ∈ topology.edges, isLegacy topology.nodes edge = false) :
    (planLegacyPowerCables floats topology.nodes topology.edges).isEmpty = true := by
  have still : ∀ (rest : List EdgeRow) (planning : Planning),
      (∀ edge ∈ rest, edge ∈ topology.edges) →
      rest.foldl (planEdge floats topology.nodes) planning = planning := by
    intro rest
    induction rest with
    | nil => exact fun _ _ => rfl
    | cons edge rest induction =>
        intro planning stored
        have member := stored edge List.mem_cons_self
        rcases planEdge_cases floats topology planning member with ⟨_, unchanged⟩ | ⟨legacy, _⟩
        · rw [List.foldl_cons, unchanged]
          exact induction planning fun other inRest => stored other (List.mem_cons_of_mem _ inRest)
        · rw [none_ edge member] at legacy
          cases legacy
  rw [planLegacyPowerCables, still topology.edges _ fun _ member => member, foldl_plugExisting]
  rfl

theorem Planned.others_after (planned : Planned floats topology topology.edges planning) :
    planned.after.edges.filter (fun edge => edge.id ∉ planning.plan.converted.map EdgeRow.id) =
      topology.edges.filter fun edge => !isLegacy topology.nodes edge := by
  have written : planned.after.edges = _ := planned.writeEdges_eq
  rw [written, List.filter_filter, List.filter_map]
  have kept : (topology.edges.filter ((fun edge : EdgeRow =>
      decide (edge.id ∉ planning.plan.converted.map EdgeRow.id) &&
        decide (edge.id ∉ planning.plan.dropped)) ∘ planning.plan.rewrite)) =
      topology.edges.filter fun edge => !isLegacy topology.nodes edge := by
    apply List.filter_congr
    intro edge stored
    have either := planned.mem_ids_iff stored
    rw [Function.comp_apply, rewrite_id]
    cases legacy : isLegacy topology.nodes edge with
    | true =>
        rcases either.mpr legacy with converted | dropped
        · simp only [converted, not_true, decide_false, Bool.false_and, Bool.not_true]
        · simp only [dropped, not_true, decide_false, Bool.and_false, Bool.not_true]
    | false =>
        have apart := planned.not_mem_ids stored legacy
        simp only [apart.1, apart.2, not_false_eq_true, decide_true, Bool.and_true, Bool.not_false]
  rw [kept]
  calc
    (topology.edges.filter fun edge => !isLegacy topology.nodes edge).map planning.plan.rewrite =
        (topology.edges.filter fun edge => !isLegacy topology.nodes edge).map id := by
      apply List.map_congr_left
      intro edge member
      rcases List.mem_filter.mp member with ⟨stored, other⟩
      exact planned.rewrite_other stored (by simpa using other)
    _ = _ := List.map_id _

theorem Planned.counts_after (planned : Planned floats topology topology.edges planning) :
    List.Forall₂ (fun old new => old.outlets floats ≤ new.outlets floats ∧
      old.inputs floats = new.inputs floats ∧ (new = old ∨ ∃ count : Int,
        new = { old with details := .obj (Table.set old.knownDetails "outlets" (.num count)) }))
      topology.nodes planned.after.nodes := by
  apply List.forall₂_map_right_iff.mpr
  apply List.forall₂_same.mpr
  intro node stored
  refine ⟨?_, (grow_inputs floats planning.plan node).symm, ?_⟩
  · rw [planned.outlets_grow stored]
    exact planned.sockets_le stored
  · unfold LegacyPowerPlan.grow
    split
    · exact .inl rfl
    · exact .inr ⟨_, rfl⟩

theorem Planned.convert_eq (planned : Planned floats topology topology.edges planning)
    (isPlan : planning.plan = planLegacyPowerCables floats topology.nodes topology.edges) :
    convertLegacyPowerCables floats topology.nodes topology.edges =
      some (planned.after.nodes, planned.after.edges) := by
  unfold convertLegacyPowerCables
  rw [← isPlan]
  dsimp only
  split
  · rename_i empty
    simp only [LegacyPowerPlan.isEmpty, Bool.and_eq_true, List.isEmpty_iff] at empty
    have same : planning.plan.grow = id := by
      funext node
      rw [LegacyPowerPlan.grow, planned.idle empty.1]
      rfl
    have nodes : planned.after.nodes = topology.nodes := by
      simp only [Planned.after, same, List.map_id]
    have edges : planned.after.edges = topology.edges := by
      simp [Planned.after, writeEdges, empty.1, empty.2]
    rw [nodes, edges]
  · rw [mapM_writeOutlets planning.plan topology.readable]
    rfl

/-- Whatever is stored, as long as the power cables there are keep the rules,
the conversion succeeds and keeps its promise. -/
theorem convertLegacyPowerCables_spec (floats : Floats) (before : StoredTopology)
    (valid : edgeIssues floats (inputNodes before.nodes)
      (inputEdges (before.edges.filter EdgeRow.isPower)) = []) :
    ∃ after : StoredTopology,
      convertLegacyPowerCables floats before.nodes before.edges = some (after.nodes, after.edges) ∧
      PowerConversion floats before (planLegacyPowerCables floats before.nodes before.edges)
        after := by
  have isPower : ∀ edge ∈ before.edges.filter EdgeRow.isPower, edge.isPower = true :=
    fun edge member => (List.mem_filter.mp member).2
  have isPowerDTO : ∀ dto ∈ inputEdges (before.edges.filter EdgeRow.isPower),
      dto.isPower = true := by
    intro dto member
    rcases List.mem_map.mp member with ⟨edge, stored, rfl⟩
    exact isPower edge stored
  have planned := planned_of_wired
    (wired_of_powerRules isPower (powerRules_of_edgeIssues_eq_nil isPowerDTO valid))
  have distinct := List.nodup_append.mp planned.ids_nodup
  have wired := planned.wired_after
  have uniform : ∀ node ∈ inputNodes planned.after.nodes, node.id.toList.length = 36 :=
    fun _ member => length_inputNodes member
  refine ⟨planned.after, planned.convert_eq rfl, ?_⟩
  constructor
  case complete => exact fun edge kept => planned.not_legacy_after kept
  case settled =>
    intro edge stored legacy
    rcases (planned.mem_ids_iff stored).mpr legacy with converted | dropped
    · exact .inl ⟨converted, fun dropped => distinct.2.2 _ converted _ dropped rfl⟩
    · exact .inr ⟨dropped, fun converted => distinct.2.2 _ converted _ dropped rfl⟩
  case onlyLegacy =>
    intro id member
    rcases List.mem_map.mp (planned.settled.mem_iff.mp member) with ⟨edge, found, sameID⟩
    rcases List.mem_filter.mp found with ⟨stored, legacy⟩
    exact ⟨edge, stored, sameID, legacy⟩
  case converted =>
    intro new member
    rcases planned.rewritten new member with ⟨old, stored, _, converts⟩
    exact ⟨planned.mem_writeEdges.mpr (.inl member), old, stored, converts⟩
  case dropped =>
    intro edge kept
    have written : planned.after.edges = _ := rfl
    rw [written] at kept
    exact of_decide_eq_true (List.mem_filter.mp kept).2
  case others => exact planned.others_after
  case sockets => exact wired.sockets
  case inputs => exact wired.inputs
  case belowCount =>
    intro edge kept power
    rcases (wired.plugged edge (List.mem_filter.mpr ⟨kept, power⟩)).feeder with
      ⟨node, stored, sameID, _, low, high⟩
    exact ⟨node, stored, sameID, low, high⟩
  case counts => exact planned.counts_after
  case acyclic => exact wired.acyclic
  case rules =>
    apply edgeIssues_eq_nil_of_powerRules uniform
    · intro dto member
      rcases List.mem_map.mp member with ⟨edge, kept, rfl⟩
      exact (List.mem_filter.mp kept).2
    · apply powerRules_of_wired planned.after.nodeIDs
      rw [List.filter_filter]
      simpa using wired
  case validation =>
    intro plain issue reported
    apply not_isAboutPower_of_powerRules uniform
      (powerRules_of_wired planned.after.nodeIDs wired) _ reported
    intro dto member network
    rcases List.mem_map.mp member with ⟨edge, kept, rfl⟩
    have isNetwork : edge.isPower = false := network
    have other := planned.not_legacy_after kept
    rcases planned.mem_writeEdges.mp kept with converted | ⟨stored, notLegacy⟩
    · rcases planned.rewritten edge converted with ⟨_, _, _, _, _, _, _, _, rfl⟩
      cases isNetwork
    · rcases plain edge stored isNetwork notLegacy with ⟨sourceHandle, targetHandle⟩
      refine ⟨sourceHandle, targetHandle, ?_⟩
      intro id isEnd node found
      by_contra isSource
      have source : isPowerSource node.type = true := by simpa using isSource
      rw [isLegacy, isNetwork, Bool.not_false, Bool.true_and] at other
      have isEndRow : ∃ end_, (end_ = edge.sourceNodeID ∨ end_ = edge.targetNodeID) ∧
          id = end_.text := by
        rcases List.mem_cons.mp isEnd with equal | isEnd
        · exact ⟨edge.sourceNodeID, .inl rfl, equal⟩
        · exact ⟨edge.targetNodeID, .inr rfl, List.mem_singleton.mp isEnd⟩
      rcases isEndRow with ⟨end_, isRowEnd, rfl⟩
      rcases nodesByID_inputNodes found with ⟨row, rowStored, rowID, rfl⟩
      have absent := List.any_eq_false.mp other row rowStored
      apply absent
      simp only [Bool.and_eq_true, Bool.or_eq_true, decide_eq_true_eq, rowID]
      exact ⟨isRowEnd, source⟩
  case idempotent =>
    exact planLegacyPowerCables_of_none floats fun edge kept => planned.not_legacy_after kept

end Conversion

private def upsID : UUID := ⟨"00000000-0000-4000-8000-000000000001", by decide⟩
private def firstServerID : UUID := ⟨"00000000-0000-4000-8000-000000000002", by decide⟩
private def secondServerID : UUID := ⟨"00000000-0000-4000-8000-000000000003", by decide⟩
private def powerCableID : UUID := ⟨"00000000-0000-4000-8000-000000000004", by decide⟩
private def oldCableID : UUID := ⟨"00000000-0000-4000-8000-000000000005", by decide⟩
private def buildID : UUID := ⟨"00000000-0000-4000-8000-000000000006", by decide⟩

/-- The only socket of the UPS is taken when an old cable is met. -/
def fullUPS : StoredTopology where
  nodes :=
    [{ id := upsID, buildID, type := "ups", name := "UPS", details := .obj [("outlets", .num 1)] },
      { id := firstServerID, buildID, type := "server", name := "Server A" },
      { id := secondServerID, buildID, type := "server", name := "Server B" }]
  edges :=
    [{ id := powerCableID, buildID, sourceNodeID := upsID, sourceHandle := "pwr-out-0",
        targetNodeID := firstServerID, targetHandle := "pwr-in-0", type := "power" },
      { id := oldCableID, buildID, sourceNodeID := secondServerID, sourceHandle := "eth0",
        targetNodeID := upsID, targetHandle := "target-0" }]
  nodeIDs := by decide
  edgeIDs := by decide
  joined := by decide
  readable := by decide

/-- Reads no text as a number, and overflows as on amd64. -/
def plainFloats : Floats where
  parseFloat _ := none
  overflow _ := -2 ^ 63

theorem convertLegacyPowerCables_spec_fullUPS :
    ∃ after : StoredTopology,
      convertLegacyPowerCables plainFloats fullUPS.nodes fullUPS.edges =
        some (after.nodes, after.edges) ∧
      PowerConversion plainFloats fullUPS
        (planLegacyPowerCables plainFloats fullUPS.nodes fullUPS.edges) after :=
  convertLegacyPowerCables_spec plainFloats fullUPS (by decide)

/-- The UPS grows a second socket for the old cable. -/
example : (planLegacyPowerCables plainFloats fullUPS.nodes fullUPS.edges).outlets.map Prod.snd =
    [2] := by
  decide

end HomelabBuilder.Services
