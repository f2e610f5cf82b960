import HomelabBuilder.Foundation.Flows
import HomelabBuilder.Foundation.Rows
import HomelabBuilder.Wiring.Power

/-! # Power loads

`checks.go`: the graph of the power cables of a build and what each UPS, PDU and outlet
of it feeds. Watts are exact until they are rounded.
-/

namespace HomelabBuilder.Wiring

/-- A device; `drawW` is its own draw and that of its components. -/
structure Node where
  id : String
  name : String := ""
  type : String
  details : List (String × Json) := []
  drawW : Rat := 0

structure Edge where
  source : String
  sourceHandle : String := ""
  target : String
  targetHandle : String := ""
  type : String := ""
  deriving DecidableEq

structure SourceLoad where
  loadW : Int
  capacityW : Option Int
  socketsUsed : Nat
  sockets : Int
  deriving DecidableEq

/-- A power cable into a node, by input index. -/
structure Feed where
  source : String
  input : Int
  deriving DecidableEq

/-! ## Capacity -/

def defaultVoltage : Rat := 230
def defaultBreakerA : Rat := 16

/-- `math.Round`, half away from zero. -/
def wholeWatts (value : Rat) : Int :=
  if 0 ≤ value then (value + 1 / 2).floor else (value - 1 / 2).ceil

/-- The number of a detail, 0 when it is not one. -/
def numberOr0 (floats : Floats) (details : List (String × Json)) (key : String) : Rat :=
  ((details.lookup key).bind (number floats)).getD 0

def positiveOr (floats : Floats) (details : List (String × Json)) (key : String)
    (fallback : Rat) : Rat :=
  if 0 < numberOr0 floats details key then numberOr0 floats details key else fallback

def outletVoltage (floats : Floats) (details : List (String × Json)) : Rat :=
  positiveOr floats details "voltage" defaultVoltage

/-- What a source can deliver, 0 when unknown. -/
def capacityW (floats : Floats) (nodeType : String) (details : List (String × Json))
    (chainVoltage : Rat) : Rat :=
  if nodeType = "ups" then
    let watts := numberOr0 floats details "capacity_w"
    let va := numberOr0 floats details "capacity_va"
    if 0 < watts then watts else if 0 < va then wholeWatts (va * (6 / 10)) else 0
  else if nodeType = "pdu" then
    let volts := if chainVoltage ≤ 0 then defaultVoltage else chainVoltage
    let amps := numberOr0 floats details "amps"
    if 0 < amps then amps * volts else 0
  else if nodeType = "power_outlet" then
    positiveOr floats details "breaker_amps" defaultBreakerA * outletVoltage floats details
  else 0

/-! ## The graph -/

/-- The nodes and the power cables between them. -/
structure PowerGraph where
  nodes : List Node
  cables : List Edge

namespace PowerGraph

/-- `graph.nodes`: the last node keeps an id. -/
def node (nodes : List Node) (id : String) : Option Node :=
  nodes.reverse.find? fun node => node.id = id

end PowerGraph

def newPowerGraph (nodes : List Node) (edges : List Edge) : PowerGraph where
  nodes := nodes
  cables := edges.filter fun edge => edge.type = edgeTypePower &&
    (PowerGraph.node nodes edge.source).isSome && (PowerGraph.node nodes edge.target).isSome

namespace PowerGraph

variable (graph : PowerGraph)

/-- The cables that leave a source, in edge order. -/
def out (id : String) : List Edge := graph.cables.filter fun edge => edge.source = id

def feeds (id : String) : List Feed :=
  ((graph.cables.filter fun edge => edge.target = id).map fun edge =>
    Feed.mk edge.source (powerHandleIndex edge.targetHandle powerInPrefix)).mergeSort
      fun left right => left.input ≤ right.input

def pluggedInputs (id : String) : Nat := ((graph.feeds id).map Feed.input).dedup.length

/-- The voltage of the outlet at the top of the chain of first feeds. -/
def chainVoltageFrom (floats : Floats) : Nat → List String → String → Rat
  | 0, _, _ => defaultVoltage
  | fuel + 1, visited, current =>
      if current ∈ visited then defaultVoltage
      else
        match node graph.nodes current with
        | none => defaultVoltage
        | some found =>
            if found.type = "power_outlet" then outletVoltage floats found.details
            else
              match graph.feeds current with
              | [] => defaultVoltage
              | feed :: _ => chainVoltageFrom floats fuel (current :: visited) feed.source

def chainVoltage (floats : Floats) (id : String) : Rat :=
  graph.chainVoltageFrom floats (graph.nodes.length + 1) [] id

end PowerGraph

/-! ## Loads -/

/-- What is remembered, and the sources that are being computed. -/
structure LoadCalc where
  demand : List (String × Rat) := []
  load : List (String × Rat) := []
  visiting : List String := []

namespace LoadCalc

variable (graph : PowerGraph)

/-- `demandOf`; no result stands for a computation that has run out of rounds. -/
def demandOf (loadOf : LoadCalc → String → Option (Rat × LoadCalc)) (memo : LoadCalc)
    (id : String) : Option (Rat × LoadCalc) :=
  match memo.demand.lookup id with
  | some value => some (value, memo)
  | none =>
      if id ∈ memo.visiting then some (0, memo)
      else
        match PowerGraph.node graph.nodes id with
        | none => none
        | some node =>
            if isPowerSource node.type then
              (loadOf memo id).map fun (load, after) =>
                (node.drawW + load,
                  { after with demand := Table.set after.demand id (node.drawW + load) })
            else some (node.drawW, { memo with demand := Table.set memo.demand id node.drawW })

/-- The demands behind the cables of a source, each shared among the plugged inputs. -/
def addCables (loadOf : LoadCalc → String → Option (Rat × LoadCalc)) :
    LoadCalc → Rat → List Edge → Option (Rat × LoadCalc)
  | memo, total, [] => some (total, memo)
  | memo, total, edge :: rest =>
      if graph.pluggedInputs edge.target = 0 then addCables loadOf memo total rest
      else
        (demandOf graph loadOf memo edge.target).bind fun (demand, after) =>
          addCables loadOf after (total + demand / graph.pluggedInputs edge.target) rest

def loadOf : Nat → LoadCalc → String → Option (Rat × LoadCalc)
  | 0, _, _ => none
  | rounds + 1, memo, id =>
      match memo.load.lookup id with
      | some value => some (value, memo)
      | none =>
          if id ∈ memo.visiting then some (0, memo)
          else
            (addCables graph (loadOf rounds) { memo with visiting := id :: memo.visiting } 0
              (graph.out id)).map fun (total, after) =>
                (total, { after with visiting := after.visiting.erase id,
                                     load := Table.set after.load id total })

end LoadCalc

namespace PowerGraph

variable (graph : PowerGraph)

/-- The sockets, the load and the capacity of one source. -/
def sourceLoad (floats : Floats) (node : Node) (load : Rat) : SourceLoad :=
  let voltage := if node.type = "pdu" then graph.chainVoltage floats node.id else 0
  let capacity := wholeWatts (capacityW floats node.type node.details voltage)
  { loadW := wholeWatts load
    capacityW := if 0 < capacity then some capacity else none
    socketsUsed := (graph.out node.id).length
    sockets := powerOutputCount floats node.type node.details }

def addSources (floats : Floats) : LoadCalc → List (String × SourceLoad) → List Node →
    Option (List (String × SourceLoad))
  | _, out, [] => some out
  | memo, out, node :: rest =>
      if isPowerSource node.type then
        (LoadCalc.loadOf graph (graph.nodes.length + 1) memo node.id).bind fun (load, after) =>
          addSources floats after (Table.set out node.id (graph.sourceLoad floats node load)) rest
      else addSources floats memo out rest

def sourceLoads (floats : Floats) (nodes : List Node) : Option (List (String × SourceLoad)) :=
  graph.addSources floats {} [] nodes

end PowerGraph

def powerLoads (floats : Floats) (nodes : List Node) (edges : List Edge) :
    Option (List (String × SourceLoad)) :=
  (newPowerGraph nodes edges).sourceLoads floats nodes

end HomelabBuilder.Wiring

/-! # Power loads are flows

On a graph without loops the remembered computation gives every source the load that the
cables ask of it.
-/

namespace HomelabBuilder.Wiring

open Arcs Flows

namespace PowerGraph

variable (graph : PowerGraph)

def arcs : List (String × String) := graph.cables.map fun edge => (edge.source, edge.target)

def network : Network String where
  arcs := graph.arcs
  draw id := (node graph.nodes id).elim 0 Node.drawW
  passes id := (node graph.nodes id).any fun node => isPowerSource node.type
  share id := 1 / graph.pluggedInputs id

def Joined : Prop := ∀ edge ∈ graph.cables,
  (node graph.nodes edge.source).isSome = true ∧ (node graph.nodes edge.target).isSome = true

theorem joined_newPowerGraph (nodes : List Node) (edges : List Edge) :
    (newPowerGraph nodes edges).Joined := by
  intro edge listed
  have kept := (List.mem_filter.mp listed).2
  simp only [Bool.and_eq_true] at kept
  exact ⟨kept.1.2, kept.2⟩

variable {graph}

theorem mem_of_node {nodes : List Node} {id : String} {found : Node}
    (known : node nodes id = some found) : found ∈ nodes ∧ found.id = id := by
  unfold node at known
  have same := List.find?_some known
  exact ⟨List.mem_reverse.mp (List.mem_of_find?_eq_some known), of_decide_eq_true same⟩

theorem mem_out {id : String} {edge : Edge} :
    edge ∈ graph.out id ↔ edge ∈ graph.cables ∧ edge.source = id := by
  rw [out, List.mem_filter, decide_eq_true_eq]

theorem arc_of_mem {edge : Edge} (listed : edge ∈ graph.cables) :
    Arc graph.arcs edge.source edge.target :=
  List.mem_map_of_mem (f := fun edge : Edge => (edge.source, edge.target)) listed

theorem pluggedInputs_ne_zero {edge : Edge} (listed : edge ∈ graph.cables) :
    graph.pluggedInputs edge.target ≠ 0 := by
  have feed : Feed.mk edge.source (powerHandleIndex edge.targetHandle powerInPrefix) ∈
      graph.feeds edge.target :=
    (List.mergeSort_perm _ _).mem_iff.mpr (List.mem_map.mpr
      ⟨edge, List.mem_filter.mpr ⟨listed, decide_eq_true rfl⟩, rfl⟩)
  intro none
  have empty := List.length_eq_zero_iff.mp none
  have input := List.mem_dedup.mpr (List.mem_map_of_mem (f := Feed.input) feed)
  rw [empty] at input
  exact List.not_mem_nil input

/-- The sources that are not being computed. -/
def waiting (visiting : List String) : Nat :=
  ((graph.cables.map Edge.source).dedup.filter fun id => id ∉ visiting).length

theorem waiting_cons {id : String} {visiting : List String} {edge : Edge}
    (listed : edge ∈ graph.out id) (fresh : id ∉ visiting) :
    graph.waiting (id :: visiting) < graph.waiting visiting := by
  rcases mem_out.mp listed with ⟨member, rfl⟩
  have fewer : (graph.cables.map Edge.source).dedup.filter (fun id => id ∉ edge.source :: visiting) =
      ((graph.cables.map Edge.source).dedup.filter fun id => id ∉ visiting).filter
        fun id => id ≠ edge.source := by
    rw [List.filter_filter]
    refine List.filter_congr fun id _ => ?_
    simp [not_or]
  have source : edge.source ∈ (graph.cables.map Edge.source).dedup.filter fun id => id ∉ visiting :=
    List.mem_filter.mpr
      ⟨List.mem_dedup.mpr (List.mem_map_of_mem member), decide_eq_true fresh⟩
  rw [waiting, waiting, fewer]
  exact List.length_filter_lt_length_iff_exists.mpr ⟨edge.source, source, by simp⟩

end PowerGraph

namespace LoadCalc

variable {graph : PowerGraph} {load : String → Rat}

structure Agrees (graph : PowerGraph) (load : String → Rat) (memo : LoadCalc) : Prop where
  loads : ∀ id value, memo.load.lookup id = some value → value = load id
  demands : ∀ id value, memo.demand.lookup id = some value → value = graph.network.demand load id

/-- What is being computed leads to what is asked for. -/
def Above (graph : PowerGraph) (visiting : List String) (id : String) : Prop :=
  ∀ source ∈ visiting, Relation.TransGen (Arc graph.arcs) source id

theorem Above.fresh {visiting : List String} {id : String} (acyclic : Acyclic graph.arcs)
    (above : Above graph visiting id) : id ∉ visiting := fun listed => acyclic id (above id listed)

/-- One computation of a load, as it should be. -/
def Computes (graph : PowerGraph) (load : String → Rat)
    (loadOf : LoadCalc → String → Option (Rat × LoadCalc)) (visiting : List String)
    (id : String) : Prop :=
  ∀ memo, memo.visiting = visiting → Agrees graph load memo →
    ∃ after, loadOf memo id = some (load id, after) ∧ after.visiting = visiting ∧
      Agrees graph load after

theorem agrees_empty : Agrees graph load {} := by
  constructor <;> intro _ _ found <;> cases found

theorem Agrees.remember {memo after : LoadCalc} {id : String} (agrees : Agrees graph load memo)
    (loads : after.load = memo.load)
    (demands : after.demand = Table.set memo.demand id (graph.network.demand load id)) :
    Agrees graph load after where
  loads := loads ▸ agrees.loads
  demands other value found := by
    rw [demands, Table.lookup_set] at found
    split at found
    · rename_i same
      rw [same]
      exact (Option.some.inj found).symm
    · exact agrees.demands other value found

theorem demandOf_spec {loadOf : LoadCalc → String → Option (Rat × LoadCalc)}
    {visiting : List String} {id : String} {node : Node}
    (found : PowerGraph.node graph.nodes id = some node) (fresh : id ∉ visiting)
    (computes : Computes graph load loadOf visiting id) {memo : LoadCalc}
    (same : memo.visiting = visiting) (agrees : Agrees graph load memo) :
    ∃ after, demandOf graph loadOf memo id = some (graph.network.demand load id, after) ∧
      after.visiting = visiting ∧ Agrees graph load after := by
  unfold demandOf
  cases known : memo.demand.lookup id with
  | some value =>
      rw [agrees.demands id value known]
      exact ⟨memo, rfl, same, agrees⟩
  | none =>
      have draws : graph.network.draw id = node.drawW := by
        unfold PowerGraph.network
        dsimp only
        rw [found, Option.elim_some]
      have passes : graph.network.passes id = isPowerSource node.type := by
        unfold PowerGraph.network
        dsimp only
        rw [found, Option.any_some]
      dsimp only
      rw [if_neg (same ▸ fresh), found]
      dsimp only
      cases source : isPowerSource node.type with
      | true =>
          have demands : node.drawW + load id = graph.network.demand load id := by
            rw [Network.demand, draws, passes, source, if_pos rfl]
          rcases computes memo same agrees with ⟨after, computed, kept, still⟩
          rw [if_pos rfl, computed, Option.map_some, demands]
          exact ⟨_, rfl, kept, still.remember rfl rfl⟩
      | false =>
          have demands : node.drawW = graph.network.demand load id := by
            rw [Network.demand, draws, passes, source, if_neg Bool.false_ne_true, add_zero]
          rw [if_neg Bool.false_ne_true, demands]
          exact ⟨_, rfl, same, agrees.remember rfl rfl⟩

theorem addCables_spec {loadOf : LoadCalc → String → Option (Rat × LoadCalc)}
    {visiting : List String} (joined : graph.Joined) {edges : List Edge}
    (listed : ∀ edge ∈ edges, edge ∈ graph.cables)
    (fresh : ∀ edge ∈ edges, edge.target ∉ visiting)
    (computes : ∀ edge ∈ edges, Computes graph load loadOf visiting edge.target)
    {memo : LoadCalc} (same : memo.visiting = visiting) (agrees : Agrees graph load memo)
    (total : Rat) :
    ∃ after, addCables graph loadOf memo total edges =
        some (total + (edges.map fun edge =>
          graph.network.demand load edge.target * graph.network.share edge.target).sum, after) ∧
      after.visiting = visiting ∧ Agrees graph load after := by
  induction edges generalizing memo total with
  | nil =>
      rw [addCables, List.map_nil, List.sum_nil, add_zero]
      exact ⟨memo, rfl, same, agrees⟩
  | cons edge rest induction =>
      have member := listed edge List.mem_cons_self
      rcases Option.isSome_iff_exists.mp (joined edge member).2 with ⟨node, found⟩
      rcases demandOf_spec found (fresh edge List.mem_cons_self)
        (computes edge List.mem_cons_self) same agrees with ⟨middle, demanded, kept, still⟩
      rcases induction (fun other later => listed other (List.mem_cons_of_mem _ later))
        (fun other later => fresh other (List.mem_cons_of_mem _ later))
        (fun other later => computes other (List.mem_cons_of_mem _ later)) kept still
        (total + graph.network.demand load edge.target / graph.pluggedInputs edge.target) with
        ⟨after, added, keptAfter, stillAfter⟩
      have shared : graph.network.demand load edge.target / graph.pluggedInputs edge.target =
          graph.network.demand load edge.target * graph.network.share edge.target :=
        div_eq_mul_one_div _ _
      rw [addCables, if_neg (PowerGraph.pluggedInputs_ne_zero member), demanded, Option.bind_some]
      dsimp only
      rw [added, shared, List.map_cons, List.sum_cons, add_assoc]
      exact ⟨after, rfl, keptAfter, stillAfter⟩

theorem sum_out (load : String → Rat) (id : String) :
    ((graph.out id).map fun edge =>
        graph.network.demand load edge.target * graph.network.share edge.target).sum =
      ((graph.network.out id).map fun arc =>
        graph.network.demand load arc.2 * graph.network.share arc.2).sum := by
  have arcs : graph.network.out id =
      (graph.out id).map fun edge => (edge.source, edge.target) := List.filter_map
  rw [arcs, List.map_map]
  rfl

theorem loadOf_spec (joined : graph.Joined) (acyclic : Acyclic graph.arcs)
    (balanced : graph.network.Balanced load) {rounds : Nat} {visiting : List String} {id : String}
    (enough : graph.waiting visiting < rounds) (above : Above graph visiting id) :
    Computes graph load (loadOf graph rounds) visiting id := by
  induction rounds generalizing visiting id with
  | zero => exact absurd enough (Nat.not_lt_zero _)
  | succ rounds induction =>
      intro memo same agrees
      unfold loadOf
      cases known : memo.load.lookup id with
      | some value =>
          rw [agrees.loads id value known]
          exact ⟨memo, rfl, same, agrees⟩
      | none =>
          have fresh := above.fresh acyclic
          have below : ∀ edge ∈ graph.out id, Above graph (id :: visiting) edge.target := by
            intro edge listed source member
            have cable := PowerGraph.mem_out.mp listed
            have arc := PowerGraph.arc_of_mem cable.1
            rw [cable.2] at arc
            cases List.mem_cons.mp member with
            | inl head => exact head ▸ .single arc
            | inr earlier => exact (above source earlier).tail arc
          have computes : ∀ edge ∈ graph.out id,
              Computes graph load (loadOf graph rounds) (id :: visiting) edge.target := by
            intro edge listed
            refine induction ?_ (below edge listed)
            exact Nat.lt_of_lt_of_le (PowerGraph.waiting_cons listed fresh)
              (Nat.le_of_lt_succ enough)
          have entered : LoadCalc.visiting { memo with visiting := id :: memo.visiting } =
              id :: visiting := congrArg (List.cons id) same
          rcases addCables_spec joined (fun edge listed => (PowerGraph.mem_out.mp listed).1)
            (fun edge listed => (below edge listed).fresh acyclic) computes entered
            ⟨agrees.loads, agrees.demands⟩ 0 with ⟨after, added, kept, still⟩
          dsimp only
          rw [if_neg (same ▸ fresh), added, Option.map_some, zero_add, sum_out, ← balanced id]
          refine ⟨_, rfl, ?_, ?_, still.demands⟩
          · dsimp only
            rw [kept, List.erase_cons_head]
          · intro other value found
            rw [Table.lookup_set] at found
            split at found
            · rename_i equal
              rw [equal]
              exact (Option.some.inj found).symm
            · exact still.loads other value found

end LoadCalc

/-! ## The sources -/

namespace PowerGraph

variable {graph : PowerGraph} {load : String → Rat}

theorem waiting_le (joined : graph.Joined) : graph.waiting [] < graph.nodes.length + 1 := by
  have known : (graph.cables.map Edge.source).dedup ⊆ graph.nodes.map Node.id := by
    intro id listed
    rcases List.mem_map.mp (List.mem_dedup.mp listed) with ⟨edge, member, rfl⟩
    rcases Option.isSome_iff_exists.mp (joined edge member).1 with ⟨node, found⟩
    have known := mem_of_node found
    exact List.mem_map.mpr ⟨node, known.1, known.2⟩
  have bound := (List.subperm_of_subset (List.nodup_dedup _) known).length_le
  rw [List.length_map] at bound
  exact Nat.lt_succ_of_le ((List.length_filter_le _ _).trans bound)

/-- The entries of the sources among some nodes. -/
def entries (graph : PowerGraph) (floats : Floats) (load : String → Rat)
    (out : List (String × SourceLoad)) (nodes : List Node) : List (String × SourceLoad) :=
  nodes.foldl (fun out node =>
    if isPowerSource node.type then
      Table.set out node.id (graph.sourceLoad floats node (load node.id))
    else out) out

theorem addSources_eq (floats : Floats) (joined : graph.Joined) (acyclic : Acyclic graph.arcs)
    (balanced : graph.network.Balanced load) {nodes : List Node} {memo : LoadCalc}
    (idle : memo.visiting = []) (agrees : LoadCalc.Agrees graph load memo)
    (out : List (String × SourceLoad)) :
    graph.addSources floats memo out nodes = some (graph.entries floats load out nodes) := by
  induction nodes generalizing memo out with
  | nil => rfl
  | cons node rest induction =>
      unfold addSources entries
      rw [List.foldl_cons]
      split
      · rcases LoadCalc.loadOf_spec joined acyclic balanced (waiting_le joined)
          (fun _ listed => absurd listed List.not_mem_nil) memo idle agrees with
          ⟨after, computed, kept, still⟩
        rw [computed, Option.bind_some]
        exact induction kept still _
      · exact induction idle agrees out

theorem sourceLoads_eq (floats : Floats) (joined : graph.Joined) (acyclic : Acyclic graph.arcs)
    (balanced : graph.network.Balanced load) (nodes : List Node) :
    graph.sourceLoads floats nodes = some (graph.entries floats load [] nodes) :=
  addSources_eq floats joined acyclic balanced rfl LoadCalc.agrees_empty []

theorem lookup_entries_of_fresh (floats : Floats) (load : String → Rat) {nodes : List Node}
    {id : String} (fresh : id ∉ nodes.map Node.id) (out : List (String × SourceLoad)) :
    (graph.entries floats load out nodes).lookup id = out.lookup id := by
  induction nodes generalizing out with
  | nil => rfl
  | cons node rest induction =>
      have parts := not_or.mp (mt List.mem_cons.mpr fresh)
      unfold entries
      rw [List.foldl_cons]
      refine (induction parts.2 _).trans ?_
      split
      · rw [Table.lookup_set, if_neg parts.1]
      · rfl

theorem lookup_entries (floats : Floats) (load : String → Rat) {nodes : List Node}
    (distinct : (nodes.map Node.id).Nodup) (out : List (String × SourceLoad)) {node : Node}
    (listed : node ∈ nodes) :
    (graph.entries floats load out nodes).lookup node.id =
      if isPowerSource node.type then some (graph.sourceLoad floats node (load node.id))
      else out.lookup node.id := by
  induction nodes generalizing out with
  | nil => cases listed
  | cons head rest induction =>
      have parts := List.nodup_cons.mp distinct
      cases List.mem_cons.mp listed with
      | inl same =>
          subst same
          refine (lookup_entries_of_fresh floats load parts.1 _).trans ?_
          dsimp only
          split
          · rw [Table.lookup_set, if_pos rfl]
          · rfl
      | inr later =>
          refine (induction parts.2 _ later).trans ?_
          have different : node.id ≠ head.id := fun same =>
            parts.1 (same ▸ List.mem_map_of_mem later)
          split
          · rfl
          · dsimp only
            split
            · rw [Table.lookup_set, if_neg different]
            · rfl

/-! ## The order of nodes and cables -/

def Apart (graph : PowerGraph) : Prop :=
  ∀ id, ((graph.cables.filter fun edge => edge.target = id).map fun edge =>
    powerHandleIndex edge.targetHandle powerInPrefix).Nodup

theorem inputs_perm (graph : PowerGraph) (id : String) :
    ((graph.feeds id).map Feed.input).Perm
      ((graph.cables.filter fun edge => edge.target = id).map fun edge =>
        powerHandleIndex edge.targetHandle powerInPrefix) := by
  refine ((List.mergeSort_perm _ _).map Feed.input).trans ?_
  rw [List.map_map]
  exact .refl _

theorem pluggedInputs_eq (apart : graph.Apart) (id : String) :
    graph.pluggedInputs id = (graph.cables.filter fun edge => edge.target = id).length := by
  have inputs := graph.inputs_perm id
  rw [pluggedInputs, (inputs.nodup_iff.mpr (apart id)).dedup, inputs.length_eq, List.length_map]

/-- The same devices and cables, listed in another order. -/
structure Reordered (graph other : PowerGraph) : Prop where
  node : ∀ id, PowerGraph.node graph.nodes id = PowerGraph.node other.nodes id
  count : graph.nodes.length = other.nodes.length
  cables : graph.cables.Perm other.cables

variable {other : PowerGraph}

theorem Reordered.feeds (reordered : graph.Reordered other) (apart : graph.Apart) (id : String) :
    graph.feeds id = other.feeds id := by
  have swapped : (graph.feeds id).Perm (other.feeds id) :=
    (List.mergeSort_perm _ _).trans ((((reordered.cables.filter _).map _)).trans
      (List.mergeSort_perm _ _).symm)
  have sorted : ∀ graph : PowerGraph, (graph.feeds id).Pairwise fun left right =>
      left.input ≤ right.input := by
    intro graph
    refine (List.pairwise_mergeSort ?_ ?_ _).imp fun ordered => of_decide_eq_true ordered
    · intro first second third before after
      simp only [decide_eq_true_eq] at before after ⊢
      exact before.trans after
    · intro first second
      simp only [Bool.or_eq_true, decide_eq_true_eq]
      exact Int.le_total _ _
  have inputs := (graph.inputs_perm id).nodup_iff.mpr (apart id)
  refine swapped.eq_of_pairwise ?_ (sorted graph) (sorted other)
  intro left right inLeft inRight before after
  exact List.inj_on_of_nodup_map inputs inLeft (swapped.mem_iff.mpr inRight) (before.antisymm after)

theorem Reordered.out (reordered : graph.Reordered other) (id : String) :
    (graph.out id).Perm (other.out id) := reordered.cables.filter _

theorem Reordered.chainVoltage (reordered : graph.Reordered other) (apart : graph.Apart)
    (floats : Floats) (id : String) : graph.chainVoltage floats id = other.chainVoltage floats id := by
  have below : ∀ fuel visited id, graph.chainVoltageFrom floats fuel visited id =
      other.chainVoltageFrom floats fuel visited id := by
    intro fuel
    induction fuel with
    | zero => exact fun _ _ => rfl
    | succ fuel induction =>
        intro visited id
        unfold chainVoltageFrom
        rw [reordered.node, reordered.feeds apart]
        simp only [induction]
  rw [PowerGraph.chainVoltage, PowerGraph.chainVoltage, reordered.count, below]

theorem Reordered.sourceLoad (reordered : graph.Reordered other) (apart : graph.Apart)
    (floats : Floats) (node : Node) (load : Rat) :
    graph.sourceLoad floats node load = other.sourceLoad floats node load := by
  unfold PowerGraph.sourceLoad
  rw [reordered.chainVoltage apart, (reordered.out node.id).length_eq]

theorem Reordered.balanced (reordered : graph.Reordered other) (apart : graph.Apart)
    (balanced : graph.network.Balanced load) : other.network.Balanced load := by
  intro id
  have draw : graph.network.draw = other.network.draw := by
    funext id
    unfold network
    dsimp only
    rw [reordered.node]
  have passes : graph.network.passes = other.network.passes := by
    funext id
    unfold network
    dsimp only
    rw [reordered.node]
  have share : graph.network.share = other.network.share := by
    funext id
    unfold network pluggedInputs
    dsimp only
    rw [reordered.feeds apart]
  have demand : graph.network.demand load = other.network.demand load := by
    funext id
    unfold Network.demand
    rw [draw, passes]
  have arcs : (graph.network.out id).Perm (other.network.out id) :=
    (reordered.cables.map fun edge : Edge => (edge.source, edge.target)).filter _
  rw [balanced id, (arcs.map _).sum_eq, demand, share]

end PowerGraph

end HomelabBuilder.Wiring
