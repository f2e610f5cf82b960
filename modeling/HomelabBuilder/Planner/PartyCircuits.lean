import HomelabBuilder.Foundation.Keyed
import HomelabBuilder.Gaming.PartyPower
import HomelabBuilder.Planner.LanPartyPlan
import HomelabBuilder.Services.GamingReport

/-! # Circuits of a LAN party

The circuits a party needs are counted by its tables and its server. What else is plugged in,
consoles above all, goes where the tables leave something free: whether the circuits hold is
counted in devices of 150 W.
-/

namespace HomelabBuilder.Planner

open Gaming (PoweredNode PartyReport CircuitLoad checkParty circuitLoad breakerIssues)
open LeastLoaded (Fits assign carried room saturated)

/-! ## What circuits carry -/

def PlannedNode.poweredNode (node : PlannedNode) : PoweredNode where
  id := node.id
  name := node.name
  powerDraw := node.powerDraw
  circuit := Services.textDetail node.details "circuit"

namespace Plan

variable (plan : Plan)

def wattsOn (circuit : String) : Rat :=
  Gaming.wattsOn plan.gamingPlan.circuits (plan.nodes.map PlannedNode.poweredNode) circuit

def partyReport : PartyReport :=
  checkParty plan.gamingPlan.circuits (plan.nodes.map PlannedNode.poweredNode)
    plan.gamingPlan.mainsVoltage plan.gamingPlan.hours

/-- No circuit carries more than it should for hours, and the report finds none that does. -/
def CircuitsHold : Prop :=
  (∀ circuit ∈ plan.gamingPlan.circuits,
    plan.wattsOn circuit.id ≤
      plan.gamingPlan.mainsVoltage * circuit.breakerAmps * continuousLoadShare) ∧
  ¬plan.partyReport.lists "circuit_overloaded" ∧ ¬plan.partyReport.lists "circuit_over_80"

end Plan

/-! ## Tables -/

theorem tableSizesFrom_bounds {perTable : Nat} (positive : 0 < perTable) (rounds left : Nat) :
    ∀ size ∈ tableSizesFrom perTable rounds left, 0 < size ∧ size ≤ perTable ∧ size ≤ left := by
  induction rounds generalizing left with
  | zero => exact fun size listed => nomatch listed
  | succ rounds induction =>
      unfold tableSizesFrom
      split
      · intro size listed
        rcases List.mem_cons.mp listed with rfl | later
        · omega
        · have bounds := induction _ size later
          omega
      · exact fun size listed => nomatch listed

theorem pairwise_tableSizesFrom {perTable : Nat} (positive : 0 < perTable) (rounds left : Nat) :
    (tableSizesFrom perTable rounds left).Pairwise fun size later => later ≤ size := by
  induction rounds generalizing left with
  | zero => exact List.Pairwise.nil
  | succ rounds induction =>
      unfold tableSizesFrom
      split
      · refine List.pairwise_cons.mpr ⟨fun later listed => ?_, induction _⟩
        have bounds := tableSizesFrom_bounds positive rounds _ later listed
        omega
      · exact List.Pairwise.nil

theorem seatsPerTable_pos (mainsVoltage breakerAmps : Rat) :
    0 < seatsPerTable mainsVoltage breakerAmps := by
  unfold seatsPerTable
  dsimp only
  omega

theorem tablePowerDraw_le {mainsVoltage breakerAmps : Rat}
    (one : defaultSeatWatts + tableSwitchWatts ≤ mainsVoltage * breakerAmps * continuousLoadShare)
    {size : Nat} (positive : 0 < size) (fits : size ≤ seatsPerTable mainsVoltage breakerAmps) :
    tablePowerDraw size ≤ mainsVoltage * breakerAmps * continuousLoadShare := by
  unfold tablePowerDraw tableSeats
  rw [if_pos positive]
  generalize limited : mainsVoltage * breakerAmps * continuousLoadShare = limit at one ⊢
  have single : (1 : Int) ≤ ⌊(limit - tableSwitchWatts) / defaultSeatWatts⌋ := by
    rw [Int.le_floor, Int.cast_one, one_le_div (by decide)]
    linarith
  have seats : (size : Int) ≤ ⌊(limit - tableSwitchWatts) / defaultSeatWatts⌋ := by
    unfold seatsPerTable at fits
    rw [limited] at fits
    dsimp only at fits
    omega
  rw [Int.le_floor, le_div_iff₀ (by decide)] at seats
  push_cast at seats
  linarith

theorem tablePowerDraw_mono {size larger : Nat} (positive : 0 < size) (less : size ≤ larger) :
    tablePowerDraw size ≤ tablePowerDraw larger := by
  unfold tablePowerDraw tableSeats
  rw [if_pos positive, if_pos (positive.trans_le less)]
  have more : (size : Rat) ≤ larger := by exact_mod_cast less
  have watts : (0 : Rat) ≤ defaultSeatWatts := by decide
  have product := mul_le_mul_of_nonneg_right more watts
  linarith

/-! ## Devices, heaviest first -/

section

variable (ids : Ids) (answers : LanPartyAnswers) (services : List CatalogService)

/-- What the server of a party draws, where there is one. -/
def serverDraw : Option Rat :=
  if (partyServers ids answers services).isEmpty then none
  else some (gameHost ids.host "Party Server" (partyServers ids answers services)).powerDraw

/-- The devices of 150 W: consoles, and a server that is no mini PC. -/
def heavyDevices : Nat :=
  answers.plannedConsoles + if serverDraw ids answers services = some 150 then 1 else 0

/-- The small devices, heaviest first: a mini PC, the core switch, the router and the access
point. -/
def smallDraws : List Rat :=
  (if serverDraw ids answers services = some 35 then [35] else []) ++
  [if 16 < corePorts ids answers services then 25 else 12, 12] ++
  (if answers.wifi then [12] else [])

theorem serverDraw_cases : serverDraw ids answers services = none ∨
    serverDraw ids answers services = some 150 ∨ serverDraw ids answers services = some 35 := by
  unfold serverDraw gameHost
  dsimp only
  split
  · exact .inl rfl
  · right
    split
    · exact .inl rfl
    · exact .inr rfl

/-- What the devices draw, heaviest first. -/
def sortedDraws : List Rat :=
  answers.sizes.map tablePowerDraw ++ (List.replicate (heavyDevices ids answers services) 150 ++
    smallDraws ids answers services)

theorem draws_eq : (partyNodes ids answers services).map PlannedNode.powerDraw =
    [12, if 16 < corePorts ids answers services then 25 else 12] ++
      (answers.sizes.map tablePowerDraw ++ (if answers.wifi then [12] else []) ++
        List.replicate answers.plannedConsoles 150 ++ (serverDraw ids answers services).toList) := by
  have tables : (answers.sizes.zipIdx.map fun entry : Nat × Nat =>
      (lanTable ids entry.1 entry.2).powerDraw) = answers.sizes.map tablePowerDraw := by
    have same : (fun entry : Nat × Nat => (lanTable ids entry.1 entry.2).powerDraw) =
        tablePowerDraw ∘ Prod.fst := rfl
    rw [same, ← List.map_map, List.zipIdx_map_fst]
  have consoles : ((List.range answers.plannedConsoles).map fun index =>
      (partyConsole ids index).powerDraw) = List.replicate answers.plannedConsoles 150 := by
    have same : (fun index => (partyConsole ids index).powerDraw) = fun _ => (150 : Rat) := rfl
    rw [same, List.map_const', List.length_range]
  have points : ((if answers.wifi then [(partyAccessPoint ids answers, false)] else []).map
      fun entry : PlannedNode × Bool => entry.1.powerDraw) = if answers.wifi then [12] else [] := by
    split <;> rfl
  have server : ((if (partyServers ids answers services).isEmpty then []
      else [(gameHost ids.host "Party Server" (partyServers ids answers services), true)]).map
        fun entry : PlannedNode × Bool => entry.1.powerDraw) =
      (serverDraw ids answers services).toList := by
    unfold serverDraw
    split <;> rfl
  rw [← tables, ← consoles, ← points, ← server]
  simp [partyNodes, pluggedIntoCore, partyRouter, coreSwitch, List.map_map, Function.comp_def]

theorem draws_perm : ((partyNodes ids answers services).map PlannedNode.powerDraw).Perm
    (sortedDraws ids answers services) := by
  rw [draws_eq, List.perm_iff_count]
  unfold sortedDraws smallDraws heavyDevices
  generalize (if answers.wifi then [(12 : Rat)] else []) = points
  generalize (if 16 < corePorts ids answers services then (25 : Rat) else 12) = core
  intro draw
  have pair : [12, core].count draw = [12].count draw + [core].count draw := by
    rw [← List.count_append, List.singleton_append]
  have pair' : [core, 12].count draw = [core].count draw + [12].count draw := by
    rw [← List.count_append, List.singleton_append]
  have different : ¬some (150 : Rat) = some 35 := by decide
  have different' : ¬some (35 : Rat) = some 150 := by decide
  rcases serverDraw_cases ids answers services with server | server | server
  · rw [server]
    simp only [reduceCtorEq, if_false, Option.toList_none, List.count_append, List.count_nil, pair,
      pair', Nat.add_zero]
    omega
  · rw [server, if_pos rfl, if_neg different, List.replicate_succ']
    simp only [Option.toList_some, List.count_append, List.count_nil, pair, pair']
    omega
  · rw [server, if_neg different', if_pos rfl]
    simp only [Option.toList_some, List.count_append, pair, pair', Nat.add_zero]
    omega

theorem smallDraws_bounds : (smallDraws ids answers services).sum ≤ 150 ∧
    (∀ draw ∈ smallDraws ids answers services, 0 < draw ∧ draw ≤ 150) ∧
    (smallDraws ids answers services).Pairwise fun draw later => later ≤ draw := by
  unfold smallDraws
  refine ⟨?_, ?_, ?_⟩
  · split <;> split <;> split <;> decide +kernel
  · split <;> split <;> split <;> decide
  · split <;> split <;> split <;> decide

theorem mem_sizes_bounds {size : Nat} (listed : size ∈ answers.sizes) :
    0 < size ∧ size ≤ seatsPerTable answers.mainsVoltage answers.breakerAmps := by
  have bounds := tableSizesFrom_bounds (seatsPerTable_pos _ _) _ _ size listed
  exact ⟨bounds.1, bounds.2.1⟩

theorem lt_tablePowerDraw {size : Nat} (positive : 0 < size) : 150 < tablePowerDraw size := by
  have least := tablePowerDraw_mono Nat.one_pos positive
  have one : (150 : Rat) < tablePowerDraw 1 := by decide +kernel
  exact one.trans_le least

theorem sortedDraws_bounds : ∀ draw ∈ sortedDraws ids answers services, 0 < draw := by
  intro draw listed
  rcases List.mem_append.mp listed with table | listed
  · rcases List.mem_map.mp table with ⟨size, member, rfl⟩
    have heavy := lt_tablePowerDraw (mem_sizes_bounds answers member).1
    linarith
  · rcases List.mem_append.mp listed with heavy | small
    · rw [List.eq_of_mem_replicate heavy]
      norm_num
    · exact ((smallDraws_bounds ids answers services).2.1 draw small).1

theorem pairwise_sortedDraws :
    (sortedDraws ids answers services).Pairwise fun draw later => later ≤ draw := by
  rcases smallDraws_bounds ids answers services with ⟨-, bounds, small⟩
  have behind : ∀ later ∈ List.replicate (heavyDevices ids answers services) (150 : Rat) ++
      smallDraws ids answers services, later ≤ 150 := by
    intro later listed
    rcases List.mem_append.mp listed with heavy | listed
    · exact (List.eq_of_mem_replicate heavy).le
    · exact (bounds later listed).2
  refine List.pairwise_append.mpr ⟨?_, List.pairwise_append.mpr ⟨?_, small, ?_⟩, ?_⟩
  · rw [List.pairwise_map]
    have tables := pairwise_tableSizesFrom
      (seatsPerTable_pos answers.mainsVoltage answers.breakerAmps) (clampSeats answers.seats)
      (clampSeats answers.seats)
    refine List.Pairwise.imp_of_mem (fun _ later less => ?_) tables
    exact tablePowerDraw_mono (mem_sizes_bounds answers later).1 less
  · exact List.pairwise_replicate.mpr (.inr le_rfl)
  · intro draw heavy later listed
    rw [List.eq_of_mem_replicate heavy]
    exact (bounds later listed).2
  · intro draw table later listed
    rcases List.mem_map.mp table with ⟨size, member, rfl⟩
    exact (behind later listed).trans (lt_tablePowerDraw (mem_sizes_bounds answers member).1).le

theorem powerDraw_pos {node : PlannedNode} (listed : node ∈ partyNodes ids answers services) :
    0 < node.powerDraw :=
  sortedDraws_bounds ids answers services _
    ((draws_perm ids answers services).subset (List.mem_map_of_mem listed))

theorem heaviestFirst_perm :
    (heaviestFirst (partyNodes ids answers services)).Perm
      (partyNodes ids answers services).zipIdx := by
  unfold heaviestFirst
  refine (List.perm_insertionSort _ _).trans ?_
  rw [List.filter_eq_self.mpr]
  rintro ⟨node, index⟩ listed
  exact decide_eq_true (powerDraw_pos ids answers services (List.fst_mem_of_mem_zipIdx listed))

theorem heaviestFirst_draws :
    (heaviestFirst (partyNodes ids answers services)).map (fun entry => entry.1.powerDraw) =
      sortedDraws ids answers services := by
  have same : ((heaviestFirst (partyNodes ids answers services)).map
      fun entry => entry.1.powerDraw).Perm (sortedDraws ids answers services) := by
    refine ((heaviestFirst_perm ids answers services).map _).trans ?_
    have draws : (fun entry : PlannedNode × Nat => entry.1.powerDraw) =
        PlannedNode.powerDraw ∘ Prod.fst := rfl
    rw [draws, ← List.map_map, List.zipIdx_map_fst]
    exact draws_perm ids answers services
  refine List.Perm.eq_of_pairwise (fun _ _ _ _ less more => le_antisymm more less) ?_
    (pairwise_sortedDraws ids answers services) same
  rw [List.pairwise_map]
  exact List.pairwise_insertionSort
    (fun left right : PlannedNode × Nat => right.1.powerDraw ≤ left.1.powerDraw) _

end

/-! ## Assigned circuits -/

section

variable {circuits : List Gaming.Circuit} (some : circuits ≠ []) (nodes : List PlannedNode)

include some

theorem map_fst_assignCircuits :
    (assignCircuits circuits nodes).map Prod.fst = heaviestFirst nodes := by
  refine LeastLoaded.map_fst_assign _ ?_ _
  intro none
  exact some (List.map_eq_nil_iff.mp none)

theorem nodup_assignCircuits :
    ((assignCircuits circuits nodes).map fun entry => entry.1.2).Nodup := by
  have indices : (fun entry : (PlannedNode × Nat) × String => entry.1.2) = Prod.snd ∘ Prod.fst := rfl
  rw [indices, ← List.map_map, map_fst_assignCircuits some]
  unfold heaviestFirst
  refine (((List.perm_insertionSort _ _).map Prod.snd).nodup_iff).mpr ?_
  refine List.Nodup.sublist (List.filter_sublist.map Prod.snd) ?_
  rw [List.zipIdx_map_snd]
  exact List.nodup_range'

theorem circuit_withCircuit {entry : (PlannedNode × Nat) × String}
    (listed : entry ∈ assignCircuits circuits nodes) :
    (withCircuit (assignCircuits circuits nodes) entry.1).poweredNode.circuit = entry.2 := by
  have found : (assignCircuits circuits nodes).find? (fun other => other.1.2 = entry.1.2) = entry :=
    Keyed.find?_key (nodup_assignCircuits some nodes) listed
  unfold withCircuit
  rw [found]
  unfold PlannedNode.poweredNode PlannedNode.onCircuit Services.textDetail
  dsimp only
  rw [Table.lookup_set, if_pos rfl]
  rfl

omit some in
@[simp]
theorem powerDraw_withCircuit (assigned : List ((PlannedNode × Nat) × String))
    (entry : PlannedNode × Nat) :
    (withCircuit assigned entry).poweredNode.powerDraw = entry.1.powerDraw := by
  unfold withCircuit
  split <;> rfl

theorem wattsOn_withCircuits {circuit : Gaming.Circuit} (listed : circuit ∈ circuits)
    (named : circuit.id ≠ "") :
    Gaming.wattsOn circuits ((withCircuits circuits nodes).map PlannedNode.poweredNode) circuit.id =
      carried (fun entry => entry.1.powerDraw) (assignCircuits circuits nodes) circuit.id := by
  have isCircuit : Gaming.isCircuit circuits circuit.id = true :=
    List.any_eq_true.mpr ⟨circuit, listed, decide_eq_true rfl⟩
  rw [LeastLoaded.carried_eq_sum _
    (fun device => (withCircuit (assignCircuits circuits nodes) device).poweredNode.circuit)
    fun entry assigned => circuit_withCircuit some nodes assigned, map_fst_assignCircuits some]
  unfold Gaming.wattsOn Gaming.powered withCircuits heaviestFirst
  rw [List.map_map, List.filter_map, List.filter_map, List.map_map]
  have draws : PoweredNode.powerDraw ∘ PlannedNode.poweredNode ∘
      withCircuit (assignCircuits circuits nodes) = fun entry => entry.1.powerDraw :=
    funext (powerDraw_withCircuit _)
  have powered : (fun node : PoweredNode => decide (0 < node.powerDraw)) ∘
      PlannedNode.poweredNode ∘ withCircuit (assignCircuits circuits nodes) =
      fun entry => decide (0 < entry.1.powerDraw) := by
    funext entry
    rw [Function.comp_apply, Function.comp_apply, powerDraw_withCircuit]
  have placed : (fun node : PoweredNode => decide (node.circuit = circuit.id) &&
      decide (node.circuit ≠ "") && Gaming.isCircuit circuits circuit.id) ∘
      PlannedNode.poweredNode ∘ withCircuit (assignCircuits circuits nodes) =
      fun entry => decide ((withCircuit (assignCircuits circuits nodes) entry).poweredNode.circuit =
        circuit.id) := by
    funext entry
    rw [Function.comp_apply, Function.comp_apply, isCircuit, Bool.and_true]
    by_cases here :
        (withCircuit (assignCircuits circuits nodes) entry).poweredNode.circuit = circuit.id
    · simp [here, named]
    · simp [here]
  rw [draws, powered, placed]
  exact List.Perm.sum_eq (((List.perm_insertionSort _ _).symm.filter _).map _)

end

/-! ## The report -/

section

variable {circuits : List Gaming.Circuit} {nodes : List PoweredNode} {mainsVoltage : Rat}

def Whole (watts : Rat) : Prop := watts ∈ (Int.castAddHom Rat).range

theorem whole_wattsOn (whole : ∀ node ∈ nodes, Whole node.powerDraw) (circuit : String) :
    Whole (Gaming.wattsOn circuits nodes circuit) := by
  apply AddSubgroup.list_sum_mem
  intro watts listed
  rcases List.mem_map.mp listed with ⟨node, member, rfl⟩
  exact whole node (List.mem_filter.mp (List.mem_filter.mp member).1).1

theorem breakerIssues_eq_nil {circuit : Gaming.Circuit}
    (carries : 0 ≤ mainsVoltage * circuit.breakerAmps)
    (whole : Whole (Gaming.wattsOn circuits nodes circuit.id))
    (within : Gaming.wattsOn circuits nodes circuit.id ≤
      mainsVoltage * circuit.breakerAmps * continuousLoadShare) :
    breakerIssues mainsVoltage (circuitLoad circuits nodes mainsVoltage circuit) = [] := by
  have share : continuousLoadShare = 4 / 5 := rfl
  unfold breakerIssues circuitLoad
  dsimp only
  split
  · dsimp only
    rw [if_neg, if_neg]
    · rcases whole with ⟨watts, same⟩
      have floor : watts ≤ ⌊mainsVoltage * circuit.breakerAmps * continuousLoadShare⌋ := by
        rw [Int.le_floor]
        exact same.trans_le within
      rw [not_lt, ← same]
      exact Int.cast_le.mpr floor
    · rw [share] at within
      linarith
  · rfl

theorem not_lists_of_breakers {hours : Rat} {code : String}
    (breakers : ∀ circuit ∈ circuits,
      breakerIssues mainsVoltage (circuitLoad circuits nodes mainsVoltage circuit) = [])
    (other : code = "circuit_overloaded" ∨ code = "circuit_over_80") :
    ¬(checkParty circuits nodes mainsVoltage hours).lists code := by
  have unknown : ∀ (seen : List String) (rest : List PoweredNode),
      ∀ issue ∈ Gaming.unknownCircuits circuits seen rest, issue.code = "circuit_unknown" := by
    intro seen rest
    induction rest generalizing seen with
    | nil => exact fun issue listed => nomatch listed
    | cons node rest induction =>
        unfold Gaming.unknownCircuits
        split
        · exact induction seen
        · intro issue listed
          rcases List.mem_cons.mp listed with rfl | later
          · rfl
          · exact induction _ issue later
  have quiet : (((circuits.insertionSort fun left right => left.id ≤ right.id).map
      (circuitLoad circuits nodes mainsVoltage)).flatMap (breakerIssues mainsVoltage)) = [] := by
    rw [List.flatMap_map, List.flatMap_eq_nil_iff]
    exact fun circuit listed => breakers circuit ((List.mem_insertionSort _).mp listed)
  rintro ⟨issue, listed, same⟩
  unfold checkParty at listed
  dsimp only at listed
  rw [quiet, List.append_nil, List.append_assoc] at listed
  have named : issue.code = "circuit_unknown" ∨ issue.code = "mains_voltage_missing" ∨
      issue.code = "power_no_circuits" ∨ issue.code = "power_unassigned" := by
    rcases List.mem_append.mp listed with first | listed
    · exact .inl (unknown _ _ issue first)
    · rcases List.mem_append.mp listed with missing | last
      · split at missing
        · rw [List.mem_singleton.mp missing]
          exact .inr (.inl rfl)
        · cases missing
      · split at last
        · cases last
        · split at last
          · rw [List.mem_singleton.mp last]
            exact .inr (.inr (.inl rfl))
          · split at last
            · rw [List.mem_singleton.mp last]
              exact .inr (.inr (.inr rfl))
            · cases last
  rw [same] at named
  rcases other with rfl | rfl
  · revert named
    decide
  · revert named
    decide

end

/-! ## Whether the circuits hold -/

section

variable (ids : Ids) (answers : LanPartyAnswers) (services : List CatalogService)

/-- What a circuit of the party should carry at most for hours. -/
def circuitLimit : Rat := answers.mainsVoltage * answers.breakerAmps * continuousLoadShare

/-- What the circuits carry once the tables have got theirs. -/
def tableLoads : Multiset Rat :=
  (answers.sizes.map tablePowerDraw : Multiset Rat) +
    Multiset.replicate (answers.circuitCount - answers.sizes.length) 0

/-- A seat and a table switch stay within a circuit, and there are as many circuits as the
party is said to need, then all of them hold. -/
def CircuitsSuffice : Prop :=
  defaultSeatWatts + tableSwitchWatts ≤ circuitLimit answers →
    (answers.circuitsNeeded : Rat) ≤ answers.circuits → answers.circuits ≤ 32 →
      (buildLanPartyPlan ids answers services).CircuitsHold

/-- The devices of 150 W are fewer than go into what the tables leave free, or just as many,
and the small devices fit into what is left then. -/
def DevicesFit : Prop :=
  heavyDevices ids answers services < room (circuitLimit answers) 150 (tableLoads answers) ∨
    heavyDevices ids answers services = room (circuitLimit answers) 150 (tableLoads answers) ∧
      Fits (circuitLimit answers) (saturated (circuitLimit answers) 150 (tableLoads answers))
        (smallDraws ids answers services)

theorem circuitID_injective {index other : Nat} (same : circuitID index = circuitID other) :
    index = other :=
  Nat.succ_injective (Gaming.toString_injective ((String.append_right_inj _).mp same))

theorem nodup_partyCircuits :
    (((partyCircuits answers).map fun circuit => (circuit.id, (0 : Rat))).map Prod.fst).Nodup := by
  unfold partyCircuits
  rw [List.map_map, List.map_map]
  exact List.Nodup.map (fun _ _ same => circuitID_injective same) List.nodup_range

@[simp]
theorem length_partyCircuits : (partyCircuits answers).length = answers.circuitCount := by
  unfold partyCircuits
  rw [List.length_map, List.length_range]

theorem circuitCount_pos : 0 < answers.circuitCount := by
  unfold LanPartyAnswers.circuitCount
  omega

theorem sizes_le_circuitCount (needed : (answers.circuitsNeeded : Rat) ≤ answers.circuits)
    (most : answers.circuits ≤ 32) : answers.sizes.length ≤ answers.circuitCount := by
  have rounded : (answers.circuitsNeeded : Int) ≤ roundHalfUp answers.circuits := by
    unfold roundHalfUp
    rw [Int.le_floor]
    push_cast
    linarith
  have few : answers.circuitsNeeded ≤ 32 := by exact_mod_cast needed.trans most
  have tables : answers.sizes.length ≤ answers.circuitsNeeded := Nat.le_add_right _ _
  unfold LanPartyAnswers.circuitCount orWhenZero
  split <;> omega

theorem circuits_within_iff :
    (∀ circuit ∈ (buildLanPartyPlan ids answers services).gamingPlan.circuits,
      (buildLanPartyPlan ids answers services).wattsOn circuit.id ≤ circuitLimit answers) ↔
      0 ≤ circuitLimit answers ∧ Fits (circuitLimit answers)
        (Multiset.replicate answers.circuitCount 0) (sortedDraws ids answers services) := by
  have some : partyCircuits answers ≠ [] := by
    rw [← List.length_pos_iff, length_partyCircuits]
    exact circuitCount_pos answers
  have watts : ∀ circuit ∈ partyCircuits answers,
      (buildLanPartyPlan ids answers services).wattsOn circuit.id =
        carried (fun entry => entry.1.powerDraw)
          (assignCircuits (partyCircuits answers) (partyNodes ids answers services)) circuit.id := by
    intro circuit listed
    refine wattsOn_withCircuits some _ listed ?_
    rcases List.mem_map.mp listed with ⟨index, -, rfl⟩
    intro blank
    have long := congrArg String.length blank
    simp [circuitID, String.length_append] at long
  have nonneg : ∀ entry ∈ heaviestFirst (partyNodes ids answers services), 0 ≤ entry.1.powerDraw := by
    intro entry listed
    have member := (heaviestFirst_perm ids answers services).subset listed
    exact (powerDraw_pos ids answers services (List.fst_mem_of_mem_zipIdx member)).le
  have loads : ((partyCircuits answers).map fun circuit => (circuit.id, (0 : Rat))).map Prod.snd =
      List.replicate answers.circuitCount 0 := by
    rw [List.map_map, ← length_partyCircuits]
    exact List.map_const'
  have within : (∀ entry ∈ (partyCircuits answers).map fun circuit => (circuit.id, (0 : Rat)),
      entry.2 + carried (fun entry => entry.1.powerDraw)
        (assignCircuits (partyCircuits answers) (partyNodes ids answers services)) entry.1 ≤
          circuitLimit answers) ↔ _ :=
    LeastLoaded.assign_within_iff _ (nodup_partyCircuits answers)
      (fun none => some (List.map_eq_nil_iff.mp none)) nonneg
  rw [loads, heaviestFirst_draws, Multiset.coe_replicate, List.forall_mem_map,
    List.forall_mem_map] at within
  have limits : (∀ circuit ∈ partyCircuits answers, (0 : Rat) ≤ circuitLimit answers) ↔
      0 ≤ circuitLimit answers := by
    rcases List.exists_mem_of_ne_nil _ some with ⟨circuit, listed⟩
    exact ⟨fun all => all circuit listed, fun nonneg _ _ => nonneg⟩
  rw [← limits, ← within]
  refine forall₂_congr fun circuit listed => ?_
  rw [watts circuit listed, zero_add]

theorem devicesFit_iff (one : defaultSeatWatts + tableSwitchWatts ≤ circuitLimit answers)
    (enough : answers.sizes.length ≤ answers.circuitCount) :
    Fits (circuitLimit answers) (Multiset.replicate answers.circuitCount 0)
        (sortedDraws ids answers services) ↔ DevicesFit ids answers services := by
  rcases smallDraws_bounds ids answers services with ⟨little, bounds, -⟩
  have tables : ∀ draw ∈ answers.sizes.map tablePowerDraw, 0 ≤ draw ∧ draw ≤ circuitLimit answers := by
    intro draw listed
    rcases List.mem_map.mp listed with ⟨size, member, rfl⟩
    rcases mem_sizes_bounds answers member with ⟨positive, fits⟩
    have heavy := lt_tablePowerDraw positive
    exact ⟨by linarith, tablePowerDraw_le one positive fits⟩
  have placed : Fits (circuitLimit answers) (0 + Multiset.replicate answers.circuitCount 0)
      (answers.sizes.map tablePowerDraw ++
        (List.replicate (heavyDevices ids answers services) 150 ++
          smallDraws ids answers services)) ↔ _ :=
    LeastLoaded.fits_empty_iff answers.circuitCount 0 (fun draw listed => (tables draw listed).1)
      (fun load listed => absurd listed (Multiset.notMem_zero load))
      (by rw [List.length_map]; exact enough)
  rw [zero_add, zero_add, List.length_map] at placed
  have some : tableLoads answers ≠ 0 := by
    rw [← Multiset.card_pos]
    unfold tableLoads
    rw [Multiset.card_add, Multiset.coe_card, List.length_map, Multiset.card_replicate]
    have circuits := circuitCount_pos answers
    omega
  rw [sortedDraws, placed, and_iff_right fun draw listed => (tables draw listed).2]
  exact LeastLoaded.fits_replicate_iff (by norm_num) some
    (fun draw listed => (bounds draw listed).1.le) little _

theorem whole_powerDraw {node : PlannedNode} (listed : node ∈ partyNodes ids answers services) :
    Whole node.powerDraw := by
  have draw := (draws_perm ids answers services).subset (List.mem_map_of_mem listed)
  rcases List.mem_append.mp draw with table | draw
  · rcases List.mem_map.mp table with ⟨size, -, same⟩
    refine ⟨tableSeats size * 350 + 10, ?_⟩
    rw [← same]
    unfold tablePowerDraw defaultSeatWatts tableSwitchWatts
    simp
  · rcases List.mem_append.mp draw with heavy | small
    · rw [List.eq_of_mem_replicate heavy]
      exact ⟨150, rfl⟩
    · have whole : ∀ draw ∈ smallDraws ids answers services, Whole draw := by
        have watts : Whole 35 ∧ Whole 25 ∧ Whole 12 := ⟨⟨35, rfl⟩, ⟨25, rfl⟩, ⟨12, rfl⟩⟩
        unfold smallDraws
        split <;> split <;> split <;> simp [watts]
      exact whole _ small

/-- The circuits a party is said to need are enough exactly where the consoles and the server
go into what the tables leave free, in pieces of 150 W. -/
theorem circuitsSuffice_iff :
    CircuitsSuffice ids answers services ↔
      (defaultSeatWatts + tableSwitchWatts ≤ circuitLimit answers →
        (answers.circuitsNeeded : Rat) ≤ answers.circuits → answers.circuits ≤ 32 →
          DevicesFit ids answers services) := by
  refine imp_congr_right fun one => imp_congr_right fun needed => imp_congr_right fun most => ?_
  have enough := sizes_le_circuitCount answers needed most
  have positive : 0 < circuitLimit answers := by
    have seat : (0 : Rat) < defaultSeatWatts + tableSwitchWatts := by decide +kernel
    exact seat.trans_le one
  have within := circuits_within_iff ids answers services
  rw [and_iff_right positive.le, devicesFit_iff ids answers services one enough] at within
  have amps : ∀ circuit ∈ (buildLanPartyPlan ids answers services).gamingPlan.circuits,
      circuit.breakerAmps = answers.breakerAmps := by
    intro circuit listed
    rcases List.mem_map.mp listed with ⟨index, -, rfl⟩
    rfl
  have limits : (∀ circuit ∈ (buildLanPartyPlan ids answers services).gamingPlan.circuits,
      (buildLanPartyPlan ids answers services).wattsOn circuit.id ≤
        (buildLanPartyPlan ids answers services).gamingPlan.mainsVoltage * circuit.breakerAmps *
          continuousLoadShare) ↔ DevicesFit ids answers services := by
    rw [← within]
    refine forall₂_congr fun circuit listed => ?_
    rw [amps circuit listed]
    rfl
  refine ⟨fun hold => limits.mp hold.1, fun fit => ⟨limits.mpr fit, ?_⟩⟩
  have breakers : ∀ circuit ∈ (buildLanPartyPlan ids answers services).gamingPlan.circuits,
      breakerIssues (buildLanPartyPlan ids answers services).gamingPlan.mainsVoltage
        (circuitLoad (buildLanPartyPlan ids answers services).gamingPlan.circuits
          ((buildLanPartyPlan ids answers services).nodes.map PlannedNode.poweredNode)
          (buildLanPartyPlan ids answers services).gamingPlan.mainsVoltage circuit) = [] := by
    intro circuit listed
    refine breakerIssues_eq_nil ?_ ?_ (limits.mpr fit circuit listed)
    · have positive' : 0 < answers.mainsVoltage * answers.breakerAmps * (4 / 5) := positive
      rw [amps circuit listed]
      show 0 ≤ answers.mainsVoltage * answers.breakerAmps
      linarith
    · apply whole_wattsOn
      intro device member
      rcases List.mem_map.mp member with ⟨node, planned, rfl⟩
      rcases List.mem_map.mp planned with ⟨entry, indexed, rfl⟩
      rw [powerDraw_withCircuit]
      exact whole_powerDraw ids answers services (List.fst_mem_of_mem_zipIdx indexed)
  exact ⟨not_lists_of_breakers breakers (.inl rfl), not_lists_of_breakers breakers (.inr rfl)⟩

end

/-- Eight players at one table and sixteen consoles, on the one circuit the table needs. -/
def consoleParty : LanPartyAnswers where
  name := "Consoles"
  seats := 8
  consoles := 16
  wifi := false
  mainsVoltage := 230
  breakerAmps := 16
  circuits := 1
  games := []
  lancache := false

def partyIds : Ids where
  server index := "server-" ++ toString index
  modem := "modem"
  router := "router"
  core := "core"
  table index := "table-" ++ toString index
  accessPoint := "ap"
  console index := "console-" ++ toString index
  host := "host"

/-- The consoles are not counted: the one circuit carries more than its breaker. -/
theorem consoles_overload_the_circuit :
    ¬∀ (ids : Ids) (answers : LanPartyAnswers) (services : List CatalogService),
      CircuitsSuffice ids answers services := by
  intro claimed
  have hold := claimed partyIds consoleParty [] (by decide +kernel) (by decide +kernel)
    (by decide)
  have first := hold.1 ⟨"c1", "Circuit 1", 16⟩ (by decide +kernel)
  revert first
  decide +kernel

end HomelabBuilder.Planner
