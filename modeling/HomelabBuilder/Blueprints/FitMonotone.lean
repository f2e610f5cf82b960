import HomelabBuilder.Blueprints.Fit
import Mathlib.Algebra.Order.Floor.Ring
import Mathlib.Data.Rat.Floor

/-! # What more demand and more capacity do to a fit

More demand lowers every factor of the score, and more capacity raises it, but for one:
the bottleneck factor also takes off for the spread between the resources, and raising the
use of a resource that stands below the peak narrows it.
-/

namespace HomelabBuilder.Blueprints

open Averages Services

/-! ## The five resources -/

inductive Resource
  | cpu
  | ram
  | storage
  | ports
  | network
  deriving DecidableEq

def FitResource.amount (resources : FitResource) : Resource → Rat
  | .cpu => resources.cpuCores
  | .ram => resources.ramGB
  | .storage => resources.storageGB
  | .ports => resources.ports
  | .network => resources.networkGbps

def FitResource.withAmount (resources : FitResource) (resource : Resource) (amount : Rat) :
    FitResource :=
  match resource with
  | .cpu => { resources with cpuCores := amount }
  | .ram => { resources with ramGB := amount }
  | .storage => { resources with storageGB := amount }
  | .ports => { resources with ports := amount }
  | .network => { resources with networkGbps := amount }

def Utilization.of (utilization : Utilization) : Resource → Rat
  | .cpu => utilization.cpu
  | .ram => utilization.ram
  | .storage => utilization.storage
  | .ports => utilization.ports
  | .network => utilization.network

@[simp] theorem amount_withAmount (resources : FitResource) (resource other : Resource)
    (amount : Rat) : (resources.withAmount resource amount).amount other =
      if other = resource then amount else resources.amount other := by
  cases resource <;> cases other <;> rfl

@[simp]
theorem utilizationOf_of (demand capacity : FitResource) (resource : Resource) :
    (utilizationOf demand capacity).of resource =
      utilizationRatio (demand.amount resource) (capacity.amount resource) := by
  cases resource <;> rfl

theorem Utilization.ext_of {utilization other : Utilization}
    (same : ∀ resource, utilization.of resource = other.of resource) : utilization = other := by
  have cpu := same .cpu
  have ram := same .ram
  have storage := same .storage
  have ports := same .ports
  have network := same .network
  cases utilization
  cases other
  simp_all [Utilization.of]

/-- More is asked of the resources that are asked for already. -/
structure Heavier (demand raised : FitResource) : Prop where
  grows : ∀ resource, demand.amount resource ≤ raised.amount resource
  asked : ∀ resource, 0 < raised.amount resource → 0 < demand.amount resource

/-- Some of the five resources are larger, and nothing else changes. -/
structure Roomier (capacity larger : FitResource) : Prop where
  grows : ∀ resource, capacity.amount resource ≤ larger.amount resource
  powerW : larger.powerW = capacity.powerW
  driveBays : larger.driveBays = capacity.driveBays
  disks : larger.disks = capacity.disks
  gpus : larger.gpus = capacity.gpus

theorem heavier_withAmount {demand : FitResource} {resource : Resource} {amount : Rat}
    (asked : 0 < demand.amount resource) (more : demand.amount resource ≤ amount) :
    Heavier demand (demand.withAmount resource amount) := by
  constructor
  · intro other
    rw [amount_withAmount]
    split
    next same => exact same ▸ more
    next => exact le_rfl
  · intro other positive
    rw [amount_withAmount] at positive
    split at positive
    next same => exact same ▸ asked
    next => exact positive

theorem roomier_withAmount {capacity : FitResource} {resource : Resource} {amount : Rat}
    (more : capacity.amount resource ≤ amount) :
    Roomier capacity (capacity.withAmount resource amount) := by
  refine ⟨fun other => ?_, ?_, ?_, ?_, ?_⟩
  · rw [amount_withAmount]
    split
    next same => exact same ▸ more
    next => exact le_rfl
  all_goals cases resource <;> rfl

/-! ## Clamping and rounding -/

theorem clamp_eq {value low high : Rat} (ordered : low ≤ high) :
    clamp value low high = max low (min value high) := by
  unfold clamp
  split
  next below => rw [min_eq_left (below.le.trans ordered), max_eq_left below.le]
  next above =>
    split
    next beyond => rw [min_eq_right beyond.le, max_eq_right ordered]
    next within => rw [min_eq_left (not_lt.mp within), max_eq_right (not_lt.mp above)]

theorem clamp_mono {value better low high : Rat} (ordered : low ≤ high) (below : value ≤ better) :
    clamp value low high ≤ clamp better low high := by
  rw [clamp_eq ordered, clamp_eq ordered]
  exact max_le_max le_rfl (min_le_min below le_rfl)

theorem mathRound_mono {value better : Rat} (below : value ≤ better) :
    mathRound value ≤ mathRound better := by
  have added : value + 1 / 2 ≤ better + 1 / 2 := by linarith
  have taken : value - 1 / 2 ≤ better - 1 / 2 := by linarith
  unfold mathRound
  split_ifs with low high high
  · exact Int.floor_mono added
  · exact absurd (low.trans below) high
  · have negative : value - 1 / 2 ≤ (0 : Int) := by push_cast; linarith
    have positive : (0 : Int) ≤ better + 1 / 2 := by push_cast; linarith
    exact (Rat.ceil_le_iff.mpr negative).trans (Rat.le_floor_iff.mpr positive)
  · exact Rat.ceil_le_iff.mpr (taken.trans Rat.le_ceil)

theorem capScore_mono {peak higher : Rat} {score better : Int} (above : peak ≤ higher)
    (below : score ≤ better) : capScore higher score ≤ capScore peak better := by
  unfold capScore
  split_ifs <;> first | omega | (exfalso; linarith)

/-! ## Utilization -/

theorem utilizationRatio_nonneg (demand : Rat) {capacity : Rat} (sized : 0 < capacity) :
    0 ≤ utilizationRatio demand capacity := by
  unfold utilizationRatio
  split_ifs with none
  · exact le_rfl
  · norm_num
  · exact div_nonneg (not_le.mp none).le sized.le

theorem utilizationRatio_pos_iff {demand capacity : Rat} (sized : 0 < capacity) :
    0 < utilizationRatio demand capacity ↔ 0 < demand := by
  unfold utilizationRatio
  rw [if_neg (not_le.mpr sized)]
  split_ifs with none
  · simpa using none
  · exact ⟨fun _ => not_le.mp none, fun asked => div_pos asked sized⟩

theorem utilizationRatio_demand {demand raised capacity : Rat} (sized : 0 < capacity)
    (more : demand ≤ raised) :
    utilizationRatio demand capacity ≤ utilizationRatio raised capacity := by
  by_cases none : demand ≤ 0
  · calc utilizationRatio demand capacity = 0 := if_pos none
      _ ≤ utilizationRatio raised capacity := utilizationRatio_nonneg raised sized
  · have asked : ¬raised ≤ 0 := fun low => none (more.trans low)
    unfold utilizationRatio
    rw [if_neg none, if_neg asked, if_neg (not_le.mpr sized), if_neg (not_le.mpr sized)]
    exact div_le_div_of_nonneg_right more sized.le

theorem utilizationRatio_capacity {demand capacity larger : Rat} (sized : 0 < capacity)
    (more : capacity ≤ larger) :
    utilizationRatio demand larger ≤ utilizationRatio demand capacity := by
  unfold utilizationRatio
  rw [if_neg (not_le.mpr sized), if_neg (not_le.mpr (sized.trans_le more))]
  split_ifs with none
  · exact le_rfl
  · exact div_le_div_of_nonneg_left (not_le.mp none).le sized more

namespace Utilization

/-- More of every resource is used, of the same resources. -/
structure Below (utilization busier : Utilization) : Prop where
  grows : ∀ resource, utilization.of resource ≤ busier.of resource
  active : ∀ resource, 0 < utilization.of resource ↔ 0 < busier.of resource

variable {utilization busier : Utilization}

theorem Below.values (below : utilization.Below busier) :
    List.Forall₂ (fun value higher => value ≤ higher ∧ (0 < value ↔ 0 < higher))
      utilization.values busier.values := by
  have each := fun resource => And.intro (below.grows resource) (below.active resource)
  exact .cons (each .cpu) (.cons (each .ram) (.cons (each .storage) (.cons (each .ports)
    (.cons (each .network) .nil))))

theorem Below.active_values (below : utilization.Below busier) :
    List.Forall₂ (· ≤ ·) utilization.active busier.active := by
  refine List.Forall₂.imp (fun _ _ both => both.1) (List.rel_filter ?_ below.values)
  rintro value higher ⟨-, same⟩
  simpa using same

theorem Below.peak_le (below : utilization.Below busier) : utilization.peak ≤ busier.peak :=
  max_le_max (max_le_max (below.grows .cpu) (max_le_max (below.grows .ram) (below.grows .storage)))
    (below.grows .network)

theorem Below.scoreBottleneck_le (below : utilization.Below busier)
    (wider : utilization.spread ≤ busier.spread) :
    scoreBottleneck busier ≤ scoreBottleneck utilization := by
  have higher := peak_mono below.active_values
  have length := below.active_values.length_eq
  unfold scoreBottleneck
  by_cases idle : utilization.active = []
  · have still : busier.active = [] :=
      List.eq_nil_of_length_eq_zero (by rw [← length, idle, List.length_nil])
    rw [if_pos idle, if_pos still]
  · have still : busier.active ≠ [] := by
      intro empty
      exact idle (List.eq_nil_of_length_eq_zero (by rw [length, empty, List.length_nil]))
    rw [if_neg idle, if_neg still]
    refine clamp_mono (by norm_num) ?_
    split_ifs <;> linarith

theorem mem_values (utilization : Utilization) (resource : Resource) :
    utilization.of resource ∈ utilization.values := by
  cases resource <;> simp [Utilization.of, values]

theorem forall_values {P : Rat → Prop} :
    (∀ value ∈ utilization.values, P value) ↔ ∀ resource, P (utilization.of resource) := by
  constructor
  · intro each resource
    exact each _ (mem_values utilization resource)
  · intro each value member
    simp only [values, List.mem_cons, List.not_mem_nil, or_false] at member
    rcases member with rfl | rfl | rfl | rfl | rfl
    exacts [each .cpu, each .ram, each .storage, each .ports, each .network]

theorem peak_active_eq {resource : Resource} (asked : 0 < utilization.of resource)
    (top : ∀ other, utilization.of other ≤ utilization.of resource) :
    Averages.peak utilization.active = utilization.of resource := by
  apply le_antisymm
  · refine peak_le_iff.mpr ⟨asked.le, fun value member => ?_⟩
    exact forall_values (P := (· ≤ utilization.of resource)) |>.mpr top value
      (List.mem_of_mem_filter member)
  · exact le_peak (List.mem_filter.mpr ⟨mem_values _ _, by simpa using asked⟩)

theorem sum_active (nonneg : ∀ resource, 0 ≤ utilization.of resource) :
    utilization.active.sum = utilization.values.sum :=
  sum_filter_pos (forall_values.mpr nonneg)

theorem sum_values_sub {resource : Resource}
    (same : ∀ other, other ≠ resource → busier.of other = utilization.of other) :
    busier.values.sum - utilization.values.sum =
      busier.of resource - utilization.of resource := by
  have cpu := same .cpu
  have ram := same .ram
  have storage := same .storage
  have ports := same .ports
  have network := same .network
  cases resource <;> simp_all [Utilization.of, values]

theorem Below.spread_le (below : utilization.Below busier) {resource : Resource}
    (nonneg : ∀ other, 0 ≤ utilization.of other) (asked : 0 < utilization.of resource)
    (same : ∀ other, other ≠ resource → busier.of other = utilization.of other)
    (top : ∀ other, utilization.of other ≤ utilization.of resource) :
    utilization.spread ≤ busier.spread := by
  have still : ∀ other, busier.of other ≤ busier.of resource := by
    intro other
    by_cases it : other = resource
    · rw [it]
    · rw [same other it]
      exact (top other).trans (below.grows resource)
  refine spread_le_spread below.active_values.length_eq.symm ?_ (peak_mono below.active_values)
  rw [peak_active_eq asked top, peak_active_eq ((below.active resource).mp asked) still,
    sum_active nonneg, sum_active fun other => (nonneg other).trans (below.grows other),
    sum_values_sub same]

end Utilization

/-! ## The other factors -/

theorem scoreRatio_antitone {ratio higher : Rat} (more : ratio ≤ higher) :
    scoreRatio higher ≤ scoreRatio ratio := by
  have fallen : 46 - (higher - 1) * 48 ≤ 46 - (ratio - 1) * 48 := by linarith
  have clamped : clamp (46 - (higher - 1) * 48) 0 46 ≤ clamp (46 - (ratio - 1) * 48) 0 46 :=
    clamp_mono (by norm_num) fallen
  have ceiling : clamp (46 - (higher - 1) * 48) 0 46 ≤ 46 := by
    rw [clamp_eq (by norm_num)]
    exact max_le (by norm_num) (min_le_right _ _)
  unfold scoreRatio
  split_ifs <;> linarith

theorem scoreResourceUtilization_demand {demand raised capacity : Rat} (sized : 0 < capacity)
    (more : demand ≤ raised) (asked : 0 < raised → 0 < demand) :
    scoreResourceUtilization raised capacity ≤ scoreResourceUtilization demand capacity := by
  unfold scoreResourceUtilization
  by_cases none : demand ≤ 0
  · have still : raised ≤ 0 := not_lt.mp fun positive => not_le.mpr (asked positive) none
    rw [if_pos none, if_pos still]
  · have still : ¬raised ≤ 0 := fun low => none (more.trans low)
    rw [if_neg none, if_neg still, if_neg (not_le.mpr sized), if_neg (not_le.mpr sized)]
    exact scoreRatio_antitone (div_le_div_of_nonneg_right more sized.le)

theorem scoreResourceUtilization_capacity {demand capacity larger : Rat} (sized : 0 < capacity)
    (more : capacity ≤ larger) :
    scoreResourceUtilization demand capacity ≤ scoreResourceUtilization demand larger := by
  have still := sized.trans_le more
  unfold scoreResourceUtilization
  rw [if_pos sized, if_pos still, if_neg (not_le.mpr sized), if_neg (not_le.mpr still)]
  split
  · exact le_rfl
  · next asked =>
    exact scoreRatio_antitone (div_le_div_of_nonneg_left (not_le.mp asked).le sized more)

theorem step_mono {p q : Prop} [Decidable p] [Decidable q] {more less : Rat} (ordered : less ≤ more)
    (implied : p → q) : (if p then more else less) ≤ if q then more else less := by
  split_ifs with holds fails
  · exact le_rfl
  · exact absurd (implied holds) fails
  · exact ordered
  · exact le_rfl

section Capacity

variable {capacity larger : FitResource}

theorem scorePowerEfficiency_mono (roomier : Roomier capacity larger) (nodeType : String) :
    scorePowerEfficiency nodeType capacity ≤ scorePowerEfficiency nodeType larger := by
  have cpu : capacity.cpuCores ≤ larger.cpuCores := roomier.grows .cpu
  have ram : capacity.ramGB ≤ larger.ramGB := roomier.grows .ram
  have storage : capacity.storageGB ≤ larger.storageGB := roomier.grows .storage
  have ports : capacity.ports ≤ larger.ports := roomier.grows .ports
  unfold scorePowerEfficiency
  rw [roomier.powerW, roomier.gpus]
  split
  · exact le_rfl
  · next drawn =>
    refine clamp_mono (by norm_num) ?_
    gcongr
    exact (not_le.mp drawn).le

theorem scorePortFit_capacity {demand ports more : Rat} (sized : 0 < ports) (grows : ports ≤ more)
    (nodeType : String) : scorePortFit nodeType demand ports ≤ scorePortFit nodeType demand more := by
  unfold scorePortFit
  split
  · split_ifs <;> linarith
  · exact scoreResourceUtilization_capacity sized grows

theorem scoreRoleFit_mono (roomier : Roomier capacity larger) (nodeType : String)
    (demand : FitResource) (serviceCount : Int) :
    scoreRoleFit nodeType capacity demand serviceCount ≤
      scoreRoleFit nodeType larger demand serviceCount := by
  have cpu : capacity.cpuCores ≤ larger.cpuCores := roomier.grows .cpu
  have ram : capacity.ramGB ≤ larger.ramGB := roomier.grows .ram
  have storage : capacity.storageGB ≤ larger.storageGB := roomier.grows .storage
  have ports : capacity.ports ≤ larger.ports := roomier.grows .ports
  have network : capacity.networkGbps ≤ larger.networkGbps := roomier.grows .network
  unfold scoreRoleFit
  rw [roomier.powerW, roomier.gpus, roomier.driveBays, roomier.disks]
  split
  · refine clamp_mono (by norm_num) (add_le_add ?_ (step_mono (by norm_num) network.trans'))
    gcongr
  · split
    · refine clamp_mono (by norm_num) ?_
      gcongr
    · split
      · refine clamp_mono (by norm_num) ?_
        gcongr
      · split
        · exact le_rfl
        · exact step_mono (by norm_num) fun positive => by linarith

theorem scoreResilience_mono (roomier : Roomier capacity larger) (nodeType : String) :
    scoreResilience nodeType capacity ≤ scoreResilience nodeType larger := by
  have storage : capacity.storageGB ≤ larger.storageGB := roomier.grows .storage
  have ports : capacity.ports ≤ larger.ports := roomier.grows .ports
  unfold scoreResilience
  rw [roomier.powerW, roomier.driveBays, roomier.disks]
  split
  · split
    · exact le_rfl
    · split
      · exact le_rfl
      · exact step_mono (by norm_num) storage.trans_lt'
  · split
    · by_cases both : 2 ≤ capacity.disks ∧ 2 ≤ capacity.ports
      · rw [if_pos both, if_pos ⟨both.1, both.2.trans ports⟩]
      · rw [if_neg both]
        split_ifs <;> norm_num
        all_goals grind
    · split
      · exact step_mono (by norm_num) fun both => ⟨both.1.trans ports, both.2⟩
      · exact le_rfl

theorem scoreLabComplement_mono (roomier : Roomier capacity larger) (nodeType : String)
    (profile : LabProfile) :
    scoreLabComplement nodeType capacity profile ≤ scoreLabComplement nodeType larger profile := by
  have cpu : capacity.cpuCores ≤ larger.cpuCores := roomier.grows .cpu
  have ram : capacity.ramGB ≤ larger.ramGB := roomier.grows .ram
  have storage : capacity.storageGB ≤ larger.storageGB := roomier.grows .storage
  unfold scoreLabComplement
  split
  · exact le_rfl
  · dsimp only
    split
    · split
      · exact le_rfl
      · exact step_mono (by norm_num) storage.trans_lt'
    · split
      · split
        · exact le_rfl
        · split
          · exact le_rfl
          · exact step_mono (by norm_num) (Or.imp cpu.trans_lt' ram.trans_lt')
      · exact le_rfl

theorem scoreExpansionCapacity_mono (roomier : Roomier capacity larger) :
    scoreExpansionCapacity capacity ≤ scoreExpansionCapacity larger := by
  have ram : capacity.ramGB ≤ larger.ramGB := roomier.grows .ram
  have storage : capacity.storageGB ≤ larger.storageGB := roomier.grows .storage
  have ports : capacity.ports ≤ larger.ports := roomier.grows .ports
  unfold scoreExpansionCapacity
  rw [roomier.gpus, roomier.disks]
  refine clamp_mono (by norm_num) (add_le_add (add_le_add (add_le_add le_rfl ?_) ?_) ?_)
  · exact step_mono (by norm_num) ports.trans'
  · exact step_mono (by norm_num) storage.trans'
  · exact step_mono (by norm_num) ram.trans'

theorem scoreBlueprintConfidence_mono (roomier : Roomier capacity larger) (serviceCount : Int) :
    scoreBlueprintConfidence capacity serviceCount ≤
      scoreBlueprintConfidence larger serviceCount := by
  have cpu : capacity.cpuCores ≤ larger.cpuCores := roomier.grows .cpu
  have ram : capacity.ramGB ≤ larger.ramGB := roomier.grows .ram
  have storage : capacity.storageGB ≤ larger.storageGB := roomier.grows .storage
  have ports : capacity.ports ≤ larger.ports := roomier.grows .ports
  unfold scoreBlueprintConfidence
  rw [roomier.powerW, roomier.gpus, roomier.disks]
  refine clamp_mono (by norm_num) (add_le_add (add_le_add (add_le_add (add_le_add (add_le_add
    (add_le_add (add_le_add le_rfl ?_) ?_) ?_) ?_) le_rfl) le_rfl) le_rfl)
  · exact step_mono (by norm_num) cpu.trans_lt'
  · exact step_mono (by norm_num) ram.trans_lt'
  · exact step_mono (by norm_num) storage.trans_lt'
  · exact step_mono (by norm_num) ports.trans_lt'

end Capacity

/-! ## The score -/

/-- The same factor of two fits, with a score at most as high when its key is selected. -/
structure FitFactor.Below (selected : String → Prop) (factor better : FitFactor) : Prop where
  key : factor.key = better.key
  weight : factor.weight = better.weight
  nonneg : 0 ≤ factor.weight
  score : selected factor.key → factor.score ≤ better.score

/-- Every factor but the one for bottlenecks. -/
def Others (key : String) : Prop := key ≠ "bottleneck"

def Every (_ : String) : Prop := True

theorem weightedAverageFromFactors_mono {factors better : List FitFactor}
    (below : List.Forall₂ (FitFactor.Below Every) factors better) :
    weightedAverageFromFactors factors ≤ weightedAverageFromFactors better := by
  refine weightedAverage_le ?_
  rw [List.forall₂_map_left_iff, List.forall₂_map_right_iff]
  exact below.imp fun _ _ each => ⟨each.weight, each.nonneg, each.score trivial⟩

theorem scoreHeadroom_le {demand raised capacity larger : FitResource}
    (each : ∀ resource,
      scoreResourceUtilization (raised.amount resource) (capacity.amount resource) ≤
        scoreResourceUtilization (demand.amount resource) (larger.amount resource)) :
    scoreHeadroom raised capacity ≤ scoreHeadroom demand larger := by
  refine weightedAverage_le (.cons ⟨rfl, ?_, each .cpu⟩ (.cons ⟨rfl, ?_, each .ram⟩
    (.cons ⟨rfl, ?_, each .storage⟩ (.cons ⟨rfl, ?_, each .ports⟩
      (.cons ⟨rfl, ?_, each .network⟩ .nil)))))
  all_goals norm_num

section

variable (nodeType : String) (serviceCount : Int) (profile : LabProfile)
variable {capacity larger demand raised : FitResource} {selected : String → Prop}

theorem fitFactors_demand (sized : ∀ resource, 0 < capacity.amount resource)
    (heavier : Heavier demand raised)
    (bottleneck : selected "bottleneck" →
      scoreBottleneck (utilizationOf raised capacity) ≤
        scoreBottleneck (utilizationOf demand capacity)) :
    List.Forall₂ (FitFactor.Below selected)
      (fitFactors nodeType capacity raised serviceCount profile)
      (fitFactors nodeType capacity demand serviceCount profile) := by
  have each := fun resource => scoreResourceUtilization_demand (sized resource)
    (heavier.grows resource) (heavier.asked resource)
  have ports : scorePortFit nodeType raised.ports capacity.ports ≤
      scorePortFit nodeType demand.ports capacity.ports := by
    unfold scorePortFit
    split
    · exact le_rfl
    · exact each .ports
  have role : scoreRoleFit nodeType capacity raised serviceCount ≤
      scoreRoleFit nodeType capacity demand serviceCount := by
    have cpu : 0 < raised.cpuCores → 0 < demand.cpuCores := heavier.asked .cpu
    have ram : 0 < raised.ramGB → 0 < demand.ramGB := heavier.asked .ram
    unfold scoreRoleFit
    split
    · exact le_rfl
    · split
      · refine clamp_mono (by norm_num) (add_le_add (add_le_add le_rfl ?_) le_rfl)
        exact step_mono (by norm_num) (And.imp_right (And.imp cpu ram))
      · exact le_rfl
  refine .cons ⟨rfl, rfl, ?_, fun _ => scoreHeadroom_le each⟩ (.cons ⟨rfl, rfl, ?_, bottleneck⟩
    (.cons ⟨rfl, rfl, ?_, fun _ => role⟩ (.cons ⟨rfl, rfl, ?_, fun _ => le_rfl⟩
    (.cons ⟨rfl, rfl, ?_, fun _ => ports⟩ (.cons ⟨rfl, rfl, ?_, fun _ => le_rfl⟩
    (.cons ⟨rfl, rfl, ?_, fun _ => le_rfl⟩ (.cons ⟨rfl, rfl, ?_, fun _ => le_rfl⟩
    (.cons ⟨rfl, rfl, ?_, fun _ => le_rfl⟩ .nil))))))))
  all_goals norm_num

theorem fitFactors_capacity (sized : ∀ resource, 0 < capacity.amount resource)
    (roomier : Roomier capacity larger)
    (bottleneck : selected "bottleneck" →
      scoreBottleneck (utilizationOf demand capacity) ≤
        scoreBottleneck (utilizationOf demand larger)) :
    List.Forall₂ (FitFactor.Below selected)
      (fitFactors nodeType capacity demand serviceCount profile)
      (fitFactors nodeType larger demand serviceCount profile) := by
  have each : ∀ resource,
      scoreResourceUtilization (demand.amount resource) (capacity.amount resource) ≤
        scoreResourceUtilization (demand.amount resource) (larger.amount resource) :=
    fun resource => scoreResourceUtilization_capacity (sized resource) (roomier.grows resource)
  have ports : scorePortFit nodeType demand.ports capacity.ports ≤
      scorePortFit nodeType demand.ports larger.ports :=
    scorePortFit_capacity (sized .ports) (roomier.grows .ports) nodeType
  refine .cons ⟨rfl, rfl, ?_, fun _ => scoreHeadroom_le each⟩ (.cons ⟨rfl, rfl, ?_, bottleneck⟩
    (.cons ⟨rfl, rfl, ?_, fun _ => scoreRoleFit_mono roomier nodeType demand serviceCount⟩
    (.cons ⟨rfl, rfl, ?_, fun _ => scorePowerEfficiency_mono roomier nodeType⟩
    (.cons ⟨rfl, rfl, ?_, fun _ => ports⟩
    (.cons ⟨rfl, rfl, ?_, fun _ => scoreLabComplement_mono roomier nodeType profile⟩
    (.cons ⟨rfl, rfl, ?_, fun _ => scoreExpansionCapacity_mono roomier⟩
    (.cons ⟨rfl, rfl, ?_, fun _ => scoreResilience_mono roomier nodeType⟩
    (.cons ⟨rfl, rfl, ?_, fun _ => scoreBlueprintConfidence_mono roomier serviceCount⟩
      .nil))))))))
  all_goals norm_num

theorem utilizationOf_demand (sized : ∀ resource, 0 < capacity.amount resource)
    (heavier : Heavier demand raised) :
    (utilizationOf demand capacity).Below (utilizationOf raised capacity) := by
  constructor
  · intro resource
    rw [utilizationOf_of, utilizationOf_of]
    exact utilizationRatio_demand (sized resource) (heavier.grows resource)
  · intro resource
    rw [utilizationOf_of, utilizationOf_of, utilizationRatio_pos_iff (sized resource),
      utilizationRatio_pos_iff (sized resource)]
    exact ⟨fun asked => asked.trans_le (heavier.grows resource), heavier.asked resource⟩

theorem utilizationOf_capacity (sized : ∀ resource, 0 < capacity.amount resource)
    (roomier : Roomier capacity larger) :
    (utilizationOf demand larger).Below (utilizationOf demand capacity) := by
  constructor
  · intro resource
    rw [utilizationOf_of, utilizationOf_of]
    exact utilizationRatio_capacity (sized resource) (roomier.grows resource)
  · intro resource
    rw [utilizationOf_of, utilizationOf_of, utilizationRatio_pos_iff (sized resource),
      utilizationRatio_pos_iff ((sized resource).trans_le (roomier.grows resource))]

theorem score_le
    (below : List.Forall₂ (FitFactor.Below Every)
      (fitFactors nodeType capacity raised serviceCount profile)
      (fitFactors nodeType larger demand serviceCount profile))
    (busier : (utilizationOf demand larger).peak ≤ (utilizationOf raised capacity).peak) :
    (scoreHardwareBlueprintFit nodeType capacity raised serviceCount profile).score ≤
      (scoreHardwareBlueprintFit nodeType larger demand serviceCount profile).score := by
  have rounded := mathRound_mono (weightedAverageFromFactors_mono below)
  have capped := capScore_mono busier rounded
  exact Rat.floor_monotone (clamp_mono (by norm_num) (by exact_mod_cast capped))

end

/-- Raising a demand lowers the other factors, and it raises the score only by narrowing
the spread between the resources; raising a capacity raises the other factors, and it
lowers the score only by widening the spread. -/
theorem scoreHardwareBlueprintFit_monotone (nodeType : String) (serviceCount : Int)
    (profile : LabProfile) (capacity demand : FitResource) (resource : Resource) (amount : Rat)
    (sized : ∀ resource, 0 < capacity.amount resource) :
    let fit := scoreHardwareBlueprintFit nodeType capacity demand serviceCount profile
    let busier := scoreHardwareBlueprintFit nodeType capacity (demand.withAmount resource amount)
      serviceCount profile
    let larger := scoreHardwareBlueprintFit nodeType (capacity.withAmount resource amount) demand
      serviceCount profile
    (0 < demand.amount resource → demand.amount resource ≤ amount →
      List.Forall₂ (FitFactor.Below Others) busier.factors fit.factors ∧
      (busier.score ≤ fit.score ∨ busier.utilization.spread < fit.utilization.spread) ∧
      ((∀ other, fit.utilization.of other ≤ fit.utilization.of resource) →
        busier.score ≤ fit.score)) ∧
    (capacity.amount resource ≤ amount →
      List.Forall₂ (FitFactor.Below Others) fit.factors larger.factors ∧
      (fit.score ≤ larger.score ∨ fit.utilization.spread < larger.utilization.spread) ∧
      (demand.amount resource ≤ 0 ∨
          (∀ other, larger.utilization.of other ≤ larger.utilization.of resource) →
        fit.score ≤ larger.score)) := by
  intro fit busier larger
  constructor
  · intro asked more
    have heavier := heavier_withAmount asked more
    have below := utilizationOf_demand sized heavier
    have lower : fit.utilization.spread ≤ busier.utilization.spread → busier.score ≤ fit.score :=
      fun wider => score_le nodeType serviceCount profile
        (fitFactors_demand nodeType serviceCount profile sized heavier fun _ =>
          below.scoreBottleneck_le wider) below.peak_le
    refine ⟨?_, ?_, fun top => lower (below.spread_le ?_ ?_ ?_ top)⟩
    · exact fitFactors_demand nodeType serviceCount profile sized heavier fun other =>
        absurd rfl other
    · exact (le_or_gt fit.utilization.spread busier.utilization.spread).imp_left lower
    · intro other
      rw [utilizationOf_of]
      exact utilizationRatio_nonneg _ (sized other)
    · rw [utilizationOf_of]
      exact (utilizationRatio_pos_iff (sized resource)).mpr asked
    · intro other different
      rw [utilizationOf_of, utilizationOf_of, amount_withAmount, if_neg different]
  · intro more
    have roomier := roomier_withAmount more
    have below : (utilizationOf demand (capacity.withAmount resource amount)).Below
        (utilizationOf demand capacity) := utilizationOf_capacity sized roomier
    have wide : ∀ other, 0 < (capacity.withAmount resource amount).amount other :=
      fun other => (sized other).trans_le (roomier.grows other)
    have higher : larger.utilization.spread ≤ fit.utilization.spread → fit.score ≤ larger.score :=
      fun wider => score_le nodeType serviceCount profile
        (fitFactors_capacity nodeType serviceCount profile sized roomier fun _ =>
          below.scoreBottleneck_le wider) below.peak_le
    have same : ∀ other, other ≠ resource →
        (utilizationOf demand capacity).of other =
          (utilizationOf demand (capacity.withAmount resource amount)).of other := by
      intro other different
      rw [utilizationOf_of, utilizationOf_of, amount_withAmount, if_neg different]
    refine ⟨?_, ?_, fun case => higher ?_⟩
    · exact fitFactors_capacity nodeType serviceCount profile sized roomier fun other =>
        absurd rfl other
    · exact (le_or_gt larger.utilization.spread fit.utilization.spread).imp_left higher
    · by_cases asked : 0 < demand.amount resource
      · refine below.spread_le ?_ ?_ same (case.resolve_left (not_le.mpr asked))
        · intro other
          rw [utilizationOf_of]
          exact utilizationRatio_nonneg _ (wide other)
        · rw [utilizationOf_of]
          exact (utilizationRatio_pos_iff (wide resource)).mpr asked
      · have still : utilizationOf demand capacity =
            utilizationOf demand (capacity.withAmount resource amount) := by
          have idle : (utilizationOf demand capacity).of resource =
              (utilizationOf demand (capacity.withAmount resource amount)).of resource := by
            rw [utilizationOf_of, utilizationOf_of, utilizationRatio, utilizationRatio,
              if_pos (not_lt.mp asked), if_pos (not_lt.mp asked)]
          exact Utilization.ext_of fun other => (eq_or_ne other resource).elim
            (fun it => it ▸ idle) (same other)
        exact (congrArg Utilization.spread still).ge

def evenMachine : FitResource where
  cpuCores := 20
  ramGB := 20
  storageGB := 20
  powerW := 200
  ports := 20
  networkGbps := 20

theorem evenMachine_sized (resource : Resource) : 0 < evenMachine.amount resource := by
  cases resource <;> decide

/-- More than half of the storage is asked for, and next to nothing of the network. -/
def storageStack : FitResource where
  storageGB := 11
  networkGbps := 1

/-- Asking for as much of the network as of the storage raises the score, and a faster
network card takes it down again. -/
theorem score_rises_and_falls :
    (∀ resource, 0 < evenMachine.amount resource) ∧
    (∀ resource, 0 ≤ storageStack.amount resource) ∧
    0 < storageStack.amount .network ∧ storageStack.amount .network ≤ 11 ∧
    (scoreHardwareBlueprintFit "server" evenMachine storageStack 1 {}).score = 75 ∧
    (scoreHardwareBlueprintFit "server" evenMachine
      (storageStack.withAmount .network 11) 1 {}).score = 76 ∧
    evenMachine.amount .network ≤ 220 ∧
    (scoreHardwareBlueprintFit "server" (evenMachine.withAmount .network 220)
      (storageStack.withAmount .network 11) 1 {}).score = 75 := by
  refine ⟨evenMachine_sized, ?_, ?_⟩
  · intro resource
    cases resource <;> decide +kernel
  · decide +kernel

/-- The storage is what is used most here. -/
theorem scoreHardwareBlueprintFit_monotone_of_evenMachine :
    (scoreHardwareBlueprintFit "server" evenMachine
        (storageStack.withAmount .storage 16) 1 {}).score ≤
      (scoreHardwareBlueprintFit "server" evenMachine storageStack 1 {}).score := by
  refine ((scoreHardwareBlueprintFit_monotone "server" 1 {} evenMachine storageStack .storage 16
    evenMachine_sized).1 (by decide +kernel) (by decide +kernel)).2.2 ?_
  intro other
  cases other <;> decide +kernel

end HomelabBuilder.Blueprints
