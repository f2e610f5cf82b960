import HomelabBuilder.Foundation.Extremes
import HomelabBuilder.Services.PlanIPAM

/-! # How well a hardware blueprint fits

The scoring of `hardware_blueprint_fit.go` over the capacities and demands it has read
from a blueprint. Numbers are exact rationals; the notes of the factors are left out.
-/

namespace HomelabBuilder.Blueprints

open Averages Services

/-! ## What is compared -/

structure FitResource where
  cpuCores : Rat := 0
  ramGB : Rat := 0
  storageGB : Rat := 0
  powerW : Rat := 0
  ports : Rat := 0
  networkGbps : Rat := 0
  driveBays : Int := 0
  disks : Int := 0
  gpus : Int := 0

structure Utilization where
  cpu : Rat
  ram : Rat
  storage : Rat
  ports : Rat
  network : Rat

/-- What the user's builds hold already; a type that is not there counts zero. -/
structure LabProfile where
  hasData : Bool := false
  edgeCount : Int := 0
  serviceCount : Int := 0
  typeCounts : String → Int := fun _ => 0
  cpuCores : Rat := 0
  ramGB : Rat := 0
  storageGB : Rat := 0
  ports : Rat := 0
  disks : Int := 0
  gpus : Int := 0

structure FitFactor where
  key : String
  label : String
  score : Rat
  weight : Rat

structure Fit where
  score : Int
  grade : String
  label : String
  summary : String
  capacity : FitResource
  demand : FitResource
  utilization : Utilization
  factors : List FitFactor

def networkTypes : List String := ["router", "switch", "firewall", "access_point"]

def computeTypes : List String := ["server", "server_v2", "minipc", "pc"]

def clamp (value low high : Rat) : Rat :=
  if value < low then low else if high < value then high else value

def max4 (a b c d : Rat) : Rat := max (max a (max b c)) d

/-! ## The factors -/

def utilizationRatio (demand capacity : Rat) : Rat :=
  if demand ≤ 0 then 0 else if capacity ≤ 0 then 1.5 else demand / capacity

def scoreRatio (ratio : Rat) : Rat :=
  if ratio ≤ 0.55 then 96 - ratio * 18
  else if ratio ≤ 0.85 then 86 - (ratio - 0.55) * 70
  else if ratio ≤ 1 then 65 - (ratio - 0.85) * 120
  else clamp (46 - (ratio - 1) * 48) 0 46

def scoreResourceUtilization (demand capacity : Rat) : Rat :=
  if demand ≤ 0 then (if 0 < capacity then 82 else 56)
  else if capacity ≤ 0 then 8
  else scoreRatio (demand / capacity)

namespace Utilization

variable (utilization : Utilization)

def values : List Rat :=
  [utilization.cpu, utilization.ram, utilization.storage, utilization.ports, utilization.network]

def active : List Rat := utilization.values.filter (0 < ·)

def spread : Rat := Averages.spread utilization.active

/-- The ports do not count here. -/
def peak : Rat :=
  max4 utilization.cpu utilization.ram utilization.storage utilization.network

end Utilization

def scoreBottleneck (util : Utilization) : Rat :=
  if util.active = [] then 74
  else
    let peak := Averages.peak util.active
    let score := 96 - peak * 40 - util.spread * 32
    clamp (if 1 < peak then score - (peak - 1) * 60 else score) 0 96

/-- What the type of the node adds to the score of its power draw. -/
def powerBonus (nodeType : String) (powerW : Rat) : Rat :=
  if nodeType ∈ ["minipc", "sbc"] then (if powerW ≤ 18 then 12 else 0)
  else if nodeType ∈ ["server", "server_v2"] then (if 180 < powerW then -8 else 0)
  else if nodeType ∈ ["router", "switch", "firewall"] then (if powerW ≤ 30 then 8 else 0)
  else 0

def scorePowerEfficiency (nodeType : String) (capacity : FitResource) : Rat :=
  if capacity.powerW ≤ 0 then 58
  else
    let usefulCapacity := capacity.cpuCores * 12 + capacity.ramGB * 1.4 + capacity.storageGB / 80 +
      capacity.ports * 3 + capacity.gpus * 22
    clamp (48 + usefulCapacity / capacity.powerW * 16 + powerBonus nodeType capacity.powerW) 18 98

def scorePortFit (nodeType : String) (demand capacity : Rat) : Rat :=
  if nodeType ∈ networkTypes then
    if 8 ≤ capacity then 92 else if 4 ≤ capacity then 78 else if 0 < capacity then 58 else 24
  else scoreResourceUtilization demand capacity

def scoreRoleFit (nodeType : String) (capacity demand : FitResource) (serviceCount : Int) : Rat :=
  if nodeType = "nas" then
    clamp (52 + min 28 (capacity.storageGB / 300) + min 12 (capacity.disks * 4) +
      (if 4 ≤ capacity.driveBays then 8 else 0) +
      (if 2.5 ≤ capacity.networkGbps then 8 else 0)) 35 98
  else if nodeType ∈ computeTypes then
    clamp (48 + min 24 (capacity.cpuCores * 3) + min 20 (capacity.ramGB / 2) +
      (if 0 < serviceCount ∧ 0 < demand.cpuCores ∧ 0 < demand.ramGB then 8 else 0) +
      (if 0 < capacity.gpus then 6 else 0)) 35 98
  else if nodeType ∈ networkTypes then
    clamp (45 + min 28 (capacity.ports * 5) + min 18 (capacity.networkGbps * 2) +
      (if 0 < capacity.powerW ∧ capacity.powerW ≤ 35 then 7 else 0)) 25 98
  else if nodeType = "gpu" then (if 0 < capacity.gpus then 86 else 64)
  else if 0 < capacity.cpuCores + capacity.ramGB + capacity.storageGB + capacity.ports then 72
  else 52

def scoreResilience (nodeType : String) (capacity : FitResource) : Rat :=
  if nodeType = "nas" then
    if 4 ≤ capacity.disks ∨ 4 ≤ capacity.driveBays then 92
    else if 2 ≤ capacity.disks ∨ 2 ≤ capacity.driveBays then 78
    else if 0 < capacity.storageGB then 52
    else 35
  else if nodeType ∈ ["server", "server_v2"] then
    if 2 ≤ capacity.disks ∧ 2 ≤ capacity.ports then 84
    else if 1 ≤ capacity.disks ∨ 2 ≤ capacity.ports then 68
    else 54
  else if nodeType ∈ ["router", "switch", "firewall"] then
    if 4 ≤ capacity.ports ∧ capacity.powerW ≤ 45 then 78 else 60
  else 64

def scoreLabComplement (nodeType : String) (capacity : FitResource) (profile : LabProfile) : Rat :=
  if profile.hasData = false then 70
  else
    let computeNodes := profile.typeCounts "server" + profile.typeCounts "server_v2" +
      profile.typeCounts "minipc" + profile.typeCounts "pc"
    let portPressure : Rat :=
      if 0 < profile.ports then (profile.edgeCount * 2 : Int) / profile.ports else 0
    if nodeType ∈ ["nas", "disk"] then
      if profile.disks = 0 ∨ profile.storageGB < 1024 then 90
      else if profile.storageGB * 0.5 < capacity.storageGB then 78
      else 64
    else if nodeType ∈ computeTypes then
      if computeNodes = 0 then 92
      else if computeNodes * 4 < profile.serviceCount then 86
      else if profile.cpuCores * 0.35 < capacity.cpuCores ∨
          profile.ramGB * 0.35 < capacity.ramGB then 80
      else 66
    else if nodeType ∈ networkTypes then
      if profile.ports ≤ 0 ∨ 0.75 < portPressure then 90
      else if 0.55 < portPressure then 82
      else 64
    else if nodeType = "gpu" then (if profile.gpus = 0 then 88 else 63)
    else if profile.typeCounts nodeType = 0 then 78
    else 63

def scoreExpansionCapacity (capacity : FitResource) : Rat :=
  clamp (54 + min 22 (capacity.disks * 8) + min 16 (capacity.gpus * 10) +
    (if 4 ≤ capacity.ports then 10 else 0) + (if 2000 ≤ capacity.storageGB then 7 else 0) +
    (if 32 ≤ capacity.ramGB then 6 else 0)) 30 96

def scoreBlueprintConfidence (capacity : FitResource) (serviceCount : Int) : Rat :=
  clamp (42 + (if 0 < capacity.cpuCores then 9 else 0) + (if 0 < capacity.ramGB then 9 else 0) +
    (if 0 < capacity.storageGB then 9 else 0) + (if 0 < capacity.ports then 9 else 0) +
    (if 0 < capacity.powerW then 10 else 0) +
    (if 0 < capacity.disks ∨ 0 < capacity.gpus then 6 else 0) +
    (if 0 < serviceCount then 6 else 0)) 35 100

/-! ## The score -/

def scoreHeadroom (demand capacity : FitResource) : Rat :=
  weightedAverage [
    ⟨scoreResourceUtilization demand.cpuCores capacity.cpuCores, 0.28⟩,
    ⟨scoreResourceUtilization demand.ramGB capacity.ramGB, 0.32⟩,
    ⟨scoreResourceUtilization demand.storageGB capacity.storageGB, 0.22⟩,
    ⟨scoreResourceUtilization demand.ports capacity.ports, 0.10⟩,
    ⟨scoreResourceUtilization demand.networkGbps capacity.networkGbps, 0.08⟩]

def utilizationOf (demand capacity : FitResource) : Utilization where
  cpu := utilizationRatio demand.cpuCores capacity.cpuCores
  ram := utilizationRatio demand.ramGB capacity.ramGB
  storage := utilizationRatio demand.storageGB capacity.storageGB
  ports := utilizationRatio demand.ports capacity.ports
  network := utilizationRatio demand.networkGbps capacity.networkGbps

def fitFactors (nodeType : String) (capacity demand : FitResource) (serviceCount : Int)
    (profile : LabProfile) : List FitFactor := [
  ⟨"headroom", "Resource headroom", scoreHeadroom demand capacity, 0.22⟩,
  ⟨"bottleneck", "Bottleneck risk", scoreBottleneck (utilizationOf demand capacity), 0.15⟩,
  ⟨"role", "Role match", scoreRoleFit nodeType capacity demand serviceCount, 0.13⟩,
  ⟨"power", "Power efficiency", scorePowerEfficiency nodeType capacity, 0.12⟩,
  ⟨"ports", "Network ports", scorePortFit nodeType demand.ports capacity.ports, 0.10⟩,
  ⟨"lab_gap", "Lab fit", scoreLabComplement nodeType capacity profile, 0.14⟩,
  ⟨"expansion", "Expansion", scoreExpansionCapacity capacity, 0.06⟩,
  ⟨"resilience", "Resilience", scoreResilience nodeType capacity, 0.04⟩,
  ⟨"confidence", "Data confidence", scoreBlueprintConfidence capacity serviceCount, 0.03⟩]

def weightedAverageFromFactors (factors : List FitFactor) : Rat :=
  weightedAverage (factors.map fun factor => ⟨factor.score, factor.weight⟩)

/-- A stack that asks for more than the machine has is never called a good fit. -/
def capScore (peak : Rat) (score : Int) : Int :=
  if 1.35 < peak then min score 58 else if 1.05 < peak then min score 72 else score

def fitGrade (score : Int) : String × String :=
  if 86 ≤ score then ("excellent", "Strong fit")
  else if 74 ≤ score then ("good", "Good fit")
  else if 60 ≤ score then ("tight", "Tight fit")
  else ("risky", "Risky fit")

def fitSummary (label : String) (headroomScore labGapScore : Rat) (demand : FitResource) : String :=
  if demand.cpuCores = 0 ∧ demand.ramGB = 0 ∧ demand.storageGB = 0 then
    label ++ " based on hardware capacity, expansion room, power, and your saved lab shape."
  else if 78 ≤ headroomScore ∧ 78 ≤ labGapScore then
    label ++ " with healthy service headroom and useful coverage for the current lab."
  else if headroomScore < 58 then
    label ++ " because bundled services press close to the available CPU, RAM, or storage."
  else label ++ " across service load, power, ports, expansion, and lab complementarity."

def scoreHardwareBlueprintFit (nodeType : String) (capacity demand : FitResource)
    (serviceCount : Int) (profile : LabProfile) : Fit :=
  let utilization := utilizationOf demand capacity
  let factors := fitFactors nodeType capacity demand serviceCount profile
  let rounded := mathRound (weightedAverageFromFactors factors)
  -- the clamped score is not negative, so its whole part is its floor
  let score := (clamp (capScore utilization.peak rounded) 0 100).floor
  let (grade, label) := fitGrade score
  { score, grade, label, capacity, demand, utilization, factors
    summary := fitSummary label (scoreHeadroom demand capacity)
      (scoreLabComplement nodeType capacity profile) demand }

end HomelabBuilder.Blueprints
