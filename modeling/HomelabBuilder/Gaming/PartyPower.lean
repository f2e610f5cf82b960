import Mathlib.Algebra.Order.Floor.Ring
import Mathlib.Data.Rat.Floor
import HomelabBuilder.Gaming.Report

/-! # Power at a party

`report_party.go` as far as the breakers are concerned. What it says of seats, tables,
addresses and the internet line is left out.
-/

namespace HomelabBuilder.Gaming

/-- How much of its rating a breaker should carry for hours. -/
def continuousLoadShare : Rat := 4 / 5

structure PoweredNode where
  id : String
  name : String
  powerDraw : Rat
  circuit : String

structure CircuitLoad where
  id : String
  label : String
  breakerAmps : Rat
  watts : Rat
  capacityWatts : Rat := 0
  continuousWatts : Rat := 0
  usedPct : Rat := 0

structure PartyReport where
  totalWatts : Rat := 0
  unassignedWatts : Rat := 0
  energyKWh : Rat := 0
  circuits : List CircuitLoad := []
  issues : List Issue := []

def PartyReport.lists (report : PartyReport) (code : String) : Prop :=
  ∃ issue ∈ report.issues, issue.code = code

/-! ## Texts -/

/-- `int(value)`. -/
def toInt (value : Rat) : Int := if value < 0 then ⌈value⌉ else ⌊value⌋

def round1 (value : Rat) : Rat := (toInt (value * 10 + 1 / 2) : Rat) / 10

/-- To the nearest tenth, and to an even one between two. -/
def nearestTenths (value : Rat) : Nat :=
  let low := ⌊value * 10⌋.toNat
  let rest := value * 10 - low
  if rest < 1 / 2 then low
  else if 1 / 2 < rest then low + 1
  else if low % 2 = 0 then low else low + 1

/-- A whole number without decimals and anything else with one. -/
def formatNumber (value : Rat) : String :=
  if value.den = 1 then toString value.num
  else
    let tenths := nearestTenths |value|
    (if value < 0 then "-" else "") ++ toString (tenths / 10) ++ "." ++ toString (tenths % 10)

/-! ## Breakers -/

def circuitUnknown (node : PoweredNode) : Issue where
  code := "circuit_unknown"
  severity := severityWarning
  nodeID := node.id
  vmID := ""
  message := node.name ++ " is on circuit \"" ++ node.circuit ++
    "\", which is not in the game plan."
  fix := "Pick an existing circuit for it, or add that circuit to the plan."

def mainsVoltageMissing : Issue where
  code := "mains_voltage_missing"
  severity := severityWarning
  nodeID := ""
  vmID := ""
  message := "The mains voltage is not filled in, so the load on the breakers cannot be checked."
  fix := "Enter 230 or 120 in the game plan."

def CircuitLoad.name (load : CircuitLoad) : String :=
  if load.label = "" then "Circuit " ++ load.id else load.label

def circuitOverloaded (load : CircuitLoad) : Issue where
  code := "circuit_overloaded"
  severity := severityError
  nodeID := ""
  vmID := ""
  message := load.name ++ " carries " ++ toString (toInt load.watts) ++ " W on a " ++
    formatNumber load.breakerAmps ++ " A breaker that trips at " ++
    toString (toInt load.capacityWatts) ++ " W."
  fix := "Move tables to another circuit."

def circuitOver80 (load : CircuitLoad) : Issue where
  code := "circuit_over_80"
  severity := severityWarning
  nodeID := ""
  vmID := ""
  message := load.name ++ " carries " ++ toString (toInt load.watts) ++ " W, over the " ++
    toString (toInt load.continuousWatts) ++ " W a " ++ formatNumber load.breakerAmps ++
    " A breaker should carry for hours."
  fix := "Move something to another circuit to stay under 80% of the breaker."

def powerNoCircuits (totalWatts : Rat) : Issue where
  code := "power_no_circuits"
  severity := severityInfo
  nodeID := ""
  vmID := ""
  message := "The plan draws about " ++ toString (toInt totalWatts) ++
    " W in total. No power circuits are filled in."
  fix := "Add the venue's circuits to the game plan and assign tables to them to see whether " ++
    "the breakers hold."

def powerUnassigned (unassignedWatts : Rat) : Issue where
  code := "power_unassigned"
  severity := severityWarning
  nodeID := ""
  vmID := ""
  message := toString (toInt unassignedWatts) ++ " W of equipment is not assigned to a circuit."
  fix := "Pick a circuit for each table and device."

section

variable (circuits : List Circuit) (nodes : List PoweredNode)

def powered : List PoweredNode := nodes.filter fun node => 0 < node.powerDraw

def isCircuit (id : String) : Bool := circuits.any fun circuit => circuit.id = id

def unassigned : List PoweredNode :=
  (powered nodes).filter fun node => node.circuit = "" || !isCircuit circuits node.circuit

/-- One issue for each unknown circuit, about the first device on it. -/
def unknownCircuits : List String → List PoweredNode → List Issue
  | _, [] => []
  | unknown, node :: rest =>
      if node.circuit = "" ∨ isCircuit circuits node.circuit ∨ node.circuit ∈ unknown then
        unknownCircuits unknown rest
      else circuitUnknown node :: unknownCircuits (node.circuit :: unknown) rest

def wattsOn (id : String) : Rat :=
  (((powered nodes).filter fun node =>
      node.circuit = id && node.circuit ≠ "" && isCircuit circuits id).map
    PoweredNode.powerDraw).sum

def circuitLoad (mainsVoltage : Rat) (circuit : Circuit) : CircuitLoad :=
  let watts := wattsOn circuits nodes circuit.id
  let load : CircuitLoad := ⟨circuit.id, circuit.label, circuit.breakerAmps, watts, 0, 0, 0⟩
  if 0 < mainsVoltage then
    let capacityWatts := mainsVoltage * circuit.breakerAmps
    { load with
      capacityWatts := capacityWatts
      continuousWatts := ⌊capacityWatts * continuousLoadShare⌋
      usedPct := round1 (watts / capacityWatts * 100) }
  else load

def breakerIssues (mainsVoltage : Rat) (load : CircuitLoad) : List Issue :=
  if 0 < mainsVoltage then
    if load.capacityWatts < load.watts then [circuitOverloaded load]
    else if load.continuousWatts < load.watts then [circuitOver80 load]
    else []
  else []

def checkParty (mainsVoltage hours : Rat) : PartyReport :=
  let totalWatts := ((powered nodes).map PoweredNode.powerDraw).sum
  let unassignedWatts := ((unassigned circuits nodes).map PoweredNode.powerDraw).sum
  let loads := (circuits.insertionSort fun left right => left.id ≤ right.id).map
    (circuitLoad circuits nodes mainsVoltage)
  { totalWatts := totalWatts
    unassignedWatts := unassignedWatts
    energyKWh := if 0 < hours then round1 (totalWatts * hours / 1000) else 0
    circuits := loads
    issues :=
      unknownCircuits circuits [] (powered nodes) ++
      (if circuits ≠ [] ∧ mainsVoltage = 0 then [mainsVoltageMissing] else []) ++
      loads.flatMap (breakerIssues mainsVoltage) ++
      (if totalWatts ≤ 0 then []
        else if circuits = [] then [powerNoCircuits totalWatts]
        else if 0 < unassignedWatts then [powerUnassigned unassignedWatts]
        else []) }

end

end HomelabBuilder.Gaming
