import HomelabBuilder.Gaming.Plan
import HomelabBuilder.Services.SaveValidation

/-! # Topology operations

The change sets of `topology_ops.go`: one flat, op-tagged change and what the
editor is given besides. A missing number or text is `none`.
-/

namespace HomelabBuilder.Topology

open Services

structure TopologyOp where
  op : String
  /-- The id of the entity an add operation creates. -/
  id : String := ""
  ref : String := ""
  node : String := ""
  host : String := ""
  vm : String := ""
  component : String := ""
  source : String := ""
  target : String := ""
  parent : Option String := none
  type : String := ""
  name : Option String := none
  details : List (String × Json) := []
  ip : Option String := none
  powerDraw : Option Rat := none
  x : Option Rat := none
  y : Option Rat := none
  rackSlot : Option Rat := none
  hardwareID : String := ""
  connectionType : Option String := none
  speed : Option String := none
  direction : Option String := none
  wirelessStandard : Option String := none
  subnet : Option String := none
  sourceHandle : String := ""
  targetHandle : String := ""
  cpuCores : Option Rat := none
  ramMB : Option Rat := none
  os : Option String := none
  status : Option String := none
  staticIP : Option String := none
  catalogServiceID : String := ""
  macAddress : Option String := none
  diskGB : Option Rat := none
  notes : Option String := none
  vmid : Option Rat := none
  players : Option Rat := none
  exposure : Option String := none
  portOffset : Option Rat := none
  kind : String := ""
  plan : List (String × Json) := []

/-- A catalog item, with the details and the power draw `catalogHardwareDetails`
reads off its spec. -/
structure CatalogHardware where
  brand : String
  model : String
  /-- `HardwareCategoryToNodeType` of its category. -/
  nodeType : String
  details : List (String × Json)
  powerDraw : Rat

structure ServiceRequirements where
  minRAMMB : Int
  recommendedRAMMB : Int
  minCPUCores : Rat
  recommendedCPUCores : Rat

structure CatalogService where
  id : UUID
  name : String
  requirements : Option ServiceRequirements := none
  /-- The slug of its game. -/
  game : Option String := none

structure CatalogLookup where
  hardwareByID : UUID → Option CatalogHardware
  serviceForUser : UUID → Option CatalogService

/-- What a batch is applied with: the runtime, the options of the call and the
ids `uuid.NewString` draws. -/
structure Env extends Runtime where
  /-- `strings.EqualFold`. -/
  equalFold : String → String → Bool
  newID : Nat → UUID
  catalog : Option CatalogLookup := none
  allowLoops : Bool := false

def Env.plain : Env where
  toRuntime := Runtime.plain
  equalFold left right := left = right
  newID draw := UUID.numbered (Fin.ofNat 10 draw)

/-- Ids for examples; those below five are never drawn by a short batch. -/
def sampleID (digit : Fin 10) : String := (UUID.numbered digit).text

def maxTopologyOps : Nat := 100
def maxTopologyNodes : Nat := 300
def maxVMsPerNode : Nat := 100
def maxComponentsPerNode : Nat := 50
def maxNameLength : Nat := 120
def maxDetailKeys : Nat := 60
def maxDetailStringLength : Nat := 2000

/-! ## Refusing -/

/-- Goes on only where the condition holds. -/
def require (condition : Prop) [Decidable condition] (message : String) : Except String Unit :=
  if condition then .ok () else .error message

def given {α : Type} (value : Option α) (message : String) : Except String α :=
  match value with
  | some value => .ok value
  | none => .error message

/-- A change that is made only where a value is given. -/
def whenGiven {α β : Type} (value : Option α) (current : β) (change : α → Except String β) :
    Except String β :=
  match value with
  | none => .ok current
  | some value => change value

section

variable {α β : Type} {condition : Prop} [Decidable condition] {message : String}

theorem bind_eq_ok {first : Except String α} {next : α → Except String β} {result : β} :
    (first >>= next) = .ok result ↔ ∃ value, first = .ok value ∧ next value = .ok result := by
  cases first with
  | error other =>
      constructor
      · intro done
        cases done
      · rintro ⟨_, done, _⟩
        cases done
  | ok value =>
      constructor
      · intro done
        exact ⟨value, rfl, done⟩
      · rintro ⟨_, same, done⟩
        cases same
        exact done

@[simp]
theorem require_eq_ok {done : Unit} : require condition message = .ok done ↔ condition := by
  unfold require
  split <;> simp_all

theorem require_of (holds : condition) : require condition message = .ok () :=
  require_eq_ok.mpr holds

@[simp]
theorem given_eq_ok {value : Option α} {result : α} :
    given value message = .ok result ↔ value = some result := by
  cases value <;> simp [given]

theorem toOption_eq_some {ε : Type} {outcome : Except ε α} {result : α} :
    outcome.toOption = some result ↔ outcome = .ok result := by
  cases outcome <;> simp [Except.toOption]

theorem whenGiven_eq_ok {value : Option α} {current result : β} {change : α → Except String β} :
    whenGiven value current change = .ok result ↔
      (value = none ∧ result = current) ∨ ∃ some, value = .some some ∧ change some = .ok result := by
  cases value with
  | none => simp [whenGiven, eq_comm]
  | some value => simp [whenGiven]

end

end HomelabBuilder.Topology
