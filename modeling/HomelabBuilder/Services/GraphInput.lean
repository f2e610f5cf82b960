import HomelabBuilder.Gaming.Plan
import HomelabBuilder.Wiring.Ports

/-! # Stored topologies

The rows of `models.go` that the address planning reads. Details are `jsonb`
documents, so no object has a key twice; a row without details counts as one
with empty details.
-/

namespace HomelabBuilder.Services

/-- Four groups of hex digits are split off by hyphens. -/
def isCanonicalUUID (text : String) : Bool :=
  text.toList.length = 36 && text.toList.zipIdx.all fun entry =>
    if entry.2 ∈ [8, 13, 18, 23] then entry.1 = '-'
    else entry.1 ∈ "0123456789abcdef".toList

/-- A UUID in the spelling `String` gives it. -/
structure UUID where
  text : String
  canonical : isCanonicalUUID text = true
  deriving DecidableEq

theorem isCanonicalUUID_numbered (digit : Fin 10) :
    isCanonicalUUID ("00000000-0000-0000-0000-00000000000" ++ toString digit.val) = true := by
  unfold isCanonicalUUID
  rw [String.toList_append, Nat.toString_eq_ofList_toDigits, String.toList_ofList]
  revert digit
  decide

instance digits : NeZero 10 := ⟨by decide⟩

def UUID.numbered (digit : Fin 10) : UUID :=
  ⟨"00000000-0000-0000-0000-00000000000" ++ toString digit.val, isCanonicalUUID_numbered digit⟩

structure VirtualMachine where
  id : UUID
  name : String := ""
  ip : String := ""
  details : Json := .obj []

structure Node where
  id : UUID
  type : String
  ip : String := ""
  details : Json := .obj []
  virtualMachines : List VirtualMachine := []

structure Edge where
  sourceNodeID : UUID
  sourceHandle : String := ""
  targetNodeID : UUID
  targetHandle : String := ""
  type : String := "ethernet"
  direction : String := "auto"

theorem UUID.colon_not_mem (id : UUID) : ':' ∉ id.text.toList := by
  intro member
  have canonical := id.canonical
  simp only [isCanonicalUUID, Bool.and_eq_true, List.all_eq_true] at canonical
  rcases List.getElem?_of_mem member with ⟨index, located⟩
  have spelled := canonical.2 (':', index) (List.mem_zipIdx_iff_getElem?.mpr located)
  dsimp only at spelled
  split at spelled <;> simp at spelled

end HomelabBuilder.Services

/-! # Topology rows and the save input

The tables of `models.go` with their columns, and the DTOs of `build_service.go`
a save is made from. A DTO without details counts as one with empty details.
-/

namespace HomelabBuilder.Services

/-! ## Rows -/

structure NodeRow where
  id : UUID
  buildID : UUID
  type : String
  name : String
  x : Rat := 0
  y : Rat := 0
  powerDraw : Rat := 0
  ip : String := ""
  macAddress : String := ""
  details : Json := .obj []
  parentID : Option UUID := none
  createdAt : Nat := 0

structure VirtualMachineRow where
  id : UUID
  nodeID : UUID
  name : String
  type : String
  ip : String := ""
  macAddress : String := ""
  os : String := ""
  cpuCores : Rat := 0
  ramMB : Int := 0
  status : String := "stopped"
  details : Json := .obj []
  createdAt : Nat := 0

structure NodeComponentRow where
  id : UUID
  nodeID : UUID
  type : String
  name : String
  powerDraw : Rat := 0
  details : Json := .obj []
  createdAt : Nat := 0

structure EdgeRow where
  id : UUID
  buildID : UUID
  sourceNodeID : UUID
  sourceHandle : String := ""
  targetNodeID : UUID
  targetHandle : String := ""
  type : String := "ethernet"
  speed : String := "1 GbE"
  subnet : String := ""
  wirelessStandard : String := ""
  direction : String := "auto"
  createdAt : Nat := 0

/-- Stored details; no details count as empty ones. -/
def detailsMap : Json → Option (List (String × Json))
  | .null => some []
  | .obj members => some members
  | _ => none

/-! ## DTOs -/

structure ComponentDTO where
  id : String
  type : String
  name : String
  powerDraw : Rat := 0
  details : List (String × Json) := []

structure VMDTO where
  id : String
  name : String
  type : String
  ip : String := ""
  macAddress : String := ""
  os : String := ""
  cpuCores : Rat := 0
  ramMB : Int := 0
  status : String := ""
  details : List (String × Json) := []

structure NodeDTO where
  id : String
  type : String
  name : String
  x : Rat := 0
  y : Rat := 0
  powerDraw : Rat := 0
  ip : String := ""
  macAddress : String := ""
  subnetMask : String := ""
  gateway : String := ""
  details : List (String × Json) := []
  vms : List VMDTO := []
  internalComponents : List ComponentDTO := []
  parentID : Option String := none

structure EdgeDTO where
  source : String
  sourceHandle : String := ""
  target : String
  targetHandle : String := ""
  type : String := ""
  speed : String := ""
  subnet : String := ""
  wirelessStandard : String := ""
  direction : String := ""
  deriving DecidableEq

structure ServiceDTO where
  id : String
  name : String

/-- A save. No settings are null settings, an empty kind and a missing plan
keep what the build has. -/
structure SyncGraphInput where
  name : String
  thumbnail : String := ""
  settings : Option (List (String × Json)) := none
  revision : Nat := 0
  nodes : List NodeDTO := []
  edges : List EdgeDTO := []
  services : List ServiceDTO := []
  kind : String := ""
  gamingPlan : Option Gaming.Plan := none

/-! ## From rows to DTOs -/

def NodeRow.toDTO (row : NodeRow) (details : List (String × Json)) (vms : List VMDTO)
    (components : List ComponentDTO) : NodeDTO where
  id := row.id.text
  type := row.type
  name := row.name
  x := row.x
  y := row.y
  powerDraw := row.powerDraw
  ip := row.ip
  macAddress := row.macAddress
  details := details
  vms := vms
  internalComponents := components
  parentID := row.parentID.map UUID.text

def VirtualMachineRow.toDTO (row : VirtualMachineRow) (details : List (String × Json)) : VMDTO where
  id := row.id.text
  name := row.name
  type := row.type
  ip := row.ip
  macAddress := row.macAddress
  os := row.os
  cpuCores := row.cpuCores
  ramMB := row.ramMB
  status := row.status
  details := details

def NodeComponentRow.toDTO (row : NodeComponentRow) (details : List (String × Json)) :
    ComponentDTO where
  id := row.id.text
  type := row.type
  name := row.name
  powerDraw := row.powerDraw
  details := details

def EdgeRow.toDTO (row : EdgeRow) : EdgeDTO where
  source := row.sourceNodeID.text
  sourceHandle := row.sourceHandle
  target := row.targetNodeID.text
  targetHandle := row.targetHandle
  type := row.type
  speed := row.speed
  subnet := row.subnet
  wirelessStandard := row.wirelessStandard
  direction := row.direction

theorem UUID.text_inj {left right : UUID} : left.text = right.text ↔ left = right := by
  constructor
  · intro same
    cases left
    cases right
    simp_all
  · intro same
    rw [same]

end HomelabBuilder.Services
