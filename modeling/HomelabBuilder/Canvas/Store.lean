import HomelabBuilder.Canvas.Connections
import HomelabBuilder.Foundation.Json
import HomelabBuilder.Gaming.Instance

/-! # The canvas store

`builder-store.ts` and `build-mapper.ts`: the devices of an open build, kept in
a list and again on the cards of the canvas, and the build as it is loaded and as
it is sent. A text that is not set is empty; texts that only the display uses are
left out.
-/

namespace HomelabBuilder.Canvas

open Services (EdgeDTO)

/-! ## Devices -/

/-- `VirtualMachine`; details that are not set are null. -/
structure Guest where
  id : String
  name : String
  type : String
  ip : String := ""
  macAddress : String := ""
  os : String := ""
  cpuCores : Rat := 0
  ramMB : Int := 0
  status : String := "stopped"
  details : Json := .null
  deriving DecidableEq

/-- `HardwareComponent`. -/
structure Component where
  id : String
  type : String
  name : String
  powerDraw : Rat := 0
  details : Json := .null
  deriving DecidableEq

/-- A device; an address that is not set is empty. -/
structure HardwareNode where
  id : String
  type : String
  name : String
  ip : String := ""
  macAddress : String := ""
  powerDraw : Option Rat := none
  x : Rat
  y : Rat
  details : Option (List (String × Json)) := none
  vms : Option (List Guest) := none
  internalComponents : Option (List Component) := none
  parentID : Option String := none
  deriving DecidableEq

/-- The card of a device. Its data is the device once more. -/
structure FlowNode where
  id : String
  type : String
  x : Rat
  y : Rat
  data : HardwareNode
  label : String
  parentID : Option String := none
  deriving DecidableEq

structure FlowEdge where
  id : String
  ends : LinkEnd
  data : CableData
  deriving DecidableEq

set_option linter.dupNamespace false in
structure Canvas where
  nodes : List FlowNode := []
  edges : List FlowEdge := []
  hardwareNodes : List HardwareNode := []
  deriving DecidableEq

/-! ## Builds of the API -/

structure BuildNode where
  id : String
  type : String
  name : String
  ip : String := ""
  macAddress : String := ""
  powerDraw : Rat := 0
  x : Rat := 0
  y : Rat := 0
  details : Json := .null
  parentID : Option String := none
  virtualMachines : List Guest := []
  internalComponents : List Component := []

structure BuildEdge where
  id : String
  sourceNodeID : String
  sourceHandle : String := ""
  targetNodeID : String
  targetHandle : String := ""
  type : String := ""
  speed : String := ""
  subnet : String := ""
  wirelessStandard : String := ""
  direction : String := ""

structure Build where
  id : String
  name : String
  kind : String := ""
  gamingPlan : Json := .null
  settings : Json := .null
  revision : Nat
  nodes : List BuildNode := []
  edges : List BuildEdge := []

/-! ## Loading -/

section

variable (parseJSON : String → Option Json)

/-- Details as the API stores them: an object, or the same as text. -/
def parseDetails : Json → List (String × Json)
  | .obj members => members
  | .str text => ((parseJSON text).bind Json.asObject).getD []
  | _ => []

/-- A device of the list. Ids of a build are its own, so it is also the device of
the card. -/
def hardwareNode (node : BuildNode) : HardwareNode where
  id := node.id
  type := node.type
  name := node.name
  ip := node.ip
  macAddress := node.macAddress
  powerDraw := if node.powerDraw = 0 then none else some node.powerDraw
  x := node.x
  y := node.y
  vms := some node.virtualMachines
  internalComponents := some node.internalComponents
  details := some (parseDetails parseJSON node.details)
  parentID := node.parentID.filter (· ≠ "")

def cardType (type : String) : String := if type = "rack" then "rack" else "hardware"

def flowNode (node : BuildNode) : FlowNode where
  id := node.id
  type := cardType node.type
  x := node.x
  y := node.y
  data := hardwareNode parseJSON node
  label := node.name
  parentID := node.parentID.filter (· ≠ "")

def flowEdge (edge : BuildEdge) : FlowEdge where
  id := orElse edge.id (edge.sourceNodeID ++ "-" ++ edge.targetNodeID)
  ends :=
    { source := edge.sourceNodeID
      sourceHandle := edge.sourceHandle
      target := edge.targetNodeID
      targetHandle := edge.targetHandle }
  data :=
    if edge.type = "power" then { connectionType := "power" }
    else
      { connectionType := orElse edge.type "ethernet"
        speed := orElse edge.speed "1 GbE"
        subnet := edge.subnet
        wirelessStandard := orElse edge.wirelessStandard "Wi-Fi 6"
        direction := orElse edge.direction "auto" }

/-- `mapBuildToFlow`: the devices, and their cards with the racks first. -/
def mapBuildToFlow (build : Build) : Canvas where
  hardwareNodes := build.nodes.map (hardwareNode parseJSON)
  nodes := ((build.nodes.filter fun node => node.type = "rack") ++
    build.nodes.filter fun node => node.type ≠ "rack").map (flowNode parseJSON)
  edges := build.edges.map flowEdge

/-! ## Saving -/

structure SavedNode where
  id : String
  type : String
  name : String
  x : Rat
  y : Rat
  powerDraw : Rat
  ip : String
  macAddress : String
  details : List (String × Json)
  vms : List Guest
  internalComponents : List Component
  parentID : Option String
  deriving DecidableEq

/-- What a save sends besides the name and the revision. -/
structure BuildData where
  kind : String
  gamingPlan : Option (List (String × Json))
  nodes : List SavedNode
  edges : List EdgeDTO
  settings : List (String × Json)
  deriving DecidableEq

/-- `new Map(nodes.map(node => [node.id, node])).get(id)`: the last one counts. -/
def deviceOf (hardwareNodes : List HardwareNode) (id : String) : Option HardwareNode :=
  hardwareNodes.reverse.find? fun device => device.id = id

def savedNode (hardwareNodes : List HardwareNode) (node : FlowNode) : SavedNode :=
  let device := deviceOf hardwareNodes node.id
  let data := node.data
  { id := node.id
    type := orElse data.type (device.elim "" (·.type))
    name := orElse data.name (device.elim "" (·.name))
    x := node.x
    y := node.y
    powerDraw := (data.powerDraw.or (device.bind (·.powerDraw))).getD 0
    ip := orElse data.ip (device.elim "" (·.ip))
    macAddress := orElse data.macAddress (device.elim "" (·.macAddress))
    details := (data.details.or (device.bind (·.details))).getD []
    vms := (data.vms.or (device.bind (·.vms))).getD []
    internalComponents := (data.internalComponents.or (device.bind (·.internalComponents))).getD []
    parentID := (device.bind (·.parentID)).filter (· ≠ "") }

/-- What an undo step restores besides the canvas. -/
structure SnapshotMeta where
  projectName : Option String := none
  buildKind : Option String := none
  gamingPlan : Option (List (String × Json)) := none
  deriving DecidableEq

structure Snapshot where
  canvas : Canvas
  snapshotMeta : SnapshotMeta := {}
  deriving DecidableEq

/-- A service of the catalog, as far as a new guest depends on it. -/
structure Service where
  id : String
  game : Option Gaming.Profile := none

structure BuilderState where
  currentBuildID : Option String := none
  isReady : Bool := false
  currentRevision : Nat := 0
  projectName : String := "My Homelab"
  buildKind : String := "homelab"
  gamingPlan : List (String × Json) := []
  buildSettings : List (String × Json) := []
  canvas : Canvas := {}
  lastSyncedFingerprint : Option BuildData := none
  tags : List Json := []
  availableServices : List Service := []
  selectedNodeID : Option String := none
  virtualHostID : Option String := none
  -- Whether a proposal is reviewed on the canvas.
  proposalPreview : Bool := false
  historyPast : List Snapshot := []
  historyFuture : List Snapshot := []

def sanitizedEdges (canvas : Canvas) : List EdgeDTO :=
  (canvas.edges.map fun edge => savedEdge edge.ends edge.data).filter fun edge =>
    edge.source ∈ canvas.nodes.map (·.id) && edge.target ∈ canvas.nodes.map (·.id)

def getBuildData (state : BuilderState) : BuildData where
  kind := state.buildKind
  gamingPlan := if state.gamingPlan = [] then none else some state.gamingPlan
  nodes := state.canvas.nodes.map (savedNode state.canvas.hardwareNodes)
  edges := sanitizedEdges state.canvas
  settings := state.buildSettings

/-- Whether the canvas differs from what the server was last known to hold. -/
def hasUnsavedChanges (state : BuilderState) : Bool :=
  state.currentBuildID.isSome && state.isReady &&
    state.lastSyncedFingerprint ≠ some (getBuildData state)

/-- Whether the store has the graph of that build. -/
def BuilderState.holds (state : BuilderState) (id : String) : Bool :=
  state.currentBuildID = some id && state.isReady

def loadBuild (state : BuilderState) (id name : String) (build : Build) : BuilderState :=
  let canvas := mapBuildToFlow parseJSON build
  let loaded := { state with
    currentBuildID := some id
    isReady := true
    currentRevision := build.revision
    projectName := name
    buildKind := orElse build.kind "homelab"
    gamingPlan := build.gamingPlan.members
    buildSettings := build.settings.members
    canvas := canvas
    tags := ((build.settings.members.lookup "tags").bind Json.asArray).getD []
    selectedNodeID := state.selectedNodeID.filter fun node =>
      state.holds id && node ∈ canvas.nodes.map FlowNode.id
    virtualHostID := none
    proposalPreview := false
    historyPast := []
    historyFuture := [] }
  { loaded with lastSyncedFingerprint := some (getBuildData loaded) }

end

end HomelabBuilder.Canvas
