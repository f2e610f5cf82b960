import HomelabBuilder.Services.SaveValidation

/-! # Saving a graph

`build_service.go` and `build_snapshot.go`: a save writes the build row, deletes
every topology row of the build and writes them again from the input. The
addresses and power loads calculated after it are left out.
-/

namespace HomelabBuilder.Services

open Gaming (parseKind parsePlan)

/-! ## Tables -/

structure BuildRow where
  id : UUID
  name : String
  kind : String := "homelab"
  gamingPlan : Json := .obj []
  settings : Json := .obj []
  thumbnail : String := ""
  revision : Nat := 1

structure ServiceInstanceRow where
  id : UUID
  buildID : UUID
  nodeID : Option UUID := none
  catalogServiceID : UUID
  name : String
  ip : String := ""
  port : Int := 0
  status : String := "stopped"

structure Tables where
  builds : List BuildRow := []
  nodes : List NodeRow := []
  virtualMachines : List VirtualMachineRow := []
  components : List NodeComponentRow := []
  edges : List EdgeRow := []
  services : List ServiceInstanceRow := []

namespace Tables

def nodesOf (tables : Tables) (buildID : UUID) : List NodeRow :=
  tables.nodes.filter fun node => node.buildID = buildID

def edgesOf (tables : Tables) (buildID : UUID) : List EdgeRow :=
  tables.edges.filter fun edge => edge.buildID = buildID

def servicesOf (tables : Tables) (buildID : UUID) : List ServiceInstanceRow :=
  tables.services.filter fun service => service.buildID = buildID

def vmsOn (tables : Tables) (nodeID : UUID) : List VirtualMachineRow :=
  tables.virtualMachines.filter fun vm => vm.nodeID = nodeID

def componentsOn (tables : Tables) (nodeID : UUID) : List NodeComponentRow :=
  tables.components.filter fun component => component.nodeID = nodeID

def holds (tables : Tables) (buildID nodeID : UUID) : Bool :=
  nodeID ∈ (tables.nodesOf buildID).map NodeRow.id

def vmsOf (tables : Tables) (buildID : UUID) : List VirtualMachineRow :=
  tables.virtualMachines.filter fun vm => tables.holds buildID vm.nodeID

def componentsOf (tables : Tables) (buildID : UUID) : List NodeComponentRow :=
  tables.components.filter fun component => tables.holds buildID component.nodeID

end Tables

/-! ## From rows to the input -/

/-- Insertion order: older rows first, by id among rows of one moment. -/
def byAge {Row : Type} (createdAt : Row → Nat) (id : Row → UUID) (rows : List Row) : List Row :=
  rows.insertionSort fun left right =>
    createdAt left < createdAt right ∨
      (createdAt left = createdAt right ∧ ¬(id right).text < (id left).text)

namespace Tables

def agedNodes (tables : Tables) (buildID : UUID) : List NodeRow :=
  byAge NodeRow.createdAt NodeRow.id (tables.nodesOf buildID)

def agedEdges (tables : Tables) (buildID : UUID) : List EdgeRow :=
  byAge EdgeRow.createdAt EdgeRow.id (tables.edgesOf buildID)

def agedVMs (tables : Tables) (node : NodeRow) : List VirtualMachineRow :=
  byAge VirtualMachineRow.createdAt VirtualMachineRow.id (tables.vmsOn node.id)

def agedComponents (tables : Tables) (node : NodeRow) : List NodeComponentRow :=
  byAge NodeComponentRow.createdAt NodeComponentRow.id (tables.componentsOn node.id)

end Tables

def vmDTO (row : VirtualMachineRow) : Option VMDTO := (detailsMap row.details).map row.toDTO

def componentDTO (row : NodeComponentRow) : Option ComponentDTO :=
  (detailsMap row.details).map row.toDTO

def nodeRowDTO (tables : Tables) (row : NodeRow) : Option NodeDTO := do
  let details ← detailsMap row.details
  let vms ← (tables.agedVMs row).mapM vmDTO
  let components ← (tables.agedComponents row).mapM componentDTO
  some (row.toDTO details vms components)

/-- `BuildToSyncInput`, with the rows the build was loaded with. -/
def buildToSyncInput (tables : Tables) (build : BuildRow) : Option SyncGraphInput := do
  let plan ← parsePlan build.gamingPlan
  let settings ← detailsMap build.settings
  let nodes ← (tables.agedNodes build.id).mapM (nodeRowDTO tables)
  some {
    name := build.name
    revision := build.revision
    kind := build.kind
    settings := some settings
    gamingPlan := some plan
    nodes := nodes
    edges := (tables.agedEdges build.id).map EdgeRow.toDTO }

/-! ## Writing -/

inductive SaveError
  | revisionConflict (expected received : Nat)
  | unknownKind (kind : String)
  | gamingPlan (issue : Gaming.PlanIssue)
  | invalid (message : String)
  | issues (found : List GraphIssue)
  /-- The database refuses a second row of one id. -/
  | duplicateKey (id : UUID)

/-- Where ids and creation times of new rows come from. -/
structure Supply where
  newID : Nat → UUID
  now : Nat → Nat

/-- A column that has a default takes it in place of an empty text. -/
def defaultString (value fallback : String) : String := if value = "" then fallback else value

def applyKindAndPlan (build : BuildRow) (input : SyncGraphInput) : Except SaveError BuildRow := do
  let kind ←
    if input.kind = "" then .ok build.kind
    else
      match parseKind input.kind with
      | some kind => .ok kind
      | none => .error (.unknownKind input.kind)
  let plan ←
    match input.gamingPlan with
    | none => .ok build.gamingPlan
    | some plan =>
        match plan.normalize with
        | .ok plan => .ok plan.toJson
        | .error issue => .error (.gamingPlan issue)
  .ok { build with kind := kind, gamingPlan := plan }

def nextBuild (build : BuildRow) (input : SyncGraphInput) : Except SaveError BuildRow :=
  if input.revision ≠ build.revision then
    .error (.revisionConflict build.revision input.revision)
  else
    applyKindAndPlan { build with
      name := input.name
      settings := match input.settings with
        | none => .null
        | some settings => .obj settings
      revision := build.revision + 1
      thumbnail := if input.thumbnail = "" then build.thumbnail else input.thumbnail } input

/-- `deleteGraph`: every topology row of the build goes. -/
def deleteGraph (tables : Tables) (buildID : UUID) : Tables :=
  { tables with
    edges := tables.edges.filter fun edge => edge.buildID ≠ buildID
    services := tables.services.filter fun service => service.buildID ≠ buildID
    virtualMachines := tables.virtualMachines.filter fun vm => !tables.holds buildID vm.nodeID
    components := tables.components.filter fun component =>
      !tables.holds buildID component.nodeID
    nodes := tables.nodes.filter fun node => node.buildID ≠ buildID }

def create {Row : Type} (id : Row → UUID) (rows : List Row) (row : Row) :
    Except SaveError (List Row) :=
  if id row ∈ rows.map id then .error (.duplicateKey (id row)) else .ok (rows ++ [row])

/-- The tables in the middle of a save, and how many rows it has made. -/
structure Writer where
  tables : Tables
  tick : Nat := 0

structure Shelf (Row : Type) where
  id : Row → UUID
  rows : Tables → List Row
  put : Tables → List Row → Tables
  rows_put : ∀ tables new, rows (put tables new) = new
  put_put : ∀ tables old new, put (put tables old) new = put tables new
  put_rows : ∀ tables, put tables (rows tables) = tables

def insertEach {Row Item : Type} (shelf : Shelf Row) (make : Writer → Item → Row) :
    Writer → List Item → Except SaveError Writer
  | writer, [] => .ok writer
  | writer, item :: rest => do
      let rows ← create shelf.id (shelf.rows writer.tables) (make writer item)
      insertEach shelf make ⟨shelf.put writer.tables rows, writer.tick + 1⟩ rest

def vmShelf : Shelf VirtualMachineRow :=
  ⟨VirtualMachineRow.id, Tables.virtualMachines,
    fun tables rows => { tables with virtualMachines := rows },
    fun _ _ => rfl, fun _ _ _ => rfl, fun _ => rfl⟩

def componentShelf : Shelf NodeComponentRow :=
  ⟨NodeComponentRow.id, Tables.components, fun tables rows => { tables with components := rows },
    fun _ _ => rfl, fun _ _ _ => rfl, fun _ => rfl⟩

section

variable (runtime : Runtime) (supply : Supply)

/-- The id of an entity: the one the input gives it, if that spells an id. -/
def entityID (tick : Nat) (id : String) : UUID :=
  (runtime.parseUUID id).getD (supply.newID tick)

def idMap : Nat → List NodeDTO → List (String × UUID) → List (String × UUID)
  | _, [], ids => ids
  | tick, node :: rest, ids =>
      idMap (tick + 1) rest (Table.set ids node.id (entityID runtime supply tick node.id))

def newVM (nodeID : UUID) (writer : Writer) (vm : VMDTO) : VirtualMachineRow where
  id := entityID runtime supply writer.tick vm.id
  nodeID := nodeID
  name := vm.name
  type := vm.type
  ip := vm.ip
  macAddress := vm.macAddress
  os := vm.os
  cpuCores := vm.cpuCores
  ramMB := vm.ramMB
  status := defaultString vm.status "stopped"
  details := .obj vm.details
  createdAt := supply.now writer.tick

def newComponent (nodeID : UUID) (writer : Writer) (component : ComponentDTO) :
    NodeComponentRow where
  id := entityID runtime supply writer.tick component.id
  nodeID := nodeID
  type := component.type
  name := component.name
  powerDraw := component.powerDraw
  details := .obj component.details
  createdAt := supply.now writer.tick

/-- A subnet mask and a gateway beside the details move into them. -/
def savedDetails (node : NodeDTO) : List (String × Json) :=
  let details := if node.subnetMask = "" then node.details
    else Table.set node.details "subnet_mask" (.str node.subnetMask)
  if node.gateway = "" then details else Table.set details "gateway" (.str node.gateway)

def newNode (writer : Writer) (buildID : UUID) (ids : List (String × UUID)) (node : NodeDTO)
    (id : UUID) : NodeRow where
  id := id
  buildID := buildID
  type := node.type
  name := node.name
  x := node.x
  y := node.y
  powerDraw := node.powerDraw
  ip := node.ip
  macAddress := node.macAddress
  details := .obj (savedDetails node)
  parentID := (node.parentID.filter (· ≠ "")).bind fun parent => ids.lookup parent
  createdAt := supply.now writer.tick

/-- Writes a node, its guests and its components, one node after the other. -/
def insertNodes (buildID : UUID) (ids : List (String × UUID)) :
    Writer → List NodeDTO → Except SaveError Writer
  | writer, [] => .ok writer
  | writer, node :: rest => do
      -- `idMap` has an id for every node.
      let id := (ids.lookup node.id).getD buildID
      let rows ← create NodeRow.id writer.tables.nodes (newNode supply writer buildID ids node id)
      let writer ← insertEach vmShelf (newVM runtime supply id)
        ⟨{ writer.tables with nodes := rows }, writer.tick + 1⟩ node.vms
      let writer ← insertEach componentShelf (newComponent runtime supply id) writer
        node.internalComponents
      insertNodes buildID ids writer rest

/-- An edge with the nodes it joins; an edge with an end that is no node is left out. -/
def joinedEdge (ids : List (String × UUID)) (edge : EdgeDTO) : Option (EdgeDTO × UUID × UUID) := do
  let source ← ids.lookup edge.source
  let target ← ids.lookup edge.target
  some (edge, source, target)

/-- The row of an edge. The database draws its id, which is new. -/
def newEdge (buildID : UUID) (joined : (EdgeDTO × UUID × UUID) × Nat) : EdgeRow :=
  let ((edge, source, target), tick) := joined
  { id := supply.newID tick
    buildID := buildID
    sourceNodeID := source
    sourceHandle := edge.sourceHandle
    targetNodeID := target
    targetHandle := edge.targetHandle
    type := defaultString edge.type "ethernet"
    speed := defaultString edge.speed "1 GbE"
    subnet := edge.subnet
    wirelessStandard := edge.wirelessStandard
    direction := defaultString edge.direction "auto"
    createdAt := supply.now tick }

def catalogued (service : ServiceDTO) : Option (UUID × String) :=
  (runtime.parseUUID service.id).map fun catalogID => (catalogID, service.name)

def newService (buildID : UUID) (service : (UUID × String) × Nat) : ServiceInstanceRow where
  id := supply.newID service.2
  buildID := buildID
  catalogServiceID := service.1.1
  name := service.1.2

def validateGraph (nodes : List NodeDTO) (edges : List EdgeDTO) : Except SaveError Unit :=
  match validateVirtualNetworks runtime nodes, validateWiringDetails runtime nodes with
  | .error message, _ => .error (.invalid message)
  | _, .error message => .error (.invalid message)
  | .ok (), .ok () =>
      match graphIssues runtime nodes edges with
      | [] => .ok ()
      | found => .error (.issues found)

def syncGraph (tables : Tables) (buildID : UUID) (input : SyncGraphInput) :
    Except SaveError Tables := do
  validateGraph runtime input.nodes input.edges
  let ids := idMap runtime supply 0 input.nodes []
  let writer ← insertNodes runtime supply buildID ids
    ⟨deleteGraph tables buildID, input.nodes.length⟩ input.nodes
  let joined := input.edges.filterMap (joinedEdge ids)
  let services := input.services.filterMap (catalogued runtime)
  .ok { writer.tables with
    edges := writer.tables.edges ++ (joined.zipIdx writer.tick).map (newEdge supply buildID)
    services := writer.tables.services ++
      (services.zipIdx (writer.tick + joined.length)).map (newService supply buildID) }

/-- `saveRevisionTx` up to the addresses: the next revision of a locked build. -/
def saveRevision (tables : Tables) (build : BuildRow) (input : SyncGraphInput) :
    Except SaveError Tables := do
  let next ← nextBuild build input
  syncGraph runtime supply
    { tables with builds := tables.builds.map fun row => if row.id = build.id then next else row }
    build.id input

end

end HomelabBuilder.Services
