import HomelabBuilder.Canvas.Devices

/-! # Editing the open build

The actions of `builder-store.ts`. A device is changed in the device list and on
its card; what can be undone is recorded first.
-/

namespace HomelabBuilder.Canvas

/-! ## Steps -/

def historyLimit : Nat := 50

/-- `slice(-HISTORY_LIMIT)`. -/
def lastSteps (steps : List Snapshot) : List Snapshot := steps.drop (steps.length - historyLimit)

namespace BuilderState

/-- The undo stack with a step on top; Redo has nothing left. -/
def withStep (state : BuilderState) (past : List Snapshot) (step : Snapshot) : BuilderState :=
  { state with historyPast := lastSteps (past ++ [step]), historyFuture := [] }

def recordEdit (state : BuilderState) : BuilderState :=
  state.withStep state.historyPast { canvas := state.canvas }

def stepBack (state : BuilderState) (snap : Snapshot) : Snapshot where
  canvas := state.canvas
  snapshotMeta :=
    { projectName := snap.snapshotMeta.projectName.map fun _ => state.projectName
      buildKind := snap.snapshotMeta.buildKind.map fun _ => state.buildKind
      gamingPlan := snap.snapshotMeta.gamingPlan.map fun _ => state.gamingPlan }

def restoreStep (state : BuilderState) (snap : Snapshot) : BuilderState :=
  { state with
    virtualHostID := state.virtualHostID.filter fun host =>
      snap.canvas.hardwareNodes.any fun node => node.id = host &&
        (givenAt (node.details.getD []) virtualNetworkKey).isSome
    canvas := snap.canvas
    selectedNodeID := state.selectedNodeID.filter fun id =>
      id ∈ snap.canvas.nodes.map FlowNode.id
    projectName := snap.snapshotMeta.projectName.getD state.projectName
    buildKind := snap.snapshotMeta.buildKind.getD state.buildKind
    gamingPlan := snap.snapshotMeta.gamingPlan.getD state.gamingPlan }

def undo (state : BuilderState) : BuilderState :=
  if state.proposalPreview then state
  else
    match state.historyPast.getLast? with
    | none => state
    | some snap =>
        { state.restoreStep snap with
          historyPast := state.historyPast.dropLast
          historyFuture := (state.stepBack snap :: state.historyFuture).take historyLimit }

def redo (state : BuilderState) : BuilderState :=
  if state.proposalPreview then state
  else
    match state.historyFuture with
    | [] => state
    | snap :: future =>
        { state.restoreStep snap with
          historyPast := lastSteps (state.historyPast ++ [state.stepBack snap])
          historyFuture := future }

end BuilderState

/-! ## Both copies of a device -/

/-- Merges what `change` returns into one device and into the data of its card. -/
def changeDevice (canvas : Canvas) (nodeID : String) (change : HardwareNode → DevicePatch) :
    Canvas :=
  match canvas.hardwareNodes.find? fun node => node.id = nodeID with
  | none => canvas
  | some device =>
      { canvas with
        hardwareNodes := canvas.hardwareNodes.map fun node =>
          if node = device then (change device).apply device else node
        nodes := canvas.nodes.map fun node =>
          if node.id = nodeID then { node with data := (change device).apply node.data }
          else node }

def FlowNode.updated (updates : DevicePatch) (node : FlowNode) : FlowNode :=
  { node with
    data := updates.apply node.data
    label := updates.name.getD node.label
    x := updates.x.getD node.x
    y := updates.y.getD node.y
    parentID :=
      match updates.parentID with
      | some parent => idOf parent
      | none => node.parentID }

def updateHardware (canvas : Canvas) (nodeID : String) (updates : DevicePatch) : Canvas :=
  { canvas with
    hardwareNodes := canvas.hardwareNodes.map fun node =>
      if node.id = nodeID then updates.apply node else node
    nodes := canvas.nodes.map fun node =>
      if node.id = nodeID then node.updated updates else node }

/-- The devices, each at the position its card has now. -/
def withNodePositions (hardwareNodes : List HardwareNode) (nodes : List FlowNode) :
    List HardwareNode :=
  hardwareNodes.map fun device =>
    match nodes.reverse.find? fun node => node.id = device.id with
    | some node =>
        if node.x ≠ device.x ∨ node.y ≠ device.y then { device with x := node.x, y := node.y }
        else device
    | none => device

/-- Drops devices with their cards and cables. -/
def dropNodes (canvas : Canvas) (gone : List String) : Canvas where
  hardwareNodes := canvas.hardwareNodes.filter fun node => node.id ∉ gone
  nodes := canvas.nodes.filter fun node => node.id ∉ gone
  edges := canvas.edges.filter fun edge => edge.ends.source ∉ gone && edge.ends.target ∉ gone

/-- Whether the rack a device is in is among those that go. -/
def mountedIn (gone : List String) (device : HardwareNode) : Bool :=
  (idOf device.parentID).any (· ∈ gone)

/-- What goes, and in one pass over the devices what sat in it. -/
def withMounted (hardwareNodes : List HardwareNode) (removals : List String) : List String :=
  hardwareNodes.foldl
    (fun gone device => if mountedIn gone device then gone ++ [device.id] else gone) removals

/-- A rack goes together with what is mounted in it. -/
def removedWith (hardwareNodes : List HardwareNode) (nodeID : String) : List String :=
  match hardwareNodes.find? fun node => node.id = nodeID with
  | some removed =>
      if removed.type = "rack" then
        nodeID :: (hardwareNodes.filter fun node => node.parentID = some nodeID).map (·.id)
      else [nodeID]
  | none => [nodeID]

def deleteTag (canvas : Canvas) (tagID : String) : Canvas :=
  let hardwareNodes := canvas.hardwareNodes.map (untagged tagID)
  let changed := (canvas.hardwareNodes.filter fun node => .str tagID ∈ nodeTags node).map
    (untagged tagID)
  { canvas with
    hardwareNodes := hardwareNodes
    nodes := canvas.nodes.map fun node =>
      match changed.reverse.find? fun device => device.id = node.id with
      | some device => { node with data := { node.data with details := device.details } }
      | none => node }

/-! ## Moves -/

structure Placement where
  id : String
  x : Rat
  y : Rat

/-- Where a card goes, unless it is in a rack or there already. -/
def movedTo (positions : List Placement) (node : FlowNode) : Option Placement :=
  (positions.reverse.find? fun position => position.id = node.id).filter fun position =>
    (idOf node.parentID).isNone &&
      !(|node.x - position.x| < 1 / 2 && |node.y - position.y| < 1 / 2)

def placed (positions : List Placement) (node : FlowNode) : FlowNode :=
  match movedTo positions node with
  | some position => { node with x := position.x, y := position.y }
  | none => node

/-- A change the canvas library reports for one card. -/
inductive NodeChange
  | position (id : String) (place : Option (Rat × Rat)) (dragging : Bool)
  | remove (id : String)
  | select (id : String) (selected : Bool)
  | dimensions (id : String)
  deriving DecidableEq

inductive EdgeChange
  | remove (id : String)
  | select (id : String) (selected : Bool)
  deriving DecidableEq

def NodeChange.isDragEnd : NodeChange → Bool
  | .position _ _ dragging => !dragging
  | _ => false

def NodeChange.removed : NodeChange → Option String
  | .remove id => some id
  | _ => none

def EdgeChange.removed : EdgeChange → Option String
  | .remove id => some id
  | .select _ _ => none

/-- What a change of the library leaves of a card. -/
structure SameCard (before after : FlowNode) : Prop where
  id : after.id = before.id
  type : after.type = before.type
  data : after.data = before.data
  label : after.label = before.label
  parentID : after.parentID = before.parentID

/-- The canvas library: besides `addEdge`, how it applies the changes it reports.
Cards and cables that are removed go, the others stay. -/
structure FlowLibrary extends CanvasLibrary where
  edgeID : LinkEnd → String
  applyNodeChanges : List NodeChange → List FlowNode → List FlowNode
  applyNodeChanges_cards (changes : List NodeChange) (nodes : List FlowNode) :
    List.Forall₂ SameCard
      (nodes.filter fun node => node.id ∉ changes.filterMap NodeChange.removed)
      (applyNodeChanges changes nodes)
  applyEdgeChanges : List EdgeChange → List FlowEdge → List FlowEdge
  applyEdgeChanges_cables (changes : List EdgeChange) (edges : List FlowEdge) :
    applyEdgeChanges changes edges =
      edges.filter fun edge => edge.id ∉ changes.filterMap EdgeChange.removed

def NodeChange.moved (node : FlowNode) : NodeChange → FlowNode
  | .position id (some (x, y)) _ => if id = node.id then { node with x := x, y := y } else node
  | _ => node

theorem sameCard_moved : ∀ (changes : List NodeChange) (node : FlowNode),
    SameCard node (changes.foldl NodeChange.moved node)
  | [], _ => ⟨rfl, rfl, rfl, rfl, rfl⟩
  | change :: rest, node => by
      have here : SameCard node (change.moved node) := by
        unfold NodeChange.moved
        split
        · split <;> exact ⟨rfl, rfl, rfl, rfl, rfl⟩
        · exact ⟨rfl, rfl, rfl, rfl, rfl⟩
      have later := sameCard_moved rest (change.moved node)
      exact ⟨later.id.trans here.id, later.type.trans here.type, later.data.trans here.data,
        later.label.trans here.label, later.parentID.trans here.parentID⟩

def FlowLibrary.plain : FlowLibrary where
  toCanvasLibrary := CanvasLibrary.plain
  edgeID ends := ends.source ++ ends.sourceHandle ++ "-" ++ ends.target ++ ends.targetHandle
  applyNodeChanges changes nodes :=
    (nodes.filter fun node => node.id ∉ changes.filterMap NodeChange.removed).map fun node =>
      changes.foldl NodeChange.moved node
  applyNodeChanges_cards changes nodes := by
    rw [List.forall₂_map_right_iff]
    exact List.forall₂_same.mpr fun node _ => sameCard_moved changes node
  applyEdgeChanges changes edges :=
    edges.filter fun edge => edge.id ∉ changes.filterMap EdgeChange.removed
  applyEdgeChanges_cables _ _ := rfl

/-! ## Cables -/

/-- `Partial<Edge>`. -/
structure EdgePatch where
  source : Option String := none
  target : Option String := none
  sourceHandle : Option String := none
  targetHandle : Option String := none
  data : Option CableData := none

def EdgePatch.ends (updates : EdgePatch) (ends : LinkEnd) : LinkEnd where
  source := updates.source.getD ends.source
  target := updates.target.getD ends.target
  sourceHandle := updates.sourceHandle.getD ends.sourceHandle
  targetHandle := updates.targetHandle.getD ends.targetHandle

def deviceTypes (canvas : Canvas) : List (String × String) :=
  canvas.hardwareNodes.map fun node => (node.id, node.type)

/-- A cable with an update: power stays power, and a link that has only one
medium keeps it. -/
def FlowEdge.updated (types : List (String × String)) (updates : EdgePatch) (edge : FlowEdge) :
    FlowEdge :=
  let ends := updates.ends edge.ends
  let data := updates.data.getD edge.data
  { edge with
    ends := ends
    data :=
      if isPowerEdge ends then { data with connectionType := "power" }
      else
        match requiredConnectionType (typeOf types ends.source) (typeOf types ends.target) with
        | some required =>
            if data.connectionType = required then data
            else
              { data with
                connectionType := required
                wirelessStandard :=
                  if required = "wireless" then orElse data.wirelessStandard "Wi-Fi 6" else "" }
        | none => data }

section

variable (library : FlowLibrary)

/-- The cable `onConnect` adds, none for power that joins no socket to an input. -/
def newEdge (types : List (String × String)) (connection : LinkEnd) : Option FlowEdge :=
  if isPowerEdge connection then
    (normalizePowerConnection connection).map fun cable =>
      { id := library.edgeID cable, ends := cable, data := { connectionType := "power" } }
  else
    some
      { id := library.edgeID connection
        ends := connection
        data := networkCableData types connection }

/-! ## Actions -/

/-- What a user does to the open build. Ids a script makes up are given. -/
inductive Edit
  | openVirtualNetwork (host : Option String)
  | updateVirtualNetwork (host : String) (network : Json)
  | addTag (tag : Json)
  | deleteTag (tagID : String)
  | setBuildKind (kind : String)
  | setGamingPlan (plan : List (String × Json))
  | setSetupDone (stepIDs : List String)
  | setProjectName (name : String)
  | applyLayout (positions : List Placement)
  | onNodesChange (changes : List NodeChange)
  | onEdgesChange (changes : List EdgeChange)
  | updateEdge (id : String) (updates : EdgePatch)
  | onConnect (connection : LinkEnd)
  | selectNode (node : Option String)
  | addHardware (rawNode : HardwareNode)
  | removeHardware (nodeID : String)
  | updateHardware (nodeID : String) (updates : DevicePatch)
  | duplicateHardware (nodeID newID : String) (fresh : Nat → String)
  | addInternalComponent (nodeID : String) (component : Component)
  | removeInternalComponent (nodeID componentID : String)
  | updateInternalComponent (nodeID componentID : String) (updates : ComponentPatch)
  | addVM (nodeID : String) (rawVM : Guest)
  | removeVM (nodeID vmID : String)
  | updateVM (nodeID vmID : String) (updates : GuestPatch)
  | startProposalPreview
  | endProposalPreview
  | undo
  | redo

namespace BuilderState

variable (state : BuilderState)

def updateVirtualNetwork (hostID : String) (network : Json) : BuilderState :=
  match state.canvas.hardwareNodes.find? fun node => node.id = hostID with
  | none => state
  | some host =>
      { state.recordEdit with
        canvas := Canvas.updateHardware state.canvas hostID
          { details := some (some (Table.set (host.details.getD []) virtualNetworkKey network)) } }

def openVirtualNetwork (hostID : Option String) : BuilderState :=
  let host := hostID.bind fun id => state.canvas.hardwareNodes.find? fun node => node.id = id
  let opened :=
    match host with
    | some host =>
        if (givenAt (host.details.getD []) virtualNetworkKey).isSome then state
        else state.updateVirtualNetwork host.id (initialVirtualNetwork host)
    | none => state
  { opened with virtualHostID := host.map (·.id), selectedNodeID := none }

/-- The tags of a build are kept in its settings too. -/
def setTags (tags : List Json) : BuilderState :=
  { state with tags := tags, buildSettings := Table.set state.buildSettings tagsKey (.arr tags) }

/-- Nothing ticked and nothing stored leaves the settings alone. -/
def setSetupDone (stepIDs : List String) : BuilderState :=
  if stepIDs = [] ∧ (state.buildSettings.lookup "setupDone").isNone then state
  else
    { state with
      buildSettings := Table.set state.buildSettings "setupDone" (.arr (stepIDs.map Json.str)) }

def applyLayout (positions : List Placement) : BuilderState :=
  if state.proposalPreview ∨ !state.isReady then state
  else
    let nodes := state.canvas.nodes.map (placed positions)
    if state.canvas.nodes.all fun node => (movedTo positions node).isNone then state
    else
      { state.recordEdit with
        canvas := { state.canvas with
          nodes := nodes
          hardwareNodes := withNodePositions state.canvas.hardwareNodes nodes } }

def onNodesChange (changes : List NodeChange) : BuilderState :=
  let dragEnds := changes.filter NodeChange.isDragEnd
  let removals := changes.filterMap NodeChange.removed
  let moved := { state.canvas with nodes := library.applyNodeChanges changes state.canvas.nodes }
  if dragEnds = [] ∧ removals = [] then { state with canvas := moved }
  else
    let gone := if removals = [] then [] else withMounted state.canvas.hardwareNodes removals
    let left := if removals = [] then moved else dropNodes moved gone
    { state.recordEdit with
      canvas :=
        if dragEnds = [] then left
        else { left with hardwareNodes := withNodePositions left.hardwareNodes left.nodes }
      selectedNodeID := state.selectedNodeID.filter (· ∉ gone) }

def onEdgesChange (changes : List EdgeChange) : BuilderState :=
  let canvas := { state.canvas with edges := library.applyEdgeChanges changes state.canvas.edges }
  if changes.filterMap EdgeChange.removed = [] then { state with canvas := canvas }
  else { state.recordEdit with canvas := canvas }

def updateEdge (id : String) (updates : EdgePatch) : BuilderState :=
  { state with
    canvas := { state.canvas with
      edges := state.canvas.edges.map fun edge =>
        if edge.id = id then edge.updated (deviceTypes state.canvas) updates else edge } }

def onConnect (connection : LinkEnd) : BuilderState :=
  match newEdge library (deviceTypes state.canvas) connection with
  | none => state
  | some edge =>
      { state.recordEdit with
        canvas := { state.canvas with
          edges := library.addEdge FlowEdge.ends edge state.canvas.edges } }

def addHardware (rawNode : HardwareNode) : BuilderState :=
  let device := completed rawNode
  { state.recordEdit with
    canvas := { state.canvas with
      hardwareNodes := state.canvas.hardwareNodes ++ [device]
      nodes := state.canvas.nodes ++ [newCard (cardType device.type) device] } }

def removeHardware (nodeID : String) : BuilderState :=
  let gone := removedWith state.canvas.hardwareNodes nodeID
  { state.recordEdit with
    canvas := dropNodes state.canvas gone
    selectedNodeID := state.selectedNodeID.filter (· ∉ gone) }

/-- A rack is not copied. -/
def duplicateHardware (nodeID newID : String) (fresh : Nat → String) : BuilderState :=
  match state.canvas.hardwareNodes.find? fun node => node.id = nodeID with
  | none => state
  | some orig =>
      if orig.type = "rack" then state
      else
        let copy := copied fresh newID orig
        { state.recordEdit with
          canvas := { state.canvas with
            hardwareNodes := state.canvas.hardwareNodes ++ [copy]
            nodes := state.canvas.nodes ++ [newCard "hardware" copy] }
          selectedNodeID := some newID }

/-- An edit of one device that can be undone. -/
def change (nodeID : String) (change : HardwareNode → DevicePatch) : BuilderState :=
  { state.recordEdit with canvas := changeDevice state.canvas nodeID change }

def addInternalComponent (nodeID : String) (component : Component) : BuilderState :=
  state.change nodeID fun device =>
    { internalComponents := some (some (device.internalComponents.getD [] ++ [component])) }

def removeInternalComponent (nodeID componentID : String) : BuilderState :=
  state.change nodeID fun device =>
    { internalComponents := some (some ((device.internalComponents.getD []).filter fun component =>
        component.id ≠ componentID)) }

def updateInternalComponent (nodeID componentID : String) (updates : ComponentPatch) :
    BuilderState :=
  { state with
    canvas := changeDevice state.canvas nodeID fun device =>
      { internalComponents := some (some ((device.internalComponents.getD []).map fun component =>
          if component.id = componentID then updates.apply component else component)) } }

def addVM (nodeID : String) (rawVM : Guest) : BuilderState :=
  if state.canvas.hardwareNodes.any fun node => node.id = nodeID then
    state.change nodeID fun host =>
      { vms := some (some (host.vms.getD [] ++ [newGuest state.availableServices rawVM])) }
  else state

def removeVM (nodeID vmID : String) : BuilderState :=
  state.change nodeID fun host =>
    { vms := some (some ((host.vms.getD []).filter fun vm => vm.id ≠ vmID))
      details := some (some (detailsWithout vmID host)) }

def updateVM (nodeID vmID : String) (updates : GuestPatch) : BuilderState :=
  state.change nodeID fun host =>
    { vms := some (some ((host.vms.getD []).map fun vm =>
        if vm.id = vmID then updates.apply vm else vm)) }

def edit : Edit → BuilderState
  | .openVirtualNetwork host => state.openVirtualNetwork host
  | .updateVirtualNetwork host network => state.updateVirtualNetwork host network
  | .addTag tag => state.setTags (state.tags ++ [tag])
  | .deleteTag tagID =>
      { state.setTags (state.tags.filter fun tag => textAt tag "id" ≠ some tagID) with
        canvas := Canvas.deleteTag state.canvas tagID }
  | .setBuildKind kind => { state with buildKind := kind }
  | .setGamingPlan plan => { state with gamingPlan := plan }
  | .setSetupDone stepIDs => state.setSetupDone stepIDs
  | .setProjectName name => { state with projectName := name }
  | .applyLayout positions => state.applyLayout positions
  | .onNodesChange changes => state.onNodesChange library changes
  | .onEdgesChange changes => state.onEdgesChange library changes
  | .updateEdge id updates => state.updateEdge id updates
  | .onConnect connection => state.onConnect library connection
  | .selectNode node => { state with selectedNodeID := node }
  | .addHardware rawNode => state.addHardware rawNode
  | .removeHardware nodeID => state.removeHardware nodeID
  | .updateHardware nodeID updates =>
      { state with canvas := Canvas.updateHardware state.canvas nodeID updates }
  | .duplicateHardware nodeID newID fresh => state.duplicateHardware nodeID newID fresh
  | .addInternalComponent nodeID component => state.addInternalComponent nodeID component
  | .removeInternalComponent nodeID componentID => state.removeInternalComponent nodeID componentID
  | .updateInternalComponent nodeID componentID updates =>
      state.updateInternalComponent nodeID componentID updates
  | .addVM nodeID rawVM => state.addVM nodeID rawVM
  | .removeVM nodeID vmID => state.removeVM nodeID vmID
  | .updateVM nodeID vmID updates => state.updateVM nodeID vmID updates
  | .startProposalPreview => { state with proposalPreview := true, selectedNodeID := none }
  | .endProposalPreview => { state with proposalPreview := false }
  | .undo => state.undo
  | .redo => state.redo

end BuilderState

end

end HomelabBuilder.Canvas

/-! # What the server answers

How the store takes what the server returns: the values it calculated on a save,
the latest build after a conflict, and the build of a proposal.
-/

namespace HomelabBuilder.Canvas

/-- Details the server computes. A key that is missing from its answer is gone. -/
def derivedDetailKeys : List String :=
  ["dhcp_pool", "wan_ip", "lan_gateway_ip", "lan_subnet", "interfaces", "power_load",
    "port_networks"]

def mergeServerDetails (details : Option (List (String × Json))) (server : List (String × Json)) :
    List (String × Json) :=
  Table.merge ((details.getD []).filter fun entry => entry.1 ∉ derivedDetailKeys) server

structure ServerEntry where
  ip : String
  vmIPs : List (String × String)
  details : List (String × Json)

namespace ServerEntry

variable (entry : ServerEntry)

def guest (vm : Guest) : Guest := { vm with ip := (entry.vmIPs.reverse.lookup vm.id).getD vm.ip }

def device (device : HardwareNode) : HardwareNode :=
  { device with
    ip := entry.ip
    details := some (mergeServerDetails device.details entry.details)
    vms := device.vms.map fun vms => vms.map entry.guest }

def card (node : FlowNode) : FlowNode :=
  { node with
    data := { node.data with
      ip := entry.ip
      details := some (mergeServerDetails node.data.details entry.details)
      vms := some ((node.data.vms.getD []).map entry.guest) } }

end ServerEntry

section

variable (parseJSON : String → Option Json)

def serverEntry (node : BuildNode) : ServerEntry where
  ip := node.ip
  vmIPs := node.virtualMachines.map fun vm => (vm.id, vm.ip)
  details := Table.erase (parseDetails parseJSON node.details) virtualNetworkKey

/-- `fromServer.get(id)`: the last node of an id counts. -/
def fromServer (nodes : List BuildNode) (id : String) : Option ServerEntry :=
  (nodes.reverse.find? fun node => node.id = id).map (serverEntry parseJSON)

def mergedDevice (nodes : List BuildNode) (device : HardwareNode) : HardwareNode :=
  match fromServer parseJSON nodes device.id with
  | some entry => entry.device device
  | none => device

def mergedCard (nodes : List BuildNode) (node : FlowNode) : FlowNode :=
  match fromServer parseJSON nodes node.id with
  | some entry => entry.card node
  | none => node

/-- Both copies of every device with what the server calculated. -/
def mergeNodes (canvas : Canvas) (nodes : List BuildNode) : Canvas :=
  { canvas with
    hardwareNodes := canvas.hardwareNodes.map (mergedDevice parseJSON nodes)
    nodes := canvas.nodes.map (mergedCard parseJSON nodes) }

/-- The answer to a save. A canvas that was edited in the meantime is not what the
server has. -/
def mergeAnswer (sentBuildID : String) (sent : BuildData) (build : Build) (state : BuilderState) :
    BuilderState :=
  if state.currentBuildID ≠ some sentBuildID then state
  else
    let merged := { state with
      canvas := mergeNodes parseJSON state.canvas build.nodes
      currentRevision := build.revision }
    if getBuildData state ≠ sent then merged
    else { merged with lastSyncedFingerprint := some (getBuildData merged) }

/-- A change from elsewhere wins; the canvas as it was is one undo step away. -/
def takeOver (state : BuilderState) (latest : Build) : BuilderState :=
  (loadBuild parseJSON state latest.id latest.name latest).withStep state.historyPast
    { canvas := state.canvas
      snapshotMeta := { buildKind := some state.buildKind, gamingPlan := some state.gamingPlan } }

/-- The build a proposal was applied to; one undo step takes it back. -/
def takeProposal (state : BuilderState) (build : Build) : BuilderState :=
  (loadBuild parseJSON state build.id build.name build).withStep state.historyPast
    { canvas := state.canvas
      snapshotMeta :=
        { projectName := some state.projectName
          buildKind := some state.buildKind
          gamingPlan := some state.gamingPlan } }

end

/-! ## Opening and closing -/

def clearCurrentBuild (state : BuilderState) : BuilderState where
  projectName := "Untitled Project"
  availableServices := state.availableServices

/-- What `openBuild` leaves until the build arrives: no graph of another build. -/
def startOpening (state : BuilderState) (id : String) : BuilderState :=
  if state.holds id then state
  else
    let emptied := { state with
      currentBuildID := some id
      isReady := false
      currentRevision := 0
      virtualHostID := none
      canvas := {}
      selectedNodeID := none
      historyPast := []
      historyFuture := []
      proposalPreview := false }
    if state.currentBuildID = some id then emptied
    else
      { emptied with
        projectName := "", buildKind := "homelab", gamingPlan := [], buildSettings := [], tags := [] }

end HomelabBuilder.Canvas
