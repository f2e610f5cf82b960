import HomelabBuilder.Topology.Editor
import HomelabBuilder.Topology.Layout

/-! # Operations on nodes

`topology_ops.go`: adding, changing, mounting and removing nodes. Every
operation returns the editor it leaves and itself with refs and names replaced
by ids.
-/

namespace HomelabBuilder.Topology

open Services Wiring

def addableNodeTypes : List String :=
  ["router", "switch", "firewall", "server_v2", "minipc", "pc", "nas", "sbc", "vps", "access_point",
    "rack", "iot", "ups", "modem", "pdu", "power_outlet", "cpu", nodeTypeConsole, nodeTypeLANTable]

def defaultNodeNames : List (String × String) :=
  [("router", "Router"), ("switch", "Switch"), ("firewall", "Firewall"), ("server_v2", "Server"),
    ("minipc", "Mini PC"), ("pc", "PC"), ("nas", "NAS"), ("sbc", "SBC"), ("vps", "VPS"),
    ("access_point", "Access Point"), ("rack", "Rack"), ("iot", "IoT Device"), ("ups", "UPS"),
    ("modem", "Modem"), ("pdu", "PDU"), ("power_outlet", "Power Outlet"), ("cpu", "CPU"),
    (nodeTypeConsole, "Console"), (nodeTypeLANTable, "LAN Table")]

/-! ## Adding -/

/-- What a new device or component starts from. -/
structure Draft where
  type : String
  name : String := ""
  details : List (String × Json) := []
  powerDraw : Rat := 0

/-- A catalog item gives the type where none is asked for. -/
def Draft.ofHardware (type : String) (hardware : CatalogHardware) : Draft where
  type := if type = "" then hardware.nodeType else type
  name := trimSpace (hardware.brand ++ " " ++ hardware.model)
  details := hardware.details
  powerDraw := hardware.powerDraw

def nodeDraft (env : Env) (op : TopologyOp) : Except String Draft :=
  let nodeType := toLower (trimSpace op.type)
  if trimSpace op.hardwareID = "" then .ok { type := nodeType }
  else do
    let hardware ← catalogHardware env op.hardwareID
    require (hardware.nodeType ∉ componentTypes) (hardware.brand ++ " " ++ hardware.model ++
      " is a " ++ hardware.nodeType ++ " component; add it to a host with add_component")
    .ok (Draft.ofHardware nodeType hardware)

def draftDetails (draft : Draft) (op : TopologyOp) : Except String Draft := do
  let details ← mergeDetails draft.details op.details draft.type
  if draft.type = nodeTypeLANTable then do
    let details ← applyTableDefaults details
    .ok { draft with details := details, powerDraw := tablePowerDraw details }
  else .ok { draft with details := details }

def givenPowerDraw (op : TopologyOp) (current : Rat) : Except String Rat :=
  whenGiven op.powerDraw current fun power => do
    checkRange "power_draw" power 0 100000
    .ok power

def givenMAC (op : TopologyOp) (node : NodeDTO) : Except String NodeDTO :=
  whenGiven op.macAddress node fun mac => do
    let mac ← cleanMAC mac
    .ok { node with macAddress := mac }

/-- A device that is not yet part of the graph. -/
def newNode (env : Env) (editor : Editor) (op : TopologyOp) : Except String (NodeDTO × Editor) := do
  require (editor.graph.nodes.length < maxTopologyNodes) "a build can hold at most 300 nodes"
  let draft ← nodeDraft env op
  require (draft.type ≠ "") "type is required (or pass hardware_id from search_hardware)"
  require (draft.type ∈ addableNodeTypes) ("unsupported node type " ++ quoted draft.type ++
    "; use one of " ++ String.intercalate ", " (addableNodeTypes.insertionSort (· ≤ ·)) ++
    ". Disks, CPUs, GPUs and cards are added with add_component")
  let name ← cleanName (op.name.getD draft.name) ((defaultNodeNames.lookup draft.type).getD "")
  let draft ← draftDetails draft op
  let powerDraw ← givenPowerDraw op draft.powerDraw
  let (id, editor) ← newEntityID env editor op.id
  let editor ← registerRef env editor op.ref id .node
  let node : NodeDTO :=
    { id := id, type := draft.type, name := name, powerDraw := powerDraw, details := draft.details }
  let node ← whenGiven op.ip node (setNodeIP node)
  let node ← givenMAC op node
  .ok (node, editor)

def mountedAt (rackID : String) (slot : Int) (node : NodeDTO) : NodeDTO :=
  { node with
    parentID := some rackID
    x := (rackSlotPosition slot).1
    y := (rackSlotPosition slot).2
    details := Table.set node.details "rack_position" (.num slot) }

/-- `rackNode` mounts a node of the graph in a rack. -/
def rackNode (env : Env) (editor : Editor) (node : NodeDTO) (index : Nat) (parent : String)
    (slot : Option Rat) : Except String (String × Editor) := do
  let (rack, _) ← resolvedNode env editor parent "parent"
  require (rack.type = "rack") ("parent " ++ quoted rack.name ++ " is a " ++ rack.type ++
    ", not a rack")
  require (node.type ≠ "rack") "racks cannot be placed inside other racks"
  require (node.type ∉ floorNodeTypes) (quoted node.name ++ " is a " ++ node.type ++
    " and cannot be mounted in a rack")
  let requested := slot.map fun slot => truncate env.floats (mathRound slot)
  let chosen ← allocateRackSlot env.floats editor.graph.nodes rack node.id node.name
    (rackUnitsOf env.floats node) requested
  .ok (rack.id, { editor.putNode index (mountedAt rack.id chosen node) with
    pending := editor.pending.erase node.id })

def addNode (env : Env) (editor : Editor) (op : TopologyOp) :
    Except String (Editor × TopologyOp) := do
  let (node, editor) ← newNode env editor op
  let index := editor.graph.nodes.length
  let placed := fun node : NodeDTO => editor.withNodes (editor.graph.nodes ++ [node])
  let resolved := { op with id := node.id, type := node.type }
  match op.parent.filter fun parent => trimSpace parent ≠ "" with
  | some parent => do
      let (rackID, editor) ← rackNode env (placed node) node index parent op.rackSlot
      .ok (editor, { resolved with parent := some rackID })
  | none =>
      match op.x, op.y with
      | some x, some y => .ok (placed { node with x := snapToGrid x, y := snapToGrid y }, resolved)
      | _, _ => .ok ({ placed node with pending := editor.pending ++ [node.id] }, resolved)

/-! ## Changing -/

/-- The details of a LAN table. Changing the seats resizes the switch unless the
same change sets it. -/
def updateTable (node : NodeDTO) (op : TopologyOp) : Except String NodeDTO := do
  let changes := fun key => (op.details.lookup key).isSome
  let details ← applyTableDefaults
    (if changes "seats" && !changes "switch_ports" then Table.erase node.details "switch_ports"
      else node.details)
  .ok { node with
    details := details
    powerDraw := if (changes "seats" || changes "seat_watts") && op.powerDraw.isNone
      then tablePowerDraw details else node.powerDraw }

/-- Every device stays in a rack that changes its size. -/
def checkRackSize (floats : Floats) (nodes : List NodeDTO) (rack : NodeDTO) :
    Except String Unit :=
  let size := rackSizeOf floats rack
  let below := fun child : NodeDTO => wrapInt (rackSlotOf floats child + rackUnitsOf floats child)
  match nodes.find? fun child => mountedIn rack.id child && size < below child with
  | none => .ok ()
  | some child =>
      .error ("rack " ++ quoted rack.name ++ " cannot shrink to " ++ toString size ++ "U: " ++
        quoted child.name ++ " sits in slots " ++ toString (rackSlotOf floats child) ++ "-" ++
        toString (below child - 1))

/-- A changed height must still fit where the device sits. -/
def checkMounted (floats : Floats) (nodes : List NodeDTO) (node : NodeDTO) : Except String Unit :=
  match node.parentID.bind (nodeIndex nodes) with
  | none => .ok ()
  | some (rack, _) =>
      (allocateRackSlot floats nodes rack node.id node.name (rackUnitsOf floats node)
        (some (rackSlotOf floats node))).map fun _ => ()

def checkPortsFit (floats : Floats) (edges : List EdgeDTO) (node : NodeDTO) : Except String Unit :=
  let port := highestUsedPort node.id edges
  require (port < portCount floats node.type node.details) (quoted node.name ++
    " has a cable on port eth" ++ toString port ++ "; it needs at least " ++ toString (port + 1) ++
    " ports")

def checkPowerHandlesFit (floats : Floats) (edges : List EdgeDTO) (node : NodeDTO) :
    Except String Unit := do
  let input := highestInput node.id edges
  let socket := highestSocket node.id edges
  require (input < powerInputCount floats node.type node.details) (quoted node.name ++
    " has a power cable on " ++ powerInPrefix ++ toString input ++ "; it needs at least " ++
    toString (input + 1))
  require (socket < powerOutputCount floats node.type node.details) (quoted node.name ++
    " has a power cable on " ++ powerOutPrefix ++ toString socket ++ "; it needs at least " ++
    toString (socket + 1))

def checkPlace (floats : Floats) (nodes : List NodeDTO) (node : NodeDTO) : Except String Unit := do
  (if node.type = "rack" then checkRackSize floats nodes node else .ok ())
  checkMounted floats nodes node

def withDetails (node : NodeDTO) (details : List (String × Json)) : NodeDTO :=
  { node with details := details }

def settleDetails (env : Env) (node : NodeDTO) (op : TopologyOp) : Except String NodeDTO :=
  let pruned := withDetails node
    (prunePortConfig node.details (portCount env.floats node.type node.details))
  if node.type = nodeTypeLANTable then updateTable pruned op else .ok pruned

/-- The part of an update that merges details. -/
def updateDetails (env : Env) (editor : Editor) (node : NodeDTO) (index : Nat) (op : TopologyOp) :
    Except String NodeDTO :=
  if op.details = [] then .ok node
  else do
    let details ← mergeDetails node.details op.details node.type
    checkPortsFit env.floats editor.graph.edges (withDetails node details)
    checkPowerHandlesFit env.floats editor.graph.edges (withDetails node details)
    let node ← settleDetails env (withDetails node details) op
    checkPlace env.floats (editor.putNode index node).graph.nodes node
    .ok node

/-- Takes a device out of its rack, to where it stands on the canvas. -/
def unmounted (nodes : List NodeDTO) (node : NodeDTO) : NodeDTO :=
  match node.parentID with
  | none => node
  | some parentID =>
      let rack := (nodeIndex nodes parentID).map Prod.fst
      { node with
        x := node.x + (rack.map NodeDTO.x).getD 0
        y := node.y + (rack.map NodeDTO.y).getD 0
        parentID := none
        details := Table.erase node.details "rack_position" }

/-- The part of an update that says where the node is. -/
def moveNode (env : Env) (editor : Editor) (node : NodeDTO) (index : Nat) (op : TopologyOp) :
    Except String (Editor × TopologyOp) :=
  match op.parent with
  | some parent =>
      if trimSpace parent = "" then
        let free := unmounted editor.graph.nodes node
        let free := match op.x, op.y with
          | some x, some y => { free with x := snapToGrid x, y := snapToGrid y }
          | _, _ => free
        .ok (editor.putNode index free, op)
      else do
        let rackID ← resolveNode env editor parent "parent"
        let resolved := { op with parent := some rackID }
        if node.parentID = some rackID ∧ op.rackSlot = none then .ok (editor, resolved)
        else do
          let (_, editor) ← rackNode env editor node index rackID op.rackSlot
          .ok (editor, resolved)
  | none =>
      match op.rackSlot with
      | some slot => do
          let parentID ← given node.parentID
            (quoted node.name ++ " is not in a rack; set parent to a rack to mount it")
          let (_, editor) ← rackNode env editor node index parentID (some slot)
          .ok (editor, op)
      | none =>
          if op.x = none ∧ op.y = none then .ok (editor, op)
          else do
            require (node.parentID = none) (quoted node.name ++
              " is mounted in a rack; move it with rack_slot or set parent to \"\" first")
            let moved := { node with
              x := (op.x.map snapToGrid).getD node.x
              y := (op.y.map snapToGrid).getD node.y }
            .ok (editor.putNode index moved, op)

def updateNode (env : Env) (editor : Editor) (op : TopologyOp) :
    Except String (Editor × TopologyOp) := do
  let (node, index) ← resolvedNode env editor op.node "node"
  let op := { op with node := node.id }
  require (op.type = "" ∨ toLower (trimSpace op.type) = node.type)
    ("a node's type cannot change (" ++ quoted node.name ++ " is a " ++ node.type ++
      "); remove it and add a new node instead")
  let node ← whenGiven op.name node fun name => do
    let name ← cleanName name ""
    .ok { node with name := name }
  let node ← updateDetails env editor node index op
  let powerDraw ← givenPowerDraw op node.powerDraw
  let node := { node with powerDraw := powerDraw }
  let node ← whenGiven op.ip node (setNodeIP node)
  let node ← givenMAC op node
  moveNode env (editor.putNode index node) node index op

/-! ## Removing -/

/-- The nodes a removal takes away. Removing a rack removes the devices mounted
in it, as on the canvas. -/
def removedIDs (nodes : List NodeDTO) (node : NodeDTO) : List String :=
  (node.id :: if node.type = "rack" then (nodes.filter (mountedIn node.id)).map NodeDTO.id
    else []).dedup

/-- A graph without some nodes and their cables. -/
def Editor.without (editor : Editor) (removed : List String) : Editor :=
  { editor with
    graph := { editor.graph with
      nodes := editor.graph.nodes.filter fun node => node.id ∉ removed
      edges := editor.graph.edges.filter fun edge => edge.source ∉ removed && edge.target ∉ removed }
    pending := removed.foldl List.erase editor.pending }

def removeNode (env : Env) (editor : Editor) (op : TopologyOp) :
    Except String (Editor × TopologyOp) := do
  let (node, _) ← resolvedNode env editor op.node "node"
  .ok (editor.without (removedIDs editor.graph.nodes node), { op with node := node.id })

end HomelabBuilder.Topology
