import HomelabBuilder.Foundation.Links
import HomelabBuilder.Topology.Editor

/-! # Operations on cables

`topology_ops_connections.go`: which cables may be drawn, on which handles they
sit, and how they are changed and removed.
-/

namespace HomelabBuilder.Topology

open Services Wiring

/-! ## Paths -/

def powerNext (edges : List EdgeDTO) (id : String) : List String :=
  (edges.filter fun edge => edge.isPower && edge.source = id).map EdgeDTO.target

/-- Whether power already flows from one node to another. -/
def powerPathExists (edges : List EdgeDTO) (start goal : String) : Bool :=
  let fed := edges.map EdgeDTO.target
  goal ∈ (Worklist.drain (powerNext edges) (· ∈ fed) (fed.length + 1)
    (Worklist.initial start)).seen

def isPhysical (edge : EdgeDTO) : Bool := edge.type ≠ "vpn" && edge.type ≠ edgeTypePower

def physicalLinks (edges : List EdgeDTO) : List (String × String) :=
  (edges.filter isPhysical).map fun edge => (edge.source, edge.target)

/-- Whether two nodes already reach each other over network cables. -/
def physicalPathExists (edges : List EdgeDTO) (start goal : String) : Bool :=
  goal ∈ Links.searched (physicalLinks edges) start

/-! ## Handles -/

section

variable (floats : Floats)

def handlesText (node : NodeDTO) : String :=
  String.intercalate ", " (validHandles floats node.type node.details)

def powerKey (id handle : String) : String := id ++ "|" ++ handle

/-- Whether a power cable ends at this handle. -/
def powerHandleUsed (edges : List EdgeDTO) (id handle : String) : Bool :=
  edges.any fun edge => edge.isPower &&
    (powerKey edge.source edge.sourceHandle = powerKey id handle ||
      powerKey edge.target edge.targetHandle = powerKey id handle)

/-- The handle that is asked for, or the first free one of its kind. -/
def pickPowerHandle (edges : List EdgeDTO) (node : NodeDTO) (want start : String) (count : Int)
    (full : String) : Except String String :=
  if want ≠ "" then do
    require (0 ≤ powerHandleIndex want start ∧ want ∈ validHandles floats node.type node.details)
      (quoted node.name ++ " has no power handle " ++ quoted want ++ " (it has " ++
        handlesText floats node ++ ")")
    require (powerHandleUsed edges node.id want = false)
      (want ++ " on " ++ quoted node.name ++ " already carries a power cable")
    .ok want
  else given ((numbered start count).find? fun handle => !powerHandleUsed edges node.id handle) full

def pickPowerHandles (edges : List EdgeDTO) (source target : NodeDTO)
    (wantSource wantTarget : String) : Except String (String × String) := do
  let outputs := powerOutputCount floats source.type source.details
  let sourceHandle ← pickPowerHandle floats edges source wantSource powerOutPrefix outputs
    (quoted source.name ++ " has no free socket (" ++ toString outputs ++
      " in use); raise details.outlets")
  let inputs := powerInputCount floats target.type target.details
  let targetHandle ← pickPowerHandle floats edges target wantTarget powerInPrefix inputs
    (quoted target.name ++ " has no free power input (" ++ toString inputs ++
      "); raise details.psu_count")
  .ok (sourceHandle, targetHandle)

/-- A handle that is asked for; a blank one is chosen later. -/
def checkHandle (node : NodeDTO) (used : List String) (handle : String) : Except String Unit :=
  if handle = "" then .ok ()
  else do
    require ((cutPrefix "pwr-" handle).isNone)
      (handle ++ " on " ++ quoted node.name ++ " is a power port; use connection_type power")
    require (handle ∈ validHandles floats node.type node.details)
      (quoted node.name ++ " has no port " ++ quoted handle ++ " (it has " ++
        handlesText floats node ++ ")")
    require (handle ∉ used)
      ("port " ++ handle ++ " on " ++ quoted node.name ++ " already carries a cable")

def fullError (node : NodeDTO) : String :=
  if node.type ∈ dynamicPortTypes then
    quoted node.name ++ " has no free port (" ++
      toString (portCount floats node.type node.details) ++
      " in use); raise details.ports with update_node or connect through a switch"
  else
    quoted node.name ++ " (" ++ node.type ++
      ") has a single network port and it is in use; connect it through a switch"

/-- The uplink on top of a card, or its first free port. -/
def uplinkOrPort (node : NodeDTO) (used : List String) : Except String String :=
  if targetHandle ∉ used then .ok targetHandle
  else given (firstFreePort floats node.type node.details used) (fullError floats node)

/-- `pickHandles` chooses the handles of a new cable. The flag says that the
cable is drawn the other way to find free ports. -/
def pickHandles (nodes : List NodeDTO) (edges : List EdgeDTO) (source target : NodeDTO)
    (wantSource wantTarget : String) : Except String (String × String × Bool) := do
  let usedSource := usedHandles (nodeTypeOf nodes) source.id edges
  let usedTarget := usedHandles (nodeTypeOf nodes) target.id edges
  let sourcePort := firstFreePort floats source.type source.details usedSource
  checkHandle floats source usedSource wantSource
  checkHandle floats target usedTarget wantTarget
  if wantSource ≠ "" ∧ wantTarget ≠ "" then .ok (wantSource, wantTarget, false)
  else if wantSource ≠ "" then do
    let handle ← uplinkOrPort floats target usedTarget
    .ok (wantSource, handle, false)
  else if wantTarget ≠ "" then do
    let handle ← given sourcePort (fullError floats source)
    .ok (handle, wantTarget, false)
  else
    match sourcePort with
    | some sourcePort => do
        let handle ← uplinkOrPort floats target usedTarget
        .ok (sourcePort, handle, false)
    | none => do
        -- The upstream device is out of bottom ports.
        let targetPort ← given (firstFreePort floats target.type target.details usedTarget)
          (fullError floats source)
        require (targetHandle ∉ usedSource) (fullError floats source)
        .ok (targetPort, targetHandle, true)

end

/-! ## Direction -/

def detailBool (details : List (String × Json)) (key : String) : Bool :=
  ((details.lookup key).bind Json.asBool).getD false

/-- `isNATGateway` of a node of the graph. -/
def opensSubnet (node : NodeDTO) : Bool :=
  node.type ∈ ["server_v2", "vps", "firewall"] &&
    (detailBool node.details "nat_enabled" ||
      (detailBool node.details "routing_enabled" && detailBool node.details "dhcp_enabled"))

/-- Devices from the internet edge inwards; the lower rank is drawn upstream. -/
def upstreamRank (node : NodeDTO) : Nat :=
  match node.type with
  | "modem" => 0
  | "router" => 1
  | "firewall" => 2
  | "switch" => 3
  | "access_point" => 4
  | _ => if opensSubnet node then 2 else 5

def powerSourceRank (nodeType : String) : Nat :=
  (([("power_outlet", 0), ("ups", 1), ("pdu", 2)] : List (String × Nat)).lookup nodeType).getD 0

/-- Whether a power cable is drawn from its target. -/
def powerSwapped (source target : NodeDTO) : Bool :=
  if isPowerSource source.type && isPowerSource target.type then
    powerSourceRank target.type < powerSourceRank source.type
  else isPowerSource target.type

/-! ## Connecting -/

def defaultConnectionType (source target : NodeDTO) : String :=
  if isPowerSource source.type || isPowerSource target.type then edgeTypePower
  else if source.type = "access_point" || target.type = "access_point" then "wireless"
  else "ethernet"

/-- The cable from a socket of the source to a power input of the target. -/
def plugIn (env : Env) (edges : List EdgeDTO) (source target : NodeDTO)
    (wantSource wantTarget : String) : Except String EdgeDTO := do
  require (powerInputCount env.floats target.type target.details ≠ 0)
    (quoted target.name ++ " takes no power input")
  require (powerPathExists edges target.id source.id = false) ("connecting " ++
    quoted source.name ++ " to " ++ quoted target.name ++
    " would loop the power back into itself")
  let (sourceHandle, targetHandle) ← pickPowerHandles env.floats edges source target wantSource
    wantTarget
  .ok { source := source.id, sourceHandle := sourceHandle, target := target.id
        targetHandle := targetHandle, type := edgeTypePower, direction := "auto" }

/-- `connectPower` plugs a device into a free socket. -/
def connectPower (env : Env) (editor : Editor) (op : TopologyOp) (source target : NodeDTO) :
    Except String (Editor × TopologyOp) := do
  let swap := powerSwapped source target
  let ends := if swap then (target, source) else (source, target)
  let handles := (trimSpace op.sourceHandle, trimSpace op.targetHandle)
  let wants := if swap then handles.swap else handles
  let edge ← plugIn env editor.graph.edges ends.1 ends.2 wants.1 wants.2
  .ok (editor.withEdges (editor.graph.edges ++ [edge]),
    { op with source := ends.1.id, target := ends.2.id })

def networkLinkCount (edges : List EdgeDTO) (id : String) : Nat :=
  (edges.filter fun edge => (edge.source = id || edge.target = id) && !edge.isPower).length

def checkTableUplink (edges : List EdgeDTO) (connectionType : String) (node : NodeDTO) :
    Except String Unit :=
  if node.type ≠ nodeTypeLANTable then .ok ()
  else do
    require (connectionType = "ethernet")
      (quoted node.name ++ " is a LAN table and needs a cabled uplink")
    require (networkLinkCount edges node.id = 0)
      (quoted node.name ++ " already has its uplink; a LAN table connects to one switch")

def checkNetworkLink (env : Env) (editor : Editor) (connectionType : String)
    (source target : NodeDTO) : Except String Unit := do
  let edges := editor.graph.edges
  let wifiClient := isWifiAssociation source.type target.type
  require ((edgeIndex edges source.id target.id).isNone) (quoted source.name ++ " and " ++
    quoted target.name ++ " are already connected; use update_connection to change that link")
  require (wifiClient → connectionType = "wireless") (quoted source.name ++ " joins " ++
    quoted target.name ++
    " over Wi-Fi; leave connection_type out or set it to wireless")
  validateEach (fun node => require (node.type ∉ uncabledNodeTypes)
    (quoted node.name ++ " is a " ++ node.type ++ " and cannot be cabled")) [source, target]
  require (wifiClient ∨ source.type ∈ hubNodeTypes ∨ target.type ∈ hubNodeTypes)
    (quoted source.name ++ " (" ++ source.type ++ ") and " ++ quoted target.name ++ " (" ++
      target.type ++
      ") cannot be cabled directly; connect each to a switch, router, firewall or modem")
  validateEach (checkTableUplink edges connectionType) [source, target]
  checkWireless connectionType source.type target.type
  require (connectionType = "vpn" ∨ env.allowLoops = true ∨
      physicalPathExists edges source.id target.id = false)
    ("connecting " ++ quoted source.name ++ " and " ++ quoted target.name ++
      " would create a network loop: they already reach each other through other devices")

/-- The ends of a new link the way it is drawn when no handle is asked for: from
the upstream device to the downstream device. -/
def drawnEnds (op : TopologyOp) (source target : NodeDTO) : NodeDTO × NodeDTO :=
  if trimSpace op.sourceHandle = "" ∧ trimSpace op.targetHandle = "" ∧
      upstreamRank target < upstreamRank source then (target, source)
  else (source, target)

def newLink (env : Env) (editor : Editor) (op : TopologyOp) (connectionType : String)
    (source target : NodeDTO) : Except String EdgeDTO := do
  let (source, target) := drawnEnds op source target
  let (sourceHandle, targetHandle, reversed) ← pickHandles env.floats editor.graph.nodes
    editor.graph.edges source target (trimSpace op.sourceHandle) (trimSpace op.targetHandle)
  let (source, target) := if reversed then (target, source) else (source, target)
  let edge : EdgeDTO :=
    { source := source.id, sourceHandle := sourceHandle, target := target.id
      targetHandle := targetHandle, type := connectionType, speed := "1 GbE"
      wirelessStandard := if connectionType = "wireless" then "Wi-Fi 6" else ""
      direction := "auto" }
  applyConnectionFields edge op

def connect (env : Env) (editor : Editor) (op : TopologyOp) :
    Except String (Editor × TopologyOp) := do
  let (source, _) ← resolvedNode env editor op.source "source"
  let (target, _) ← resolvedNode env editor op.target "target"
  require (source.id ≠ target.id) "a node cannot be connected to itself"
  require (source.type ≠ "rack" ∧ target.type ≠ "rack")
    "racks are enclosures and cannot be cabled; mount devices in them with parent"
  let connectionType ← whenGiven op.connectionType (defaultConnectionType source target)
    fun connectionType => cleanEnum "connection_type" connectionType connectionTypes
  if connectionType = edgeTypePower then do
    require (isPowerSource source.type ∨ isPowerSource target.type)
      "a power cable needs a UPS, PDU or power outlet at one end"
    connectPower env editor op source target
  else do
    validateEach (fun node => require (isPowerSource node.type = false)
      (quoted node.name ++ " has no network port; use connection_type power")) [source, target]
    checkNetworkLink env editor connectionType source target
    let edge ← newLink env editor op connectionType source target
    .ok (editor.withEdges (editor.graph.edges ++ [edge]),
      { op with source := source.id, target := target.id })

/-! ## Existing cables -/

structure Connection where
  sourceID : String
  targetID : String
  edge : EdgeDTO
  index : Nat

def resolveConnection (env : Env) (editor : Editor) (op : TopologyOp) :
    Except String Connection := do
  let (source, _) ← resolvedNode env editor op.source "source"
  let (target, _) ← resolvedNode env editor op.target "target"
  let (edge, index) ← given (edgeIndex editor.graph.edges source.id target.id)
    (quoted source.name ++ " and " ++ quoted target.name ++ " are not connected")
  .ok ⟨source.id, target.id, edge, index⟩

def disconnect (env : Env) (editor : Editor) (op : TopologyOp) :
    Except String (Editor × TopologyOp) := do
  let connection ← resolveConnection env editor op
  .ok (editor.withEdges (editor.graph.edges.eraseIdx connection.index),
    { op with source := connection.sourceID, target := connection.targetID })

def retype (edge : EdgeDTO) (source target : NodeDTO) (value : String) :
    Except String EdgeDTO := do
  let connectionType ← cleanEnum "connection_type" value connectionTypes
  require (edge.type = edgeTypePower → connectionType = edgeTypePower)
    "a power cable stays a power cable"
  require (edge.type ≠ edgeTypePower → connectionType ≠ edgeTypePower)
    "draw a power cable with connect"
  checkWireless connectionType source.type target.type
  require (isWifiAssociation source.type target.type → connectionType = "wireless")
    (quoted source.name ++ " joins " ++ quoted target.name ++
      " over Wi-Fi; that link stays wireless")
  require (source.type = nodeTypeLANTable ∨ target.type = nodeTypeLANTable →
    connectionType = "ethernet") "a LAN table needs a cabled uplink"
  .ok { edge with
    type := connectionType
    wirelessStandard :=
      if connectionType ≠ "wireless" then ""
      else if edge.wirelessStandard = "" then "Wi-Fi 6" else edge.wirelessStandard }

def updateConnection (env : Env) (editor : Editor) (op : TopologyOp) :
    Except String (Editor × TopologyOp) := do
  let connection ← resolveConnection env editor op
  let (source, _) ← given (nodeIndex editor.graph.nodes connection.edge.source) ""
  let (target, _) ← given (nodeIndex editor.graph.nodes connection.edge.target) ""
  let edge ← whenGiven op.connectionType connection.edge (retype connection.edge source target)
  let edge ← applyConnectionFields edge op
  .ok (editor.withEdges (editor.graph.edges.set connection.index edge),
    { op with source := connection.sourceID, target := connection.targetID })

end HomelabBuilder.Topology
