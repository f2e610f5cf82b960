import HomelabBuilder.Canvas.PortConfig
import HomelabBuilder.Foundation.Arcs
import HomelabBuilder.Foundation.Worklist
import HomelabBuilder.Services.SaveValidation

/-! # Drawing links

`connection-rules.ts`, and what `onConnect` makes of a link: the rules the
canvas has for a new cable, and the cable a save sends for it.
-/

namespace HomelabBuilder.Canvas

open Services (EdgeDTO)
open Wiring (powerInPrefix powerOutPrefix)

/-- The two ends of a link; a handle that is not set is empty. -/
structure LinkEnd where
  source : String
  target : String
  sourceHandle : String
  targetHandle : String
  deriving DecidableEq

/-- The ends of a cable as the canvas holds them. -/
def linkEnd (edge : EdgeDTO) : LinkEnd where
  source := edge.source
  target := edge.target
  sourceHandle := edge.sourceHandle
  targetHandle := edge.targetHandle

inductive ConnectionCheck
  | ok
  | refused (message : Option String)
  deriving DecidableEq

/-! ## Device types -/

/-- The types whose `canConnectToAny` is set. -/
def connectsToAny : List String :=
  ["server_v2", "firewall", "vps", "iot", "router", "switch", "modem", "hba"]

def canNodeConnectToAny (type : String) : Bool := type ∈ connectsToAny

def wifiClientTypes : List String := ["pc", "minipc", "sbc", "console"]

def isWifiAssociation (a b : String) : Bool :=
  (a = "access_point" && b ∈ wifiClientTypes) || (b = "access_point" && a ∈ wifiClientTypes)

/-- `new Map(nodes.map(node => [node.id, node.type]))`, where an empty type counts
as none. -/
def typeOf (types : List (String × String)) (id : String) : Option String :=
  (types.reverse.lookup id).filter (· ≠ "")

/-- The connection type a link must have, if there is only one. -/
def requiredConnectionType : Option String → Option String → Option String
  | some a, some b =>
      if isWifiAssociation a b then some "wireless"
      else if a = "lan_table" || b = "lan_table" then some "ethernet"
      else none
  | _, _ => none

/-! ## Power cables -/

/-- N for a handle "<prefix>N" written without leading zeros, -1 for any other. -/
def powerHandleIndex (handle start : String) : Int :=
  match cutPrefix start handle with
  | some rest =>
      if 1 < rest.length ∧ rest.head? = some '0' then -1
      else
        match Net.decimal rest with
        | some index => index
        | none => -1
  | none => -1

def isPowerEdge (edge : LinkEnd) : Bool :=
  isPowerHandle edge.sourceHandle || isPowerHandle edge.targetHandle

/-- The link from a socket to a power input, whichever end it was drawn from. -/
def normalizePowerConnection (connection : LinkEnd) : Option LinkEnd :=
  let sourceOut := 0 ≤ powerHandleIndex connection.sourceHandle powerOutPrefix
  let sourceIn := 0 ≤ powerHandleIndex connection.sourceHandle powerInPrefix
  let targetOut := 0 ≤ powerHandleIndex connection.targetHandle powerOutPrefix
  let targetIn := 0 ≤ powerHandleIndex connection.targetHandle powerInPrefix
  if sourceOut ∧ targetIn then some connection
  else if sourceIn ∧ targetOut then
    some
      { source := connection.target
        sourceHandle := connection.targetHandle
        target := connection.source
        targetHandle := connection.sourceHandle }
  else none

/-- Whether a breadth-first search from one vertex takes another off its queue.
All that is met is the head of an arc, which bounds the search. -/
def searches (arcs : List (String × String)) (start goal : String) : Bool :=
  goal ∈ (Worklist.drain (Arcs.successors arcs) (fun vertex => vertex ∈ arcs.map Prod.snd)
    (arcs.length + 1) (Worklist.initial start)).seen

def feedArcs (edges : List LinkEnd) : List (String × String) :=
  (edges.filter fun edge => isPowerEdge edge && edge.target ≠ "").map fun edge =>
    (edge.source, edge.target)

/-- A power cable runs from a free socket to a free power input, and power never
flows back into the device it came from. -/
def checkPowerConnection (connection : LinkEnd) (edges : List LinkEnd) : ConnectionCheck :=
  match normalizePowerConnection connection with
  | none => .refused (some "A power cable runs from a socket to a power input.")
  | some cable =>
      let feeds := edges.filter isPowerEdge
      if feeds.any fun edge =>
          edge.source = cable.source && edge.sourceHandle = cable.sourceHandle then
        .refused (some "That socket is already in use.")
      else if feeds.any fun edge =>
          edge.target = cable.target && edge.targetHandle = cable.targetHandle then
        .refused (some "That power input is already plugged in.")
      else if searches (feedArcs edges) cable.target cable.source then
        .refused (some "That power cable would loop back into itself.")
      else .ok

/-! ## Network cables -/

/-- Power cables take no network port, and neither do Wi-Fi clients at an access
point. -/
def takesPort (types : List (String × String)) (edge : LinkEnd) (nodeID : String) : Bool :=
  if isPowerEdge edge then false
  else
    match typeOf types edge.source, typeOf types edge.target with
    | some a, some b =>
        !(typeOf types nodeID = some "access_point" && isWifiAssociation a b)
    | _, _ => true

def handleInUse (types : List (String × String)) (edges : List LinkEnd) (nodeID handle : String) :
    Bool :=
  edges.any fun edge => takesPort types edge nodeID &&
    ((edge.source = nodeID && edge.sourceHandle = handle) ||
      (edge.target = nodeID && edge.targetHandle = handle))

def hasUplink (edges : List LinkEnd) (nodeID type : String) : Bool :=
  type = "lan_table" &&
    edges.any fun edge => !isPowerEdge edge && (edge.source = nodeID || edge.target = nodeID)

def networkArcs (edges : List LinkEnd) : List (String × String) :=
  (edges.filter fun edge => edge.source ≠ "" && edge.target ≠ "" && !isPowerEdge edge).flatMap
    fun edge => [(edge.source, edge.target), (edge.target, edge.source)]

def checkNetworkConnection (types : List (String × String)) (connection : LinkEnd)
    (sourceType targetType : String) (edges : List LinkEnd) (ignoreLoops : Bool) :
    ConnectionCheck :=
  let wifiClient := isWifiAssociation sourceType targetType
  let skipSource := wifiClient && sourceType = "access_point"
  let skipTarget := wifiClient && targetType = "access_point"
  if !skipSource && handleInUse types edges connection.source connection.sourceHandle then
    .refused (some "Source port is already in use.")
  else if !skipTarget && handleInUse types edges connection.target connection.targetHandle then
    .refused (some "Target port is already in use.")
  else if hasUplink edges connection.source sourceType ||
      hasUplink edges connection.target targetType then
    .refused (some "A LAN table has one uplink. Remove the existing one first.")
  else if !ignoreLoops && searches (networkArcs edges) connection.source connection.target then
    .refused (some "Connection would create a loop.")
  else if !wifiClient && !canNodeConnectToAny sourceType && !canNodeConnectToAny targetType then
    .refused (some (
      if sourceType = "lan_table" || targetType = "lan_table"
        then "A LAN table plugs into a switch or router."
        else "Devices generally must connect through a network hub (Switch, Router, Modem, etc)."))
  else .ok

def checkConnection (connection : LinkEnd) (types : List (String × String))
    (edges : List LinkEnd) (ignoreLoops : Bool) : ConnectionCheck :=
  if connection.source = "" ∨ connection.target = "" ∨ connection.source = connection.target then
    .refused none
  else
    match typeOf types connection.source, typeOf types connection.target with
    | some sourceType, some targetType =>
        if isPowerEdge connection then checkPowerConnection connection edges
        else checkNetworkConnection types connection sourceType targetType edges ignoreLoops
    | _, _ => .refused none

/-! ## Adding the link -/

/-- `addEdge` of the canvas library: an edge goes to the end unless there is one
on the same handles. -/
structure CanvasLibrary where
  addEdge : {α : Type} → (α → LinkEnd) → α → List α → List α
  addEdge_new {α : Type} (ends : α → LinkEnd) (edge : α) (edges : List α) :
    (∀ other ∈ edges, ends other ≠ ends edge) → addEdge ends edge edges = edges ++ [edge]
  addEdge_old {α : Type} (ends : α → LinkEnd) (edge : α) (edges : List α) :
    (∃ other ∈ edges, ends other = ends edge) → addEdge ends edge edges = edges

def CanvasLibrary.plain : CanvasLibrary where
  addEdge ends edge edges :=
    if edges.any fun other => ends other = ends edge then edges else edges ++ [edge]
  addEdge_new ends edge edges fresh := by
    have none : (edges.any fun other => decide (ends other = ends edge)) = false := by
      simpa using fresh
    rw [none]
    rfl
  addEdge_old ends edge edges known := by
    have some : (edges.any fun other => decide (ends other = ends edge)) = true := by
      simpa using known
    rw [some]
    rfl

/-- What `onConnect` stores with a cable. -/
structure CableData where
  connectionType : String := ""
  speed : String := ""
  subnet : String := ""
  wirelessStandard : String := ""
  direction : String := ""
  deriving DecidableEq

/-- `value || fallback` of texts. -/
def orElse (value fallback : String) : String := if value = "" then fallback else value

/-- A cable as `getBuildData` sends it. -/
def savedEdge (ends : LinkEnd) (data : CableData) : EdgeDTO :=
  let power := data.connectionType = "power"
  { source := ends.source
    sourceHandle := ends.sourceHandle
    target := ends.target
    targetHandle := ends.targetHandle
    type := orElse data.connectionType "ethernet"
    speed := if power then "" else orElse data.speed "1 GbE"
    subnet := if power then "" else data.subnet
    wirelessStandard := if power then "" else data.wirelessStandard
    direction := if power then "auto" else orElse data.direction "auto" }

/-- What `onConnect` stores with a network cable. -/
def networkCableData (types : List (String × String)) (connection : LinkEnd) : CableData :=
  let sourceType := typeOf types connection.source
  let targetType := typeOf types connection.target
  let isAccessPointLink :=
    requiredConnectionType sourceType targetType ≠ some "ethernet" &&
      (sourceType = some "access_point" || targetType = some "access_point")
  { connectionType := if isAccessPointLink then "wireless" else "ethernet"
    speed := "1 GbE"
    subnet := ""
    wirelessStandard := if isAccessPointLink then "Wi-Fi 6" else ""
    direction := "auto" }

/-- The cable `onConnect` adds for a link, none for power that joins no socket to
an input. -/
def drawnCable (types : List (String × String)) (connection : LinkEnd) : Option EdgeDTO :=
  if isPowerEdge connection then
    (normalizePowerConnection connection).map fun cable =>
      savedEdge cable { connectionType := "power" }
  else some (savedEdge connection (networkCableData types connection))

/-- The cables a save sends after `onConnect`. -/
def connected (library : CanvasLibrary) (types : List (String × String)) (edges : List EdgeDTO)
    (connection : LinkEnd) : List EdgeDTO :=
  match drawnCable types connection with
  | none => edges
  | some cable => library.addEdge linkEnd cable edges

end HomelabBuilder.Canvas
