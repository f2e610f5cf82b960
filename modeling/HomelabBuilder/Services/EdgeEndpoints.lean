import HomelabBuilder.Foundation.Arcs
import HomelabBuilder.Services.GraphInput
import HomelabBuilder.Services.PlanIPAM
import HomelabBuilder.Wiring.Power

/-! # Rules on cables

The part of `validateEdgeEndpoints` that walks the edges of a save. An issue
carries what its message names.
-/

namespace HomelabBuilder.Services

open Wiring

inductive EdgeIssue
  | missingReference (source target missing : String)
  | selfConnection (id : String)
  | unsupportedType (source target type : String)
  | socket (source target : String)
  | powerInput (target handle : String)
  | portUsedTwice (id handle : String)
  | networkInPowerPort (source target : String)
  | noNetworkPort (id type : String)
  | duplicateConnection (left right : String)
  | nestedOnly (source target : String)
  | noGateway (source target : String)
  | notWireless (source target : String)
  | tableNotCabled (id : String)
  | tableUplinks (id : String)
  | wirelessEndpoint (source target : String)
  | powerLoop (id : String)
  deriving DecidableEq

def nodeTypeConsole : String := "console"

/-- These can join an access point's network without a cable. -/
def wifiClientNodeTypes : List String := ["pc", "minipc", "sbc", nodeTypeConsole]

def isWifiAssociation (typeA typeB : String) : Bool :=
  (typeA = "access_point" && typeB ∈ wifiClientNodeTypes) ||
    (typeB = "access_point" && typeA ∈ wifiClientNodeTypes)

def allowedEdgeTypes : List String := ["", "ethernet", "wireless", "vpn", edgeTypePower]

def connectsFreely : List String :=
  ["router", "switch", "modem", "firewall", "server_v2", "vps", "iot"]

def nestedOnlyTypes : List String := ["disk", "gpu", "cpu", "hba", "pcie", "rack"]

/-- `nodesByID`: an empty id counts for nothing, and the first node keeps an id. -/
def nodesByID (nodes : List NodeDTO) (id : String) : Option NodeDTO :=
  if trimSpace id = "" then none else nodes.find? fun node => node.id = id

structure EdgeScan where
  issues : List EdgeIssue := []
  missingRefs : List EdgeIssue := []
  seenPairs : List String := []
  usedPorts : List String := []
  tableUplinks : List (String × Nat) := []

namespace EdgeScan

def report (scan : EdgeScan) (wrong : Bool) (issue : EdgeIssue) : EdgeScan :=
  if wrong then { scan with issues := scan.issues ++ [issue] } else scan

def portKey (id handle : String) : String := id ++ "\x00" ++ handle

def usePort (scan : EdgeScan) (id handle : String) : EdgeScan :=
  if portKey id handle ∈ scan.usedPorts then scan.report true (.portUsedTwice id handle)
  else { scan with usedPorts := portKey id handle :: scan.usedPorts }

/-- A power cable runs from a socket to a power input. -/
def checkPower (floats : Floats) (scan : EdgeScan) (source target : NodeDTO) (edge : EdgeDTO) :
    EdgeScan :=
  let socket := powerHandleIndex edge.sourceHandle powerOutPrefix
  let input := powerHandleIndex edge.targetHandle powerInPrefix
  let noSocket := !isPowerSource source.type || socket < 0 ||
    powerOutputCount floats source.type source.details ≤ socket
  let noInput := input < 0 || powerInputCount floats target.type target.details ≤ input
  (((scan.report noSocket (.socket edge.source edge.target)).report noInput
    (.powerInput edge.target edge.targetHandle)).usePort edge.source edge.sourceHandle).usePort
      edge.target edge.targetHandle

def isPowerHandle (handle : String) : Bool := (cutPrefix "pwr-" handle).isSome

def notePair (scan : EdgeScan) (left right : String) : EdgeScan :=
  if portKey left right ∈ scan.seenPairs then scan.report true (.duplicateConnection left right)
  else { scan with seenPairs := portKey left right :: scan.seenPairs }

/-- No two network cables join the same two nodes. -/
def checkPair (scan : EdgeScan) (edge : EdgeDTO) : EdgeScan :=
  if edge.target < edge.source then scan.notePair edge.target edge.source
  else scan.notePair edge.source edge.target

/-- A LAN table has one uplink, and it is a cable. -/
def checkTable (scan : EdgeScan) (node : NodeDTO) (edge : EdgeDTO) : EdgeScan :=
  if node.type ≠ nodeTypeLANTable then scan
  else
    let scan := scan.report (edge.type = "wireless" || edge.type = "vpn")
      (.tableNotCabled node.id)
    let uplinks := (scan.tableUplinks.lookup node.id).getD 0 + 1
    { scan with tableUplinks := Table.set scan.tableUplinks node.id uplinks }.report
      (uplinks = 2) (.tableUplinks node.id)

/-- The port of one end of a network cable; an access point's Wi-Fi is no port. -/
def takePort (scan : EdgeScan) (isWifiClient : Bool) (node : NodeDTO) (handle : String) :
    EdgeScan :=
  if handle = "" || (isWifiClient && node.type = "access_point") then scan
  else scan.usePort node.id handle

def checkNetwork (scan : EdgeScan) (source target : NodeDTO) (edge : EdgeDTO) : EdgeScan :=
  let isWifiClient := isWifiAssociation source.type target.type
  let scan := scan.report (isPowerHandle edge.sourceHandle || isPowerHandle edge.targetHandle)
    (.networkInPowerPort edge.source edge.target)
  let scan := scan.report (isPowerSource source.type) (.noNetworkPort source.id source.type)
  let scan := scan.report (isPowerSource target.type) (.noNetworkPort target.id target.type)
  let scan := scan.checkPair edge
  let scan := scan.report (source.type ∈ nestedOnlyTypes || target.type ∈ nestedOnlyTypes)
    (.nestedOnly edge.source edge.target)
  let scan := scan.report
    (!isWifiClient && source.type ∉ connectsFreely && target.type ∉ connectsFreely)
    (.noGateway edge.source edge.target)
  let scan := scan.report (isWifiClient && edge.type ≠ "wireless")
    (.notWireless edge.source edge.target)
  let scan := (scan.checkTable source edge).checkTable target edge
  let scan := scan.report (edge.type = "wireless" && source.type ≠ "access_point" &&
    target.type ≠ "access_point" && source.type ≠ "iot" && target.type ≠ "iot")
    (.wirelessEndpoint edge.source edge.target)
  if edge.type = "vpn" then scan
  else (scan.takePort isWifiClient source edge.sourceHandle).takePort isWifiClient target
    edge.targetHandle

def checkEdge (floats : Floats) (nodes : List NodeDTO) (scan : EdgeScan) (edge : EdgeDTO) :
    EdgeScan :=
  match nodesByID nodes edge.source, nodesByID nodes edge.target with
  | some source, some target =>
      if edge.source = edge.target then scan.report true (.selfConnection edge.source)
      else
        let scan := scan.report (edge.type ∉ allowedEdgeTypes)
          (.unsupportedType edge.source edge.target edge.type)
        if edge.type = edgeTypePower then scan.checkPower floats source target edge
        else scan.checkNetwork source target edge
  | source, target =>
      let missing :=
        if source.isSome then "target" else if target.isNone then "source and target" else "source"
      { scan with missingRefs :=
          scan.missingRefs ++ [.missingReference edge.source edge.target missing] }

end EdgeScan

def EdgeDTO.isPower (edge : EdgeDTO) : Bool := edge.type = edgeTypePower

def powerArcs (edges : List EdgeDTO) : List (String × String) :=
  (edges.filter EdgeDTO.isPower).map fun edge => (edge.source, edge.target)

/-- A node that power cables lead back into, or "". -/
def powerLoopNode (edges : List EdgeDTO) : String := Arcs.loopVertex (powerArcs edges) ""

/-- What a save is told is wrong with its edges. -/
def edgeIssues (floats : Floats) (nodes : List NodeDTO) (edges : List EdgeDTO) : List EdgeIssue :=
  let scan := edges.foldl (EdgeScan.checkEdge floats nodes) {}
  let loop := powerLoopNode edges
  scan.missingRefs ++ scan.issues ++ if loop = "" then [] else [.powerLoop loop]

end HomelabBuilder.Services
