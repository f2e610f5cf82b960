import HomelabBuilder.Services.EdgeEndpoints

/-! # Ports of a card

`topology_ports.go`: the handles the canvas draws for a device, and which of
them carry a cable.
-/

namespace HomelabBuilder.Services

open Wiring
open Net (decimal)

/-- The uplink every hardware card has on top. -/
def targetHandle : String := "target-0"

def dynamicPortTypes : List String :=
  ["server", "server_v2", "firewall", "vps", "router", "switch", "modem"]

def defaultPortCounts : List (String × Int) :=
  [("router", 4), ("switch", 4), ("server", 4), ("server_v2", 4), ("firewall", 4), ("vps", 2),
    ("modem", 4)]

def vmHostNodeTypes : List String :=
  ["server", "server_v2", "vps", "pc", "minipc", "sbc", "nas", "iot"]

def componentHostNodeTypes : List String :=
  ["server", "server_v2", "vps", "pc", "minipc", "sbc", "iot", "nas"]

def componentTypes : List String := ["disk", "gpu", "cpu", "hba", "pcie"]

/-- These may be cabled to anything; every other pair needs one of them. -/
def hubNodeTypes : List String :=
  ["router", "switch", "modem", "firewall", "server_v2", "vps", "iot"]

def uncabledNodeTypes : List String := ["disk", "gpu", "cpu", "hba", "pcie", "rack"]

/-! ## Port counts -/

/-- `strconv.Atoi` where the error is ignored: a number that fits no `int`
gives the largest one. -/
def atoiClamped (digits : List Char) : Int := min ((decimal digits).getD 0) (2 ^ 63 - 1)

def atoi (text : List Char) : Option Int :=
  let value := match text with
    | '-' :: rest => (decimal rest).map fun value => -(value : Int)
    | '+' :: rest => (decimal rest).map Int.ofNat
    | _ => (decimal text).map Int.ofNat
  value.filter fun value => -2 ^ 63 ≤ value ∧ value < 2 ^ 63

def isRegexSpace (char : Char) : Bool := char ∈ ['\t', '\n', '\x0c', '\r', ' ']

/-- The numbers `multiplierPattern` finds, "2x SFP+ / 4x RJ45". A run of digits
is kept over spaces and counts once a multiplication sign follows. -/
def multipliers : List Char → Bool → List Char → List (List Char)
  | _, _, [] => []
  | run, gap, char :: rest =>
      if char.isDigit then multipliers (if gap then [char] else char :: run) false rest
      else if char ∈ ['x', 'X', '×'] then
        if run = [] then multipliers [] false rest
        else run.reverse :: multipliers [] false rest
      else if isRegexSpace char then multipliers run true rest
      else multipliers [] false rest

def wrapInt (value : Int) : Int := value.bmod (2 ^ 64)

def positive (value : Int) : Option Int := if 0 < value then some value else none

/-- `ParsePortCount` of a text: a number, a sum of multipliers, or the first
integer in it. -/
def parsePortText (floats : Floats) (text : String) : Option Int :=
  let trimmed := trimSpace text
  match (floats.parseFloat trimmed).filter (0 < ·) with
  | some direct => positive (truncate floats direct)
  | none =>
      match multipliers [] false trimmed.toList with
      | [] =>
          match (trimmed.toList.dropWhile fun char => !char.isDigit).takeWhile Char.isDigit with
          | [] => none
          | first => positive (atoiClamped first)
      | counts =>
          positive (counts.foldl (fun total count => wrapInt (total + atoiClamped count)) 0)

/-- `ParsePortCount`, the way the canvas reads a ports value. -/
def parsePortCount (floats : Floats) : Json → Option Int
  | .num value => if value ≤ 0 then none else positive (truncate floats value)
  | .str text => if trimSpace text = "" then none else parsePortText floats text
  | _ => none

/-- The number of ethN handles the canvas renders for a node. -/
def portCount (floats : Floats) (nodeType : String) (details : List (String × Json)) : Int :=
  if nodeType ∉ dynamicPortTypes then 1
  else
    match (details.lookup "ports").bind (parsePortCount floats) with
    | some parsed => parsed
    | none => (defaultPortCounts.lookup nodeType).getD 1

/-! ## Handles -/

/-- The handles "<start>0", "<start>1" and so on. -/
def numbered (start : String) (count : Int) : List String :=
  (List.range count.toNat).map fun index => start ++ toString index

/-- Every handle of a node card: network handles first, then power inputs, then
sockets. -/
def validHandles (floats : Floats) (nodeType : String) (details : List (String × Json)) :
    List String :=
  if nodeType = "rack" then []
  else
    (if isPowerSource nodeType then []
      else targetHandle :: numbered "eth" (portCount floats nodeType details)) ++
    numbered powerInPrefix (powerInputCount floats nodeType details) ++
    numbered powerOutPrefix (powerOutputCount floats nodeType details)

/-- N for "ethN", -1 for any other handle. -/
def handlePortIndex (handle : String) : Int :=
  match (cutPrefix "eth" handle).bind atoi with
  | some index => if index < 0 then -1 else index
  | none => -1

/-- The type of a node, empty where there is none: what a missing key of
`nodeTypes` reads as. -/
def nodeTypeOf (nodes : List NodeDTO) (id : String) : String :=
  ((nodes.reverse.find? fun node => node.id = id).map NodeDTO.type).getD ""

/-- The network handles of a node that an edge takes. -/
def handlesTaken (nodeTypes : String → String) (nodeID : String) (edge : EdgeDTO) : List String :=
  if edge.type = edgeTypePower then []
  -- Wi-Fi clients do not take the access point's port; it carries the uplink.
  else if nodeTypes nodeID = "access_point" &&
      isWifiAssociation (nodeTypes edge.source) (nodeTypes edge.target) then []
  else
    (if edge.source = nodeID ∧ edge.sourceHandle ≠ "" then [edge.sourceHandle] else []) ++
      if edge.target = nodeID ∧ edge.targetHandle ≠ "" then [edge.targetHandle] else []

/-- The network handles on a node that carry a cable. VPN links count because
the canvas draws them. -/
def usedHandles (nodeTypes : String → String) (nodeID : String) (edges : List EdgeDTO) :
    List String :=
  edges.flatMap (handlesTaken nodeTypes nodeID)

/-- The largest index among these handles, or -1. -/
def highest (indexes : List Int) : Int := indexes.foldl max (-1)

/-- The largest ethN index in use on a node, or -1. -/
def highestUsedPort (nodeID : String) (edges : List EdgeDTO) : Int :=
  highest (edges.flatMap fun edge =>
    (if edge.source = nodeID then [handlePortIndex edge.sourceHandle] else []) ++
      if edge.target = nodeID then [handlePortIndex edge.targetHandle] else [])

/-- The highest power input and the highest socket of a node that carry a cable. -/
def highestInput (nodeID : String) (edges : List EdgeDTO) : Int :=
  highest ((edges.filter fun edge => edge.isPower && edge.target = nodeID).map fun edge =>
    powerHandleIndex edge.targetHandle powerInPrefix)

def highestSocket (nodeID : String) (edges : List EdgeDTO) : Int :=
  highest ((edges.filter fun edge => edge.isPower && edge.source = nodeID).map fun edge =>
    powerHandleIndex edge.sourceHandle powerOutPrefix)

/-- The lowest ethN handle on a node that carries no cable. -/
def firstFreePort (floats : Floats) (nodeType : String) (details : List (String × Json))
    (used : List String) : Option String :=
  (numbered "eth" (portCount floats nodeType details)).find? (· ∉ used)

end HomelabBuilder.Services
