import HomelabBuilder.Gaming.Instance
import HomelabBuilder.Services.TopologyPorts

/-! # Details of gaming devices

`topology_gaming.go`: LAN tables, consoles and access points, and what a save
checks about them and about game servers.
-/

namespace HomelabBuilder.Services

open Gaming (Profile Instance parseInstance instanceKey)

/-! ## Texts -/

/-- `strings.ToLower`. Besides A to Z two more characters become ASCII letters;
what stays outside ASCII equals none of the words a lowered text is compared with. -/
def lowerChar (char : Char) : Char :=
  if char = '\u212A' then 'k' else if char = '\u0130' then 'i' else char.toLower

def toLower (text : String) : String := String.ofList (text.toList.map lowerChar)

def cleanEnum (field value : String) (allowed : List String) : Except String String :=
  let normalized := toLower (trimSpace value)
  if normalized ∈ allowed then .ok normalized
  else .error (field ++ " must be one of " ++ String.intercalate ", " allowed)

/-! ## LAN tables -/

def maxTableSeats : Int := 24
def defaultSeatWatts : Int := 350
def minSeatWatts : Int := 50
def maxSeatWatts : Int := 2000
def tableSwitchWatts : Int := 10
def maxTableSwitch : Int := 52
def maxWifiClients : Int := 500

/-- The port counts small unmanaged switches are sold in. -/
def tableSwitchSizes : List Int := [5, 8, 16, 24, 48]

def tableSwitchSpeeds : List String := ["1 GbE", "2.5 GbE", "10 GbE"]

def consolePlatforms : List String := ["playstation", "xbox", "switch", "handheld", "other"]

/-- These stand on a desk or the floor and cannot be mounted in a rack. -/
def floorNodeTypes : List String := [nodeTypeConsole, nodeTypeLANTable, "power_outlet"]

/-- The smallest common switch that seats every player and has a port left for
the uplink. -/
def tableSwitchPortsFor (seats : Int) : Int :=
  (tableSwitchSizes.find? (seats + 1 ≤ ·)).getD (seats + 1)

def detailNumber (details : List (String × Json)) (key : String) : Option Rat :=
  (details.lookup key).bind Json.asNumber

/-- What a full table pulls: every seat and the table switch. -/
def tablePowerDraw (details : List (String × Json)) : Rat :=
  let watts := ((detailNumber details "seat_watts").filter (0 < ·)).getD defaultSeatWatts
  tableSeats details * watts + tableSwitchWatts

/-- A detail that is written when it is not there in a readable form. -/
def setUnless (readable : Bool) (details : List (String × Json)) (key : String) (value : Json) :
    List (String × Json) :=
  if readable then details else Table.set details key value

def tooFewTablePorts (seats ports : Int) : String :=
  "a table with " ++ toString seats ++ " seats needs a switch with at least " ++
    toString (seats + 1) ++ " ports (one is the uplink); details.switch_ports is " ++ toString ports

/-- Fills in what a LAN table needs to be planned and checks that its switch can
take every seat. -/
def applyTableDefaults (details : List (String × Json)) : Except String (List (String × Json)) :=
  let details := setUnless (detailInt details "seats").isSome details "seats"
    (.num defaultTableSeats)
  let details := setUnless (detailNumber details "seat_watts").isSome details "seat_watts"
    (.num defaultSeatWatts)
  let seats := tableSeats details
  let given := detailInt details "switch_ports"
  let ports := given.getD (tableSwitchPortsFor seats)
  let details := setUnless given.isSome details "switch_ports" (.num ports)
  if ports < seats + 1 then .error (tooFewTablePorts seats ports)
  else
    .ok (setUnless ((details.lookup "switch_speed").bind Json.asString).isSome details
      "switch_speed" (.str (tableSwitchSpeeds.headD "")))

/-! ## Checks -/

/-- `circuitRefPattern`. -/
def isCircuitRef (text : String) : Bool := Gaming.isCircuitID text && text.length ≤ 40

def wholeNumber (key : String) (value : Json) (low high : Int) : Except String Json :=
  match value.asNumber.filter fun number => number.den = 1 ∧ low ≤ number.num ∧ number.num ≤ high with
  | some number => .ok (.num number)
  | none =>
      .error ("details." ++ key ++ " must be a whole number from " ++ toString low ++ " to " ++
        toString high)

/-- A detail that only devices of one type have. -/
def appliesTo (nodeType only key : String) (cleaned : Except String Json) : Except String Json :=
  if nodeType = only then cleaned
  else .error ("details." ++ key ++ " only applies to " ++ only ++ " nodes")

/-- Checks the details gaming builds add; `none` for every other key. -/
def cleanGamingDetail (key : String) (value : Json) (nodeType : String) :
    Option (Except String Json) :=
  let text := value.asString.getD ""
  match key with
  | "seats" => some (appliesTo nodeType nodeTypeLANTable key (wholeNumber key value 1 maxTableSeats))
  | "seat_watts" =>
      some (appliesTo nodeType nodeTypeLANTable key
        (wholeNumber key value minSeatWatts maxSeatWatts))
  | "switch_ports" =>
      some (appliesTo nodeType nodeTypeLANTable key (wholeNumber key value 2 maxTableSwitch))
  | "switch_speed" =>
      some (appliesTo nodeType nodeTypeLANTable key
        (if text ∈ tableSwitchSpeeds then .ok (.str text)
          else .error "details.switch_speed must be one of 1 GbE, 2.5 GbE, 10 GbE"))
  | "wifi_clients" =>
      some (appliesTo nodeType "access_point" key (wholeNumber key value 0 maxWifiClients))
  | "platform" =>
      some (appliesTo nodeType nodeTypeConsole key
        ((cleanEnum "details.platform" text consolePlatforms).map Json.str))
  | "circuit" =>
      some (if isCircuitRef text then .ok (.str text)
        else .error "details.circuit must be the id of a circuit in the gaming plan")
  | _ => none

def gamingDetailKeys : List String :=
  ["seats", "seat_watts", "switch_ports", "switch_speed", "wifi_clients", "platform", "circuit"]

def errorOf {α : Type} : Except String α → List String
  | .ok _ => []
  | .error message => [message]

/-- What is wrong with a game server, if the guest is one. -/
def gameIssues (profileBySlug : String → Option Profile) (node : NodeDTO) (vm : VMDTO) :
    List String :=
  let checked : Except String Unit :=
    match parseInstance (vm.details.lookup instanceKey) with
    | .ok (some server) => (server.normalize profileBySlug).map fun _ => ()
    | .ok none => .ok ()
    | .error message => .error message
  (errorOf checked).map fun message => vm.name ++ " on " ++ node.name ++ ": " ++ message

def gamingDetailIssue (node : NodeDTO) (key : String) : List String :=
  match node.details.lookup key with
  | none => []
  | some .null => []
  | some value =>
      match cleanGamingDetail key value node.type with
      | some (.error message) => [node.name ++ ": " ++ message]
      | _ => []

/-- A saved table whose switch has too few ports. -/
def tablePortIssues (node : NodeDTO) : List String :=
  let seats := tableSeats node.details
  if node.type = nodeTypeLANTable ∧ (detailInt node.details "switch_ports").any (· < seats + 1) then
    [node.name ++ ": " ++ toString seats ++ " seats need a switch with at least " ++
      toString (seats + 1) ++ " ports"]
  else []

/-- Checks a saved node against the rules of the gaming node types. -/
def gamingNodeIssues (profileBySlug : String → Option Profile) (node : NodeDTO) : List String :=
  (if node.type ∈ floorNodeTypes ∧ node.internalComponents ≠ [] then
    [node.type ++ " nodes cannot hold internal components"] else []) ++
  gamingDetailKeys.flatMap (gamingDetailIssue node) ++
  tablePortIssues node ++
  node.vms.flatMap (gameIssues profileBySlug node)

end HomelabBuilder.Services
