import HomelabBuilder.Foundation.LeastLoaded
import HomelabBuilder.Planner.GameServerPlan

/-! # A LAN party

`planner/lan-party-plan.ts`, with the table a party is seated at, `gaming/lib/table.ts`.
-/

namespace HomelabBuilder.Planner

open Gaming (Circuit)

/-- Half is rounded up. -/
def roundHalfUp (number : Rat) : Int := ⌊number + 1 / 2⌋

/-- `value || other`: zero stands for nothing typed. -/
def orWhenZero (value other : Int) : Int := if value = 0 then other else value

/-! ## Tables -/

def maxTableSeats : Int := 24
def defaultTableSeats : Nat := 8
def defaultSeatWatts : Rat := 350
def tableSwitchWatts : Rat := 10

def tableSwitchSizes : List Nat := [5, 8, 16, 24, 48]

/-- The smallest common switch that seats every player and keeps a port for the uplink. -/
def tableSwitchPortsFor (seats : Nat) : Nat :=
  (tableSwitchSizes.find? fun size => seats + 1 ≤ size).getD (seats + 1)

def tableSeats (seats : Nat) : Nat := if 0 < seats then seats else defaultTableSeats

/-- What a full table pulls: every seat plus the table switch. -/
def tablePowerDraw (seats : Nat) : Rat := tableSeats seats * defaultSeatWatts + tableSwitchWatts

def newTableDetails (seats : Nat) : List (String × Json) :=
  [("seats", .num seats), ("seat_watts", .num defaultSeatWatts),
    ("switch_ports", .num (tableSwitchPortsFor seats)), ("switch_speed", .str "1 GbE")]

/-! ## Answers -/

structure LanPartyAnswers where
  name : String
  seats : Rat
  consoles : Rat
  wifi : Bool
  mainsVoltage : Rat
  breakerAmps : Rat
  circuits : Rat
  downMbps : Rat := 0
  upMbps : Rat := 0
  hours : Rat := 0
  games : List String
  lancache : Bool

def maxPartySeats : Int := 64
def preferredTableSeats : Int := 8
def continuousLoadShare : Rat := 4 / 5
def leasesInA24 : Int := 150
def dhcpHeadroom : Rat := 5 / 4
def coreSwitchSizes : List Nat := [8, 16, 24, 48]

/-- How many players one table seats so that a full table stays inside what one circuit
carries for hours. -/
def seatsPerTable (mainsVoltage breakerAmps : Rat) : Nat :=
  let continuousWatts := mainsVoltage * breakerAmps * continuousLoadShare
  let fit := ⌊(continuousWatts - tableSwitchWatts) / defaultSeatWatts⌋
  (max 1 (min (min preferredTableSeats maxTableSeats) fit)).toNat

def tableSizesFrom (perTable : Nat) : Nat → Nat → List Nat
  | 0, _ => []
  | rounds + 1, left =>
      if 0 < left then min perTable left :: tableSizesFrom perTable rounds (left - perTable) else []

/-- Splits the players over tables, filling each before starting the next. A table takes a
player at least, so there are no more tables than players. -/
def tableSizes (seats perTable : Nat) : List Nat := tableSizesFrom perTable seats seats

def clampSeats (seats : Rat) : Nat :=
  (min maxPartySeats (max 1 (orWhenZero (roundHalfUp seats) 1))).toNat

namespace LanPartyAnswers

variable (answers : LanPartyAnswers)

/-- Whether the plan includes a server for local game servers or the download cache. -/
def hasPartyServer : Bool := answers.lancache || 0 < answers.games.length

def sizes : List Nat :=
  tableSizes (clampSeats answers.seats) (seatsPerTable answers.mainsVoltage answers.breakerAmps)

def tablesNeeded : Nat := answers.sizes.length

/-- Circuits the plan needs: one per table, because a full table uses nearly all a circuit
carries for hours, and one more for the server when there is one. -/
def circuitsNeeded : Nat := answers.tablesNeeded + if answers.hasPartyServer then 1 else 0

def plannedConsoles : Nat := (min 16 (max 0 (orWhenZero (roundHalfUp answers.consoles) 0))).toNat

def circuitCount : Nat := (min 32 (max 1 (orWhenZero (roundHalfUp answers.circuits) 1))).toNat

/-- Phones and laptops on the Wi-Fi: about one per player. -/
def wifiClients : Nat := if answers.wifi then clampSeats answers.seats else 0

/-- More addresses than a small network has room for. -/
def wide : Prop :=
  leasesInA24 < ⌈(clampSeats answers.seats + answers.wifiClients : Rat) * dhcpHeadroom⌉

instance : Decidable answers.wide := inferInstanceAs (Decidable (_ < _))

end LanPartyAnswers

/-! ## Local servers -/

/-- Everyone is in the room: each server is planned for the whole party. -/
def partyPlayers (answers : LanPartyAnswers) (profile : GameProfile) : Int :=
  min (clampSeats answers.seats + answers.plannedConsoles)
    (orWhenZero profile.maxPlayers (clampSeats answers.seats))

def localServers (ids : Ids) (answers : LanPartyAnswers) (services : List CatalogService) :
    List (String × Int) → Nat → List String → List PlannedVM
  | _, _, [] => []
  | used, count, slug :: rest =>
      match gameService services slug with
      | some service =>
          match service.game with
          | some profile =>
              let (offset, used) := nextPortOffset used slug
              gameServerVM (ids.server count) service profile (some (partyPlayers answers profile))
                  "lan" offset ::
                localServers ids answers services used (count + 1) rest
          | none => localServers ids answers services used count rest
      | none => localServers ids answers services used count rest

def downloadCache (ids : Ids) (answers : LanPartyAnswers) (services : List CatalogService) :
    List PlannedVM :=
  if answers.lancache then
    match gameService services "lancache" with
    | some service =>
        match service.game with
        | some profile =>
            [gameServerVM (ids.server answers.games.length) service profile none "lan" 0]
        | none => []
    | none => []
  else []

def partyServers (ids : Ids) (answers : LanPartyAnswers) (services : List CatalogService) :
    List PlannedVM :=
  localServers ids answers services [] 0 answers.games ++ downloadCache ids answers services

/-! ## Devices -/

section

variable (ids : Ids) (answers : LanPartyAnswers) (services : List CatalogService)

def corePorts : Nat :=
  let extras := (if answers.wifi then 1 else 0) +
    (if (partyServers ids answers services).isEmpty then 0 else 1) + answers.plannedConsoles
  let needed := answers.sizes.length + extras + 1
  (coreSwitchSizes.find? fun size => needed ≤ size).getD needed

def partyRouter : PlannedNode where
  id := ids.router
  type := "router"
  name := "Party Router"
  ip := if answers.wide then "192.168.0.1" else "192.168.1.1"
  powerDraw := 12
  details :=
    [("ports", .num 4), ("dhcp_enabled", .bool true),
      ("subnet_mask", .str (if answers.wide then "255.255.254.0" else "255.255.255.0")),
      ("network_zone", .str "lan"), ("planner_role", .str "gateway")]

def coreSwitch : PlannedNode where
  id := ids.core
  type := "switch"
  name := "Core Switch (" ++ toString (corePorts ids answers services) ++ "-port)"
  powerDraw := if 16 < corePorts ids answers services then 25 else 12
  details :=
    [("ports", .num (corePorts ids answers services)), ("planner_role", .str "distribution")]

def lanTable (size index : Nat) : PlannedNode where
  id := ids.table index
  type := "lan_table"
  name := "Table " ++ toString (index + 1)
  powerDraw := tablePowerDraw size
  details := newTableDetails size

def partyAccessPoint : PlannedNode where
  id := ids.accessPoint
  type := "access_point"
  name := "Party Wi-Fi"
  powerDraw := 12
  details := [("wifi_clients", .num answers.wifiClients), ("planner_role", .str "wireless")]

def partyConsole (index : Nat) : PlannedNode where
  id := ids.console index
  type := "console"
  name := "Console " ++ toString (index + 1)
  powerDraw := 150
  details := [("platform", .str "other")]

/-- What is plugged into the core switch, in the order of its ports; and whether it goes there
by cable. -/
def pluggedIntoCore : List (PlannedNode × Bool) :=
  (answers.sizes.zipIdx.map fun (size, index) => (lanTable ids size index, true)) ++
  (if answers.wifi then [(partyAccessPoint ids answers, false)] else []) ++
  ((List.range answers.plannedConsoles).map fun index => (partyConsole ids index, true)) ++
  (if (partyServers ids answers services).isEmpty then []
    else [(gameHost ids.host "Party Server" (partyServers ids answers services), true)])

def partyNodes : List PlannedNode :=
  partyRouter ids answers :: coreSwitch ids answers services ::
    (pluggedIntoCore ids answers services).map Prod.fst

def partyEdges : List PlannedEdge :=
  { source := ids.router
    sourceHandle := "eth0"
    target := ids.core
    targetHandle := "target-0"
    type := "ethernet"
    speed := "1 GbE"
    direction := "lan" } ::
  (pluggedIntoCore ids answers services).zipIdx.map fun ((node, wired), corePort) =>
    { source := ids.core
      sourceHandle := "eth" ++ toString corePort
      target := node.id
      targetHandle := "target-0"
      type := if wired then "ethernet" else "wireless"
      speed := "1 GbE"
      wirelessStandard := if wired then "" else "Wi-Fi 6"
      direction := "lan" }

end

/-! ## Power -/

def circuitID (index : Nat) : String := "c" ++ toString (index + 1)

def partyCircuits (answers : LanPartyAnswers) : List Circuit :=
  (List.range answers.circuitCount).map fun index =>
    { id := circuitID index
      label := "Circuit " ++ toString (index + 1)
      breakerAmps := answers.breakerAmps }

/-- The devices that draw power with their places in the plan, heaviest first. -/
def heaviestFirst (nodes : List PlannedNode) : List (PlannedNode × Nat) :=
  (nodes.zipIdx.filter fun (node, _) => 0 < node.powerDraw).insertionSort
    fun left right => right.1.powerDraw ≤ left.1.powerDraw

/-- Heaviest first onto the least loaded circuit, so the load is spread evenly. -/
def assignCircuits (circuits : List Circuit) (nodes : List PlannedNode) :
    List ((PlannedNode × Nat) × String) :=
  LeastLoaded.assign (fun entry => entry.1.powerDraw) (circuits.map fun circuit => (circuit.id, 0))
    (heaviestFirst nodes)

def PlannedNode.onCircuit (node : PlannedNode) (circuit : String) : PlannedNode :=
  { node with details := Table.set node.details "circuit" (.str circuit) }

/-- A device with the circuit it is assigned to. -/
def withCircuit (assigned : List ((PlannedNode × Nat) × String)) (entry : PlannedNode × Nat) :
    PlannedNode :=
  match assigned.find? fun other => other.1.2 = entry.2 with
  | some (_, circuit) => entry.1.onCircuit circuit
  | none => entry.1

def withCircuits (circuits : List Circuit) (nodes : List PlannedNode) : List PlannedNode :=
  nodes.zipIdx.map (withCircuit (assignCircuits circuits nodes))

/-- Builds a LAN party: tables on a core switch behind a router, with what was asked for. -/
def buildLanPartyPlan (ids : Ids) (answers : LanPartyAnswers) (services : List CatalogService) :
    Plan where
  name := if trimSpace answers.name = "" then "LAN Party" else trimSpace answers.name
  kind := "lan_party"
  gamingPlan :=
    { uplink := { downMbps := max 0 answers.downMbps, upMbps := max 0 answers.upMbps, cgnat := "" }
      mainsVoltage := answers.mainsVoltage
      circuits := partyCircuits answers
      hours := max 0 answers.hours }
  nodes := withCircuits (partyCircuits answers) (partyNodes ids answers services)
  edges := partyEdges ids answers services

end HomelabBuilder.Planner
