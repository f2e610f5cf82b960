import HomelabBuilder.Gaming.Report
import HomelabBuilder.Services.GamingReport

/-! # Planned game hosts

`planner/game-hosts.ts` and `planner/types.ts`: game servers as containers, the host that
carries them, and what a plan is made of. Numbers are exact. Where cards are placed is
left out, and the ids a plan draws are given to it.
-/

namespace HomelabBuilder.Planner

open Gaming (Instance Profile Circuit)

/-! ## The catalog -/

/-- What the catalog says of a game; no limit of players is a limit of zero. -/
structure GameProfile extends Profile where
  maxPlayers : Int := 0

structure CatalogService where
  id : String
  name : String
  game : Option GameProfile := none

/-- The catalog entry of a game or gaming tool by its profile slug. -/
def gameService (services : List CatalogService) (slug : String) : Option CatalogService :=
  services.find? fun service => service.game.any fun game => game.slug = slug

/-! ## Plans -/

structure PlannedVM where
  id : String
  name : String
  type : String := "container"
  status : String := "running"
  cpuCores : Rat
  ramMB : Int
  serviceID : String
  serviceName : String
  game : Instance

structure PlannedNode where
  id : String
  type : String
  name : String
  ip : String := ""
  powerDraw : Rat := 0
  details : List (String × Json)
  vms : List PlannedVM := []

structure PlannedEdge where
  source : String
  sourceHandle : String
  target : String
  targetHandle : String
  type : String
  speed : String
  direction : String
  wirelessStandard : String := ""

structure PlannedUplink where
  downMbps : Rat
  upMbps : Rat
  cgnat : String

structure GamingPlan where
  uplink : PlannedUplink
  mainsVoltage : Rat
  circuits : List Circuit
  hours : Rat

structure Plan where
  name : String
  kind : String
  gamingPlan : GamingPlan
  nodes : List PlannedNode
  edges : List PlannedEdge

structure Ids where
  server : Nat → String
  modem : String
  router : String
  core : String
  table : Nat → String
  accessPoint : String
  console : Nat → String
  host : String

/-! ## Servers -/

/-- A game server as a container, sized for its players. -/
def gameServerVM (id : String) (service : CatalogService) (profile : GameProfile)
    (players : Option Int) (exposure : String) (portOffset : Int) : PlannedVM :=
  let game : Instance :=
    { profile := profile.slug
      players := profile.playersOrDefault (players.getD 0)
      exposure := exposure
      portOffset := portOffset }
  { id := id
    name := service.name
    cpuCores := profile.cpuCores game.players
    ramMB := profile.ramMB game.players
    serviceID := service.id
    serviceName := service.name
    game := game }

/-- The next offset of a game, and the table with it. -/
def nextPortOffset (used : List (String × Int)) (slug : String) : Int × List (String × Int) :=
  let offset := (used.lookup slug).getD 0
  (offset, Table.set used slug (offset + 1))

/-! ## The host -/

def ramSizesGB : List Rat := [8, 16, 32, 64, 128, 256]

def coreSizes : List Rat := [4, 8, 16, 32, 64]

def atLeast (sizes : List Rat) (needed : Rat) : Rat :=
  ((sizes.find? fun size => needed ≤ size).or sizes.getLast?).getD 0

/-- A host with a quarter of headroom over what its servers need. Up to 32 GB it is a mini
PC; beyond that a server. -/
def gameHost (id name : String) (vms : List PlannedVM) : PlannedNode :=
  let ramMB : Rat := (vms.map PlannedVM.ramMB).sum
  let cores := (vms.map PlannedVM.cpuCores).sum
  -- leave room for the system even when nothing is planned yet
  let ram := atLeast ramSizesGB (max 8 (ramMB / 1024 * 1.25 + 2))
  let cpu := atLeast coreSizes (max 4 (cores * 1.25))
  let isServer := 32 < ram ∨ 8 < cpu
  { id := id
    type := if isServer then "server_v2" else "minipc"
    name := name
    powerDraw := if isServer then 150 else 35
    details :=
      [("cpu", .num cpu), ("ram", .num ram), ("storage", .num (max 256 (vms.length * 100)))] ++
      (if isServer then [("ports", .num 2)] else []) ++
      [("app_host_enabled", .bool true), ("planner_role", .str "game-host")]
    vms := vms }

/-! ## What the report reads -/

def PlannedNode.toDTO (node : PlannedNode) : Services.NodeDTO where
  id := node.id
  type := node.type
  name := node.name
  ip := node.ip
  powerDraw := node.powerDraw
  details := node.details

def PlannedVM.reportGuest (vm : PlannedVM) : Gaming.ReportGuest where
  id := vm.id
  name := vm.name
  type := vm.type
  ip := ""
  game := some vm.game

def PlannedNode.reportNode (node : PlannedNode) : Gaming.ReportNode :=
  { Services.reportNode node.toDTO with guests := node.vms.map PlannedVM.reportGuest }

def PlannedEdge.reportLink (edge : PlannedEdge) : Gaming.ReportLink where
  a := edge.source
  b := edge.target
  kind := if edge.type = Wiring.edgeTypePower then Gaming.linkPower
    else if edge.type = "" then "ethernet" else edge.type

/-- What the gaming report of the new build is computed from. -/
def Plan.reportInput (plan : Plan) : Gaming.ReportInput where
  nodes := plan.nodes.map PlannedNode.reportNode
  links := plan.edges.map PlannedEdge.reportLink

/-- The profiles the report knows are those of the catalog. -/
def profileBySlug (services : List CatalogService) (slug : String) : Option Profile :=
  (gameService services slug).bind fun service => service.game.map GameProfile.toProfile

end HomelabBuilder.Planner

/-! # A game server for friends

`planner/game-server-plan.ts`.
-/

namespace HomelabBuilder.Planner

open Gaming (Profile)

inductive GameServerLocation
  | home
  | vps
  deriving DecidableEq

structure ChosenGame where
  slug : String
  players : Int

structure GameServerAnswers where
  name : String
  games : List ChosenGame
  location : GameServerLocation
  exposure : String
  downMbps : Rat := 0
  upMbps : Rat := 0
  cgnat : String := ""
  voice : Bool

def maxPlannedGames : Nat := 8

/-- The servers of the chosen games that the catalog has. -/
def chosenServers (ids : Ids) (services : List CatalogService) (exposure : String) :
    List (String × Int) → Nat → List ChosenGame → List PlannedVM
  | _, _, [] => []
  | used, count, game :: rest =>
      match gameService services game.slug with
      | some service =>
          match service.game with
          | some profile =>
              let (offset, used) := nextPortOffset used game.slug
              gameServerVM (ids.server count) service profile (some game.players) exposure offset ::
                chosenServers ids services exposure used (count + 1) rest
          | none => chosenServers ids services exposure used count rest
      | none => chosenServers ids services exposure used count rest

def voiceServer (ids : Ids) (services : List CatalogService) (exposure : String)
    (answers : GameServerAnswers) : List PlannedVM :=
  if answers.voice then
    match gameService services "mumble" with
    | some service =>
        match service.game with
        | some profile =>
            let players := (answers.games.map ChosenGame.players).foldl max 0
            [gameServerVM (ids.server maxPlannedGames) service profile
              (if players = 0 then none else some players) exposure 0]
        | none => []
    | none => []
  else []

def plannedExposure (answers : GameServerAnswers) : String :=
  if answers.location = .vps then "port_forward" else answers.exposure

def plannedServers (ids : Ids) (answers : GameServerAnswers) (services : List CatalogService) :
    List PlannedVM :=
  chosenServers ids services (plannedExposure answers) [] 0 (answers.games.take maxPlannedGames) ++
    voiceServer ids services (plannedExposure answers) answers

def homeRouter (ids : Ids) : PlannedNode where
  id := ids.router
  type := "router"
  name := "Home Router"
  ip := "192.168.1.1"
  powerDraw := 12
  details :=
    [("ports", .num 4), ("dhcp_enabled", .bool true), ("subnet_mask", .str "255.255.255.0"),
      ("network_zone", .str "lan"), ("planner_role", .str "gateway")]

def homeModem (ids : Ids) : PlannedNode where
  id := ids.modem
  type := "modem"
  name := "Internet"
  powerDraw := 8
  details := [("ports", .num 2), ("network_zone", .str "wan"), ("planner_role", .str "internet")]

def plannedHost (ids : Ids) (answers : GameServerAnswers) (services : List CatalogService) :
    PlannedNode :=
  let vms := plannedServers ids answers services
  if answers.location = .vps then
    let host := gameHost ids.host "Game VPS" vms
    { host with
      type := "vps"
      powerDraw := 0
      details := Table.set (Table.set (Table.set host.details "ports" (.num 2))
        "provider" (.str "Choose a provider")) "network_zone" (.str "cloud") }
  else gameHost ids.host "Game Host" vms

def buildGameServerPlan (ids : Ids) (answers : GameServerAnswers)
    (services : List CatalogService) : Plan where
  name := if trimSpace answers.name = "" then "Game Server" else trimSpace answers.name
  kind := "game_server"
  gamingPlan :=
    { uplink :=
        { downMbps := max 0 answers.downMbps, upMbps := max 0 answers.upMbps, cgnat := answers.cgnat }
      mainsVoltage := 0
      circuits := []
      hours := 0 }
  nodes := [homeModem ids, homeRouter ids, plannedHost ids answers services]
  edges :=
    [{ source := ids.modem
       sourceHandle := "eth0"
       target := ids.router
       targetHandle := "target-0"
       type := "ethernet"
       speed := "1 GbE"
       direction := "wan" },
      -- a VPS is managed from home over a tunnel; players go straight to it
      { source := ids.router
        sourceHandle := "eth0"
        target := ids.host
        targetHandle := "target-0"
        type := if answers.location = .vps then "vpn" else "ethernet"
        speed := "1 GbE"
        direction := if answers.location = .vps then "auto" else "lan" }]

end HomelabBuilder.Planner
