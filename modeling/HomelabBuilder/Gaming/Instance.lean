import HomelabBuilder.Gaming.Plan

/-! # Game servers

How one game server on the canvas is configured, `instance.go` and `sizing.go`.
-/

namespace HomelabBuilder.Gaming

open Json (decodeField decodeStruct)

inductive Proto
  | tcp
  | udp
  deriving DecidableEq

def Proto.text : Proto → String
  | .tcp => "tcp"
  | .udp => "udp"

/-- A port a server listens on. A server with a variable for it tells its players
which port to use. -/
structure PortSpec where
  name : String
  port : Int
  proto : Proto
  forward : Bool
  env : String := ""
  deriving DecidableEq

/-- What the registry says about one game as far as a server's settings, size,
ports and container depend on it. -/
structure Profile where
  slug : String
  name : String
  defaultPlayers : Int
  baseRAMMB : Int
  ramMBPerPlayer : Int
  baseCPUCores : Rat
  cpuCoresPerPlayer : Rat
  ports : List PortSpec
  image : String := ""
  notes : String := ""

structure Instance where
  profile : String := ""
  players : Int := 0
  exposure : String := ""
  portOffset : Int := 0
  deriving DecidableEq

def maxInstancePlayers : Int := 1000
def maxPortOffset : Int := 1000
def instanceKey : String := "game"
def exposureLAN : String := "lan"
def exposures : List String := [exposureLAN, "port_forward", "vpn", "relay"]

def decodeInstance (members : List (String × Json)) : Option Instance := do
  let profile ← decodeField Json.asString members "profile" ""
  let players ← decodeField asInt members "players" 0
  let exposure ← decodeField Json.asString members "exposure" ""
  let portOffset ← decodeField asInt members "port_offset" 0
  some ⟨profile, players, exposure, portOffset⟩

/-- `ParseInstance`: nothing for a guest that is no game server. -/
def parseInstance : Option Json → Except String (Option Instance)
  | none => .ok none
  | some .null => .ok none
  | some value =>
      match decodeStruct decodeInstance value with
      | some server => .ok (some server)
      | none =>
          .error "game settings must be an object with profile, players, exposure and port_offset"

namespace Profile

def playersOrDefault (profile : Profile) (players : Int) : Int :=
  if 0 < players then players
  else if 0 < profile.defaultPlayers then profile.defaultPlayers
  else 1

/-- The largest port offset that pushes no port past 65535. -/
def maxOffset (profile : Profile) : Int :=
  profile.ports.foldl (fun limit spec => min limit (65535 - spec.port)) maxPortOffset

/-- Cores for so many players, in steps of half a core. -/
def cpuCores (profile : Profile) (players : Int) : Rat :=
  let cpu := profile.baseCPUCores + profile.cpuCoresPerPlayer * profile.playersOrDefault players
  max (1 / 2) ((cpu * 2).ceil / 2)

/-- Memory for so many players, in steps of 512 MB. -/
def ramMB (profile : Profile) (players : Int) : Int :=
  let ram := profile.baseRAMMB + profile.ramMBPerPlayer * profile.playersOrDefault players
  max 512 ((ram / 512 : Rat).ceil * 512)

end Profile

/-! ## Ports -/

/-- A port of a profile with the offset of a server. -/
structure ResolvedPort extends PortSpec where
  base : Int
  deriving DecidableEq

namespace Profile

def announcesPorts (profile : Profile) : Bool := profile.ports.any fun spec => spec.env ≠ ""

def resolvePorts (profile : Profile) (offset : Int) : List ResolvedPort :=
  profile.ports.map fun spec => { spec with port := spec.port + offset, base := spec.port }

end Profile

/-- `Normalize`: checks a server against its game and fills in what was left out. -/
def Instance.normalize (profileBySlug : String → Option Profile) (server : Instance) :
    Except String (Instance × Profile) :=
  match profileBySlug server.profile with
  | none => .error ("unknown game profile " ++ quoted server.profile)
  | some profile =>
      let exposure := if server.exposure = "" then exposureLAN else server.exposure
      if server.players < 0 ∨ maxInstancePlayers < server.players then
        .error "players must be between 1 and 1000"
      else if exposure ∉ exposures then
        .error "exposure must be one of lan, port_forward, vpn or relay"
      else if server.portOffset < 0 ∨ profile.maxOffset < server.portOffset then
        .error ("port_offset for " ++ profile.name ++ " must be between 0 and " ++
          toString profile.maxOffset)
      else
        .ok ({ server with
          players := profile.playersOrDefault server.players
          exposure := exposure }, profile)

def Instance.details (server : Instance) : Json :=
  .obj [("profile", .str server.profile), ("players", .num server.players),
    ("exposure", .str server.exposure), ("port_offset", .num server.portOffset)]

end HomelabBuilder.Gaming
