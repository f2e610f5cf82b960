import HomelabBuilder.Foundation.Table
import HomelabBuilder.Gaming.Compose

/-! # The gaming report

`report.go` and `report_servers.go` as far as ports are concerned: which servers
listen where, the forwards a router needs, and the conflicts that are found. What
is said about sizes, addresses to type, the internet line and parties is left out.
-/

namespace HomelabBuilder.Gaming

def exposurePortForward : String := "port_forward"
def severityError : String := "error"
def severityWarning : String := "warning"
def severityInfo : String := "info"
def linkPower : String := "power"
def linkVPN : String := "vpn"

structure ReportGuest where
  id : String
  name : String
  type : String
  ip : String
  game : Option Instance

structure ReportNode where
  id : String
  name : String
  type : String
  ip : String
  isRouter : Bool
  isNATGateway : Bool
  isInternetEdge : Bool
  guests : List ReportGuest

structure ReportLink where
  a : String
  b : String
  kind : String

structure ReportInput where
  nodes : List ReportNode
  links : List ReportLink

structure Issue where
  code : String
  severity : String
  nodeID : String
  vmID : String
  message : String
  fix : String := ""

/-- A rule to add on a router. Hop 1 faces the internet. -/
structure PortForward where
  routerID : String
  routerName : String
  vmID : String
  server : String
  portName : String
  proto : Proto
  externalPort : Int
  targetIP : String
  targetPort : Int
  hop : Nat

structure Report where
  portForwards : List PortForward := []
  issues : List Issue := []

def Report.lists (report : Report) (code : String) : Prop := ∃ issue ∈ report.issues, issue.code = code

/-! ## Paths -/

namespace ReportInput

variable (input : ReportInput)

/-- A later node of one id takes the place of the earlier one. -/
def node (id : String) : Option ReportNode := input.nodes.reverse.find? fun node => node.id = id

/-- Power feeds and VPN overlays are not a path. -/
def paths : List ReportLink :=
  input.links.filter fun link => link.kind ≠ linkPower && link.kind ≠ linkVPN

def neighbors (id : String) : List String :=
  (input.paths.flatMap fun link =>
    (if link.a = id then [link.b] else []) ++ if link.b = id then [link.a] else [])
    |>.insertionSort (· ≤ ·)

/-- A node met during the search, and the one it was met from. -/
def meet (current : String) (search : List (String × String) × List String) (next : String) :
    List (String × String) × List String :=
  if (search.1.lookup next).isSome then search
  else (search.1 ++ [(next, current)], search.2 ++ [next])

def searchPath (found : ReportNode → Bool) (start : String) :
    Nat → List (String × String) → List String → Option (List (String × String) × String)
  | 0, _, _ => none
  | _, _, [] => none
  | rounds + 1, previous, current :: queue =>
      if current ≠ start && (input.node current).any found then some (previous, current)
      else
        let (previous, queue) := (input.neighbors current).foldl (meet current) (previous, queue)
        searchPath found start rounds previous queue

/-- The way back from a node; no node is before the first. -/
def wayBack (previous : List (String × String)) : Nat → String → List String
  | 0, _ => []
  | steps + 1, id =>
      if id = "" then [] else id :: wayBack previous steps ((previous.lookup id).getD "")

/-- The shortest way to the nearest node that matches, both ends included. -/
def pathTo (start : String) (found : ReportNode → Bool) : Option (List String) := do
  let (previous, last) ← input.searchPath found start (2 * input.paths.length + 2) [(start, "")]
    [start]
  some (wayBack previous previous.length last).reverse

end ReportInput

/-- What stands between a host and the internet; the routers from the outermost
one inwards. -/
inductive NATChain
  | unreachable
  | direct
  | through (edge : ReportNode) (inner : List ReportNode)

def ReportInput.natChain (input : ReportInput) (hostID : String) : NATChain :=
  match input.node hostID with
  | none => .unreachable
  | some host =>
      if host.isInternetEdge then .direct
      else
        -- Where no modem or public address is drawn, the first router is the edge.
        match (input.pathTo hostID ReportNode.isInternetEdge).or
            (input.pathTo hostID ReportNode.isRouter) with
        | none => .unreachable
        | some path =>
            match (path.drop 1).reverse.filterMap fun id =>
                (input.node id).filter fun node => node.isRouter || node.isNATGateway with
            | [] => .direct
            | edge :: inner => .through edge inner

/-! ## Servers -/

/-- A port that is taken: on a host or on a router. -/
structure PortKey where
  id : String
  proto : Proto
  port : Int
  deriving DecidableEq

def portKey (id : String) (port : ResolvedPort) : PortKey := ⟨id, port.proto, port.port⟩

/-- The report while the servers are checked, and who listens where. -/
structure ServerCheck where
  hostPorts : List (PortKey × String) := []
  forwardKeys : List (PortKey × String) := []
  report : Report := {}

namespace ServerCheck

def add (check : ServerCheck) (issue : Issue) : ServerCheck :=
  { check with report := { check.report with issues := check.report.issues ++ [issue] } }

def other (keys : List (PortKey × String)) (key : PortKey) (name : String) : Option String :=
  (keys.lookup key).filter (· ≠ name)

end ServerCheck

section

variable (host : ReportNode) (guest : ReportGuest)

def hostPortConflict (other : String) (port : ResolvedPort) : Issue where
  code := "host_port_conflict"
  severity := severityError
  nodeID := host.id
  vmID := guest.id
  message := other ++ " and " ++ guest.name ++ " both listen on " ++ toString port.port ++ "/" ++
    port.proto.text ++ " on " ++ host.name ++ "."
  fix := "Give one of them a port offset."

/-- The ports of a container are ports of its host. -/
def listenOnHost : List ResolvedPort → ServerCheck → ServerCheck
  | [], check => check
  | port :: rest, check =>
      match ServerCheck.other check.hostPorts (portKey host.id port) guest.name with
      | some other => check.add (hostPortConflict host guest other port)
      | none =>
          listenOnHost rest
            { check with hostPorts := Table.set check.hostPorts (portKey host.id port) guest.name }

def portConflict (edge : ReportNode) (other : String) (port : ResolvedPort) : Issue where
  code := "port_conflict"
  severity := severityError
  nodeID := host.id
  vmID := guest.id
  message := other ++ " and " ++ guest.name ++ " both need " ++ toString port.port ++ "/" ++
    port.proto.text ++ " forwarded on " ++ edge.name ++
    "; a router can send a port to one server only."
  fix := "Give one of them a port offset."

/-- The rules for one port, one on every router of the chain. -/
def forwardsOf (chain : List ReportNode) (targetIP : String) (port : ResolvedPort) :
    List PortForward :=
  chain.zipIdx.map fun (router, hop) =>
    { routerID := router.id
      routerName := router.name
      vmID := guest.id
      server := guest.name
      portName := port.name
      proto := port.proto
      externalPort := port.port
      targetIP := ((chain[hop + 1]?).map ReportNode.ip).getD targetIP
      targetPort := port.port
      hop := hop + 1 }

def forwardPort (edge : ReportNode) (inner : List ReportNode) (targetIP : String)
    (check : ServerCheck) (port : ResolvedPort) : ServerCheck :=
  let key := portKey edge.id port
  let noted :=
    match ServerCheck.other check.forwardKeys key guest.name with
    | some other => check.add (portConflict host guest edge other port)
    | none => check
  { noted with
    forwardKeys := Table.set noted.forwardKeys key guest.name
    report := { noted.report with
      portForwards :=
        noted.report.portForwards ++ forwardsOf guest (edge :: inner) targetIP port } }

def noWANPath : Issue where
  code := "no_wan_path"
  severity := severityError
  nodeID := host.id
  vmID := guest.id
  message := guest.name ++ " is set to port forwarding, but " ++ host.name ++
    " is not connected to a router."
  fix := "Connect the host to your router, directly or through a switch."

def publicHostDirect : Issue where
  code := "public_host_direct"
  severity := severityInfo
  nodeID := host.id
  vmID := guest.id
  message := guest.name ++ " runs on a host with a public address: no port forward is needed."
  fix := "Open the listed ports in the host's firewall."

def serverNoAddress : Issue where
  code := "server_no_address"
  severity := severityWarning
  nodeID := host.id
  vmID := guest.id
  message := guest.name ++ " has no address yet, so the port forward has no target."
  fix := "Save the build so addresses are assigned."

def doubleNAT (chain : List ReportNode) : Issue where
  code := "double_nat"
  severity := severityWarning
  nodeID := host.id
  vmID := guest.id
  message := guest.name ++ " sits behind " ++ toString chain.length ++ " address translations (" ++
    String.intercalate ", " (chain.map ReportNode.name) ++ "); every one of them needs the forward."
  fix := "Put the inner router in bridge or access point mode, or move the host to the outer network."

def forwardServer (chain : NATChain) (targetIP : String) (ports : List ResolvedPort)
    (check : ServerCheck) : ServerCheck :=
  match chain with
  | .unreachable => check.add (noWANPath host guest)
  | .direct => check.add (publicHostDirect host guest)
  | .through edge inner =>
      let addressed := if targetIP = "" then check.add (serverNoAddress host guest) else check
      let forwarded := (ports.filter fun port => port.forward).foldl
        (forwardPort host guest edge inner targetIP) addressed
      if inner.isEmpty then forwarded else forwarded.add (doubleNAT host guest (edge :: inner))

def gameSettingsInvalid (message : String) : Issue where
  code := "game_settings_invalid"
  severity := severityError
  nodeID := host.id
  vmID := guest.id
  message := guest.name ++ " on " ++ host.name ++ ": " ++ message ++ "."
  fix := "Open the service and pick the game again."

end

section

variable (profileBySlug : String → Option Profile) (input : ReportInput)

/-- A container publishes its ports on the host; any other guest has its own address. -/
def targetIPOf (host : ReportNode) (guest : ReportGuest) : String :=
  if guest.type = "container" ∨ guest.ip = "" then host.ip else guest.ip

def checkServer (check : ServerCheck) (placed : ReportNode × ReportGuest) : ServerCheck :=
  let (host, guest) := placed
  match guest.game with
  | none => check
  | some game =>
      match game.normalize profileBySlug with
      | .error message => check.add (gameSettingsInvalid host guest message)
      | .ok (game, profile) =>
          let ports := profile.resolvePorts game.portOffset
          let listening :=
            if guest.type = "container" then listenOnHost host guest ports check else check
          if game.exposure = exposurePortForward then
            forwardServer host guest (input.natChain host.id) (targetIPOf host guest) ports listening
          else listening

/-- Every guest with its host, in the order they are checked. -/
def ReportInput.placed : List (ReportNode × ReportGuest) :=
  input.nodes.flatMap fun host => host.guests.map (host, ·)

def checkServers : ServerCheck := input.placed.foldl (checkServer profileBySlug input) {}

def computeReport : Report := (checkServers profileBySlug input).report

end

end HomelabBuilder.Gaming
