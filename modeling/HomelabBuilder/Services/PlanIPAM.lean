import HomelabBuilder.Services.VirtualNetwork

/-! # The allocation request of a topology

`planIPAM` of `ip_service.go`: which routers, nodes and connections a stored
topology is to the allocator.
-/

namespace HomelabBuilder.Services

open Net

/-! ## Details -/

/-- The node settings that shape address allocation. -/
structure NetworkDetails where
  dhcpEnabled : Bool := false
  dhcpLocked : Bool := false
  subnetMask : String := ""
  natEnabled : Bool := false
  routingEnabled : Bool := false
  networkZone : String := ""
  publicIP : String := ""
  lanGatewayIP : String := ""
  lanSubnet : String := ""
  deriving DecidableEq

def readNetworkDetails (details : Json) : NetworkDetails :=
  let text name := (Json.field Json.asString details.members name).getD ""
  let flag name := (Json.field Json.asBool details.members name).getD false
  { dhcpEnabled := flag "dhcp_enabled"
    dhcpLocked := flag "dhcp_locked"
    subnetMask := text "subnet_mask"
    natEnabled := flag "nat_enabled"
    routingEnabled := flag "routing_enabled"
    networkZone := text "network_zone"
    publicIP := text "public_ip"
    lanGatewayIP := text "lan_gateway_ip"
    lanSubnet := text "lan_subnet" }

def Node.network (node : Node) : NetworkDetails := readNetworkDetails node.details

/-- `math.Round`: halves are rounded away from zero. -/
def mathRound (value : Rat) : Int :=
  if 0 ≤ value then (value + 1 / 2).floor else (value - 1 / 2).ceil

/-- A whole number in details, whatever numeric type it has. -/
def detailInt (details : List (String × Json)) (key : String) : Option Int :=
  ((details.lookup key).bind Json.asNumber).map mathRound

def nodeTypeLANTable : String := "lan_table"

def defaultTableSeats : Int := 8

def tableSeats (details : List (String × Json)) : Int :=
  match detailInt details "seats" with
  | some seats => if 0 < seats then seats else defaultTableSeats
  | none => defaultTableSeats

/-- The leases a node asks for on behalf of devices that are not drawn. -/
def dhcpClientsOf (nodeType : String) (details : List (String × Json)) : Int :=
  if nodeType = nodeTypeLANTable then tableSeats details
  else if nodeType = "access_point" then
    match detailInt details "wifi_clients" with
    | some clients => if 0 < clients then clients else 0
    | none => 0
  else 0

def nodeDHCPClients (node : Node) : Int := dhcpClientsOf node.type node.details.members

def nonNetworkTypes : List String :=
  ["disk", "gpu", "cpu", "hba", "pcie", "pdu", "power_outlet", "ups", "rack", nodeTypeLANTable]

/-- The four bytes of a mask that can be laid over an IPv4 address: a four-byte
mask, or a sixteen-byte one that starts with twelve full bytes. -/
def maskTo4 (mask : Nat) : Option Nat :=
  if mask / 2 ^ 32 = 0xFFFF ∨ mask / 2 ^ 32 = 2 ^ 96 - 1 then some (mask % 2 ^ 32) else none

/-- `ipInGatewaySubnet`: the mask is dotted or a prefix length, /24 when empty. -/
def ipInGatewaySubnet (ipValue gatewayValue maskValue : String) : Bool :=
  match parseIPTo4 ipValue, parseIPTo4 gatewayValue with
  | some ip, some gateway =>
      let maskValue := if maskValue = "" then "255.255.255.0" else maskValue
      let mask :=
        if '.' ∈ maskValue.toList then parseIPTo4 maskValue
        else (netParseCIDR (gatewayValue ++ "/" ++ maskValue)).bind fun subnet => maskTo4 subnet.2
      match mask with
      | some mask => gateway &&& mask = ip &&& mask
      | none => false
  | _, _ => false

/-! ## Gateways -/

def Node.isNATCapable (node : Node) : Bool :=
  (node.type = "server_v2" || node.type = "vps" || node.type = "firewall") &&
    (node.network.natEnabled || (node.network.routingEnabled && node.network.dhcpEnabled))

/-- A router or firewall port that serves its own subnet. -/
structure PortGateway where
  routerID : String
  handle : String
  ip : String
  subnet : String
  dhcp : Bool
  deriving DecidableEq

/-- The digits of a handle read as one number, zero without any. What does not
fit an `int` becomes the largest one. -/
def handleNumber (handle : String) : Nat :=
  let index := (handle.toList.filter Char.isDigit).foldl
    (fun value char => value * 10 + (char.toNat - '0'.toNat)) 0
  min index (2 ^ 63 - 1)

/-- The uplink comes first, then the ports by number. -/
def handleBefore (left right : String) : Bool :=
  if decide (left = "target-0") ≠ decide (right = "target-0") then left = "target-0"
  else handleNumber left < handleNumber right

/-- The text before a slash, the whole text without one. -/
def beforeSlash (text : String) : String :=
  match cut '/' text.toList with
  | some (before, _) => String.ofList before
  | none => text

/-- A LAN or DMZ port that carries an address is a gateway. -/
def portGateway (node : Node) (handle : String) (settings : Wiring.PortSettings) :
    Option PortGateway :=
  let role := if settings.role = "" then Wiring.defaultRole handle else settings.role
  if (role ≠ "lan" ∧ role ≠ "dmz") ∨ Wiring.isIPv4CIDR settings.address = false then none
  else some
    { routerID := node.id.text ++ ":" ++ handle
      handle := handle
      ip := beforeSlash settings.address
      subnet := settings.address
      dhcp := settings.dhcp }

def portGateways (sorting : SliceSort) (node : Node) : List PortGateway :=
  if node.type ≠ "router" ∧ node.type ≠ "firewall" then []
  else
    let config := Wiring.readPortConfig node.details.members
    (sorting.sort handleBefore (config.map (·.1))).filterMap fun handle =>
      portGateway node handle ((config.lookup handle).getD {})

/-- The lookups `planIPAM` builds from the nodes before it turns to the cables.
A repeated id stands for its last node. -/
structure Lookups where
  sorting : SliceSort
  nodes : List Node

namespace Lookups

variable (plan : Lookups)

def nodeByID (id : String) : Option Node := plan.nodes.reverse.find? (·.id.text = id)

def detailsByID (id : String) : NetworkDetails :=
  ((plan.nodeByID id).map (·.network)).getD {}

def realGateway (id : String) : Bool := (plan.nodeByID id).any (·.type = "router")

def natGatewayID (id : String) : Option String :=
  if plan.nodes.any fun node => node.id.text = id && node.isNATCapable then some (id ++ ":lan")
  else none

def natNodeByRouterID (routerID : String) : Option String :=
  (plan.nodes.find? fun node => node.isNATCapable && node.id.text ++ ":lan" = routerID).map
    (·.id.text)

/-- The port gateways with the ids of their nodes, in request order. -/
def portRouters : List (String × PortGateway) :=
  plan.nodes.flatMap fun node =>
    (portGateways plan.sorting node).map fun gateway => (node.id.text, gateway)

def portRouterID (id handle : String) : Option String :=
  (plan.portRouters.find? fun entry => entry.1 = id && entry.2.handle = handle).map
    (·.2.routerID)

def portByRouterID (routerID : String) : Option (String × String) :=
  (plan.portRouters.reverse.find? fun entry => entry.2.routerID = routerID).map fun entry =>
    (entry.1, entry.2.handle)

def isUpstreamAnchor (id : String) : Bool :=
  (plan.nodeByID id).any fun node =>
    node.type = "router" || node.type = "modem" || (plan.detailsByID id).publicIP ≠ "" ||
      (plan.detailsByID id).networkZone = "wan" || (plan.detailsByID id).networkZone = "cloud"

/-! ## Cables -/

/-- One call of `addConnection`. -/
structure Connection where
  source : String
  target : String
  port : Nat
  deriving DecidableEq

def isAutoLANPort (handle : String) (isSourceEndpoint : Bool) : Bool :=
  if handle = "" then isSourceEndpoint else handle ≠ "target-0"

/-- Both directions of a cable, the source first. -/
def bothWays (source target : String) (sourcePort targetPort : Nat) : List Connection :=
  [⟨source, target, sourcePort⟩, ⟨target, source, targetPort⟩]

/-- A NAT boundary applies to a cable from a NAT gateway to another node if
its direction says so, or by default on a LAN port that does not lead upstream. -/
def isLANEdge (edge : Edge) (handle : String) (isSourceEndpoint : Bool) (other : String) : Bool :=
  let direction := if edge.direction = "" then "auto" else edge.direction
  direction = "lan" ||
    (direction = "auto" && isAutoLANPort handle isSourceEndpoint && !plan.isUpstreamAnchor other)

def edgeConnections (edge : Edge) : List Connection :=
  if edge.type = "vpn" || edge.type = Wiring.edgeTypePower then []
  else
    let src := edge.sourceNodeID.text
    let tgt := edge.targetNodeID.text
    let sourcePort := handleNumber edge.sourceHandle
    let targetPort := handleNumber edge.targetHandle
    let srcHandle := if edge.sourceHandle = "" then "eth0" else edge.sourceHandle
    let tgtHandle := if edge.targetHandle = "" then "target-0" else edge.targetHandle
    let srcPortRouter := plan.portRouterID src srcHandle
    let tgtPortRouter := plan.portRouterID tgt tgtHandle
    if srcPortRouter.isSome || tgtPortRouter.isSome then
      bothWays (srcPortRouter.getD src) (tgtPortRouter.getD tgt) sourcePort targetPort
    else
      match plan.natGatewayID src with
      | some natRouterID =>
          if plan.isLANEdge edge edge.sourceHandle true tgt then
            bothWays natRouterID tgt sourcePort targetPort
          else bothWays src tgt sourcePort targetPort
      | none =>
          match plan.natGatewayID tgt with
          | some natRouterID =>
              if plan.isLANEdge edge edge.targetHandle false src then
                bothWays natRouterID src targetPort sourcePort
              else bothWays src tgt sourcePort targetPort
          | none => bothWays src tgt sourcePort targetPort

def connections (edges : List Edge) : List Connection := edges.flatMap plan.edgeConnections

/-- `edgePorts[source][target]`. -/
def edgePort (connections : List Connection) (source target : String) : Nat :=
  ((connections.reverse.find? fun call => call.source = source && call.target = target).map
    (·.port)).getD 0

/-- `adj[id]`, sorted by the port on this node. -/
def neighbors (connections : List Connection) (id : String) : List String :=
  plan.sorting.sort
    (fun left right => edgePort connections id left < edgePort connections id right)
    ((connections.filter (·.source = id)).map (·.target))

/-! ## Routers -/

/-- `usedGatewayIPs` before any LAN is picked. -/
def usedGatewayIPs : List String :=
  (plan.nodes.flatMap fun node =>
    (if node.ip = "" then [] else [node.ip]) ++
      (if (plan.detailsByID node.id.text).lanGatewayIP = "" then []
        else [(plan.detailsByID node.id.text).lanGatewayIP])) ++
    plan.portRouters.map (·.2.ip)

/-- The gateways tried for a LAN behind a parent network, in order. -/
def lanCandidates (parent : Nat) : List String :=
  (List.range 254).map fun step =>
    let third := (parent / 2 ^ 8 % 256 + (step + 1)) % 255
    s!"{parent / 2 ^ 24 % 256}.{parent / 2 ^ 16 % 256}.{if third = 0 then 1 else third}.1"

/-- The gateway and subnet of a LAN, and the gateways used from then on. -/
def nextNATLAN (connections : List Connection) (used : List String) (id : String) :
    (String × String) × List String :=
  let details := plan.detailsByID id
  if details.lanGatewayIP ≠ "" then ((details.lanGatewayIP, details.lanSubnet), used)
  else
    let parents := ((plan.neighbors connections id).filter plan.realGateway).filterMap
      fun neighbor => parseIPTo4 (((plan.nodeByID neighbor).map (·.ip)).getD "")
    match (parents.flatMap lanCandidates).find? (· ∉ used) with
    | some gateway => ((gateway, gateway ++ "/24"), gateway :: used)
    | none => (("", ""), used)

def realRouters : List Ipam.RouterDTO :=
  (plan.nodes.filter fun node => plan.realGateway node.id.text).map fun node =>
    let details := plan.detailsByID node.id.text
    { id := node.id.text
      gatewayIP := node.ip
      subnet :=
        if node.ip ≠ "" ∧ details.subnetMask ≠ "" then node.ip ++ "/" ++ details.subnetMask
        else ""
      dhcpEnabled := details.dhcpEnabled }

/-- The LAN routers of the NAT-capable nodes, with the gateways used so far. -/
def natRouters (connections : List Connection) : List Node → List String → List Ipam.RouterDTO
  | [], _ => []
  | node :: rest, used =>
      match plan.natGatewayID node.id.text with
      | none => natRouters connections rest used
      | some natRouterID =>
          let details := plan.detailsByID node.id.text
          let lan := plan.nextNATLAN connections used node.id.text
          let lanSubnet :=
            if lan.1.2 = "" ∧ lan.1.1 ≠ "" then lan.1.1 ++ "/24" else lan.1.2
          { id := natRouterID
            gatewayIP := lan.1.1
            subnet := lanSubnet
            dhcpEnabled := details.dhcpEnabled || details.natEnabled } ::
          natRouters connections rest lan.2

def portRouterDTOs : List Ipam.RouterDTO :=
  plan.portRouters.map fun entry =>
    { id := entry.2.routerID
      gatewayIP := entry.2.ip
      subnet := entry.2.subnet
      dhcpEnabled := entry.2.dhcp }

/-! ## Nodes -/

/-- A locked address is kept, on a NAT gateway only if it belongs to the
network of a router it is connected to. -/
def preserveLocked (connections : List Connection) (node : Node) : Bool :=
  (plan.natGatewayID node.id.text).isNone ||
    (plan.neighbors connections node.id.text).any fun neighbor =>
      plan.realGateway neighbor &&
        ipInGatewaySubnet node.ip (((plan.nodeByID neighbor).map (·.ip)).getD "")
          (plan.detailsByID neighbor).subnetMask

/-- Gateways and locked static addresses are kept; devices that are not on the
network own no address. -/
def existingIP (connections : List Connection) (node : Node) : String :=
  if node.type ∈ nonNetworkTypes then ""
  else if plan.realGateway node.id.text then node.ip
  else if (plan.detailsByID node.id.text).dhcpLocked ∧ plan.preserveLocked connections node then
    node.ip
  else ""

def nodeDTO (connections : List Connection) (node : Node) : Ipam.NodeDTO where
  id := node.id.text
  type := node.type
  connections := plan.neighbors connections node.id.text
  existingIP := plan.existingIP connections node
  vms := virtualIPAMGuests plan.sorting node
  dhcpClients := nodeDHCPClients node

end Lookups

def planIPAM (sorting : SliceSort) (nodes : List Node) (edges : List Edge) :
    Ipam.AllocateRequest :=
  let plan : Lookups := { sorting := sorting, nodes := nodes }
  let connections := plan.connections edges
  { routers := plan.realRouters ++ plan.natRouters connections nodes plan.usedGatewayIPs ++
      plan.portRouterDTOs
    nodes := nodes.map (plan.nodeDTO connections) }

end HomelabBuilder.Services
