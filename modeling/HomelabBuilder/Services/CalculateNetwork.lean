import HomelabBuilder.Ipam.Allocator
import HomelabBuilder.Services.PlanIPAM

/-! # Writing addresses back

`CalculateNetwork` of `ip_service.go`: the topology is planned, the allocator
answers, and the answer is written into the rows. The transaction leaves no
trace of a run that fails.
-/

namespace HomelabBuilder.Services

/-! ## Lookups in the answer -/

def ipByID (result : Ipam.AllocateResponse) (id : String) : Option String :=
  (result.nodes.reverse.find? fun node => node.id = id && node.assignedIP ≠ "").map (·.assignedIP)

def vmIPByID (result : Ipam.AllocateResponse) (id : String) : Option String :=
  ((result.nodes.flatMap (·.vms)).reverse.find? fun vm => vm.id = id && vm.assignedIP ≠ "").map
    (·.assignedIP)

/-- The `dhcp_pool` entry of a gateway, none when it hands out no leases and no
device expects one. -/
def dhcpPoolOf (pool : Ipam.RouterResult) : Option Json :=
  if pool.dhcpStart = "" ∧ pool.dhcpClients = 0 then none
  else some (.obj
    [ ("start", .str pool.dhcpStart),
      ("end", .str pool.dhcpEnd),
      ("size", .num pool.dhcpSize),
      ("clients", .num pool.dhcpClients) ])

/-- Sets one member of details that are an object, or drops a stale one. Other
details are left alone. -/
def withEntry (details : Json) (key : String) (entry : Option Json) : Json :=
  match details with
  | .obj members =>
      match entry with
      | some value => .obj (Table.set members key value)
      | none => .obj (Table.erase members key)
  | other => other

def withDHCPPool (details : Json) (pool : Option Ipam.RouterResult) : Json :=
  withEntry details "dhcp_pool" (pool.bind dhcpPoolOf)

def withPortNetworks (details : Json) (networks : List (String × Json)) : Json :=
  withEntry details "port_networks" (if networks = [] then none else some (.obj networks))

namespace Lookups

variable (plan : Lookups) (result : Ipam.AllocateResponse)

/-- The answered routers that are not the gateway of a port. -/
def nodeRouters : List Ipam.RouterResult :=
  result.routers.filter fun router => (plan.portByRouterID router.id).isNone

def routerIPByID (id : String) : Option String :=
  ((plan.nodeRouters result).reverse.find? fun router =>
    router.id = id && router.gatewayIP ≠ "").map (·.gatewayIP)

def natLANByNodeID (id : String) : Option Ipam.RouterResult :=
  (plan.nodeRouters result).reverse.find? fun router => plan.natNodeByRouterID router.id = some id

def poolByNodeID (id : String) : Option Ipam.RouterResult :=
  (plan.nodeRouters result).reverse.find? fun router =>
    (plan.natNodeByRouterID router.id).getD router.id = id

def portNetwork (router : Ipam.RouterResult) : Json :=
  .obj ([("ip", .str router.gatewayIP), ("subnet", .str router.subnet)] ++
    (dhcpPoolOf router).toList.map fun pool => ("dhcp_pool", pool))

def portNetworks (id : String) : List (String × Json) :=
  result.routers.foldl (fun networks router =>
    match plan.portByRouterID router.id with
    | some (nodeID, handle) =>
        if nodeID = id then Table.set networks handle (portNetwork router) else networks
    | none => networks) []

/-! ## One row -/

def storedIP (node : Node) : String :=
  let assigned :=
    match ipByID result node.id.text with
    | some ip => ip
    | none =>
        if node.type ∉ nonNetworkTypes ∧ plan.realGateway node.id.text = false ∧
            (plan.detailsByID node.id.text).dhcpLocked = false then ""
        else node.ip
  (plan.routerIPByID result node.id.text).getD assigned

/-- Interfaces other than those of the boundary itself. -/
def otherInterfaces (details : List (String × Json)) : List Json :=
  (((details.lookup "interfaces").bind Json.asArray).getD []).filter fun item =>
    match item with
    | .obj iface =>
        let role := ((iface.lookup "role").bind Json.asString).getD ""
        role ≠ "wan" && role ≠ "lan"
    | _ => false

def boundaryInterfaces (ip : String) (lan : Ipam.RouterResult) (dhcpEnabled : Bool) : List Json :=
  [ .obj [("name", .str "WAN"), ("role", .str "wan"), ("ip", .str ip)],
    .obj
      [ ("name", .str "LAN"),
        ("role", .str "lan"),
        ("ip", .str lan.gatewayIP),
        ("subnet", .str lan.subnet),
        ("dhcp_enabled", .bool dhcpEnabled) ] ]

/-- What a NAT gateway knows about its two sides. -/
def natDetails (node : Node) (ip : String) : Json :=
  let details := node.details.members
  match plan.natLANByNodeID result node.id.text with
  | some lan =>
      if lan.gatewayIP ≠ "" then
        let settings := plan.detailsByID node.id.text
        let withWAN := Table.set details "wan_ip" (.str ip)
        let withGateway := Table.set withWAN "lan_gateway_ip" (.str lan.gatewayIP)
        let withSubnet := Table.set withGateway "lan_subnet" (.str lan.subnet)
        .obj (Table.set withSubnet "interfaces" (.arr (otherInterfaces details ++
          boundaryInterfaces ip lan (settings.dhcpEnabled || settings.natEnabled))))
      else .obj (eraseBoundary details)
  | none => .obj (eraseBoundary details)
where
  eraseBoundary (details : List (String × Json)) : List (String × Json) :=
    Table.erase (Table.erase (Table.erase (Table.erase details "wan_ip") "lan_gateway_ip")
      "lan_subnet") "interfaces"

def storedDetails (node : Node) : Json :=
  let details :=
    if (plan.natGatewayID node.id.text).isSome ∨ node.type = "server_v2" ∨ node.type = "vps" then
      plan.natDetails result node (plan.storedIP result node)
    else node.details
  let withPool := withDHCPPool details (plan.poolByNodeID result node.id.text)
  if node.type = "router" ∨ node.type = "firewall" then
    withPortNetworks withPool (plan.portNetworks result node.id.text)
  else withPool

def storedVM (vm : VirtualMachine) : VirtualMachine :=
  { vm with ip := (vmIPByID result vm.id.text).getD "" }

def storedNode (node : Node) : Node :=
  { node with
    ip := plan.storedIP result node
    details := plan.storedDetails result node
    virtualMachines := node.virtualMachines.map (storedVM result) }

/-- A connected guest that did not get the address its owner asks for. -/
def refused (node : Node) (network : VirtualNetwork) (vm : VirtualMachine) : Bool :=
  vm.id.text ∈ network.reachable && node.ip ≠ "" && requestedVMIP vm ≠ "" &&
    vm.ip ≠ requestedVMIP vm

def saveNode (node : Node) : Except String Node :=
  let stored := plan.storedNode result node
  match readVirtualNetwork stored.details with
  | none => .ok stored
  | some network =>
      match stored.virtualMachines.find? (refused stored network) with
      | some vm =>
          .error s!"invalid topology: requested IP {requestedVMIP vm} for {vm.name} is unavailable or outside the host subnet"
      | none => .ok stored

end Lookups

/-- `CalculateNetwork` on the rows of a build, with hlbIPAM at the other end. -/
def calculateNetwork (sorting : SliceSort) (nodes : List Node) (edges : List Edge) :
    Except String (List Node) :=
  if nodes.isEmpty then .ok []
  else
    let plan : Lookups := { sorting := sorting, nodes := nodes }
    let result := Ipam.allocate (planIPAM sorting nodes edges)
    nodes.mapM (plan.saveNode result)

end HomelabBuilder.Services
