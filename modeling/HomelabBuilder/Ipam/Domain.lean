import Mathlib.Data.List.Sort
import HomelabBuilder.Ipam.Subnet

/-! # Routers and ownership

The first half of `Allocate`: routers are normalised, and every node is given
to the first router that reaches it. Go maps are association lists whose first
entry for a key is the current one.
-/

namespace HomelabBuilder.Ipam

open Net

/-- Go's `%q` for text without control characters. -/
def quoted (text : String) : String :=
  let escaped := text.toList.flatMap fun char =>
    if char = '"' ∨ char = '\\' then ['\\', char] else [char]
  String.ofList ('"' :: escaped ++ ['"'])

/-! ## Routers -/

/-- The allocation domain of a router: its network and mask. -/
abbrev DomainKey := Nat × Nat

structure NormalRouter where
  router : RouterDTO
  domain : DomainKey
  issues : List Issue
  deriving DecidableEq

def normalizeGateway (index : Nat) (router : RouterDTO) : RouterDTO × List Issue :=
  let defaultGateway := s!"192.168.{index + 1}.1"
  if router.gatewayIP = "" then ({ router with gatewayIP := defaultGateway }, [])
  else if isValidIPv4 router.gatewayIP then (router, [])
  else
    ({ router with gatewayIP := defaultGateway },
      [{ nodeID := router.id, message := s!"invalid gateway IPv4 address {quoted router.gatewayIP}; using {defaultGateway}" }])

/-- A gateway is usable strictly between the network and the broadcast address. -/
def gatewayFits (gateway : Nat) (subnet : Subnet) : Bool :=
  1 < subnet.capacity && subnet.network < gateway &&
    gateway < wrap32 (subnet.network + subnet.capacity)

def normalizeSubnet (router : RouterDTO) : NormalRouter :=
  let own := router.gatewayIP ++ "/24"
  let subnet := if router.subnet = "" then own else router.subnet
  let gateway := ipToUint32 router.gatewayIP
  let repaired : NormalRouter :=
    let parsed := (parseCIDR own).getD .zero
    { router := { router with subnet := own }
      domain := (parsed.network, parsed.mask)
      issues := [{ nodeID := router.id, message := s!"gateway {router.gatewayIP} is not a usable address in subnet {subnet}; using its /24" }] }
  match parseCIDR subnet with
  | none => repaired
  | some parsed =>
      if gatewayFits gateway parsed then
        { router := { router with subnet := subnet }
          domain := (parsed.network, parsed.mask)
          issues := [] }
      else repaired

def normalizeRouter (index : Nat) (router : RouterDTO) : NormalRouter :=
  let (withGateway, gatewayIssues) := normalizeGateway index router
  let normal := normalizeSubnet withGateway
  { normal with issues := gatewayIssues ++ normal.issues }

/-- The routers with their gateways and subnets filled in or repaired. -/
def normalizeRouters (routers : List RouterDTO) : List NormalRouter :=
  routers.zipIdx.map fun entry => normalizeRouter entry.2 entry.1

/-- The conflicts of the first loop: what each router reports about itself,
and a gateway address already taken anywhere in the topology. -/
def routerConflicts (normal : List NormalRouter) : List Issue :=
  (normal.foldl (fun (state : List (String × String) × List Issue) entry =>
    let router := entry.router
    match state.1.lookup router.gatewayIP with
    | some owner =>
        (state.1, state.2 ++ entry.issues ++
          [{ nodeID := router.id, message := s!"gateway IP {router.gatewayIP} conflicts with {owner}" }])
    | none =>
        ((router.gatewayIP, router.id) :: state.1, state.2 ++ entry.issues))
    ([], [])).2

/-! ## Ownership -/

/-- Keeps a synthetic gateway (`<node>:lan`, `<node>:eth2`) from walking back
into the node that owns it. -/
def skipNATBoundary (routerID current neighbor : String) : Bool :=
  match cut ':' routerID.toList with
  | some (base, _) => current = routerID && neighbor.toList = base
  | none => false

def appendUnique (values : List String) (value : String) : List String :=
  if value ∈ values then values else values ++ [value]

abbrev Adjacency := List (String × List String)

def Adjacency.neighbors (table : Adjacency) (id : String) : List String :=
  (table.lookup id).getD []

def Adjacency.connect (table : Adjacency) (source target : String) : Adjacency :=
  (source, appendUnique (table.neighbors source) target) :: table

def adjacencyOf (nodes : List NodeDTO) : Adjacency :=
  nodes.foldl (fun table node =>
    node.connections.foldl (fun table neighbor =>
      (table.connect node.id neighbor).connect neighbor node.id) table) []

/-- `req.Nodes[nodeIndex[id]]`: a repeated id stands for its last node. -/
def nodeByID (nodes : List NodeDTO) (id : String) : Option NodeDTO :=
  nodes.reverse.find? (·.id = id)

def isRouterID (routers : List RouterDTO) (id : String) : Bool :=
  routers.any (·.id = id)

/-- The variables of the breadth-first search: `seen`, `queue`, `ownerRouter`. -/
structure Walk where
  seen : List String
  queue : List String
  ownerRouter : List (String × Nat)
  deriving DecidableEq

/-- One round of the inner loop, for one neighbour of `current`. -/
def visitNeighbor (req : AllocateRequest) (ri : Nat) (routerID current : String)
    (walk : Walk) (neighbor : String) : Walk :=
  if neighbor ∈ walk.seen ∨ skipNATBoundary routerID current neighbor then walk
  else
    let seen := neighbor :: walk.seen
    if isRouterID req.routers neighbor then { walk with seen := seen }
    else
      match nodeByID req.nodes neighbor with
      | none => { walk with seen := seen }
      | some node =>
          let ownerRouter :=
            if (walk.ownerRouter.lookup neighbor).isSome then walk.ownerRouter
            else (neighbor, ri) :: walk.ownerRouter
          let queue :=
            if node.type ∈ nonNetworkTypes then walk.queue
            else walk.queue ++ [neighbor]
          { seen := seen, queue := queue, ownerRouter := ownerRouter }

/-- The outer loop. A node enters the queue once, so one round for the router
and one for each node empty it. -/
def drainQueue (req : AllocateRequest) (ri : Nat) (routerID : String) :
    Nat → Walk → Walk
  | 0, walk => walk
  | rounds + 1, walk =>
      match walk.queue with
      | [] => walk
      | current :: rest =>
          drainQueue req ri routerID rounds
            (((adjacencyOf req.nodes).neighbors current).foldl
              (visitNeighbor req ri routerID current) { walk with queue := rest })

def walkFrom (req : AllocateRequest) (ownerRouter : List (String × Nat))
    (ri : Nat) (routerID : String) : Walk :=
  drainQueue req ri routerID (req.nodes.length + 1)
    { seen := [routerID], queue := [routerID], ownerRouter := ownerRouter }

/-- `ownerRouter`: the index of the router each node is given to. -/
def ownerRouter (req : AllocateRequest) (id : String) : Option Nat :=
  (req.routers.zipIdx.foldl (fun owners entry =>
    (walkFrom req owners entry.2 entry.1.id).ownerRouter) []).lookup id

end HomelabBuilder.Ipam

/-! # One address domain

`allocateDomain`: the devices behind the routers of one network are given
addresses. Existing addresses are reserved first, infrastructure comes next,
and every VM host takes a block for its guests.
-/

namespace HomelabBuilder.Ipam

open Net

/-! ## Addresses in the response -/

/-- What can hold an address in a response: a node, or a guest of a node. -/
inductive Entity
  | node (index : Nat)
  | vm (host index : Nat)
  deriving DecidableEq

/-- The index of the node an entity is or runs on. -/
def Entity.nodeIndex : Entity → Nat
  | .node index => index
  | .vm host _ => host

def setNodeIP (nodes : List NodeResult) (entity : Entity) (ip : String) :
    List NodeResult :=
  match entity with
  | .node index => nodes.modify index fun result => { result with assignedIP := ip }
  | .vm host index =>
      nodes.modify host fun result =>
        { result with vms := result.vms.modify index fun vm => { vm with assignedIP := ip } }

def assignedIPIn (nodes : List NodeResult) : Entity → String
  | .node index => (nodes[index]?.map (·.assignedIP)).getD ""
  | .vm host index => ((nodes[host]?.bind (·.vms[index]?)).map (·.assignedIP)).getD ""

/-- The address a response assigns, empty when it assigns none. -/
def AllocateResponse.assignedIP (resp : AllocateResponse) (entity : Entity) : String :=
  assignedIPIn resp.nodes entity

/-! ## One domain -/

/-- The variables `allocateDomain` works on: the domain's allocator and
owners, and the response shared by all domains. -/
structure DomainState where
  allocator : SubnetAllocator
  owners : List (Nat × String)
  accepted : List (String × Nat)
  results : List NodeResult
  conflicts : List Issue
  warnings : List Issue
  deriving DecidableEq

namespace DomainState

def warn (state : DomainState) (nodeID message : String) : DomainState :=
  { state with warnings := state.warnings ++ [{ nodeID := nodeID, message := message }] }

def conflict (state : DomainState) (nodeID message : String) : DomainState :=
  { state with conflicts := state.conflicts ++ [{ nodeID := nodeID, message := message }] }

/-- `sa.Used[ip] = true; domain.owners[ip] = id`. -/
def reserve (state : DomainState) (ip : Nat) (id : String) : DomainState :=
  { state with
    allocator := state.allocator.markUsed ip
    owners := (ip, id) :: state.owners }

/-- `result.AssignedIP = sa.FormatIP(ip)`. -/
def assign (state : DomainState) (entity : Entity) (ip : Nat) : DomainState :=
  { state with results := setNodeIP state.results entity (formatIPv4 ip) }

end DomainState

def preReserveExisting (state : DomainState) (entityID value : String) : DomainState :=
  if value = "" then state
  else
    match parseIPTo4 value with
    | none =>
        state.conflict entityID s!"invalid IPv4 address {quoted value}; a safe address was assigned instead"
    | some ip =>
        if !state.allocator.isUsable ip then
          state.conflict entityID s!"IP {value} is outside the assigned subnet; a safe address was assigned instead"
        else if state.allocator.isDHCPReserved ip then
          state.conflict entityID s!"IP {value} is inside the DHCP pool; a safe address was assigned instead"
        else if (state.owners.lookup ip).isSome || state.allocator.used.contains ip then
          let owner := (state.owners.lookup ip).getD ""
          let owner := if owner = "" then "another reservation" else owner
          state.conflict entityID s!"IP {value} conflicts with {owner}; a safe address was assigned instead"
        else
          let reserved := state.reserve ip entityID
          { reserved with accepted := (entityID, ip) :: reserved.accepted }

/-- The existing addresses of a node and its guests, in this order. -/
def preReserveNode (nodes : List NodeDTO) (state : DomainState) (index : Nat) :
    DomainState :=
  match nodes[index]? with
  | none => state
  | some node =>
      node.vms.foldl (fun state vm => preReserveExisting state vm.id vm.existingIP)
        (preReserveExisting state node.id node.existingIP)

/-- Infrastructure nodes take the first free address from their zone on. -/
def placeInfra (nodes : List NodeDTO) (zones : List (String × ZoneConfig))
    (state : DomainState) (index : Nat) : DomainState :=
  match nodes[index]? with
  | none => state
  | some node =>
      match state.accepted.lookup node.id with
      | some ip => state.assign (.node index) ip
      | none =>
          let ip := state.allocator.allocateSlot (getZone node.type zones).baseOffset
          if ip = 0 then
            state.warn node.id s!"subnet exhausted for infrastructure type {quoted node.type}"
          else (state.reserve ip node.id).assign (.node index) ip

/-- One guest takes the first free address of its host's block. -/
def placeVM (host : Nat) (hostID : String) (hostIP blockEnd : Nat)
    (state : DomainState) (entry : VMDTO × Nat) : DomainState :=
  let (vm, index) := entry
  match state.accepted.lookup vm.id with
  | some ip => state.assign (.vm host index) ip
  | none =>
      let ip := state.allocator.allocateInRange (wrap32 (hostIP + 1)) blockEnd
      if ip = 0 then state.warn vm.id s!"IP block for host {hostID} is exhausted"
      else (state.reserve ip vm.id).assign (.vm host index) ip

/-- The end of a host's block, kept inside the subnet. -/
def blockEndOf (sa : SubnetAllocator) (hostIP : Nat) (step : Int) : Nat :=
  let blockEnd := sub32 (wrap32 (hostIP + toUint32 step)) 1
  let lastUsable := wrap32 (sa.network + sa.capacity - 1)
  if lastUsable < blockEnd ∨ blockEnd < hostIP then lastUsable else blockEnd

/-- Marks what is left of a host's block, so that no later device lands in it. -/
def markBlock (sa : SubnetAllocator) (hostIP blockEnd : Nat) : SubnetAllocator :=
  (addressesFrom (hostIP + 1) (blockEnd + 1)).foldl (fun sa ip =>
    if sa.isDHCPReserved ip then sa else sa.markUsed ip) sa

/-- Everything a host does once it has its address. -/
def fillHost (node : NodeDTO) (step : Int) (index hostIP : Nat)
    (state : DomainState × Int) : DomainState × Int :=
  let (state, nextOffset) := state
  let blockEnd := blockEndOf state.allocator hostIP step
  let placed := node.vms.zipIdx.foldl (placeVM index node.id hostIP blockEnd)
    (state.assign (.node index) hostIP)
  let marked := { placed with allocator := markBlock placed.allocator hostIP blockEnd }
  let offset := sub32 hostIP marked.allocator.network + step
  (marked, if nextOffset < offset then offset else nextOffset)

/-- A VM host takes its reserved address, or the next free one from the
running offset on, and with it a block for its guests. -/
def placeHost (nodes : List NodeDTO) (step : Int) (state : DomainState × Int)
    (index : Nat) : DomainState × Int :=
  match nodes[index]? with
  | none => state
  | some node =>
      match state.1.accepted.lookup node.id with
      | some hostIP => fillHost node step index hostIP state
      | none =>
          let hostIP := state.1.allocator.allocateSlot state.2
          if hostIP = 0 then
            (state.1.warn node.id s!"subnet exhausted for VM host type {quoted node.type}", state.2)
          else fillHost node step index hostIP (state.1.reserve hostIP node.id, state.2)

/-- Members of a domain that take part in addressing. -/
def networkIndexes (nodes : List NodeDTO) (nodeIndexes : List Nat) : List Nat :=
  nodeIndexes.filter fun index =>
    nodes[index]?.any fun node => node.type ∉ nonNetworkTypes

def isHost (nodes : List NodeDTO) (zones : List (String × ZoneConfig)) (index : Nat) :
    Bool :=
  nodes[index]?.any fun node => (getZone node.type zones).canHostVMs

/-- An infrastructure node cannot host the guests listed on it. -/
def reportInfraGuests (nodes : List NodeDTO) (state : DomainState) (index : Nat) :
    DomainState :=
  match nodes[index]? with
  | none => state
  | some node =>
      if node.vms = [] then state
      else state.conflict node.id s!"{node.type} nodes cannot host virtual machines or services"

/-- Host types in allocation order: the known ones, then the others by name. -/
def orderedTypes (nodes : List NodeDTO) (hosts : List Nat) : List String :=
  let kinds := (hosts.filterMap fun index => nodes[index]?.map (·.type)).dedup
  vmHostTypeOrder ++
    (kinds.filter fun kind => kind ∉ vmHostTypeOrder).insertionSort (· ≤ ·)

/-- Hosts in the order they are given addresses. -/
def orderedHosts (nodes : List NodeDTO) (hosts : List Nat) : List Nat :=
  (orderedTypes nodes hosts).flatMap fun kind =>
    hosts.filter fun index => nodes[index]?.any fun node => node.type = kind

/-- Where the search for VM hosts starts: behind the DHCP pool if that covers
the usual start. -/
def hostStartOffset (sa : SubnetAllocator) : Int :=
  if sa.isDHCPReserved (wrap32 (sa.network + toUint32 vmHostStartOffset)) then
    sub32 sa.dhcpEnd sa.network + 1
  else vmHostStartOffset

def domainStep (sa : SubnetAllocator) (hostCount : Nat) : Int :=
  let dhcpReserved :=
    if sa.dhcpStart ≠ 0 then wrap32 (sub32 sa.dhcpEnd sa.dhcpStart + 1) else 0
  calculateDynamicStep hostCount sa.capacity dhcpReserved

/-- `domainZones`: every zone that hosts guests gets the domain's block size. -/
def domainZonesOf (zones : List (String × ZoneConfig)) (step : Int) :
    List (String × ZoneConfig) :=
  zones.map fun entry =>
    (entry.1, if entry.2.canHostVMs then { entry.2 with step := step } else entry.2)

/-- `zone.Step` of the host at an index. -/
def stepOf (nodes : List NodeDTO) (zones : List (String × ZoneConfig)) (index : Nat) :
    Int :=
  ((nodes[index]?.map fun node => (getZone node.type zones).step)).getD 0

def allocateDomain (nodes : List NodeDTO) (zones : List (String × ZoneConfig))
    (nodeIndexes : List Nat) (state : DomainState) : DomainState :=
  let members := networkIndexes nodes nodeIndexes
  let hosts := members.filter (isHost nodes zones)
  let domainZones := domainZonesOf zones (domainStep state.allocator hosts.length)
  let reserved := members.foldl (preReserveNode nodes) { state with accepted := [] }
  let infra := members.filter fun index => !isHost nodes domainZones index
  let reported := infra.foldl (reportInfraGuests nodes) reserved
  let placed := infra.foldl (placeInfra nodes domainZones) reported
  let placedHosts :=
    (orderedHosts nodes (members.filter (isHost nodes domainZones))).foldl
      (fun state index => placeHost nodes (stepOf nodes domainZones index) state index)
      (placed, hostStartOffset placed.allocator)
  placedHosts.1

end HomelabBuilder.Ipam
