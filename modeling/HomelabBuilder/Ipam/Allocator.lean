import HomelabBuilder.Ipam.Domain

/-! # Allocation

`Allocate` of `allocator.go`: the routers open address domains, every node
joins the domain of its owner, and the domains hand out their addresses one
after the other.
-/

namespace HomelabBuilder.Ipam

open Net

def routerDomain (normal : List NormalRouter) (index : Nat) : Option DomainKey :=
  normal[index]?.map (·.domain)

/-- The domain of the router a node is given to. -/
def nodeDomain (normal : List NormalRouter) (owner : String → Option Nat)
    (id : String) : Option DomainKey :=
  (owner id).bind (routerDomain normal)

/-! ## Opening the domains -/

structure AllocationDomain where
  key : DomainKey
  allocator : SubnetAllocator
  owners : List (Nat × String)
  deriving DecidableEq

/-- DHCP is on in a domain as soon as one of its routers runs it. -/
def domainDHCP (normal : List NormalRouter) (key : DomainKey) : Bool :=
  normal.any fun entry => entry.domain = key && entry.router.dhcpEnabled

/-- Leases the nodes of a domain ask for on behalf of unlisted devices. -/
def domainDemand (nodes : List NodeDTO) (normal : List NormalRouter)
    (owner : String → Option Nat) (key : DomainKey) : Int :=
  nodes.foldl (fun demand node =>
    if node.dhcpClients ≤ 0 then demand
    else if nodeDomain normal owner node.id = some key then
      addInt demand node.dhcpClients
    else demand) 0

/-- The loop over the routers that opens the domains. -/
structure DomainPass where
  domains : List AllocationDomain
  routers : List RouterResult
  conflicts : List Issue
  warnings : List Issue
  deriving DecidableEq

def newDomain (normal : List NormalRouter) (demand : DomainKey → Int)
    (entry : NormalRouter) : AllocationDomain :=
  let sa := newSubnetAllocator entry.router.subnet entry.router.gatewayIP
    (domainDHCP normal entry.domain) (demand entry.domain)
  { key := entry.domain
    allocator := sa
    owners :=
      [ (wrap32 (sa.network + sa.capacity), "broadcast address"),
        (sa.network, "network address") ] }

/-- What a new domain has to say about its lease demand. -/
def demandWarnings (sa : SubnetAllocator) (demand : Int) (routerID : String) :
    List Issue :=
  if 0 < demand ∧ sa.dhcpStart = 0 then
    [{ nodeID := routerID, message := s!"{demand} devices expect an address from DHCP, but DHCP is off on this network" }]
  else if sa.dhcpPoolSize < demand then
    [{ nodeID := routerID, message := s!"the DHCP pool holds {sa.dhcpPoolSize} addresses but {demand} devices expect one; use a larger subnet such as 255.255.254.0" }]
  else []

/-- A router joins its domain: its gateway address is taken from now on. -/
def joinDomain (domain : AllocationDomain) (router : RouterDTO) :
    AllocationDomain × List Issue :=
  let gateway := ipToUint32 router.gatewayIP
  match domain.owners.lookup gateway with
  | some previous =>
      (domain, [{ nodeID := router.id, message := s!"gateway IP {router.gatewayIP} conflicts with {previous}" }])
  | none =>
      ({ domain with
          allocator := domain.allocator.markUsed gateway
          owners := (gateway, router.id) :: domain.owners }, [])

def routerResult (entry : NormalRouter) (sa : SubnetAllocator) (demand : Int) :
    RouterResult :=
  let plain : RouterResult :=
    { id := entry.router.id
      gatewayIP := entry.router.gatewayIP
      subnet := entry.router.subnet
      dhcpClients := demand }
  if sa.dhcpStart = 0 then plain
  else
    { plain with
      dhcpStart := formatIPv4 sa.dhcpStart
      dhcpEnd := formatIPv4 sa.dhcpEnd
      dhcpSize := sa.dhcpPoolSize }

def openDomain (normal : List NormalRouter) (demand : DomainKey → Int)
    (pass : DomainPass) (entry : NormalRouter) : DomainPass :=
  match pass.domains.find? (·.key = entry.domain) with
  | some domain =>
      let (joined, issues) := joinDomain domain entry.router
      { pass with
        domains := pass.domains.map fun other =>
          if other.key = entry.domain then joined else other
        routers := pass.routers ++
          [routerResult entry domain.allocator (demand entry.domain)]
        conflicts := pass.conflicts ++ issues }
  | none =>
      let domain := newDomain normal demand entry
      let (joined, issues) := joinDomain domain entry.router
      { domains := pass.domains ++ [joined]
        routers := pass.routers ++
          [routerResult entry domain.allocator (demand entry.domain)]
        conflicts := pass.conflicts ++ issues
        warnings := pass.warnings ++
          demandWarnings domain.allocator (demand entry.domain) entry.router.id }

def openDomains (nodes : List NodeDTO) (normal : List NormalRouter)
    (owner : String → Option Nat) : DomainPass :=
  normal.foldl (openDomain normal (domainDemand nodes normal owner))
    { domains := [], routers := [], conflicts := [], warnings := [] }

/-! ## Members of the domains -/

/-- The nodes given to the routers of one domain, in request order. -/
def domainNodeIndexes (nodes : List NodeDTO) (normal : List NormalRouter)
    (owner : String → Option Nat) (key : DomainKey) : List Nat :=
  (List.range nodes.length).filter fun index =>
    nodes[index]?.any fun node => nodeDomain normal owner node.id = some key

/-- A device that should have an address but no router reaches. -/
def unreachableWarnings (routers : List RouterDTO) (nodes : List NodeDTO)
    (owner : String → Option Nat) : List Issue :=
  nodes.filterMap fun node =>
    if (owner node.id).isNone && node.type ≠ "router" &&
        !isRouterID routers node.id && node.type ∉ nonNetworkTypes then
      some { nodeID := node.id, message := "node is not reachable from a router" }
    else none

/-- The response before any address is handed out. -/
def emptyResults (nodes : List NodeDTO) : List NodeResult :=
  nodes.map fun node =>
    { id := node.id, type := node.type, vms := node.vms.map fun vm => { id := vm.id } }

/-- `allocateDomain` on the response so far. -/
def runDomain (nodes : List NodeDTO) (zones : List (String × ZoneConfig))
    (members : DomainKey → List Nat) (resp : AllocateResponse)
    (domain : AllocationDomain) : AllocateResponse :=
  let final := allocateDomain nodes zones (members domain.key)
    { allocator := domain.allocator
      owners := domain.owners
      accepted := []
      results := resp.nodes
      conflicts := resp.conflicts
      warnings := resp.warnings }
  { resp with
    nodes := final.results
    conflicts := final.conflicts
    warnings := final.warnings }

/-- Everything `Allocate` does once the owners are known. -/
def allocateOwned (req : AllocateRequest) (owner : String → Option Nat) :
    AllocateResponse :=
  let normal := normalizeRouters req.routers
  let pass := openDomains req.nodes normal owner
  pass.domains.foldl
    (runDomain req.nodes (mergeZones req.customZones)
      (domainNodeIndexes req.nodes normal owner))
    { routers := pass.routers
      nodes := emptyResults req.nodes
      conflicts := routerConflicts normal ++ pass.conflicts
      warnings := pass.warnings ++ unreachableWarnings req.routers req.nodes owner }

def allocate (req : AllocateRequest) : AllocateResponse :=
  if req.routers = [] then
    { routers := []
      nodes := emptyResults req.nodes
      conflicts := [{ nodeID := "", message := "topology requires at least one router" }]
      warnings := [] }
  else allocateOwned req (ownerRouter req)

end HomelabBuilder.Ipam
