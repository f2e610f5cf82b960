import HomelabBuilder.Services.GamingDetails
import HomelabBuilder.Wiring.PortValidation

/-! # What a save is checked for

`validateVirtualNetworks`, `validateWiringDetails` and the part of
`validateEdgeEndpoints` that walks the nodes. The walk over the edges is
`edgeIssues`.
-/

namespace HomelabBuilder.Services

open Gaming (Profile)
open Wiring

/-- What the code takes from its language and its libraries, and the table of
game profiles. -/
structure Runtime where
  floats : Floats
  /-- `uuid.Parse`, the canonical form of a text that spells an id. -/
  parseUUID : String → Option UUID
  parseUUID_text : ∀ id : UUID, parseUUID id.text = some id
  profileBySlug : String → Option Profile

/-- A runtime for examples: it reads canonical ids only, finds no number in a
text and knows no game. -/
def Runtime.plain : Runtime where
  floats := ⟨fun _ => none, fun _ => -2 ^ 63⟩
  parseUUID text := if canonical : isCanonicalUUID text = true then some ⟨text, canonical⟩ else none
  parseUUID_text id := dif_pos id.canonical
  profileBySlug _ := none

/-! ## Virtual networks -/

/-- A static address that is text spells an IPv4 address. -/
def staticIPFits (details : List (String × Json)) : Bool :=
  match details.lookup "static_ip" with
  | none => true
  | some (.str ip) => ip = "" || (Net.parseIPTo4 ip).isSome
  | some _ => false

/-- The guests of a host as endpoints, behind the ones that are known. -/
def guestEndpoints (runtime : Runtime) : List String → List VMDTO → Except String (List String)
  | endpoints, [] => .ok endpoints
  | endpoints, vm :: rest =>
      if (runtime.parseUUID vm.id).isNone then .error "virtual machine IDs must be UUIDs"
      else if vm.id ∈ endpoints then .error "duplicate virtual endpoint"
      else if !staticIPFits vm.details then .error ("invalid IPv4 address for " ++ vm.name)
      else guestEndpoints runtime (vm.id :: endpoints) rest

def switchEndpoints : List String → List VirtualSwitch → Except String (List String)
  | endpoints, [] => .ok endpoints
  | endpoints, virtualSwitch :: rest =>
      if virtualSwitch.id = "" ∨ virtualSwitch.id ∈ endpoints then .error "invalid virtual switch ID"
      else switchEndpoints (virtualSwitch.id :: endpoints) rest

/-- The cables of a virtual network, behind the ids and the pairs of ends that
have been seen. -/
def virtualEdgesFit (endpoints : List String) :
    List String → List String → List VirtualEdge → Bool
  | _, _, [] => true
  | ids, pairs, edge :: rest =>
      let pair := edge.source ++ "/" ++ edge.target
      let reverse := edge.target ++ "/" ++ edge.source
      edge.source ∈ endpoints && edge.target ∈ endpoints && edge.source ≠ edge.target &&
        edge.id ≠ "" && edge.id ∉ ids && pair ∉ pairs && reverse ∉ pairs &&
        virtualEdgesFit endpoints (edge.id :: ids) (pair :: pairs) rest

/-- The three parts of a network that has them all. -/
def VirtualNetwork.parts (network : VirtualNetwork) :
    Option (List VirtualSwitch × List (String × Position) × List VirtualEdge) := do
  let switches ← network.switches
  let positions ← network.positions
  let edges ← network.edges
  some (switches, positions, edges)

def validateNetwork (runtime : Runtime) (node : NodeDTO) (network : VirtualNetwork) :
    Except String Unit := do
  let some (switches, positions, edges) := network.parts
    | .error "virtual networks require switches, edges, and positions"
  let endpoints ← guestEndpoints runtime [uplink] node.vms
  let endpoints ← switchEndpoints endpoints switches
  if !virtualEdgesFit endpoints [] [] edges then
    .error ("invalid virtual connection on " ++ node.name)
  else if positions.any fun position => position.1 ∉ endpoints then
    .error "unknown virtual endpoint position"
  else .ok ()

/-- The virtual network a save carries for one host. -/
def validateVirtualNetwork (runtime : Runtime) (node : NodeDTO) : Except String Unit :=
  match Json.field some node.details "virtual_network" with
  | none => .ok ()
  | some .null => .ok ()
  | some value =>
      match value.asObject.bind decodeVirtualNetwork with
      | none => .error ("invalid virtual network for " ++ node.name)
      | some network => validateNetwork runtime node network

/-- Stops at the first complaint. -/
def validateEach {α : Type} (validate : α → Except String Unit) : List α → Except String Unit
  | [] => .ok ()
  | item :: rest =>
      match validate item with
      | .error message => .error message
      | .ok () => validateEach validate rest

def validateVirtualNetworks (runtime : Runtime) (nodes : List NodeDTO) : Except String Unit :=
  validateEach (validateVirtualNetwork runtime) nodes

/-! ## Port settings -/

def validateNodeWiring (runtime : Runtime) (node : NodeDTO) : Except String Unit :=
  match validatePortConfig node.type node.details
      (portCount runtime.floats node.type node.details) with
  | some message => .error (node.name ++ ": " ++ message)
  | none =>
      match validateVLANs node.type node.details with
      | some message => .error (node.name ++ ": " ++ message)
      | none => .ok ()

def validateWiringDetails (runtime : Runtime) (nodes : List NodeDTO) : Except String Unit :=
  validateEach (validateNodeWiring runtime) nodes

/-! ## Nodes -/

inductive NodeIssue
  | emptyID
  | duplicateID (id : String)
  | unsupportedType (id type : String)
  | cannotHost (id type : String)
  | gaming (message : String)
  | emptyVMID (id : String)
  | duplicateVMID (id : String)
  | containsItself (id : String)
  | missingParent (id parent : String)
  | parentNotRack (id : String)
  | nestedRack (id : String)
  | floorNode (id type : String)
  deriving DecidableEq

def knownNodeTypes : List String :=
  ["router", "switch", "access_point", "modem", "firewall", "server", "server_v2", "vps", "pc",
    "minipc", "sbc", "nas", "iot", "ups", "pdu", "power_outlet", "rack", "disk", "gpu", "cpu", "hba",
    "pcie", nodeTypeConsole, nodeTypeLANTable]

/-- Guests of a node, behind the ids of the guests that have been seen. -/
def vmIssues (nodeID : String) : List String → List VMDTO → List NodeIssue × List String
  | seen, [] => ([], seen)
  | seen, vm :: rest =>
      if trimSpace vm.id = "" then
        let (issues, seen) := vmIssues nodeID seen rest
        (.emptyVMID nodeID :: issues, seen)
      else if vm.id ∈ seen then
        let (issues, seen) := vmIssues nodeID seen rest
        (.duplicateVMID vm.id :: issues, seen)
      else vmIssues nodeID (vm.id :: seen) rest

/-- What is wrong with the nodes behind ids that have been seen. -/
def nodeIssues (runtime : Runtime) : List String → List String → List NodeDTO → List NodeIssue
  | _, _, [] => []
  | seen, seenVMs, node :: rest =>
      if trimSpace node.id = "" then .emptyID :: nodeIssues runtime seen seenVMs rest
      else if node.id ∈ seen then .duplicateID node.id :: nodeIssues runtime seen seenVMs rest
      else
        let guests := vmIssues node.id seenVMs node.vms
        (if node.type ∉ knownNodeTypes then [.unsupportedType node.id node.type] else []) ++
          (if node.vms ≠ [] ∧ node.type ∉ vmHostNodeTypes then [.cannotHost node.id node.type]
            else []) ++
          (gamingNodeIssues runtime.profileBySlug node).map .gaming ++ guests.1 ++
          nodeIssues runtime (node.id :: seen) guests.2 rest

/-- What is wrong with where a node is mounted. -/
def parentIssues (nodes : List NodeDTO) (node : NodeDTO) : List NodeIssue :=
  match node.parentID.filter (· ≠ "") with
  | none => []
  | some parentID =>
      if parentID = node.id then [.containsItself node.id]
      else
        match nodesByID nodes parentID with
        | none => [.missingParent node.id parentID]
        | some parent =>
            (if parent.type ≠ "rack" then [.parentNotRack node.id] else []) ++
              (if node.type = "rack" then [.nestedRack node.id] else []) ++
              if node.type ∈ floorNodeTypes then [.floorNode node.id node.type] else []

inductive GraphIssue
  | node (issue : NodeIssue)
  | edge (issue : EdgeIssue)
  deriving DecidableEq

/-- `validateEdgeEndpoints`: all that is wrong with a graph. -/
def graphIssues (runtime : Runtime) (nodes : List NodeDTO) (edges : List EdgeDTO) :
    List GraphIssue :=
  (nodeIssues runtime [] [] nodes ++ nodes.flatMap (parentIssues nodes)).map .node ++
    (edgeIssues runtime.floats nodes edges).map .edge

end HomelabBuilder.Services
