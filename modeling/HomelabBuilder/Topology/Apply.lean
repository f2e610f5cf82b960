import HomelabBuilder.Topology.Connections
import HomelabBuilder.Topology.Nodes

/-! # Operations on guests, components and the build

`topology_ops_guests.go` and `setPlan`.
-/

namespace HomelabBuilder.Topology

open Services

/-! ## Virtual networks -/

/-- The members of the virtual network of a host. -/
def virtualNetworkOf (details : List (String × Json)) : Option (List (String × Json)) :=
  (details.lookup "virtual_network").bind Json.asObject

/-- The switch a new guest is plugged into, or the uplink of the host. -/
def upstreamSwitch (network : List (String × Json)) : String :=
  let first := ((network.lookup "switches").bind Json.asArray).bind List.head?
  let id := ((first.bind Json.asObject).bind (List.lookup "id")).bind Json.asString
  (id.filter (· ≠ "")).getD uplink

/-- Plugs a new guest into the virtual network of its host. Hosts without one
attach guests implicitly. -/
def wireVirtualGuest (details : List (String × Json)) (vmID : String) : List (String × Json) :=
  match virtualNetworkOf details with
  | none => details
  | some network =>
      let edges := ((network.lookup "edges").bind Json.asArray).getD []
      let bridge := Json.obj [("id", .str ("bridge-" ++ vmID)),
        ("source", .str (upstreamSwitch network)), ("target", .str vmID)]
      Table.set details "virtual_network"
        (.obj (Table.set network "edges" (.arr (edges ++ [bridge]))))

/-- Whether a stored virtual cable ends at a guest. -/
def endsAt (vmID : String) (edge : Json) : Bool :=
  let ends := fun key => (edge.members.lookup key).bind Json.asString
  ends "source" = some vmID || ends "target" = some vmID

def unwireEdges (network : List (String × Json)) (vmID : String) : List (String × Json) :=
  match (network.lookup "edges").bind Json.asArray with
  | none => network
  | some edges => Table.set network "edges" (.arr (edges.filter fun edge => !endsAt vmID edge))

def unwirePosition (network : List (String × Json)) (vmID : String) : List (String × Json) :=
  match (network.lookup "positions").bind Json.asObject with
  | none => network
  | some positions => Table.set network "positions" (.obj (Table.erase positions vmID))

def unwireVirtualGuest (details : List (String × Json)) (vmID : String) : List (String × Json) :=
  match virtualNetworkOf details with
  | none => details
  | some network =>
      Table.set details "virtual_network" (.obj (unwirePosition (unwireEdges network vmID) vmID))

/-! ## Guests -/

/-- What a catalog service makes of a new guest. -/
def VMDTO.ofService (service : CatalogService) (vm : VMDTO) : VMDTO :=
  let details := Table.set (Table.set vm.details "catalog_service_id" (.str service.id.text))
    "catalog_service_name" (.str service.name)
  { vm with
    name := service.name
    cpuCores := match service.requirements with
      | none => vm.cpuCores
      | some needs =>
          if needs.recommendedCPUCores = 0 then needs.minCPUCores else needs.recommendedCPUCores
    ramMB := match service.requirements with
      | none => vm.ramMB
      | some needs => if needs.recommendedRAMMB = 0 then needs.minRAMMB else needs.recommendedRAMMB
    -- A game from the catalog becomes a game server.
    details := match service.game with
      | none => details
      | some slug =>
          Table.set details Gaming.instanceKey (({ profile := slug } : Gaming.Instance).details) }

def vmDraft (env : Env) (op : TopologyOp) : Except String VMDTO :=
  let vm : VMDTO := { id := "", name := "", type := "container", status := "running" }
  if trimSpace op.catalogServiceID = "" then .ok vm
  else do
    let service ← catalogService env op.catalogServiceID
    .ok (VMDTO.ofService service vm)

def addVM (env : Env) (editor : Editor) (op : TopologyOp) :
    Except String (Editor × TopologyOp) := do
  let (host, index) ← resolvedNode env editor op.host "host"
  require (host.type ∈ vmHostNodeTypes) (quoted host.name ++ " is a " ++ host.type ++
    " and cannot run VMs or services; use a server, mini PC, PC, NAS, SBC, VPS or IoT host")
  require (host.vms.length < maxVMsPerNode)
    (quoted host.name ++ " already runs 100 VMs and services")
  let vm ← vmDraft env op
  let vm ← applyVMFields vm op
  let vm ← applyGameFields env vm op true
  let name ← cleanName vm.name ""
  let (id, editor) ← newEntityID env editor op.id
  let editor ← registerRef env editor op.ref id .vm
  let vm := { vm with id := id, name := name }
  let host' := { host with vms := host.vms ++ [vm], details := wireVirtualGuest host.details id }
  .ok (editor.putNode index host', { op with id := id, host := host.id })

def updateVM (env : Env) (editor : Editor) (op : TopologyOp) :
    Except String (Editor × TopologyOp) := do
  let found ← resolveVM env editor op.vm
  let vm ← applyVMFields found.part op
  let vm ← applyGameFields env vm op false
  let host := { found.host with vms := found.host.vms.set found.index vm }
  .ok (editor.putNode found.hostIndex host, { op with vm := vm.id })

def removeVM (env : Env) (editor : Editor) (op : TopologyOp) :
    Except String (Editor × TopologyOp) := do
  let found ← resolveVM env editor op.vm
  let host := { found.host with
    vms := found.host.vms.eraseIdx found.index
    details := unwireVirtualGuest found.host.details found.part.id }
  .ok (editor.putNode found.hostIndex host, { op with vm := found.part.id })

/-! ## Components -/

def componentDraft (env : Env) (op : TopologyOp) : Except String Draft :=
  let componentType := toLower (trimSpace op.type)
  if trimSpace op.hardwareID = "" then .ok { type := componentType }
  else do
    let hardware ← catalogHardware env op.hardwareID
    require (hardware.nodeType ∈ componentTypes) (hardware.brand ++ " " ++ hardware.model ++
      " is a " ++ hardware.nodeType ++ ", not an internal component; add it with add_node")
    .ok (Draft.ofHardware componentType hardware)

def addComponent (env : Env) (editor : Editor) (op : TopologyOp) :
    Except String (Editor × TopologyOp) := do
  let (node, index) ← resolvedNode env editor op.node "node"
  require (node.type ∈ componentHostNodeTypes)
    (quoted node.name ++ " is a " ++ node.type ++ " and cannot hold internal components")
  require (node.internalComponents.length < maxComponentsPerNode)
    (quoted node.name ++ " already holds 50 components")
  let draft ← componentDraft env op
  require (draft.type ∈ componentTypes)
    ("unsupported component type " ++ quoted draft.type ++ "; use disk, cpu, gpu, hba or pcie")
  let name ← cleanName (op.name.getD draft.name) ""
  let details ← mergeDetails draft.details op.details draft.type
  let powerDraw ← givenPowerDraw op draft.powerDraw
  let (id, editor) ← newEntityID env editor op.id
  let editor ← registerRef env editor op.ref id .component
  let component : ComponentDTO :=
    { id := id, type := draft.type, name := name, powerDraw := powerDraw, details := details }
  let node' := { node with internalComponents := node.internalComponents ++ [component] }
  .ok (editor.putNode index node', { op with id := id, node := node.id, type := draft.type })

def removeComponent (env : Env) (editor : Editor) (op : TopologyOp) :
    Except String (Editor × TopologyOp) := do
  let found ← resolveComponent env editor op.component
  let host := { found.host with
    internalComponents := found.host.internalComponents.eraseIdx found.index }
  .ok (editor.putNode found.hostIndex host, { op with component := found.part.id })

/-! ## The build -/

def renameBuild (editor : Editor) (op : TopologyOp) : Except String (Editor × TopologyOp) := do
  let name ← given op.name "name is required"
  let name ← cleanName name ""
  .ok ({ editor with graph := { editor.graph with name := name } }, op)

def planError : Gaming.PlanIssue → String
  | .uplinkSpeeds => "uplink speeds must be between 0 and 100000 Mbps"
  | .cgnat => "uplink.cgnat must be yes, no or empty"
  | .publicHost => "uplink.public_host must be a host name or an IP address"
  | .mainsVoltage => "power.mains_voltage must be between 100 and 240"
  | .tooManyCircuits => "a plan can have at most 32 circuits"
  | .circuitID id =>
      "circuit id " ++ quoted id ++ " must be 1-40 letters, digits, dashes or underscores"
  | .circuitTwice id => "circuit id " ++ quoted id ++ " is used twice"
  | .circuitLabel => "circuit label is longer than 60 characters"
  | .breakerRating id => "circuit " ++ quoted id ++ " needs a breaker rating between 1 and 125 A"
  | .date => "event.date must be YYYY-MM-DD"
  | .hours => "event.hours must be between 0 and 336"

/-- The decoder's own words are left out. -/
def mergeError : Gaming.MergeIssue → String
  | .unreadable =>
      "plan: it has uplink (down_mbps, up_mbps, cgnat, public_host), power (mains_voltage, circuits) and event (date, hours)"
  | .plan issue => planError issue

def givenKind (op : TopologyOp) (current : String) : Except String String :=
  if trimSpace op.kind = "" then .ok current
  else
    let kind := toLower (trimSpace op.kind)
    given (Gaming.parseKind kind)
      ("unknown build kind " ++ quoted kind ++ ": use homelab, lan_party or game_server")

def givenPlan (op : TopologyOp) (current : Option Gaming.Plan) :
    Except String (Option Gaming.Plan) :=
  if op.plan = [] then .ok current
  else
    match Gaming.mergePlan (current.getD {}) op.plan with
    | .ok plan => .ok (some plan)
    | .error issue => .error (mergeError issue)

def setPlan (editor : Editor) (op : TopologyOp) : Except String (Editor × TopologyOp) := do
  require (trimSpace op.kind ≠ "" ∨ op.plan ≠ []) "set_plan needs kind, plan or both"
  let kind ← givenKind op editor.graph.kind
  let gamingPlan ← givenPlan op editor.graph.gamingPlan
  .ok ({ editor with graph := { editor.graph with kind := kind, gamingPlan := gamingPlan } }, op)

end HomelabBuilder.Topology

/-! # Applying a batch

`ApplyTopologyOps` of `topology_ops.go`: the operations in order, the places of
new devices, and what every save is checked for.
-/

namespace HomelabBuilder.Topology

open Services

inductive OpError
  | noOperations
  | tooManyOperations (count : Nat)
  /-- Where the batch failed, and why. -/
  | operation (index : Nat) (op message : String)
  | virtualNetwork (message : String)
  | issues (found : List GraphIssue)
  deriving DecidableEq

structure AppliedTopology where
  input : SyncGraphInput
  /-- The operations with refs replaced by ids, to be applied again. -/
  resolved : List TopologyOp
  refs : List (String × String × EntityKind)

def cloneSyncInput (input : SyncGraphInput) : SyncGraphInput :=
  { input with settings := some (input.settings.getD []) }

/-- `apply`, for an operation whose tag is in lower case. -/
def applyOp (env : Env) (editor : Editor) (op : TopologyOp) :
    Except String (Editor × TopologyOp) :=
  match op.op with
  | "add_node" => addNode env editor op
  | "update_node" => updateNode env editor op
  | "remove_node" => removeNode env editor op
  | "connect" => connect env editor op
  | "disconnect" => disconnect env editor op
  | "update_connection" => updateConnection env editor op
  | "add_vm" => addVM env editor op
  | "update_vm" => updateVM env editor op
  | "remove_vm" => removeVM env editor op
  | "add_component" => addComponent env editor op
  | "remove_component" => removeComponent env editor op
  | "rename_build" => renameBuild editor op
  | "set_plan" => setPlan editor op
  | "" => .error "op is required"
  | unknown =>
      .error ("unknown op " ++ quoted unknown ++
        "; use add_node, update_node, remove_node, connect, disconnect, update_connection, add_vm, update_vm, remove_vm, add_component, remove_component, rename_build or set_plan")

def TopologyOp.lowered (op : TopologyOp) : TopologyOp := { op with op := toLower (trimSpace op.op) }

def step (env : Env) (editor : Editor) (op : TopologyOp) : Except String (Editor × TopologyOp) :=
  applyOp env editor op.lowered

/-- The operations behind the first `done` ones. -/
def applyFrom (env : Env) (editor : Editor) (done : Nat) :
    List TopologyOp → Except OpError (Editor × List TopologyOp)
  | [] => .ok (editor, [])
  | op :: rest =>
      match step env editor op with
      | .error message => .error (.operation done op.lowered.op message)
      | .ok (editor, resolved) =>
          (applyFrom env editor (done + 1) rest).map fun later => (later.1, resolved :: later.2)

/-- The graph of a batch with its new devices placed. -/
def Editor.placed (env : Env) (editor : Editor) : SyncGraphInput :=
  { editor.graph with
    nodes := placeNodes env.floats editor.graph.edges editor.pending.length editor.graph.nodes
      editor.pending editor.pending }

def finish (env : Env) (editor : Editor) (resolved : List TopologyOp) :
    Except OpError AppliedTopology :=
  let graph := editor.placed env
  match validateVirtualNetworks env.toRuntime graph.nodes with
  | .error message => .error (.virtualNetwork message)
  | .ok () =>
      match graphIssues env.toRuntime graph.nodes graph.edges with
      | [] => .ok ⟨graph, resolved, editor.refs⟩
      | found => .error (.issues found)

/-- `ApplyTopologyOps` refuses the whole batch on the first invalid operation. -/
def applyTopologyOps (env : Env) (base : SyncGraphInput) (ops : List TopologyOp) :
    Except OpError AppliedTopology :=
  if ops = [] then .error .noOperations
  else if maxTopologyOps < ops.length then .error (.tooManyOperations ops.length)
  else
    match applyFrom env { graph := cloneSyncInput base } 0 ops with
    | .error issue => .error issue
    | .ok (editor, resolved) => finish env editor resolved

end HomelabBuilder.Topology
