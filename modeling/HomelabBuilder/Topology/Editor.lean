import HomelabBuilder.Topology.Fields

/-! # The topology editor

`topology_ops.go`: the graph a batch works on, what the batch has named so far,
and how operations refer to nodes, guests and components.
-/

namespace HomelabBuilder.Topology

open Services

inductive EntityKind
  | node
  | vm
  | component
  deriving DecidableEq

/-- The state between two operations of a batch. -/
structure Editor where
  graph : SyncGraphInput
  /-- What the refs of the batch stand for, and of which kind that is. -/
  refs : List (String × String × EntityKind) := []
  /-- Nodes waiting for automatic placement. -/
  pending : List String := []
  /-- How many ids have been drawn. -/
  minted : Nat := 0

namespace Editor

def withNodes (editor : Editor) (nodes : List NodeDTO) : Editor :=
  { editor with graph := { editor.graph with nodes := nodes } }

def withEdges (editor : Editor) (edges : List EdgeDTO) : Editor :=
  { editor with graph := { editor.graph with edges := edges } }

def putNode (editor : Editor) (index : Nat) (node : NodeDTO) : Editor :=
  editor.withNodes (editor.graph.nodes.set index node)

end Editor

/-! ## Lookups -/

/-- The first item that fits, with its place. -/
def locate {α : Type} (fits : α → Bool) (items : List α) : Option (α × Nat) :=
  items.zipIdx.find? fun entry => fits entry.1

def nodeIndex (nodes : List NodeDTO) (id : String) : Option (NodeDTO × Nat) :=
  locate (fun node => node.id = id) nodes

def EdgeDTO.joins (edge : EdgeDTO) (left right : String) : Bool :=
  (edge.source = left && edge.target = right) || (edge.source = right && edge.target = left)

/-- `edgeIndex`: the first cable between two nodes, of whatever type. -/
def edgeIndex (edges : List EdgeDTO) (left right : String) : Option (EdgeDTO × Nat) :=
  locate (fun edge => EdgeDTO.joins edge left right) edges

def idsOf (node : NodeDTO) : List String :=
  node.id :: node.vms.map VMDTO.id ++ node.internalComponents.map ComponentDTO.id

def idInUse (nodes : List NodeDTO) (id : String) : Bool := nodes.any fun node => id ∈ idsOf node

/-! ## Ids and refs -/

/-- The id of a new entity: the one that is asked for, or the next one drawn. -/
def newEntityID (env : Env) (editor : Editor) (preset : String) :
    Except String (String × Editor) :=
  if trimSpace preset = "" then
    .ok ((env.newID editor.minted).text, { editor with minted := editor.minted + 1 })
  else do
    let id ← given (env.parseUUID (trimSpace preset)) "id must be a UUID"
    require (idInUse editor.graph.nodes id.text = false)
      ("id " ++ id.text ++ " already exists in this build")
    .ok (id.text, editor)

def registerRef (env : Env) (editor : Editor) (ref id : String) (kind : EntityKind) :
    Except String Editor :=
  let ref := trimSpace ref
  if ref = "" then .ok editor
  else do
    require (ref.utf8ByteSize ≤ 64) "ref is too long (64 characters at most)"
    require (env.parseUUID ref = none) "ref must be a short label such as \"nas1\", not a UUID"
    require (editor.refs.lookup ref = none)
      ("ref " ++ quoted ref ++ " is already used in this batch")
    .ok { editor with refs := (ref, id, kind) :: editor.refs }

def Editor.refTo (editor : Editor) (token : String) (kind : EntityKind) : Option String :=
  (editor.refs.lookup token).bind fun entry => if entry.2 = kind then some entry.1 else none

/-- `resolveNode` accepts a ref of the batch, an id, or a name only one node has. -/
def resolveNode (env : Env) (editor : Editor) (token field : String) : Except String String :=
  let token := trimSpace token
  let nodes := editor.graph.nodes
  if token = "" then .error (field ++ " is required")
  else
    match editor.refTo token .node with
    | some id => do
        require ((nodeIndex nodes id).isSome)
          (field ++ " " ++ quoted token ++ " was removed earlier in this batch")
        .ok id
    | none =>
        match env.parseUUID token with
        | some id => do
            require ((nodeIndex nodes id.text).isSome)
              (field ++ " " ++ id.text ++ " does not exist in this build")
            .ok id.text
        | none =>
            -- A match without an id is forgotten when the next one comes.
            match ((nodes.filter fun node => env.equalFold node.name token).map
                NodeDTO.id).dropWhile (· = "") with
            | [] =>
                .error ("unknown " ++ field ++ " " ++ quoted token ++
                  ": use a node id from get_build or a ref set by an earlier add_node in this batch")
            | [id] => .ok id
            | _ =>
                .error (field ++ " " ++ quoted token ++
                  " matches more than one node; use the node id")

/-- The node an operation names, and its place. -/
def resolvedNode (env : Env) (editor : Editor) (token field : String) :
    Except String (NodeDTO × Nat) := do
  let id ← resolveNode env editor token field
  given (nodeIndex editor.graph.nodes id) ""

def tokenID (env : Env) (editor : Editor) (token : String) (kind : EntityKind) : String :=
  match editor.refTo token kind with
  | some id => id
  | none => ((env.parseUUID token).map UUID.text).getD token

/-- A part of a node, with the places of the node and of the part in it. -/
structure Part (α : Type) where
  part : α
  host : NodeDTO
  hostIndex : Nat
  index : Nat

/-- All parts of the nodes of a graph, node by node. -/
def partsOf {α : Type} (parts : NodeDTO → List α) (nodes : List NodeDTO) : List (Part α) :=
  nodes.zipIdx.flatMap fun host =>
    (parts host.1).zipIdx.map fun part => ⟨part.1, host.1, host.2, part.2⟩

/-- `resolveVM` accepts a ref of the batch, an id, or a name only one guest has. -/
def resolveVM (env : Env) (editor : Editor) (token : String) : Except String (Part VMDTO) :=
  let token := trimSpace token
  let vms := partsOf NodeDTO.vms editor.graph.nodes
  if token = "" then .error "vm is required"
  else
    match vms.find? fun vm => vm.part.id = tokenID env editor token .vm with
    | some vm => .ok vm
    | none =>
        match vms.filter fun vm => env.equalFold vm.part.name token with
        | [] =>
            .error ("unknown vm " ++ quoted token ++
              ": use a vm id from get_build or a ref set by an earlier add_vm")
        | [vm] => .ok vm
        | _ =>
            .error ("vm " ++ quoted token ++ " matches more than one service; use its id")

def resolveComponent (env : Env) (editor : Editor) (token : String) :
    Except String (Part ComponentDTO) :=
  let token := trimSpace token
  if token = "" then .error "component is required"
  else
    given ((partsOf NodeDTO.internalComponents editor.graph.nodes).find? fun component =>
        component.part.id = tokenID env editor token .component)
      ("unknown component " ++ quoted token ++
        ": use a component id from get_build or a ref set by an earlier add_component")

/-! ## Catalog shortcuts -/

def catalogHardware (env : Env) (token : String) : Except String CatalogHardware := do
  let id ← given (env.parseUUID (trimSpace token))
    "hardware_id must be an id returned by search_hardware"
  let catalog ← given env.catalog "the hardware catalog is not available"
  given (catalog.hardwareByID id)
    ("hardware_id " ++ id.text ++ " is not in the catalog; look it up with search_hardware")

def catalogService (env : Env) (token : String) : Except String CatalogService := do
  let id ← given (env.parseUUID (trimSpace token))
    "catalog_service_id must be an id returned by list_services"
  let catalog ← given env.catalog "the service catalog is not available"
  given (catalog.serviceForUser id)
    ("catalog_service_id " ++ id.text ++ " is not in the catalog; look it up with list_services")

end HomelabBuilder.Topology
