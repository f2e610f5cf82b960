import HomelabBuilder.Foundation.Differences
import HomelabBuilder.Foundation.Json
import HomelabBuilder.Gaming.PlanSettings
import HomelabBuilder.Services.GamingReport
import HomelabBuilder.Services.RoundTrip
import HomelabBuilder.Services.VirtualNetwork

/-! # Differences of builds

`topology_diff.go`: what a proposal changes, grouped the way the review shows it.
-/

namespace HomelabBuilder.Services

open Gaming (Instance diffPlans parsePlan)
open HomelabBuilder.Topology (detailBool)

/-! ## The rows of a build -/

namespace StoredBuild

variable (stored : StoredBuild)

def nodes : List NodeRow := stored.tables.nodesOf stored.build.id

def edges : List EdgeRow := stored.tables.edgesOf stored.build.id

end StoredBuild

structure GuestRef where
  vm : VirtualMachineRow
  host : NodeRow

structure ComponentRef where
  component : NodeComponentRow
  host : NodeRow

def StoredBuild.guests (stored : StoredBuild) : List GuestRef :=
  stored.nodes.flatMap fun node => (stored.tables.vmsOn node.id).map (GuestRef.mk · node)

def StoredBuild.components (stored : StoredBuild) : List ComponentRef :=
  stored.nodes.flatMap fun node => (stored.tables.componentsOn node.id).map (ComponentRef.mk · node)

/-! ## Entries -/

structure FieldChange where
  field : String
  before : Json
  after : Json

structure NodeDiff where
  id : String
  name : String
  type : String
  ip : String
  parentID : String
  changes : List FieldChange

structure ConnectionDiff where
  source : String
  target : String
  sourceName : String
  targetName : String
  sourceHandle : String
  targetHandle : String
  type : String
  speed : String
  changes : List FieldChange

structure GuestDiff where
  id : String
  name : String
  type : String
  hostID : String
  hostName : String
  ip : String
  changes : List FieldChange

structure ComponentDiff where
  id : String
  name : String
  type : String
  hostID : String
  hostName : String

/-- A recalculated address of a node or a guest. -/
structure AddressChange where
  kind : String
  id : String
  name : String
  before : String
  after : String

/-- The kind of the build, or a setting of its gaming plan. -/
inductive PlanDiff
  | kind (before after : String)
  | setting (change : Gaming.PlanChange)

structure DiffCounts where
  nodesAdded : Nat
  nodesRemoved : Nat
  nodesChanged : Nat
  connectionsAdded : Nat
  connectionsRemoved : Nat
  connectionsChanged : Nat
  vmsAdded : Nat
  vmsRemoved : Nat
  vmsChanged : Nat
  componentsAdded : Nat
  componentsRemoved : Nat
  planChanged : Nat
  ipChanges : Nat
  /-- Recalculated addresses alone are not a change. -/
  total : Nat

structure ProposalDiff where
  counts : DiffCounts
  buildName : Option FieldChange
  nodes : Differences NodeDiff
  connections : Differences ConnectionDiff
  vms : Differences GuestDiff
  components : Differences ComponentDiff
  ipChanges : List AddressChange
  plan : List PlanDiff

def compareField (field : String) (before after : Json) : List FieldChange :=
  if before.deepEqual after then [] else [⟨field, before, after⟩]

/-! ## Kind and plan -/

def kindOf (build : BuildRow) : String := if build.kind = "" then "homelab" else build.kind

def planChanges (before after : BuildRow) : List PlanDiff :=
  (if kindOf before ≠ kindOf after then [.kind (kindOf before) (kindOf after)] else []) ++
    match parsePlan before.gamingPlan, parsePlan after.gamingPlan with
    | some was, some now => (diffPlans was now).map .setting
    | _, _ => []

/-! ## Nodes -/

def sortsBefore (left right : String) : Bool := decide (left < right)

/-- The names of the nodes of both builds, those of the later one first. -/
def nodeNames (before after : List NodeRow) (id : String) : Option String :=
  ((latest (fun node : NodeRow => node.id.text) after id).or
    (latest (fun node : NodeRow => node.id.text) before id)).map NodeRow.name

def nameOrNil (names : String → Option String) (id : String) : Json :=
  if id = "" then .null else .str ((names id).getD id)

/-- By name, and by id where the names are the same. -/
def sortedNodes (nodes : List NodeRow) : List NodeRow :=
  nodes.insertionSort fun left right =>
    if left.name ≠ right.name then sortsBefore left.name right.name
    else !sortsBefore right.id.text left.id.text

def parentText (node : NodeRow) : String := (node.parentID.map UUID.text).getD ""

def describeNode (node : NodeRow) (changes : List FieldChange) : NodeDiff where
  id := node.id.text
  name := node.name
  type := node.type
  ip := node.ip
  parentID := parentText node
  changes := changes

/-- Details that are derived; they never count as a proposed change. -/
def derivedDetailKeys : List String :=
  ["wan_ip", "lan_gateway_ip", "lan_subnet", "interfaces", "virtual_network", "dhcp_locked",
   "rack_position", "dhcp_pool", "port_networks", "power_load"]

/-- A detail that is there on both sides, or on neither, and says the same. -/
def sameDetail (before after : List (String × Json)) (key : String) : Bool :=
  (before.lookup key).isSome = (after.lookup key).isSome &&
    ((before.lookup key).getD .null).deepEqual ((after.lookup key).getD .null)

def comparedKeys (before after : List (String × Json)) : List String :=
  (((before ++ after).map Prod.fst).dedup.filter (· ∉ derivedDetailKeys)).insertionSort
    fun left right => !sortsBefore right left

def detailChanges (before after : List (String × Json)) : List FieldChange :=
  (comparedKeys before after).filterMap fun key =>
    if sameDetail before after key then none
    else some ⟨"details." ++ key, (before.lookup key).getD .null, (after.lookup key).getD .null⟩

def nodeChanges (names : String → Option String) (before after : NodeRow) : List FieldChange :=
  let beforeDetails := (detailsMap before.details).getD []
  let afterDetails := (detailsMap after.details).getD []
  let position (node : NodeRow) : Json := .obj [("x", .num node.x), ("y", .num node.y)]
  compareField "name" (.str before.name) (.str after.name) ++
    compareField "power_draw" (.num before.powerDraw) (.num after.powerDraw) ++
    (if parentText before ≠ parentText after then
      [⟨"rack", nameOrNil names (parentText before), nameOrNil names (parentText after)⟩]
    else compareField "position" (position before) (position after)) ++
    compareField "static_ip" (.bool (detailBool beforeDetails "dhcp_locked"))
      (.bool (detailBool afterDetails "dhcp_locked")) ++
    detailChanges beforeDetails afterDetails

def nodeComparison (names : String → Option String) :
    Comparison NodeRow String FieldChange NodeDiff where
  key node := node.id.text
  arrange := sortedNodes
  changes := nodeChanges names
  describe := describeNode

def nodeAddresses (before after : List NodeRow) : List AddressChange :=
  (sortedNodes after).filterMap fun node =>
    match latest (fun row : NodeRow => row.id.text) before node.id.text with
    | some previous =>
        if previous.ip ≠ node.ip then some ⟨"node", node.id.text, node.name, previous.ip, node.ip⟩
        else none
    | none => none

/-! ## Guests -/

def describeGuest (ref : GuestRef) (changes : List FieldChange) : GuestDiff where
  id := ref.vm.id.text
  name := ref.vm.name
  type := ref.vm.type
  hostID := ref.host.id.text
  hostName := ref.host.name
  ip := ref.vm.ip
  changes := changes

def storedGame (vm : VirtualMachineRow) : Option Instance :=
  (detailsMap vm.details).bind guestGame

def gameChanges (before after : Option Instance) : List FieldChange :=
  if before.isNone && after.isNone then []
  else
    let was := before.getD {}
    let now := after.getD {}
    compareField "game" (.str was.profile) (.str now.profile) ++
      compareField "players" (.num was.players) (.num now.players) ++
      compareField "exposure" (.str was.exposure) (.str now.exposure) ++
      compareField "port_offset" (.num was.portOffset) (.num now.portOffset)

/-- `requestedVMIP` of a row. -/
def requestedIP (vm : VirtualMachineRow) : String :=
  requestedVMIP { id := vm.id, details := vm.details }

def guestChanges (previous current : GuestRef) : List FieldChange :=
  let beforeDetails := (detailsMap previous.vm.details).getD []
  let afterDetails := (detailsMap current.vm.details).getD []
  let detail (details : List (String × Json)) (key : String) := (details.lookup key).getD .null
  compareField "name" (.str previous.vm.name) (.str current.vm.name) ++
    compareField "type" (.str previous.vm.type) (.str current.vm.type) ++
    compareField "cpu_cores" (.num previous.vm.cpuCores) (.num current.vm.cpuCores) ++
    compareField "ram_mb" (.num previous.vm.ramMB) (.num current.vm.ramMB) ++
    compareField "os" (.str previous.vm.os) (.str current.vm.os) ++
    compareField "status" (.str previous.vm.status) (.str current.vm.status) ++
    compareField "static_ip" (.str (requestedIP previous.vm)) (.str (requestedIP current.vm)) ++
    compareField "disk_gb" (detail beforeDetails "disk_gb") (detail afterDetails "disk_gb") ++
    compareField "notes" (detail beforeDetails "notes") (detail afterDetails "notes") ++
    gameChanges (storedGame previous.vm) (storedGame current.vm) ++
    if previous.host.id ≠ current.host.id then
      compareField "host" (.str previous.host.name) (.str current.host.name)
    else []

def guestKey (ref : GuestRef) : String := ref.vm.id.text

def guestComparison : Comparison GuestRef String FieldChange GuestDiff where
  key := guestKey
  arrange := sortedByKey (fun left right => !sortsBefore right left) guestKey
  changes := guestChanges
  describe := describeGuest

def guestAddresses (before after : List GuestRef) : List AddressChange :=
  (guestComparison.arrange after).filterMap fun current =>
    match latest guestKey before (guestKey current) with
    | some previous =>
        if previous.vm.ip ≠ current.vm.ip then
          some ⟨"vm", guestKey current, current.vm.name, previous.vm.ip, current.vm.ip⟩
        else none
    | none => none

/-! ## Components -/

def describeComponent (ref : ComponentRef) : ComponentDiff where
  id := ref.component.id.text
  name := ref.component.name
  type := ref.component.type
  hostID := ref.host.id.text
  hostName := ref.host.name

def componentKey (ref : ComponentRef) : String := ref.component.id.text

/-- Components are added and removed only. -/
def componentComparison : Comparison ComponentRef String FieldChange ComponentDiff where
  key := componentKey
  arrange := sortedByKey (fun left right => !sortsBefore right left) componentKey
  changes _ _ := []
  describe ref _ := describeComponent ref

/-! ## Cables -/

/-- The two ids of a cable in order. -/
def orderedPair (source target : String) : String × String :=
  if target < source then (target, source) else (source, target)

/-- A cable by the pair of its nodes, a power cable by its power input as well. -/
def keyOfCable (source target type targetHandle : String) : String :=
  let pair := orderedPair source target
  if type = "power" then
    pair.1 ++ "|" ++ pair.2 ++ "|power|" ++ target ++ ":" ++ targetHandle
  else pair.1 ++ "|" ++ pair.2

def connectionKey (edge : EdgeRow) : String :=
  keyOfCable edge.sourceNodeID.text edge.targetNodeID.text edge.type edge.targetHandle

def describeConnection (names : String → Option String) (edge : EdgeRow)
    (changes : List FieldChange) : ConnectionDiff where
  source := edge.sourceNodeID.text
  target := edge.targetNodeID.text
  sourceName := (names edge.sourceNodeID.text).getD ""
  targetName := (names edge.targetNodeID.text).getD ""
  sourceHandle := edge.sourceHandle
  targetHandle := edge.targetHandle
  type := edge.type
  speed := edge.speed
  changes := changes

def connectionChanges (previous current : EdgeRow) : List FieldChange :=
  compareField "type" (.str previous.type) (.str current.type) ++
    compareField "speed" (.str previous.speed) (.str current.speed) ++
    compareField "direction" (.str previous.direction) (.str current.direction) ++
    compareField "wireless_standard" (.str previous.wirelessStandard)
      (.str current.wirelessStandard) ++
    compareField "subnet" (.str previous.subnet) (.str current.subnet)

def connectionComparison (names : String → Option String) :
    Comparison EdgeRow String FieldChange ConnectionDiff where
  key := connectionKey
  arrange := sortedByKey (fun left right => !sortsBefore right left) connectionKey
  changes := connectionChanges
  describe := describeConnection names

/-! ## The whole build -/

def countsOf (nodes : Differences NodeDiff) (connections : Differences ConnectionDiff)
    (vms : Differences GuestDiff) (components : Differences ComponentDiff) (plan : List PlanDiff)
    (ipChanges : List AddressChange) (buildName : Option FieldChange) : DiffCounts where
  nodesAdded := nodes.added.length
  nodesRemoved := nodes.removed.length
  nodesChanged := nodes.changed.length
  connectionsAdded := connections.added.length
  connectionsRemoved := connections.removed.length
  connectionsChanged := connections.changed.length
  vmsAdded := vms.added.length
  vmsRemoved := vms.removed.length
  vmsChanged := vms.changed.length
  componentsAdded := components.added.length
  componentsRemoved := components.removed.length
  planChanged := plan.length
  ipChanges := ipChanges.length
  total := nodes.added.length + nodes.removed.length + nodes.changed.length +
    connections.added.length + connections.removed.length + connections.changed.length +
    vms.added.length + vms.removed.length + vms.changed.length +
    components.added.length + components.removed.length + plan.length +
    if buildName.isSome then 1 else 0

def diffBuilds (before after : StoredBuild) : ProposalDiff :=
  let names := nodeNames before.nodes after.nodes
  let buildName :=
    if before.build.name ≠ after.build.name then
      some ⟨"name", .str before.build.name, .str after.build.name⟩
    else none
  let nodes := (nodeComparison names).differences before.nodes after.nodes
  let vms := guestComparison.differences before.guests after.guests
  let components := componentComparison.differences before.components after.components
  let connections := (connectionComparison names).differences before.edges after.edges
  let ipChanges := nodeAddresses before.nodes after.nodes ++
    guestAddresses before.guests after.guests
  let plan := planChanges before.build after.build
  { counts := countsOf nodes connections vms components plan ipChanges buildName
    buildName := buildName
    nodes := nodes
    connections := connections
    vms := vms
    components := components
    ipChanges := ipChanges
    plan := plan }

/-! ## What is listed -/

section

variable {before after : StoredBuild}

theorem nodes_diffBuilds (before after : StoredBuild) :
    (diffBuilds before after).nodes =
      (nodeComparison (nodeNames before.nodes after.nodes)).differences before.nodes after.nodes :=
  rfl

theorem mem_addedNodes {id : String} :
    id ∈ (diffBuilds before after).nodes.added.map (·.id) ↔
      id ∈ after.nodes.map (·.id.text) ∧ id ∉ before.nodes.map (·.id.text) := by
  have arranged : (sortedNodes after.nodes).Perm after.nodes := List.perm_insertionSort _ _
  rw [nodes_diffBuilds, ((Comparison.perm_added arranged).map _).mem_iff, List.map_map]
  simp only [List.mem_map, List.mem_filter, decide_eq_true_eq]
  constructor
  · rintro ⟨row, ⟨stored, new⟩, rfl⟩
    exact ⟨⟨row, stored, rfl⟩, new⟩
  · rintro ⟨⟨row, stored, rfl⟩, new⟩
    exact ⟨row, ⟨stored, new⟩, rfl⟩

theorem mem_removedNodes {id : String} :
    id ∈ (diffBuilds before after).nodes.removed.map (·.id) ↔
      id ∈ before.nodes.map (·.id.text) ∧ id ∉ after.nodes.map (·.id.text) := by
  have arranged : (sortedNodes before.nodes).Perm before.nodes := List.perm_insertionSort _ _
  rw [nodes_diffBuilds, ((Comparison.perm_removed arranged).map _).mem_iff, List.map_map]
  simp only [List.mem_map, List.mem_filter, decide_eq_true_eq]
  constructor
  · rintro ⟨row, ⟨stored, gone⟩, rfl⟩
    exact ⟨⟨row, stored, rfl⟩, gone⟩
  · rintro ⟨⟨row, stored, rfl⟩, gone⟩
    exact ⟨row, ⟨stored, gone⟩, rfl⟩

theorem mem_addedCables (distinct : (after.edges.map connectionKey).Nodup)
    {entry : ConnectionDiff} :
    entry ∈ (diffBuilds before after).connections.added ↔
      ∃ row ∈ after.edges, connectionKey row ∉ before.edges.map connectionKey ∧
        describeConnection (nodeNames before.nodes after.nodes) row [] = entry :=
  Comparison.mem_added (sortedByKey_perm _ distinct)

theorem mem_changedCables (distinctBefore : (before.edges.map connectionKey).Nodup)
    (distinctAfter : (after.edges.map connectionKey).Nodup) {entry : ConnectionDiff} :
    entry ∈ (diffBuilds before after).connections.changed ↔
      ∃ previous ∈ before.edges, ∃ current ∈ after.edges,
        connectionKey previous = connectionKey current ∧ connectionChanges previous current ≠ [] ∧
          describeConnection (nodeNames before.nodes after.nodes) current
            (connectionChanges previous current) = entry :=
  Comparison.mem_changed (sortedByKey_perm _ distinctAfter) distinctBefore

variable (after) in
theorem perm_removedCables (distinct : (before.edges.map connectionKey).Nodup) :
    (diffBuilds before after).connections.removed.Perm
      ((before.edges.filter fun row => connectionKey row ∉ after.edges.map connectionKey).map
        fun row => describeConnection (nodeNames before.nodes after.nodes) row []) :=
  Comparison.perm_removed (sortedByKey_perm _ distinct)

end

end HomelabBuilder.Services
