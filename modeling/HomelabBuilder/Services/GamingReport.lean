import HomelabBuilder.Foundation.Keyed
import HomelabBuilder.Gaming.PortConflicts
import HomelabBuilder.Services.SyncGraph
import HomelabBuilder.Topology.Connections

/-! # Game servers of a stored build

`gaming_service.go`: what the report reads of a build, and the compose files that
are written for its hosts.
-/

namespace HomelabBuilder.Services

open Gaming (Instance Profile ReportGuest ReportNode ReportLink ReportInput Report ComposeServer
  ComposeService ComposePort HostCompose buildHostCompose parsePlan parseInstance instanceKey
  freshName slugChar trimDashes)
open Wiring (edgeTypePower)

/-! ## The report -/

/-- The game of a guest. Settings that cannot be read are those of no known game. -/
def guestGame (details : List (String × Json)) : Option Instance :=
  match parseInstance (details.lookup instanceKey) with
  | .ok game => game
  | .error _ => some {}

def textDetail (details : List (String × Json)) (key : String) : String :=
  ((details.lookup key).bind Json.asString).getD ""

def isInternetEdge (node : NodeDTO) : Bool :=
  node.type = "modem" || trimSpace (textDetail node.details "public_ip") ≠ "" ||
    textDetail node.details "network_zone" ∈ ["wan", "cloud"]

def reportGuest (vm : VMDTO) : ReportGuest where
  id := vm.id
  name := vm.name
  type := vm.type
  ip := vm.ip
  game := guestGame vm.details

def reportNode (node : NodeDTO) : ReportNode where
  id := node.id
  name := node.name
  type := node.type
  ip := node.ip
  isRouter := node.type = "router"
  isNATGateway := Topology.opensSubnet node
  isInternetEdge := isInternetEdge node
  guests := node.vms.map reportGuest

def reportLink (edge : EdgeDTO) : ReportLink where
  a := edge.source
  b := edge.target
  kind := if edge.type = edgeTypePower then Gaming.linkPower
    else if edge.type = "" then "ethernet" else edge.type

def gamingReportInput (tables : Tables) (build : BuildRow) : Option ReportInput := do
  let graph ← buildToSyncInput tables build
  let _ ← parsePlan build.gamingPlan
  some { nodes := graph.nodes.map reportNode, links := graph.edges.map reportLink }

/-! ## Compose files -/

structure GameComposeFile where
  hostID : String
  host : String
  folder : String
  compose : HostCompose
  services : Nat

def sanitizeExportName (name : String) : String :=
  let value := String.ofList
    (trimDashes ((trimSpace name).toList.map fun char => (slugChar char).getD '-'))
  if value = "" then "homelab" else value

/-- By name; rows of one name keep their order. -/
def byName {Row : Type} (name : Row → String) (rows : List Row) : List Row :=
  rows.insertionSort fun left right => ¬name right < name left

def runsInContainer (type : String) : Bool := type = "container" || type = "lxc"

def composeServer (vm : VirtualMachineRow) : Option ComposeServer :=
  if runsInContainer vm.type then do
    let details ← detailsMap vm.details
    let game ← guestGame details
    some ⟨vm.name, game⟩
  else none

section

variable (profileBySlug : String → Option Profile) (tables : Tables)

def gameServers (node : NodeRow) : List ComposeServer :=
  (byName VirtualMachineRow.name (tables.vmsOn node.id)).filterMap composeServer

def composeFilesOf (folders : List String) : List NodeRow → List GameComposeFile
  | [] => []
  | node :: rest =>
      let servers := gameServers tables node
      if servers.isEmpty then composeFilesOf folders rest
      else
        let folder := freshName folders (sanitizeExportName node.name)
        let compose := buildHostCompose profileBySlug servers
        { hostID := node.id.text
          host := node.name
          folder := folder
          compose := compose
          services := servers.length - compose.skipped.length } ::
          composeFilesOf (folder :: folders) rest

def gameComposeFiles (build : BuildRow) : List GameComposeFile :=
  composeFilesOf profileBySlug tables [] (byName NodeRow.name (tables.nodesOf build.id))

end

/-! ## Ports of a file -/

def SharePort (left right : List ComposePort) : Prop :=
  ∃ port ∈ left, ∃ other ∈ right, port.host = other.host ∧ port.proto = other.proto

/-- No two services of the file publish the same port. -/
def GameComposeFile.PublishesOnce (file : GameComposeFile) : Prop :=
  file.compose.services.Pairwise fun left right => ¬SharePort left.ports right.ports

/-- The ports a guest publishes through a compose file. -/
def publishedBy (profileBySlug : String → Option Profile) (guest : ReportGuest) :
    Option (List ComposePort) :=
  if runsInContainer guest.type then guest.game.bind (Gaming.publishedPorts profileBySlug) else none

def FilesAgree (profileBySlug : String → Option Profile) (tables : Tables) (build : BuildRow) :
    Prop := ∀ file ∈ gameComposeFiles profileBySlug tables build, file.PublishesOnce

section

variable {profileBySlug : String → Option Profile} {tables : Tables}

theorem SharePort.symm {left right : List ComposePort} (shared : SharePort left right) :
    SharePort right left := by
  rcases shared with ⟨port, listed, other, otherListed, sameHost, sameProto⟩
  exact ⟨other, otherListed, port, listed, sameHost.symm, sameProto.symm⟩

theorem publishesOnce_iff (servers : List ComposeServer) :
    ((buildHostCompose profileBySlug servers).services.Pairwise fun left right =>
        ¬SharePort left.ports right.ports) ↔
      (servers.filterMap fun server => Gaming.publishedPorts profileBySlug server.game).Pairwise
        fun left right => ¬SharePort left right := by
  rw [← Gaming.ports_composeServices profileBySlug servers [], List.pairwise_map]
  rfl

theorem forall_composeFilesOf_iff (nodes : List NodeRow) : ∀ folders : List String,
    (∀ file ∈ composeFilesOf profileBySlug tables folders nodes, file.PublishesOnce) ↔
      ∀ node ∈ nodes, ((gameServers tables node).filterMap fun server =>
        Gaming.publishedPorts profileBySlug server.game).Pairwise
          fun left right => ¬SharePort left right := by
  induction nodes with
  | nil => exact fun _ => ⟨fun _ => nofun, fun _ => nofun⟩
  | cons node rest induction =>
      intro folders
      rw [List.forall_mem_cons]
      unfold composeFilesOf
      dsimp only
      split
      · rename_i empty
        rw [List.isEmpty_iff.mp empty, induction folders]
        exact (and_iff_right List.Pairwise.nil).symm
      · rw [List.forall_mem_cons, induction, GameComposeFile.PublishesOnce, publishesOnce_iff]

theorem byName_perm {Row : Type} (name : Row → String) (rows : List Row) :
    (byName name rows).Perm rows := List.perm_insertionSort _ _

theorem composeServer_eq {vm : VirtualMachineRow} {dto : VMDTO} (read : vmDTO vm = some dto) :
    ((composeServer vm).bind fun server => Gaming.publishedPorts profileBySlug server.game) =
      publishedBy profileBySlug (reportGuest dto) := by
  rcases Option.map_eq_some_iff.mp read with ⟨details, readDetails, rfl⟩
  unfold composeServer publishedBy
  rw [readDetails]
  show _ = if runsInContainer vm.type then _ else _
  split
  · show ((guestGame details).bind fun game => some (ComposeServer.mk vm.name game)).bind _ =
      (guestGame details).bind _
    cases guestGame details <;> rfl
  · rfl

theorem gameServers_perm {row : NodeRow} {dto : NodeDTO} (read : nodeRowDTO tables row = some dto) :
    ((gameServers tables row).filterMap fun server =>
      Gaming.publishedPorts profileBySlug server.game).Perm
        ((reportNode dto).guests.filterMap (publishedBy profileBySlug)) := by
  rcases Option.bind_eq_some_iff.mp read with ⟨details, _, read⟩
  rcases Option.bind_eq_some_iff.mp read with ⟨vms, readVMs, read⟩
  rcases Option.bind_eq_some_iff.mp read with ⟨components, _, read⟩
  cases read
  have same : (tables.agedVMs row).filterMap (fun vm => (composeServer vm).bind fun server =>
      Gaming.publishedPorts profileBySlug server.game) =
        (vms.map reportGuest).filterMap (publishedBy profileBySlug) := by
    rw [List.filterMap_map]
    exact Keyed.filterMap_eq_of_forall₂ (Keyed.forall₂_of_mapM_option readVMs) fun _ _ =>
      composeServer_eq
  show List.Perm _ ((vms.map reportGuest).filterMap (publishedBy profileBySlug))
  rw [← same, gameServers, List.filterMap_filterMap]
  apply List.Perm.filterMap
  exact (byName_perm _ _).trans (List.perm_insertionSort _ _).symm

theorem filesAgree_iff {build : BuildRow} {input : ReportInput}
    (read : gamingReportInput tables build = some input) :
    FilesAgree profileBySlug tables build ↔
      ∀ host ∈ input.nodes, host.guests.Pairwise fun left right =>
        ∀ ports ∈ publishedBy profileBySlug left, ∀ others ∈ publishedBy profileBySlug right,
          ¬SharePort ports others := by
  rcases Option.bind_eq_some_iff.mp read with ⟨graph, readGraph, read⟩
  rcases Option.bind_eq_some_iff.mp read with ⟨plan, _, read⟩
  cases read
  rcases Option.bind_eq_some_iff.mp readGraph with ⟨_, _, readGraph⟩
  rcases Option.bind_eq_some_iff.mp readGraph with ⟨_, _, readGraph⟩
  rcases Option.bind_eq_some_iff.mp readGraph with ⟨nodes, readNodes, readGraph⟩
  cases readGraph
  have rows := Keyed.forall₂_of_mapM_option readNodes
  have once : ∀ (row : NodeRow) (dto : NodeDTO), nodeRowDTO tables row = some dto →
      ((((gameServers tables row).filterMap fun server =>
        Gaming.publishedPorts profileBySlug server.game).Pairwise
          fun left right => ¬SharePort left right) ↔
      (reportNode dto).guests.Pairwise fun left right =>
        ∀ ports ∈ publishedBy profileBySlug left, ∀ others ∈ publishedBy profileBySlug right,
          ¬SharePort ports others) := by
    intro row dto readRow
    rw [(gameServers_perm readRow).pairwise_iff fun unshared shared => unshared shared.symm,
      List.pairwise_filterMap]
    rfl
  rw [FilesAgree, gameComposeFiles, forall_composeFilesOf_iff]
  constructor
  · intro agree host listed
    rcases List.mem_map.mp listed with ⟨dto, member, rfl⟩
    rcases Keyed.exists_of_forall₂ rows.flip member with ⟨row, rowListed, readRow⟩
    apply (once row dto readRow).mp
    apply agree
    exact (byName_perm _ _).mem_iff.mpr ((List.perm_insertionSort _ _).mem_iff.mp rowListed)
  · intro agree row listed
    have aged : row ∈ tables.agedNodes build.id :=
      (List.perm_insertionSort _ _).mem_iff.mpr ((byName_perm _ _).mem_iff.mp listed)
    rcases Keyed.exists_of_forall₂ rows aged with ⟨dto, member, readRow⟩
    exact (once row dto readRow).mpr (agree _ (List.mem_map_of_mem member))

end

end HomelabBuilder.Services
