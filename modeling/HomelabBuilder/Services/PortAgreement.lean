import HomelabBuilder.Services.GamingReport

/-! # What the report promises about ports

Where a silent report means that the generated files put no port to two uses.
-/

namespace HomelabBuilder.Services

open Booking (Agree)
open Gaming (Instance Profile ResolvedPort ReportGuest ReportNode ReportInput Report PortForward
  computeReport hostPortsOf forwardedPortsOf portForwardsOf hostEntries forwardEntries portKey
  PortSpec ComposePort)

/-- Two ports that are the same to a host or a router. -/
def SamePort (left right : ResolvedPort) : Prop := left.proto = right.proto ∧ left.port = right.port

section

variable (profileBySlug : String → Option Profile) (input : ReportInput)

/-- Containers of different names that listen on one port of one host. -/
def ListenApart (left right : ReportNode × ReportGuest) : Prop :=
  left.1.id = right.1.id ∧ left.2.name ≠ right.2.name ∧
    ∃ port ∈ hostPortsOf profileBySlug left.2, ∃ other ∈ hostPortsOf profileBySlug right.2,
      SamePort port other

/-- The routers a server's ports are forwarded on, the outermost first. -/
def routersOf (host : ReportNode) : List ReportNode :=
  match input.natChain host.id with
  | .through edge inner => edge :: inner
  | _ => []

def ForwardBoth (left right : ReportGuest) : Prop :=
  ∃ port ∈ forwardedPortsOf profileBySlug left, ∃ other ∈ forwardedPortsOf profileBySlug right,
    SamePort port other

/-- Servers of different names that need one port of one outermost router. -/
def ForwardApart (left right : ReportNode × ReportGuest) : Prop :=
  (∃ edge ∈ (routersOf input left.1).head?, ∃ other ∈ (routersOf input right.1).head?,
    edge.id = other.id) ∧ left.2.name ≠ right.2.name ∧ ForwardBoth profileBySlug left.2 right.2

/-- Where guests get in each other's way, the report can tell two of them apart by
their names. -/
structure NamesTell : Prop where
  hosts : (∃ left ∈ input.placed, ∃ right ∈ input.placed, ListenApart profileBySlug left right) ∨
    ∀ host ∈ input.nodes, host.guests.Pairwise fun left right =>
      ∀ ports ∈ publishedBy profileBySlug left, ∀ others ∈ publishedBy profileBySlug right,
        ¬SharePort ports others
  routers : (∃ left ∈ input.placed, ∃ right ∈ input.placed,
      ForwardApart profileBySlug input left right) ∨
    ∀ left ∈ input.placed, ∀ right ∈ input.placed, left.2.id ≠ right.2.id →
      ForwardBoth profileBySlug left.2 right.2 →
        ∀ router ∈ routersOf input left.1, ∀ other ∈ routersOf input right.1,
          router.id ≠ other.id

end

/-- No two forwards of different guests want one port of one router. -/
def ForwardsAgree (report : Report) : Prop :=
  ∀ left ∈ report.portForwards, ∀ right ∈ report.portForwards, left.vmID ≠ right.vmID →
    left.routerID = right.routerID →
      ¬(left.externalPort = right.externalPort ∧ left.proto = right.proto)

section

variable {profileBySlug : String → Option Profile} {input : ReportInput}

theorem portKey_eq_iff {id other : String} {left right : ResolvedPort} :
    portKey id left = portKey other right ↔ id = other ∧ SamePort left right := by
  unfold portKey SamePort
  rw [Gaming.PortKey.mk.injEq]

theorem lists_hostPortConflict_iff :
    (computeReport profileBySlug input).lists "host_port_conflict" ↔
      ∃ left ∈ input.placed, ∃ right ∈ input.placed, ListenApart profileBySlug left right := by
  have checked := Gaming.checked_checkServers profileBySlug input
  refine (checked.hosts.clashed_iff.trans Booking.not_agree_flatMap_iff).trans ?_
  constructor
  · rintro ⟨left, leftListed, right, rightListed, entry, entryOf, other, otherOf, same, different⟩
    rcases List.mem_map.mp entryOf with ⟨port, takes, rfl⟩
    rcases List.mem_map.mp otherOf with ⟨otherPort, otherTakes, rfl⟩
    rcases portKey_eq_iff.mp same with ⟨sameHost, samePort⟩
    exact ⟨left, leftListed, right, rightListed, sameHost, different, port, takes, otherPort,
      otherTakes, samePort⟩
  · rintro ⟨left, leftListed, right, rightListed, sameHost, different, port, takes, other,
      otherTakes, samePort⟩
    exact ⟨left, leftListed, right, rightListed, _, List.mem_map_of_mem takes, _,
      List.mem_map_of_mem otherTakes, portKey_eq_iff.mpr ⟨sameHost, samePort⟩, different⟩

theorem mem_forwardEntries_iff {placed : ReportNode × ReportGuest}
    {entry : Gaming.PortKey × String} :
    entry ∈ forwardEntries profileBySlug input placed ↔
      ∃ edge ∈ (routersOf input placed.1).head?,
        ∃ port ∈ forwardedPortsOf profileBySlug placed.2,
          entry = (portKey edge.id port, placed.2.name) := by
  unfold forwardEntries routersOf
  cases input.natChain placed.1.id with
  | unreachable => simp
  | direct => simp
  | through edge inner => simp [eq_comm]

theorem lists_portConflict_iff :
    (computeReport profileBySlug input).lists "port_conflict" ↔
      ∃ left ∈ input.placed, ∃ right ∈ input.placed,
        ForwardApart profileBySlug input left right := by
  have checked := Gaming.checked_checkServers profileBySlug input
  refine (checked.routers.clashed_iff.trans Booking.not_agree_flatMap_iff).trans ?_
  constructor
  · rintro ⟨left, leftListed, right, rightListed, entry, entryOf, other, otherOf, same, different⟩
    rcases mem_forwardEntries_iff.mp entryOf with ⟨edge, outer, port, forwarded, rfl⟩
    rcases mem_forwardEntries_iff.mp otherOf with ⟨otherEdge, otherOuter, otherPort, also, rfl⟩
    rcases portKey_eq_iff.mp same with ⟨sameEdge, samePort⟩
    exact ⟨left, leftListed, right, rightListed, ⟨edge, outer, otherEdge, otherOuter, sameEdge⟩,
      different, port, forwarded, otherPort, also, samePort⟩
  · rintro ⟨left, leftListed, right, rightListed, ⟨edge, outer, otherEdge, otherOuter, sameEdge⟩,
      different, port, forwarded, otherPort, also, samePort⟩
    exact ⟨left, leftListed, right, rightListed, _,
      mem_forwardEntries_iff.mpr ⟨edge, outer, port, forwarded, rfl⟩, _,
      mem_forwardEntries_iff.mpr ⟨otherEdge, otherOuter, otherPort, also, rfl⟩,
      portKey_eq_iff.mpr ⟨sameEdge, samePort⟩, different⟩

theorem mem_portForwardsOf {placed : ReportNode × ReportGuest} {forward : PortForward}
    (listed : forward ∈ portForwardsOf profileBySlug input placed) :
    forward.vmID = placed.2.id ∧ (∃ router ∈ routersOf input placed.1, router.id = forward.routerID) ∧
      ∃ port ∈ forwardedPortsOf profileBySlug placed.2,
        port.proto = forward.proto ∧ port.port = forward.externalPort := by
  unfold portForwardsOf at listed
  unfold routersOf
  cases chain : input.natChain placed.1.id with
  | unreachable =>
      rw [chain] at listed
      cases listed
  | direct =>
      rw [chain] at listed
      cases listed
  | through edge inner =>
      rw [chain] at listed
      rcases List.mem_flatMap.mp listed with ⟨port, forwarded, rule⟩
      rcases List.mem_map.mp rule with ⟨⟨router, hop⟩, member, rfl⟩
      exact ⟨rfl, ⟨router, List.fst_mem_of_mem_zipIdx member, rfl⟩, port, forwarded, rfl, rfl⟩

theorem exists_portForward {placed : ReportNode × ReportGuest} {router : ReportNode}
    (listed : router ∈ routersOf input placed.1) {port : ResolvedPort}
    (forwarded : port ∈ forwardedPortsOf profileBySlug placed.2) :
    ∃ forward ∈ portForwardsOf profileBySlug input placed, forward.vmID = placed.2.id ∧
      forward.routerID = router.id ∧ forward.proto = port.proto ∧
        forward.externalPort = port.port := by
  unfold routersOf at listed
  unfold portForwardsOf
  cases chain : input.natChain placed.1.id with
  | unreachable =>
      rw [chain] at listed
      cases listed
  | direct =>
      rw [chain] at listed
      cases listed
  | through edge inner =>
      rw [chain] at listed
      rcases List.mem_iff_getElem?.mp listed with ⟨hop, located⟩
      have member : (router, hop) ∈ (edge :: inner).zipIdx :=
        List.mk_mem_zipIdx_iff_getElem?.mpr located
      exact ⟨_, List.mem_flatMap.mpr ⟨port, forwarded, List.mem_map_of_mem member⟩, rfl, rfl, rfl,
        rfl⟩

theorem forwardsAgree_iff :
    ForwardsAgree (computeReport profileBySlug input) ↔
      ∀ left ∈ input.placed, ∀ right ∈ input.placed, left.2.id ≠ right.2.id →
        ForwardBoth profileBySlug left.2 right.2 →
          ∀ router ∈ routersOf input left.1, ∀ other ∈ routersOf input right.1,
            router.id ≠ other.id := by
  have checked := Gaming.checked_checkServers profileBySlug input
  unfold ForwardsAgree computeReport
  rw [checked.forwards]
  constructor
  · rintro agree left leftListed right rightListed different
      ⟨port, forwarded, otherPort, also, sameProto, samePort⟩ router through other otherThrough same
    rcases exists_portForward through forwarded with ⟨rule, ruleListed, vm, on, proto, external⟩
    rcases exists_portForward otherThrough also with
      ⟨otherRule, otherListed, otherVM, otherOn, otherProto, otherExternal⟩
    refine agree rule (List.mem_flatMap.mpr ⟨left, leftListed, ruleListed⟩) otherRule
      (List.mem_flatMap.mpr ⟨right, rightListed, otherListed⟩) ?_ ?_ ⟨?_, ?_⟩
    · rw [vm, otherVM]
      exact different
    · rw [on, otherOn, same]
    · rw [external, otherExternal, samePort]
    · rw [proto, otherProto, sameProto]
  · rintro apart rule ruleListed otherRule otherListed different on ⟨samePort, sameProto⟩
    rcases List.mem_flatMap.mp ruleListed with ⟨left, leftListed, ofLeft⟩
    rcases List.mem_flatMap.mp otherListed with ⟨right, rightListed, ofRight⟩
    rcases mem_portForwardsOf ofLeft with ⟨vm, ⟨router, through, sameRouter⟩, port, forwarded, ports⟩
    rcases mem_portForwardsOf ofRight with
      ⟨otherVM, ⟨other, otherThrough, otherRouter⟩, otherPort, also, otherPorts⟩
    refine apart left leftListed right rightListed ?_
      ⟨port, forwarded, otherPort, also, ?_, ?_⟩ router through other otherThrough ?_
    · rw [← vm, ← otherVM]
      exact different
    · rw [ports.1, otherPorts.1, sameProto]
    · rw [ports.2, otherPorts.2, samePort]
    · rw [sameRouter, otherRouter, on]

/-- A silent report keeps its promise exactly where names tell the guests apart that
get in each other's way. -/
theorem silent_report_agrees_iff {tables : Tables} {build : BuildRow}
    (read : gamingReportInput tables build = some input) :
    ((¬(computeReport profileBySlug input).lists "host_port_conflict" →
        FilesAgree profileBySlug tables build) ∧
      (¬(computeReport profileBySlug input).lists "port_conflict" →
        ForwardsAgree (computeReport profileBySlug input))) ↔ NamesTell profileBySlug input := by
  rw [lists_hostPortConflict_iff, lists_portConflict_iff, filesAgree_iff read, forwardsAgree_iff,
    ← or_iff_not_imp_left, ← or_iff_not_imp_left]
  exact ⟨fun agrees => ⟨agrees.1, agrees.2⟩, fun tell => ⟨tell.hosts, tell.routers⟩⟩

end

/-! ### Two servers of one game -/

def minecraftJava : Profile where
  slug := "minecraft_java"
  name := "Minecraft Java Server"
  defaultPlayers := 10
  baseRAMMB := 2048
  ramMBPerPlayer := 100
  baseCPUCores := 1
  cpuCoresPerPlayer := 1 / 20
  ports := [{ name := "game", port := 25565, proto := .tcp, forward := true }]
  image := "itzg/minecraft-server:latest"
  notes := "The world tick runs on one core, so a fast core beats many slow ones. Memory grows " ++
    "with view distance and world size."

def onlyMinecraft (slug : String) : Option Profile :=
  if slug = "minecraft_java" then some minecraftJava else none

def minecraftContainer (id : Fin 10) (name : String) (offset : Int) (exposure : String) :
    VirtualMachineRow where
  id := .numbered id
  nodeID := .numbered 1
  name := name
  type := "container"
  details := .obj [("game", .obj [("profile", .str "minecraft_java"), ("players", .num 10),
    ("exposure", .str exposure), ("port_offset", .num offset)])]

def gameHost : NodeRow where
  id := .numbered 1
  buildID := .numbered 0
  type := "server"
  name := "Server"

def gameBuild : BuildRow where
  id := .numbered 0
  name := "Games"

/-- A server with two game servers of one name, the second moved by an offset. -/
def twoServers (offset : Int) : Tables where
  nodes := [gameHost]
  virtualMachines :=
    [minecraftContainer 2 "Minecraft" 0 "lan", minecraftContainer 3 "Minecraft" offset "lan"]

def readServers (offset : Int) : ReportInput :=
  (gamingReportInput (twoServers offset) gameBuild).getD ⟨[], []⟩

instance (left right : List ComposePort) : Decidable (SharePort left right) :=
  inferInstanceAs (Decidable (∃ _ ∈ left, ∃ _ ∈ right, _))

/-- The same servers behind a router that forwards a port to each. -/
def forwardedServers : Tables where
  nodes := [gameHost, { gameHost with id := .numbered 4, type := "router", name := "Router" }]
  edges :=
    [{ id := .numbered 5, buildID := .numbered 0, sourceNodeID := .numbered 4,
        sourceHandle := "eth1", targetNodeID := .numbered 1, targetHandle := "eth0" }]
  virtualMachines :=
    [minecraftContainer 2 "Minecraft" 0 "port_forward",
      minecraftContainer 3 "Minecraft" 1 "port_forward"]

def readForwarded : ReportInput :=
  (gamingReportInput forwardedServers gameBuild).getD ⟨[], []⟩

theorem silent_report_agrees_moved :
    FilesAgree onlyMinecraft forwardedServers gameBuild ∧
      ForwardsAgree (computeReport onlyMinecraft readForwarded) ∧
      (computeReport onlyMinecraft readForwarded).portForwards.map
        (fun forward => (forward.routerName, forward.externalPort)) =
          [("Router", 25565), ("Router", 25566)] := by
  have tell : NamesTell onlyMinecraft readForwarded := by
    constructor
    · right
      decide
    · right
      have apart : ∀ left ∈ readForwarded.placed, ∀ right ∈ readForwarded.placed,
          left.2.id ≠ right.2.id →
            ((forwardedPortsOf onlyMinecraft left.2).all fun port =>
              (forwardedPortsOf onlyMinecraft right.2).all fun other =>
                port.proto ≠ other.proto || port.port ≠ other.port) = true := by
        decide
      rintro left listed right also different ⟨port, forwarded, other, otherForwarded, clash⟩
      have differs := List.all_eq_true.mp (List.all_eq_true.mp
        (apart left listed right also different) port forwarded) other otherForwarded
      rw [clash.1, clash.2] at differs
      simp at differs
  have silent : ((computeReport onlyMinecraft readForwarded).issues.all fun issue =>
      issue.code ≠ "host_port_conflict" && issue.code ≠ "port_conflict") = true := by
    decide
  have unlisted : ∀ code ∈ ["host_port_conflict", "port_conflict"],
      ¬(computeReport onlyMinecraft readForwarded).lists code := by
    rintro code conflict ⟨issue, listed, rfl⟩
    have other := List.all_eq_true.mp silent issue listed
    rw [Bool.and_eq_true, decide_eq_true_eq, decide_eq_true_eq] at other
    exact (List.mem_pair.mp conflict).elim other.1 other.2
  have read : gamingReportInput forwardedServers gameBuild = some readForwarded := rfl
  have agrees := (silent_report_agrees_iff read).mpr tell
  exact ⟨agrees.1 (unlisted _ (by decide)), agrees.2 (unlisted _ (by decide)), by decide⟩

/-- Two servers of one name are one server to the report. -/
theorem same_name_unreported :
    ¬ ∀ (profileBySlug : String → Option Profile) (tables : Tables) (build : BuildRow)
      (input : ReportInput), gamingReportInput tables build = some input →
        (¬(computeReport profileBySlug input).lists "host_port_conflict" →
          FilesAgree profileBySlug tables build) ∧
        (¬(computeReport profileBySlug input).lists "port_conflict" →
          ForwardsAgree (computeReport profileBySlug input)) := by
  intro claim
  have silent : (computeReport onlyMinecraft (readServers 0)).issues.isEmpty = true := by
    decide
  have agree := (claim onlyMinecraft (twoServers 0) gameBuild (readServers 0) rfl).1 (by
    rintro ⟨issue, listed, _⟩
    rw [List.isEmpty_iff.mp silent] at listed
    cases listed)
  have clashing : ((gameComposeFiles onlyMinecraft (twoServers 0) gameBuild).all fun file =>
      decide ((file.compose.services.map fun service => service.ports).Pairwise
        fun left right => ¬SharePort left right)) = false := by decide
  rw [List.all_eq_false] at clashing
  rcases clashing with ⟨file, listed, shared⟩
  exact shared (decide_eq_true (List.pairwise_map.mpr (agree file listed)))

end HomelabBuilder.Services
