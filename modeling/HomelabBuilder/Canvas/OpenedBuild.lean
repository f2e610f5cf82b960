import HomelabBuilder.Canvas.Store
import HomelabBuilder.Services.RoundTrip
import HomelabBuilder.Services.ValidationOrder

/-! # Opening and saving a build

A stored build on its way through the API, the canvas and a save. The rows come
back as they were, but for what the canvas makes of its cables.
-/

namespace HomelabBuilder.Canvas

open Services (EdgeDTO NodeDTO VMDTO ComponentDTO SyncGraphInput Tables BuildRow NodeRow EdgeRow
  VirtualMachineRow NodeComponentRow StoredBuild Reading Reads Rewritten Runtime Supply SameCable
  detailsMap validateGraph saveRevision nextBuild vmDTO componentDTO)

/-! ## The answer of the API -/

def apiGuest (row : VirtualMachineRow) : Guest where
  id := row.id.text
  name := row.name
  type := row.type
  ip := row.ip
  macAddress := row.macAddress
  os := row.os
  cpuCores := row.cpuCores
  ramMB := row.ramMB
  status := row.status
  details := row.details

def apiComponent (row : NodeComponentRow) : Component where
  id := row.id.text
  type := row.type
  name := row.name
  powerDraw := row.powerDraw
  details := row.details

def apiNode (tables : Tables) (row : NodeRow) : BuildNode where
  id := row.id.text
  type := row.type
  name := row.name
  ip := row.ip
  macAddress := row.macAddress
  powerDraw := row.powerDraw
  x := row.x
  y := row.y
  details := row.details
  parentID := row.parentID.map (·.text)
  virtualMachines := (tables.vmsOn row.id).map apiGuest
  internalComponents := (tables.componentsOn row.id).map apiComponent

def apiEdge (row : EdgeRow) : BuildEdge where
  id := row.id.text
  sourceNodeID := row.sourceNodeID.text
  sourceHandle := row.sourceHandle
  targetNodeID := row.targetNodeID.text
  targetHandle := row.targetHandle
  type := row.type
  speed := row.speed
  subnet := row.subnet
  wirelessStandard := row.wirelessStandard
  direction := row.direction

/-- `GetByID`: a build with its rows as the tables have them. -/
def apiBuild (tables : Tables) (build : BuildRow) : Build where
  id := build.id.text
  name := build.name
  kind := build.kind
  gamingPlan := build.gamingPlan
  settings := build.settings
  revision := build.revision
  nodes := (tables.nodesOf build.id).map (apiNode tables)
  edges := (tables.edgesOf build.id).map apiEdge

/-! ## The request of a save -/

def bindGuest (guest : Guest) : Option VMDTO :=
  (detailsMap guest.details).map fun details =>
    { id := guest.id
      name := guest.name
      type := guest.type
      ip := guest.ip
      macAddress := guest.macAddress
      os := guest.os
      cpuCores := guest.cpuCores
      ramMB := guest.ramMB
      status := guest.status
      details := details }

def bindComponent (component : Component) : Option ComponentDTO :=
  (detailsMap component.details).map fun details =>
    { id := component.id
      type := component.type
      name := component.name
      powerDraw := component.powerDraw
      details := details }

def bindNode (node : SavedNode) : Option NodeDTO := do
  let vms ← node.vms.mapM bindGuest
  let components ← node.internalComponents.mapM bindComponent
  some
    { id := node.id
      type := node.type
      name := node.name
      x := node.x
      y := node.y
      powerDraw := node.powerDraw
      ip := node.ip
      macAddress := node.macAddress
      details := node.details
      vms := vms
      internalComponents := components
      parentID := node.parentID }

def bindPlan : Option (List (String × Json)) → Option (Option Gaming.Plan)
  | none => some none
  | some members => (Gaming.parsePlan (.obj members)).map some

/-- The save the canvas asks for, as the server decodes it. -/
def topologyUpdate (state : BuilderState) : Option SyncGraphInput := do
  let data := getBuildData state
  let nodes ← data.nodes.mapM bindNode
  let plan ← bindPlan data.gamingPlan
  some
    { name := orElse state.projectName "Untitled Project"
      settings := some data.settings
      revision := state.currentRevision
      nodes := nodes
      edges := data.edges
      kind := data.kind
      gamingPlan := plan }

/-! ## Nodes -/

/-- A node with the details, guests and components its rows say. -/
def storedNode (tables : Tables) (row : NodeRow) : Option NodeDTO := do
  let details ← detailsMap row.details
  let vms ← (tables.vmsOn row.id).mapM vmDTO
  let components ← (tables.componentsOn row.id).mapM componentDTO
  some (row.toDTO details vms components)

theorem place_storedNode {tables : Tables} {row : NodeRow} {dto : NodeDTO}
    (read : storedNode tables row = some dto) : dto.id = row.id.text ∧ dto.type = row.type ∧
      dto.parentID = row.parentID.map (·.text) := by
  rcases Option.bind_eq_some_iff.mp read with ⟨_, _, read⟩
  rcases Option.bind_eq_some_iff.mp read with ⟨_, _, read⟩
  rcases Option.bind_eq_some_iff.mp read with ⟨_, _, read⟩
  cases read
  exact ⟨rfl, rfl, rfl⟩

theorem bindGuest_apiGuest (row : VirtualMachineRow) : bindGuest (apiGuest row) = vmDTO row := rfl

theorem bindComponent_apiComponent (row : NodeComponentRow) :
    bindComponent (apiComponent row) = componentDTO row := rfl

theorem mapM_map {α β γ : Type} {f : α → β} {g : β → Option γ} {h : α → Option γ}
    (same : ∀ item, g (f item) = h item) : ∀ items : List α, (items.map f).mapM g = items.mapM h
  | [] => rfl
  | item :: rest => by rw [List.map_cons, List.mapM_cons, List.mapM_cons, same, mapM_map same rest]

theorem orElse_self (text : String) : orElse text text = text := by
  unfold orElse
  split <;> rfl

section Nodes

variable (parseJSON : String → Option Json)

theorem savedNode_flowNode {devices : List HardwareNode} {node : BuildNode}
    (listed : deviceOf devices node.id = some (hardwareNode parseJSON node)) :
    savedNode devices (flowNode parseJSON node) =
      { id := node.id
        type := node.type
        name := node.name
        x := node.x
        y := node.y
        powerDraw := node.powerDraw
        ip := node.ip
        macAddress := node.macAddress
        details := parseDetails parseJSON node.details
        vms := node.virtualMachines
        internalComponents := node.internalComponents
        parentID := node.parentID.filter (· ≠ "") } := by
  have found : deviceOf devices (flowNode parseJSON node).id =
      some (hardwareNode parseJSON node) := listed
  have power : (((hardwareNode parseJSON node).powerDraw.or
      ((some (hardwareNode parseJSON node)).bind (·.powerDraw))).getD 0) = node.powerDraw := by
    rw [hardwareNode]
    dsimp only
    by_cases none_ : node.powerDraw = 0
    · simp [none_]
    · simp [none_]
  unfold savedNode
  rw [found]
  simp only [flowNode, Option.elim_some, orElse_self, power]
  simp only [hardwareNode, Option.bind_some, Option.some_or, Option.getD_some,
    Option.filter_filter, Bool.and_self]

theorem filter_text (parent : Option Services.UUID) :
    (parent.map (·.text)).filter (· ≠ "") = parent.map (·.text) := by
  cases parent with
  | none => rfl
  | some parent =>
      have given : parent.text ≠ "" := by
        intro empty
        have length := parent.length_text
        rw [empty] at length
        cases length
      rw [Option.map_some, Option.filter_some, if_pos (by simpa using given)]

theorem bindNode_savedNode {tables : Tables} {devices : List HardwareNode} {row : NodeRow}
    {dto : NodeDTO} (read : storedNode tables row = some dto)
    (listed : deviceOf devices row.id.text = some (hardwareNode parseJSON (apiNode tables row))) :
    bindNode (savedNode devices (flowNode parseJSON (apiNode tables row))) = some dto := by
  rcases Option.bind_eq_some_iff.mp read with ⟨details, known, read⟩
  rcases Option.bind_eq_some_iff.mp read with ⟨vms, vmsRead, read⟩
  rcases Option.bind_eq_some_iff.mp read with ⟨components, componentsRead, read⟩
  cases read
  have parsed : parseDetails parseJSON row.details = details := by
    unfold detailsMap at known
    split at known
    · rename_i isNull
      cases known
      rw [isNull]
      rfl
    · rename_i isObject
      cases known
      rw [isObject]
      rfl
    · cases known
  have node : (apiNode tables row).id = row.id.text := rfl
  rw [savedNode_flowNode parseJSON (node.symm ▸ listed)]
  unfold bindNode
  simp only [apiNode, filter_text, parsed]
  rw [mapM_map bindGuest_apiGuest, vmsRead, mapM_map bindComponent_apiComponent, componentsRead]
  rfl

end Nodes

/-! ## Cables -/

/-- A stored cable as a save sends it after it was loaded. -/
def resent (edge : EdgeDTO) : EdgeDTO :=
  if edge.type = "power" then
    { edge with speed := "", subnet := "", wirelessStandard := "", direction := "auto" }
  else { edge with wirelessStandard := orElse edge.wirelessStandard "Wi-Fi 6" }

/-- What a save leaves of a cable that was loaded. A power cable has no more than
its ends; of a network cable without a wireless standard nothing is said. -/
def KeptCable (before after : EdgeDTO) : Prop :=
  if before.type = "power" then
    after = { before with
      speed := "1 GbE", subnet := "", wirelessStandard := "", direction := "auto" }
  else
    { after with wirelessStandard := before.wirelessStandard } = before ∧
      (before.wirelessStandard ≠ "" → after = before)

theorem sameCable_resent (edge : EdgeDTO) : SameCable (resent edge) edge := by
  unfold resent
  split <;> exact ⟨rfl, rfl, rfl, rfl, rfl⟩

section Cables

variable {edge : EdgeRow}
  (given : edge.type ≠ "" ∧ edge.speed ≠ "" ∧ edge.direction ≠ "")

theorem orElse_of_ne {value fallback : String} (given : value ≠ "") :
    orElse value fallback = value := if_neg given

include given

theorem savedEdge_flowEdge :
    savedEdge (flowEdge (apiEdge edge)).ends (flowEdge (apiEdge edge)).data =
      resent edge.toDTO := by
  rcases given with ⟨type, speed, direction⟩
  have kind : edge.toDTO.type = edge.type := rfl
  unfold savedEdge flowEdge resent
  rw [kind]
  by_cases power : edge.type = "power"
  · simp [power, apiEdge, EdgeRow.toDTO, orElse]
  · simp only [power, if_false, apiEdge, EdgeRow.toDTO, orElse_of_ne type, orElse_of_ne speed,
      orElse_of_ne direction]

theorem keptCable_resent : KeptCable edge.toDTO (resent edge.toDTO).written := by
  rcases given with ⟨type, speed, direction⟩
  have kind : edge.toDTO.type = edge.type := rfl
  unfold KeptCable resent EdgeDTO.written Services.defaultString
  rw [kind]
  by_cases power : edge.type = "power"
  · simp [power, EdgeRow.toDTO]
  · simp only [power, if_false, EdgeRow.toDTO, type, speed, direction, true_and]
    intro standard
    rw [orElse_of_ne standard]

end Cables

/-! ## The whole build -/

/-- The rows of a build in the order the canvas sends them: racks first. -/
def asLoaded (stored : StoredBuild) : Reading stored where
  nodes := ((stored.tables.nodesOf stored.build.id).filter fun row => row.type = "rack") ++
    (stored.tables.nodesOf stored.build.id).filter fun row => row.type ≠ "rack"
  guests row := stored.tables.vmsOn row.id
  parts row := stored.tables.componentsOn row.id
  edges := stored.tables.edgesOf stored.build.id
  nodes_perm := by
    have both := List.filter_append_perm (fun row : NodeRow => decide (row.type = "rack"))
      (stored.tables.nodesOf stored.build.id)
    simpa using both
  guests_perm _ := List.Perm.refl _
  parts_perm _ := List.Perm.refl _
  edges_perm := List.Perm.refl _

/-- A stored build that can be read and that passes the save validation. -/
structure Validated (runtime : Runtime) (stored : StoredBuild) (nodes : List NodeDTO)
    (settings : List (String × Json)) : Prop where
  read : (stored.tables.nodesOf stored.build.id).mapM (storedNode stored.tables) = some nodes
  purpose : detailsMap stored.build.settings = some settings
  valid : validateGraph runtime nodes
    ((stored.tables.edgesOf stored.build.id).map EdgeRow.toDTO) = .ok ()

/-- What opening a build and saving it leaves of it. -/
structure Reopened (before after : Tables) (build : BuildRow) : Prop where
  row : ∃ row ∈ after.builds, row.id = build.id ∧ row.kind = build.kind ∧
    Gaming.parsePlan row.gamingPlan = Gaming.parsePlan build.gamingPlan ∧
    detailsMap row.settings = detailsMap build.settings
  topology : ∃ cables, Rewritten before after build.id cables ∧
    List.Forall₂ KeptCable ((before.edgesOf build.id).map EdgeRow.toDTO) cables

section Whole

variable (parseJSON : String → Option Json) {runtime : Runtime} (supply : Supply)
  {stored : StoredBuild} {nodes : List NodeDTO} {settings : List (String × Json)}
  (state : BuilderState)

def opened (stored : StoredBuild) : BuilderState :=
  loadBuild parseJSON state stored.build.id.text stored.build.name
    (apiBuild stored.tables stored.build)

theorem deviceOf_apiNode {row : NodeRow} (listed : row ∈ stored.tables.nodesOf stored.build.id) :
    deviceOf (((stored.tables.nodesOf stored.build.id).map (apiNode stored.tables)).map
        (hardwareNode parseJSON)) row.id.text =
      some (hardwareNode parseJSON (apiNode stored.tables row)) := by
  have distinct : ((((stored.tables.nodesOf stored.build.id).map (apiNode stored.tables)).map
      (hardwareNode parseJSON)).map (·.id)).Nodup := by
    rw [List.map_map, List.map_map]
    have ids : ((stored.tables.nodesOf stored.build.id).map NodeRow.id).Nodup :=
      stored.nodeIDs.sublist (List.filter_sublist.map NodeRow.id)
    have texts := ids.map fun left right => Services.UUID.text_inj.mp
    rw [List.map_map] at texts
    exact texts
  exact Keyed.find?_reverse_key distinct
    (List.mem_map_of_mem (List.mem_map_of_mem listed))

theorem filter_apiNode (tables : Tables) (keep : String → Bool) (rows : List NodeRow) :
    (rows.map (apiNode tables)).filter (fun node => keep node.type) =
      (rows.filter fun row => keep row.type).map (apiNode tables) := by
  rw [List.filter_map]
  rfl

theorem nodes_getBuildData :
    (getBuildData (opened parseJSON state stored)).nodes =
      (asLoaded stored).nodes.map fun row =>
        savedNode (((stored.tables.nodesOf stored.build.id).map (apiNode stored.tables)).map
          (hardwareNode parseJSON)) (flowNode parseJSON (apiNode stored.tables row)) := by
  have racks := filter_apiNode stored.tables (fun type => type = "rack")
    (stored.tables.nodesOf stored.build.id)
  have others := filter_apiNode stored.tables (fun type => type ≠ "rack")
    (stored.tables.nodesOf stored.build.id)
  simp only [getBuildData, opened, loadBuild, mapBuildToFlow, apiBuild, asLoaded]
  rw [racks, others, ← List.map_append, List.map_map, List.map_map]
  rfl

theorem bindNodes (validated : Validated runtime stored nodes settings) :
    ∃ sent, (getBuildData (opened parseJSON state stored)).nodes.mapM bindNode = some sent ∧
      List.Forall₂ (fun row dto => storedNode stored.tables row = some dto)
        (asLoaded stored).nodes sent ∧ sent.Perm nodes := by
  rcases List.perm_comp_forall₂ (asLoaded stored).nodes_perm
    (Keyed.forall₂_of_mapM_option validated.read) with ⟨sent, read, perm⟩
  refine ⟨sent, ?_, read, perm⟩
  rw [nodes_getBuildData]
  apply Keyed.mapM_option_of_forall₂
  rw [List.forall₂_map_left_iff]
  apply Keyed.forall₂_imp_of_mem read
  intro row member dto isRead
  exact bindNode_savedNode parseJSON isRead
    (deviceOf_apiNode parseJSON ((asLoaded stored).nodes_perm.mem_iff.mp member))

theorem edges_getBuildData (validated : Validated runtime stored nodes settings) :
    (getBuildData (opened parseJSON state stored)).edges =
      (stored.tables.edgesOf stored.build.id).map fun edge => resent edge.toDTO := by
  have sent : ((opened parseJSON state stored).canvas.edges.map fun edge =>
      savedEdge edge.ends edge.data) =
      (stored.tables.edgesOf stored.build.id).map fun edge => resent edge.toDTO := by
    simp only [opened, loadBuild, mapBuildToFlow, apiBuild, List.map_map]
    apply List.map_congr_left
    intro edge member
    exact savedEdge_flowEdge (stored.edgeDefaults edge (List.mem_filter.mp member).1)
  have cards : (opened parseJSON state stored).canvas.nodes.map (·.id) =
      (asLoaded stored).nodes.map fun row => row.id.text := by
    have ids := congrArg (List.map SavedNode.id) (@nodes_getBuildData parseJSON stored state)
    simp only [getBuildData, List.map_map] at ids
    exact ids
  have known : ∀ node ∈ nodes, node.id ∈ (opened parseJSON state stored).canvas.nodes.map (·.id) := by
    intro node member
    rw [cards]
    have read := Keyed.forall₂_of_mapM_option validated.read
    rcases Keyed.exists_of_forall₂ read.flip member with ⟨row, listed, isRead⟩
    exact List.mem_map.mpr ⟨row, (asLoaded stored).nodes_perm.mem_iff.mpr listed,
      (place_storedNode isRead).1.symm⟩
  show sanitizedEdges _ = _
  rw [sanitizedEdges, sent, List.filter_eq_self]
  intro edge member
  rcases List.mem_map.mp member with ⟨row, listed, rfl⟩
  have ends := sameCable_resent row.toDTO
  rcases (Services.validated validated.valid).2 row.toDTO (List.mem_map_of_mem listed) with
    ⟨⟨source, sourceListed, sourceID⟩, ⟨target, targetListed, targetID⟩⟩
  rw [ends.source, ends.target, ← sourceID, ← targetID]
  simp only [known source sourceListed, known target targetListed, decide_true, Bool.and_self]

theorem nextBuild_opened (validated : Validated runtime stored nodes settings)
    (sent : List NodeDTO) (edges : List EdgeDTO) :
    ∃ plan, bindPlan (getBuildData (opened parseJSON state stored)).gamingPlan = some plan ∧
      ∃ next, nextBuild stored.build
          { name := orElse (opened parseJSON state stored).projectName "Untitled Project"
            settings := some (getBuildData (opened parseJSON state stored)).settings
            revision := (opened parseJSON state stored).currentRevision
            nodes := sent
            edges := edges
            kind := (getBuildData (opened parseJSON state stored)).kind
            gamingPlan := plan } = .ok next ∧
        next.id = stored.build.id ∧ next.kind = stored.build.kind ∧
        Gaming.parsePlan next.gamingPlan = Gaming.parsePlan stored.build.gamingPlan ∧
        detailsMap next.settings = detailsMap stored.build.settings := by
  have named : stored.build.kind ≠ "" := by
    intro empty
    have known := stored.kind
    rw [empty] at known
    exact absurd known (by decide)
  have kind : (getBuildData (opened parseJSON state stored)).kind = stored.build.kind :=
    orElse_of_ne named
  have members : stored.build.settings.members = settings := by
    have read := validated.purpose
    unfold detailsMap at read
    split at read
    · rename_i isNull
      cases read
      rw [isNull]
      rfl
    · rename_i isObject
      cases read
      rw [isObject]
      rfl
    · cases read
  have purpose : (getBuildData (opened parseJSON state stored)).settings = settings := members
  have revision : (opened parseJSON state stored).currentRevision = stored.build.revision := rfl
  rw [kind, purpose, revision]
  rcases stored.plan with empty | ⟨plan, normal, written⟩
  · have none_ : (getBuildData (opened parseJSON state stored)).gamingPlan = none := by
      show (if stored.build.gamingPlan.members = [] then none
        else some stored.build.gamingPlan.members) = none
      rw [empty]
      rfl
    rw [none_]
    refine ⟨none, rfl, { stored.build with
      name := orElse (opened parseJSON state stored).projectName "Untitled Project"
      settings := .obj settings
      revision := stored.build.revision + 1 }, ?_, rfl, rfl, rfl, validated.purpose.symm⟩
    rw [nextBuild, if_neg (fun conflict => conflict rfl), Services.applyKindAndPlan]
    dsimp only
    rw [if_neg named, Gaming.parseKind_of_mem stored.kind]
    rfl
  · have some_ : (getBuildData (opened parseJSON state stored)).gamingPlan =
        some plan.members := by
      show (if stored.build.gamingPlan.members = [] then none
        else some stored.build.gamingPlan.members) = _
      rw [written]
      rfl
    have planned : bindPlan (some plan.members) = some (some plan) := by
      have parsed := Gaming.parsePlan_toJson normal
      rw [Gaming.Plan.toJson] at parsed
      rw [bindPlan, parsed]
      rfl
    rw [some_, planned]
    refine ⟨some plan, rfl, { stored.build with
      name := orElse (opened parseJSON state stored).projectName "Untitled Project"
      settings := .obj settings
      revision := stored.build.revision + 1
      gamingPlan := plan.toJson }, ?_, rfl, rfl, ?_, validated.purpose.symm⟩
    · rw [nextBuild, if_neg (fun conflict => conflict rfl), Services.applyKindAndPlan]
      dsimp only
      rw [if_neg named, Gaming.parseKind_of_mem stored.kind,
        show plan.normalize = .ok plan from normal]
      rfl
    · dsimp only
      rw [written]

theorem saveRevision_opened (validated : Validated runtime stored nodes settings) :
    ∃ input after next, topologyUpdate (opened parseJSON state stored) = some input ∧
      saveRevision runtime supply stored.tables stored.build input = .ok after ∧
      next ∈ after.builds ∧ next.id = stored.build.id ∧ next.kind = stored.build.kind ∧
      Gaming.parsePlan next.gamingPlan = Gaming.parsePlan stored.build.gamingPlan ∧
      detailsMap next.settings = detailsMap stored.build.settings ∧
      ∃ cables, Rewritten stored.tables after stored.build.id cables ∧
        List.Forall₂ KeptCable
          ((stored.tables.edgesOf stored.build.id).map EdgeRow.toDTO) cables := by
  rcases bindNodes parseJSON state validated with ⟨sent, bound, read, perm⟩
  rcases nextBuild_opened parseJSON state validated sent
    (getBuildData (opened parseJSON state stored)).edges with
    ⟨plan, planned, next, saved, id, kind, parsed, purpose⟩
  have cables := edges_getBuildData parseJSON state validated
  have nodesRead : List.Forall₂ (Reads (asLoaded stored).guests (asLoaded stored).parts)
      (asLoaded stored).nodes sent := by
    refine read.imp ?_
    intro row dto isRead
    rcases Option.bind_eq_some_iff.mp isRead with ⟨details, known, isRead⟩
    rcases Option.bind_eq_some_iff.mp isRead with ⟨vms, vmsRead, isRead⟩
    rcases Option.bind_eq_some_iff.mp isRead with ⟨components, componentsRead, isRead⟩
    cases isRead
    refine ⟨vms, components, ?_, Keyed.forall₂_of_mapM_option vmsRead,
      Keyed.forall₂_of_mapM_option componentsRead⟩
    rw [NodeRow.knownDetails, known]
    rfl
  have valid : validateGraph runtime sent
      (getBuildData (opened parseJSON state stored)).edges = .ok () := by
    have change : ((stored.tables.edgesOf stored.build.id).map fun edge => resent edge.toDTO) =
        ((stored.tables.edgesOf stored.build.id).map EdgeRow.toDTO).map resent := by
      rw [List.map_map]
      rfl
    rw [cables, change, Services.validateGraph_map_edges fun edge _ => sameCable_resent edge]
    exact Services.validateGraph_of_perm perm.symm validated.valid
  rcases (asLoaded stored).saveRevision_spec runtime supply saved nodesRead cables
    (fun edge _ => ⟨(sameCable_resent edge.toDTO).source, (sameCable_resent edge.toDTO).target⟩)
    rfl valid with ⟨after, done, listed, rewritten, _⟩
  refine ⟨_, after, next, ?_, done, listed, id, kind, parsed, purpose, _, rewritten, ?_⟩
  · unfold topologyUpdate
    dsimp only [bind, Option.bind]
    rw [bound]
    dsimp only
    rw [planned]
  · rw [List.forall₂_map_left_iff, List.forall₂_map_right_iff]
    apply List.forall₂_same.mpr
    intro edge member
    exact keptCable_resent (stored.edgeDefaults edge (List.mem_filter.mp member).1)

/-- Opening a build and saving it goes through, and keeps its nodes, guests and
components, its settings, kind and plan, and its cables as far as `KeptCable` says. -/
theorem reopening_keeps_build (validated : Validated runtime stored nodes settings) :
    ∃ input after, topologyUpdate (opened parseJSON state stored) = some input ∧
      saveRevision runtime supply stored.tables stored.build input = .ok after ∧
      Reopened stored.tables after stored.build := by
  rcases saveRevision_opened parseJSON supply state validated with
    ⟨input, after, next, sent, saved, listed, id, kind, plan, purpose, topology⟩
  exact ⟨input, after, sent, saved, ⟨next, listed, id, kind, plan, purpose⟩, topology⟩

end Whole

/-- A UPS that feeds a switch over a cable with a speed of its own, and a server
with a disk and two guests on a network cable as it is drawn. -/
def poweredBuild : StoredBuild where
  tables := {
    builds := [{ id := .numbered 0, name := "Office" }]
    nodes :=
      [{ id := .numbered 1, buildID := .numbered 0, type := "ups", name := "UPS" },
        { id := .numbered 2, buildID := .numbered 0, type := "switch", name := "Core" },
        { id := .numbered 3
          buildID := .numbered 0
          type := "server"
          name := "Server"
          ip := "10.0.0.3"
          powerDraw := 60
          details := .obj [("model", .str "R1"), ("ports", .num 4)] }]
    virtualMachines :=
      [{ id := .numbered 6, nodeID := .numbered 3, name := "Files", type := "vm", ramMB := 4096 },
        { id := .numbered 7
          nodeID := .numbered 3
          name := "Media"
          type := "container"
          status := "running"
          details := .obj [("note", .str "films")] }]
    components :=
      [{ id := .numbered 8
         nodeID := .numbered 3
         type := "disk"
         name := "Disk"
         details := .obj [("size", .num 4)] }]
    edges :=
      [{ id := .numbered 4
         buildID := .numbered 0
         sourceNodeID := .numbered 1
         sourceHandle := "pwr-out-0"
         targetNodeID := .numbered 2
         targetHandle := "pwr-in-0"
         type := "power"
         speed := "10 GbE" },
        { id := .numbered 5
          buildID := .numbered 0
          sourceNodeID := .numbered 2
          sourceHandle := "eth0"
          targetNodeID := .numbered 3
          targetHandle := "eth0" }] }
  build := { id := .numbered 0, name := "Office" }
  listed := List.mem_singleton_self _
  nodeIDs := by decide
  vmIDs := by decide
  componentIDs := by decide
  kind := by decide
  plan := .inl rfl
  edgeDefaults := by decide
  statuses := by decide

/-- The nodes of that build as they are read. -/
def poweredNodes : List NodeDTO :=
  ((poweredBuild.tables.nodesOf poweredBuild.build.id).mapM (storedNode poweredBuild.tables)).getD []

theorem poweredBuild_validated : Validated Runtime.plain poweredBuild poweredNodes [] where
  read := rfl
  purpose := rfl
  valid := Services.validateGraph_eq_ok_iff.mpr
    ⟨by decide, by decide, by decide⟩

theorem reopening_keeps_build_poweredBuild :
    ∃ input after, topologyUpdate (opened (fun _ => none) {} poweredBuild) = some input ∧
      saveRevision Runtime.plain Services.plainSupply poweredBuild.tables poweredBuild.build input =
        .ok after ∧
      Reopened poweredBuild.tables after poweredBuild.build :=
  reopening_keeps_build _ _ _ poweredBuild_validated

theorem speed_of_keptCable {cables results : List EdgeDTO}
    (kept : List.Forall₂ KeptCable cables results)
    (plain : ∀ cable ∈ cables, cable.type = "power" ∨ cable.speed = "1 GbE") :
    ∀ result ∈ results, result.speed = "1 GbE" := by
  induction kept with
  | nil => exact nofun
  | cons first _ induction =>
      rcases List.forall_mem_cons.mp plain with ⟨here, others⟩
      refine List.forall_mem_cons.mpr ⟨?_, induction others⟩
      unfold KeptCable at first
      split at first
      · rw [first]
      · rename_i network
        exact (congrArg EdgeDTO.speed first.1).trans (here.resolve_left network)

/-- Opening and saving that build changes its cables. -/
theorem reopening_changes_cables :
    ¬ ∀ (parseJSON : String → Option Json) (runtime : Runtime) (supply : Supply)
      (stored : StoredBuild) (nodes : List NodeDTO) (settings : List (String × Json))
      (state : BuilderState), Validated runtime stored nodes settings →
      ∃ input after, topologyUpdate (opened parseJSON state stored) = some input ∧
        saveRevision runtime supply stored.tables stored.build input = .ok after ∧
        ((after.edgesOf stored.build.id).map EdgeRow.toDTO).Perm
          ((stored.tables.edgesOf stored.build.id).map EdgeRow.toDTO) := by
  intro claim
  rcases claim (fun _ => none) Runtime.plain Services.plainSupply poweredBuild _ _ {}
    poweredBuild_validated with ⟨input, after, sent, saved, same⟩
  rcases saveRevision_opened (fun _ => none) Services.plainSupply {} poweredBuild_validated with
    ⟨again, result, _, sentAgain, savedAgain, _, _, _, _, _, cables, rewritten, kept⟩
  cases sent.symm.trans sentAgain
  cases saved.symm.trans savedAgain
  -- The power cable has lost its speed, and no other cable has one like it.
  have speeds := (rewritten.edges.symm.trans same).map EdgeDTO.speed
  have fast : "10 GbE" ∈ cables.map EdgeDTO.speed :=
    speeds.mem_iff.mpr (by decide)
  rcases List.mem_map.mp fast with ⟨cable, listed, speed⟩
  have slow := speed_of_keptCable kept (by decide) cable listed
  rw [speed] at slow
  revert slow
  decide

end HomelabBuilder.Canvas
