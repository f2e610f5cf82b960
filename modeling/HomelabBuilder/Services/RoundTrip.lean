import Mathlib.Data.List.Perm.Basic
import HomelabBuilder.Foundation.Keyed
import HomelabBuilder.Services.EdgeWalk
import HomelabBuilder.Services.StoredTopology
import HomelabBuilder.Services.SyncGraph

/-! # Rewriting a build from itself

Applying a proposal saves the graph that was read from the build. What a save
leaves of the rows it was read from.
-/

namespace HomelabBuilder.Services

/-! ## What a row says -/

def VirtualMachineRow.knownDetails (row : VirtualMachineRow) : List (String × Json) :=
  (detailsMap row.details).getD []

def NodeComponentRow.knownDetails (row : NodeComponentRow) : List (String × Json) :=
  (detailsMap row.details).getD []

/-- A row without its timestamps, and with its details as they are read. -/
def NodeRow.content (row : NodeRow) : NodeRow :=
  { row with details := .obj row.knownDetails, createdAt := 0 }

def VirtualMachineRow.content (row : VirtualMachineRow) : VirtualMachineRow :=
  { row with details := .obj row.knownDetails, createdAt := 0 }

def NodeComponentRow.content (row : NodeComponentRow) : NodeComponentRow :=
  { row with details := .obj row.knownDetails, createdAt := 0 }

/-- The tables around one build. Ids are primary keys, the kind and the plan
are written through their checks, and a column with a default is never empty. -/
structure StoredBuild where
  tables : Tables
  build : BuildRow
  listed : build ∈ tables.builds
  nodeIDs : (tables.nodes.map NodeRow.id).Nodup
  vmIDs : (tables.virtualMachines.map VirtualMachineRow.id).Nodup
  componentIDs : (tables.components.map NodeComponentRow.id).Nodup
  kind : build.kind ∈ Gaming.kinds
  plan : build.gamingPlan = .obj [] ∨
    ∃ plan : Gaming.Plan, plan.IsNormal ∧ build.gamingPlan = plan.toJson
  edgeDefaults : ∀ edge ∈ tables.edges, edge.type ≠ "" ∧ edge.speed ≠ "" ∧ edge.direction ≠ ""
  statuses : ∀ vm ∈ tables.virtualMachines, vm.status ≠ ""

/-- The build row says the same apart from its revision. -/
structure SameSettings (before after : BuildRow) : Prop where
  id : after.id = before.id
  name : after.name = before.name
  kind : after.kind = before.kind
  plan : Gaming.parsePlan after.gamingPlan = Gaming.parsePlan before.gamingPlan
  settings : detailsMap after.settings = detailsMap before.settings
  thumbnail : after.thumbnail = before.thumbnail

/-- The topology rows of a build are the same apart from timestamps and the ids
of edge rows. -/
structure SameTopology (before after : Tables) (buildID : UUID) : Prop where
  nodes : ((after.nodesOf buildID).map NodeRow.content).Perm
    ((before.nodesOf buildID).map NodeRow.content)
  virtualMachines : ((after.vmsOf buildID).map VirtualMachineRow.content).Perm
    ((before.vmsOf buildID).map VirtualMachineRow.content)
  components : ((after.componentsOf buildID).map NodeComponentRow.content).Perm
    ((before.componentsOf buildID).map NodeComponentRow.content)
  edges : ((after.edgesOf buildID).map EdgeRow.toDTO).Perm
    ((before.edgesOf buildID).map EdgeRow.toDTO)

/-- Everything a build stores is there after a save as it was before. -/
structure SameBuild (before after : Tables) (build : BuildRow) : Prop where
  settings : ∃ row ∈ after.builds, SameSettings build row
  topology : SameTopology before after build.id
  services : (after.servicesOf build.id).Perm (before.servicesOf build.id)

/-- The rows of a build in an order somebody reads them in. -/
structure Reading (stored : StoredBuild) where
  nodes : List NodeRow
  guests : NodeRow → List VirtualMachineRow
  parts : NodeRow → List NodeComponentRow
  edges : List EdgeRow
  nodes_perm : nodes.Perm (stored.tables.nodesOf stored.build.id)
  guests_perm : ∀ node, (guests node).Perm (stored.tables.vmsOn node.id)
  parts_perm : ∀ node, (parts node).Perm (stored.tables.componentsOn node.id)
  edges_perm : edges.Perm (stored.tables.edgesOf stored.build.id)

/-- A node as it is read with these guests and components. -/
def Reads (guests : NodeRow → List VirtualMachineRow) (parts : NodeRow → List NodeComponentRow)
    (row : NodeRow) (dto : NodeDTO) : Prop :=
  ∃ vms components, dto = row.toDTO row.knownDetails vms components ∧
    List.Forall₂ (fun row dto => vmDTO row = some dto) (guests row) vms ∧
    List.Forall₂ (fun row dto => componentDTO row = some dto) (parts row) components

/-- The topology rows of a build after a save, apart from timestamps and the ids of
edge rows: the nodes as they were, and these cables. -/
structure Rewritten (before after : Tables) (buildID : UUID) (cables : List EdgeDTO) : Prop where
  nodes : ((after.nodesOf buildID).map NodeRow.content).Perm
    ((before.nodesOf buildID).map NodeRow.content)
  virtualMachines : ((after.vmsOf buildID).map VirtualMachineRow.content).Perm
    ((before.vmsOf buildID).map VirtualMachineRow.content)
  components : ((after.componentsOf buildID).map NodeComponentRow.content).Perm
    ((before.componentsOf buildID).map NodeComponentRow.content)
  edges : ((after.edgesOf buildID).map EdgeRow.toDTO).Perm cables

theorem byAge_perm {Row : Type} (createdAt : Row → Nat) (id : Row → UUID) (rows : List Row) :
    (byAge createdAt id rows).Perm rows :=
  List.perm_insertionSort _ _

/-! ## Inserting rows -/

section

variable (runtime : Runtime) (supply : Supply)

theorem create_of_free {Row : Type} {id : Row → UUID} {rows : List Row} {row : Row}
    (free : id row ∉ rows.map id) : create id rows row = .ok (rows ++ [row]) := by
  rw [create, if_neg free]

theorem entityID_text (tick : Nat) (id : UUID) :
    entityID runtime supply tick id.text = id := by
  rw [entityID, runtime.parseUUID_text]
  rfl

theorem insertEach_spec {Row Item Content : Type} {shelf : Shelf Row} {make : Writer → Item → Row}
    {content : Row → Content} :
    ∀ {rows : List Row} {items : List Item} (writer : Writer),
      List.Forall₂ (fun row item => ∀ writer, shelf.id (make writer item) = shelf.id row ∧
        content (make writer item) = content row) rows items →
      ((shelf.rows writer.tables ++ rows).map shelf.id).Nodup →
      ∃ made tick, insertEach shelf make writer items =
          .ok ⟨shelf.put writer.tables (shelf.rows writer.tables ++ made), tick⟩ ∧
        made.map content = rows.map content
  | [], _, writer, .nil, _ =>
      ⟨[], writer.tick, by rw [insertEach, List.append_nil, shelf.put_rows], rfl⟩
  | row :: rows, item :: items, writer, .cons made others, distinct => by
      rcases made writer with ⟨sameID, sameContent⟩
      rw [insertEach]
      generalize make writer item = new at sameID sameContent
      have ids : (shelf.rows writer.tables ++ row :: rows).map shelf.id =
          (shelf.rows writer.tables ++ [new] ++ rows).map shelf.id := by
        simp [sameID]
      rw [ids] at distinct
      have free : shelf.id new ∉ (shelf.rows writer.tables).map shelf.id := by
        have early := (List.nodup_append.mp (List.map_append ▸ distinct)).1
        rw [List.map_append] at early
        exact fun taken => (List.nodup_append.mp early).2.2 _ taken _ List.mem_cons_self rfl
      rcases insertEach_spec
        ⟨shelf.put writer.tables (shelf.rows writer.tables ++ [new]), writer.tick + 1⟩ others
        (by rwa [shelf.rows_put]) with ⟨made, tick, inserted, contents⟩
      refine ⟨new :: made, tick, ?_, by rw [List.map_cons, sameContent, contents, List.map_cons]⟩
      rw [shelf.rows_put, shelf.put_put, List.append_assoc, List.singleton_append] at inserted
      rw [create_of_free free]
      exact inserted

/-! ## Guests and components -/

theorem vmDTO_eq {row : VirtualMachineRow} {dto : VMDTO} (read : vmDTO row = some dto) :
    dto = row.toDTO row.knownDetails := by
  rcases Option.map_eq_some_iff.mp read with ⟨details, known, rfl⟩
  rw [VirtualMachineRow.knownDetails, known]
  rfl

theorem componentDTO_eq {row : NodeComponentRow} {dto : ComponentDTO}
    (read : componentDTO row = some dto) : dto = row.toDTO row.knownDetails := by
  rcases Option.map_eq_some_iff.mp read with ⟨details, known, rfl⟩
  rw [NodeComponentRow.knownDetails, known]
  rfl

theorem defaultString_of_ne {value : String} (given : value ≠ "") (fallback : String) :
    defaultString value fallback = value := if_neg given

theorem content_newVM {row : VirtualMachineRow} {dto : VMDTO} (read : vmDTO row = some dto)
    (status : row.status ≠ "") (writer : Writer) :
    (newVM runtime supply row.nodeID writer dto).id = row.id ∧
      (newVM runtime supply row.nodeID writer dto).content = row.content := by
  rw [vmDTO_eq read]
  simp only [newVM, VirtualMachineRow.toDTO, VirtualMachineRow.content, entityID_text,
    defaultString_of_ne status, VirtualMachineRow.knownDetails, detailsMap, Option.getD_some,
    and_self]

theorem content_newComponent {row : NodeComponentRow} {dto : ComponentDTO}
    (read : componentDTO row = some dto) (writer : Writer) :
    (newComponent runtime supply row.nodeID writer dto).id = row.id ∧
      (newComponent runtime supply row.nodeID writer dto).content = row.content := by
  rw [componentDTO_eq read]
  simp only [newComponent, NodeComponentRow.toDTO, NodeComponentRow.content, entityID_text,
    NodeComponentRow.knownDetails, detailsMap, Option.getD_some, and_self]

/-! ## Nodes -/

variable {runtime supply}

theorem nodeRowDTO_eq {before : Tables} {row : NodeRow} {dto : NodeDTO}
    (read : nodeRowDTO before row = some dto) :
    Reads before.agedVMs before.agedComponents row dto := by
  rcases Option.bind_eq_some_iff.mp read with ⟨details, known, read⟩
  rcases Option.bind_eq_some_iff.mp read with ⟨vms, vmsRead, read⟩
  rcases Option.bind_eq_some_iff.mp read with ⟨components, componentsRead, read⟩
  cases read
  refine ⟨vms, components, ?_, Keyed.forall₂_of_mapM_option vmsRead,
    Keyed.forall₂_of_mapM_option componentsRead⟩
  rw [NodeRow.knownDetails, known]
  rfl

/-- The ids a save maps: every node by the text of its id, and so its rack. -/
structure Maps (ids : List (String × UUID)) (row : NodeRow) : Prop where
  own : ids.lookup row.id.text = some row.id
  parent : ∀ parent, row.parentID = some parent → ids.lookup parent.text = some parent

theorem content_newNode {ids : List (String × UUID)} {row : NodeRow} (maps : Maps ids row)
    (vms : List VMDTO) (components : List ComponentDTO) (writer : Writer) :
    (newNode supply writer row.buildID ids (row.toDTO row.knownDetails vms components)
      row.id).content = row.content := by
  have parent : (((row.parentID.map UUID.text).filter (· ≠ "")).bind fun parent =>
      ids.lookup parent) = row.parentID := by
    cases mounted : row.parentID with
    | none => rfl
    | some parent =>
        have given : parent.text ≠ "" := by
          intro empty
          have length := parent.length_text
          rw [empty] at length
          cases length
        rw [Option.map_some, Option.filter_some, if_pos (by simpa using given), Option.bind_some]
        exact maps.parent parent mounted
  simp only [newNode, NodeRow.toDTO, NodeRow.content, NodeRow.knownDetails, savedDetails, detailsMap,
    Option.getD_some, if_true] at parent ⊢
  rw [parent]

theorem map_eq_of_content {Row Content Key : Type} {content : Row → Content} {key : Row → Key}
    (read : Content → Key) (kept : ∀ row, read (content row) = key row) {made rows : List Row}
    (same : made.map content = rows.map content) : made.map key = rows.map key := by
  have keys := congrArg (List.map read) same
  simpa only [List.map_map, Function.comp_def, kept] using keys

theorem vmIDs_of_content {made rows : List VirtualMachineRow}
    (same : made.map VirtualMachineRow.content = rows.map VirtualMachineRow.content) :
    made.map VirtualMachineRow.id = rows.map VirtualMachineRow.id :=
  @map_eq_of_content _ _ _ VirtualMachineRow.content VirtualMachineRow.id VirtualMachineRow.id
    (fun _ => rfl) _ _ same

theorem componentIDs_of_content {made rows : List NodeComponentRow}
    (same : made.map NodeComponentRow.content = rows.map NodeComponentRow.content) :
    made.map NodeComponentRow.id = rows.map NodeComponentRow.id :=
  @map_eq_of_content _ _ _ NodeComponentRow.content NodeComponentRow.id NodeComponentRow.id
    (fun _ => rfl) _ _ same

/-- Writing the nodes that were read from a build leaves rows of the same
contents, and so for the guests and components on them. -/
theorem insertNodes_spec (guests : NodeRow → List VirtualMachineRow)
    (parts : NodeRow → List NodeComponentRow) (buildID : UUID) (ids : List (String × UUID)) :
    ∀ {rows : List NodeRow} {dtos : List NodeDTO} (writer : Writer),
      List.Forall₂ (Reads guests parts) rows dtos →
      (∀ row ∈ rows, row.buildID = buildID ∧ Maps ids row) →
      (∀ row ∈ rows, ∀ vm ∈ guests row, vm.nodeID = row.id ∧ vm.status ≠ "") →
      (∀ row ∈ rows, ∀ component ∈ parts row, component.nodeID = row.id) →
      ((writer.tables.nodes ++ rows).map NodeRow.id).Nodup →
      ((writer.tables.virtualMachines ++ rows.flatMap guests).map VirtualMachineRow.id).Nodup →
      ((writer.tables.components ++ rows.flatMap parts).map NodeComponentRow.id).Nodup →
      ∃ nodes vms components tick, insertNodes runtime supply buildID ids writer dtos =
          .ok ⟨{ writer.tables with
            nodes := writer.tables.nodes ++ nodes
            virtualMachines := writer.tables.virtualMachines ++ vms
            components := writer.tables.components ++ components }, tick⟩ ∧
        nodes.map NodeRow.content = rows.map NodeRow.content ∧
        vms.map VirtualMachineRow.content =
          (rows.flatMap guests).map VirtualMachineRow.content ∧
        components.map NodeComponentRow.content =
          (rows.flatMap parts).map NodeComponentRow.content
  | [], _, writer, .nil, _, _, _, _, _, _ =>
      ⟨[], [], [], writer.tick, by simp [insertNodes], rfl, rfl, rfl⟩
  | row :: rows, dto :: dtos, writer, .cons read others, own, onNodes, inNodes, nodeIDs, vmIDs,
      componentIDs => by
      rcases List.forall_mem_cons.mp own with ⟨⟨inBuild, maps⟩, ownRest⟩
      rcases List.forall_mem_cons.mp onNodes with ⟨onNode, guestsRest⟩
      rcases List.forall_mem_cons.mp inNodes with ⟨inNode, partsRest⟩
      rcases read with ⟨vms, components, rfl, vmsRead, componentsRead⟩
      have content := @content_newNode supply _ _ maps vms components writer
      have sameID : (newNode supply writer row.buildID ids
          (row.toDTO row.knownDetails vms components) row.id).id = row.id := rfl
      have known : (ids.lookup (row.toDTO row.knownDetails vms components).id).getD buildID =
          row.id := by
        rw [show (row.toDTO row.knownDetails vms components).id = row.id.text from rfl, maps.own]
        rfl
      rw [inBuild] at content sameID
      rw [insertNodes, known]
      generalize newNode supply writer buildID ids (row.toDTO row.knownDetails vms components)
        row.id = new at content sameID
      -- The row of the node itself.
      have nodeList : (writer.tables.nodes ++ row :: rows).map NodeRow.id =
          (writer.tables.nodes ++ [new] ++ rows).map NodeRow.id := by
        simp [sameID]
      rw [nodeList] at nodeIDs
      have free : new.id ∉ writer.tables.nodes.map NodeRow.id := by
        have early := (List.nodup_append.mp (List.map_append ▸ nodeIDs)).1
        rw [List.map_append] at early
        exact fun taken => (List.nodup_append.mp early).2.2 _ taken _ List.mem_cons_self rfl
      -- Its guests.
      rw [List.flatMap_cons, ← List.append_assoc] at vmIDs componentIDs
      have vmsMade : List.Forall₂ (fun stored dto => ∀ writer,
          vmShelf.id (newVM runtime supply row.id writer dto) = vmShelf.id stored ∧
            (newVM runtime supply row.id writer dto).content = stored.content)
          (guests row) vms := by
        apply Keyed.forall₂_imp_of_mem vmsRead
        intro stored member dto read writer
        rcases onNode stored member with ⟨same, status⟩
        rw [← same]
        exact content_newVM runtime supply read status writer
      rcases insertEach_spec ⟨{ writer.tables with nodes := writer.tables.nodes ++ [new] },
        writer.tick + 1⟩ vmsMade (List.nodup_append.mp (List.map_append ▸ vmIDs)).1
        with ⟨madeVMs, vmTick, vmsInserted, vmContents⟩
      -- Its components.
      have componentsMade : List.Forall₂ (fun stored dto => ∀ writer,
          componentShelf.id (newComponent runtime supply row.id writer dto) =
              componentShelf.id stored ∧
            (newComponent runtime supply row.id writer dto).content = stored.content)
          (parts row) components := by
        apply Keyed.forall₂_imp_of_mem componentsRead
        intro stored member dto read writer
        rw [← inNode stored member]
        exact content_newComponent runtime supply read writer
      rcases insertEach_spec ⟨{ writer.tables with
          nodes := writer.tables.nodes ++ [new]
          virtualMachines := writer.tables.virtualMachines ++ madeVMs }, vmTick⟩ componentsMade
        (List.nodup_append.mp (List.map_append ▸ componentIDs)).1
        with ⟨madeComponents, componentTick, componentsInserted, componentContents⟩
      -- The nodes behind it.
      have vmList : (writer.tables.virtualMachines ++ madeVMs ++ rows.flatMap guests).map
          VirtualMachineRow.id = (writer.tables.virtualMachines ++ guests row ++
            rows.flatMap guests).map VirtualMachineRow.id := by
        simp only [List.map_append, vmIDs_of_content vmContents]
      have componentList : (writer.tables.components ++ madeComponents ++
          rows.flatMap parts).map NodeComponentRow.id =
            (writer.tables.components ++ parts row ++
              rows.flatMap parts).map NodeComponentRow.id := by
        simp only [List.map_append, componentIDs_of_content componentContents]
      rcases insertNodes_spec guests parts buildID ids ⟨{ writer.tables with
          nodes := writer.tables.nodes ++ [new]
          virtualMachines := writer.tables.virtualMachines ++ madeVMs
          components := writer.tables.components ++ madeComponents }, componentTick⟩ others ownRest
        guestsRest partsRest nodeIDs (vmList ▸ vmIDs) (componentList ▸ componentIDs)
        with ⟨nodes, laterVMs, laterComponents, tick, inserted, nodeContents, laterVMContents,
          laterComponentContents⟩
      refine ⟨new :: nodes, madeVMs ++ laterVMs, madeComponents ++ laterComponents, tick, ?_,
        by rw [List.map_cons, content, nodeContents, List.map_cons],
        by rw [List.map_append, vmContents, laterVMContents, List.flatMap_cons, List.map_append],
        by rw [List.map_append, componentContents, laterComponentContents, List.flatMap_cons,
          List.map_append]⟩
      simp only [List.append_assoc, List.singleton_append] at inserted
      rw [create_of_free free]
      dsimp only [bind, Except.bind, NodeRow.toDTO]
      rw [vmsInserted]
      dsimp only [vmShelf]
      rw [componentsInserted]
      exact inserted

/-! ## Ids -/

theorem idMap_lookup (runtime : Runtime) (supply : Supply) (key : UUID) :
    ∀ (nodes : List NodeDTO) (tick : Nat) (ids : List (String × UUID)),
      (∀ node ∈ nodes, ∃ id : UUID, node.id = id.text) →
      (∃ node ∈ nodes, node.id = key.text) ∨ ids.lookup key.text = some key →
      (idMap runtime supply tick nodes ids).lookup key.text = some key
  | [], _, _, _, known => by
      rcases known with ⟨_, member, _⟩ | known
      · cases member
      · exact known
  | node :: rest, tick, ids, spelled, known => by
      rcases List.forall_mem_cons.mp spelled with ⟨⟨id, isText⟩, spelledRest⟩
      rw [idMap, isText, entityID_text]
      apply idMap_lookup runtime supply key rest _ _ spelledRest
      rw [Table.lookup_set]
      by_cases own : key.text = id.text
      · right
        rw [if_pos own, UUID.text_inj.mp own]
      · rw [if_neg own]
        rcases known with ⟨other, member, same⟩ | known
        · left
          rcases List.mem_cons.mp member with rfl | member
          · exact absurd (same.symm.trans isText) own
          · exact ⟨other, member, same⟩
        · exact .inr known

theorem validated {runtime : Runtime} {nodes : List NodeDTO} {edges : List EdgeDTO}
    (valid : validateGraph runtime nodes edges = .ok ()) :
    (∀ node ∈ nodes, ∀ parent, node.parentID = some parent → parent ≠ "" →
      ∃ rack ∈ nodes, rack.id = parent) ∧
    ∀ edge ∈ edges, (∃ node ∈ nodes, node.id = edge.source) ∧
      ∃ node ∈ nodes, node.id = edge.target := by
  unfold validateGraph at valid
  split at valid
  · cases valid
  · cases valid
  split at valid
  swap
  · cases valid
  rename_i silent
  rcases List.append_eq_nil_iff.mp silent with ⟨nodesFine, edgesFine⟩
  have parents := (List.append_eq_nil_iff.mp (List.map_eq_nil_iff.mp nodesFine)).2
  rw [List.flatMap_eq_nil_iff] at parents
  constructor
  · intro node member parent mounted given
    have fine := parents node member
    rw [parentIssues, mounted, Option.filter_some, if_pos (by simpa using given)] at fine
    dsimp only at fine
    split at fine
    · cases fine
    · split at fine
      · cases fine
      · rename_i rack found
        exact ⟨rack, id_of_nodesByID found⟩
  · intro edge member
    have joins := (rules_of_edgeIssues_eq_nil (List.map_eq_nil_iff.mp edgesFine)).1 edge member
    rcases joins.source with ⟨source, hasSource⟩
    rcases joins.target with ⟨target, hasTarget⟩
    exact ⟨⟨source, id_of_nodesByID hasSource⟩, ⟨target, id_of_nodesByID hasTarget⟩⟩

/-! ## The build row -/

theorem buildToSyncInput_eq {tables : Tables} {build : BuildRow} {input : SyncGraphInput}
    (read : buildToSyncInput tables build = some input) :
    ∃ plan settings nodes, Gaming.parsePlan build.gamingPlan = some plan ∧
      detailsMap build.settings = some settings ∧
      List.Forall₂ (fun row dto => nodeRowDTO tables row = some dto)
        (tables.agedNodes build.id) nodes ∧
      input = {
        name := build.name
        revision := build.revision
        kind := build.kind
        settings := some settings
        gamingPlan := some plan
        nodes := nodes
        edges := (tables.agedEdges build.id).map EdgeRow.toDTO } := by
  rcases Option.bind_eq_some_iff.mp read with ⟨plan, planned, read⟩
  rcases Option.bind_eq_some_iff.mp read with ⟨settings, set, read⟩
  rcases Option.bind_eq_some_iff.mp read with ⟨nodes, noded, read⟩
  cases read
  exact ⟨plan, settings, nodes, planned, set, Keyed.forall₂_of_mapM_option noded, rfl⟩

theorem StoredBuild.plan_isNormal (stored : StoredBuild) {plan : Gaming.Plan}
    (planned : Gaming.parsePlan stored.build.gamingPlan = some plan) : plan.IsNormal := by
  rcases stored.plan with empty | ⟨normal, isNormal, written⟩
  · rw [empty] at planned
    cases planned
    exact Gaming.Plan.isNormal_empty
  · rw [written, Gaming.parsePlan_toJson isNormal] at planned
    cases planned
    exact isNormal

theorem nextBuild_spec (stored : StoredBuild) {input : SyncGraphInput}
    (read : buildToSyncInput stored.tables stored.build = some input) :
    ∃ next, nextBuild stored.build input = .ok next ∧ SameSettings stored.build next := by
  rcases buildToSyncInput_eq read with ⟨plan, settings, nodes, planned, set, _, rfl⟩
  have normal := stored.plan_isNormal planned
  have named : stored.build.kind ≠ "" := by
    intro empty
    have known := stored.kind
    rw [empty] at known
    exact absurd known (by decide)
  refine ⟨{ stored.build with
    settings := .obj settings
    revision := stored.build.revision + 1
    gamingPlan := plan.toJson }, ?_, ⟨rfl, rfl, rfl, ?_, set.symm, rfl⟩⟩
  · rw [nextBuild, if_neg (fun conflict => conflict rfl), applyKindAndPlan]
    dsimp only
    rw [if_neg named, Gaming.parseKind_of_mem stored.kind,
      show plan.normalize = .ok plan from normal]
    rfl
  · rw [planned]
    exact Gaming.parsePlan_toJson normal

/-! ## The whole save -/

theorem filter_replaced {Row : Type} {inside : Row → Bool} (rows : List Row) {made : List Row}
    (all : ∀ row ∈ made, inside row = true) :
    ((rows.filter fun row => !inside row) ++ made).filter inside = made := by
  rw [List.filter_append, List.filter_filter, List.filter_eq_self.mpr all]
  have none : rows.filter (fun row => inside row && !inside row) = [] := by
    apply List.filter_eq_nil_iff.mpr
    intro row _
    cases inside row <;> decide
  rw [none, List.nil_append]

theorem kept_perm {Row : Type} (inside : Row → Bool) (rows : List Row) :
    ((rows.filter fun row => !inside row) ++ rows.filter inside).Perm rows :=
  List.perm_append_comm.trans (List.filter_append_perm inside rows)

structure Cleared (before after : Tables) (buildID : UUID) : Prop where
  nodes : after.nodes = before.nodes.filter fun node => !decide (node.buildID = buildID)
  virtualMachines : after.virtualMachines =
    before.virtualMachines.filter fun vm => !before.holds buildID vm.nodeID
  components : after.components =
    before.components.filter fun component => !before.holds buildID component.nodeID
  edges : after.edges = before.edges.filter fun edge => !decide (edge.buildID = buildID)
  services : after.services =
    before.services.filter fun service => !decide (service.buildID = buildID)

theorem cleared_deleteGraph (tables : Tables) (builds : List BuildRow) (buildID : UUID) :
    Cleared tables (deleteGraph { tables with builds := builds } buildID) buildID := by
  constructor <;> simp only [deleteGraph, ne_eq, decide_not] <;> rfl

namespace Reading

variable {stored : StoredBuild} (reading : Reading stored)

theorem ids : (reading.nodes.map NodeRow.id).Nodup := by
  apply ((reading.nodes_perm.map NodeRow.id).nodup_iff).mpr
  exact stored.nodeIDs.sublist (List.filter_sublist.map NodeRow.id)

theorem mem_ids (id : UUID) :
    id ∈ reading.nodes.map NodeRow.id ↔ stored.tables.holds stored.build.id id = true := by
  rw [(reading.nodes_perm.map NodeRow.id).mem_iff, Tables.holds, decide_eq_true_eq]

theorem gathered {Row : Type} {rows : List Row} {nodeOf : Row → UUID} {on : NodeRow → List Row}
    (onNode : ∀ node, (on node).Perm (rows.filter fun row => nodeOf row = node.id)) :
    (reading.nodes.flatMap on).Perm
      (rows.filter fun row => stored.tables.holds stored.build.id (nodeOf row)) := by
  have byNode := List.Perm.flatMap_left reading.nodes fun node _ => onNode node
  have byID := Keyed.flatMap_filter_perm nodeOf rows reading.ids
  rw [List.flatMap_map] at byID
  apply (byNode.trans byID).trans
  rw [List.filter_congr]
  intro row _
  rw [Bool.eq_iff_iff, decide_eq_true_eq]
  exact reading.mem_ids (nodeOf row)

theorem maps {runtime : Runtime} {supply : Supply} {dtos : List NodeDTO} {edges : List EdgeDTO}
    (read : List.Forall₂ (Reads reading.guests reading.parts) reading.nodes dtos)
    (valid : validateGraph runtime dtos edges = .ok ()) :
    (∀ key : UUID, (∃ dto ∈ dtos, dto.id = key.text) →
      (idMap runtime supply 0 dtos []).lookup key.text = some key) ∧
    ∀ row ∈ reading.nodes, Maps (idMap runtime supply 0 dtos []) row := by
  have spelled : ∀ dto ∈ dtos, ∃ id : UUID, dto.id = id.text := by
    intro dto member
    rcases List.forall₂_iff_get.mp read with ⟨length, each⟩
    rcases List.mem_iff_get.mp member with ⟨index, rfl⟩
    rcases each index (by omega) index.isLt with ⟨_, _, isDTO, _⟩
    exact ⟨_, by rw [isDTO]; rfl⟩
  have known : ∀ key : UUID, (∃ dto ∈ dtos, dto.id = key.text) →
      (idMap runtime supply 0 dtos []).lookup key.text = some key :=
    fun key listed => idMap_lookup runtime supply key dtos 0 [] spelled (.inl listed)
  refine ⟨known, fun row member => ?_⟩
  rcases List.forall₂_iff_get.mp read with ⟨length, each⟩
  rcases List.mem_iff_get.mp member with ⟨index, rfl⟩
  have bound : index.val < dtos.length := length ▸ index.isLt
  rcases each index index.isLt bound with ⟨_, _, isDTO, _⟩
  have listed : dtos.get ⟨index, bound⟩ ∈ dtos := List.get_mem _ _
  constructor
  · exact known _ ⟨_, listed, by rw [isDTO]; rfl⟩
  · intro parent mounted
    apply known
    apply (validated valid).1 _ listed
    · rw [isDTO, NodeRow.toDTO, mounted]
      rfl
    · intro empty
      have characters := parent.length_text
      rw [empty] at characters
      cases characters

/-- Rows of the contents that were read, in place of those that were deleted,
are the nodes there were, with these cables. -/
theorem rewritten {tables : Tables} (cleared : Cleared stored.tables tables stored.build.id)
    {nodes : List NodeRow} {vms : List VirtualMachineRow} {components : List NodeComponentRow}
    {edges : List EdgeRow} {cables : List EdgeDTO}
    (nodeContents : nodes.map NodeRow.content = reading.nodes.map NodeRow.content)
    (vmContents : vms.map VirtualMachineRow.content =
      (reading.nodes.flatMap reading.guests).map VirtualMachineRow.content)
    (componentContents : components.map NodeComponentRow.content =
      (reading.nodes.flatMap reading.parts).map NodeComponentRow.content)
    (edgeContents : edges.map (fun edge => (edge.buildID, edge.toDTO)) =
      cables.map fun cable => (stored.build.id, cable)) :
    Rewritten stored.tables { tables with
      nodes := tables.nodes ++ nodes
      virtualMachines := tables.virtualMachines ++ vms
      components := tables.components ++ components
      edges := tables.edges ++ edges } stored.build.id cables := by
  have vmsGathered := @reading.gathered _ _ stored.tables.virtualMachines VirtualMachineRow.nodeID
    reading.guests reading.guests_perm
  have componentsGathered := @reading.gathered _ _ stored.tables.components NodeComponentRow.nodeID
    reading.parts reading.parts_perm
  have nodesOf : ∀ kept : Tables, kept.nodes = tables.nodes ++ nodes →
      kept.nodesOf stored.build.id = nodes := by
    intro kept same
    rw [Tables.nodesOf, same, cleared.nodes]
    apply filter_replaced
    intro node member
    have builds := @map_eq_of_content _ _ _ NodeRow.content NodeRow.buildID NodeRow.buildID
      (fun _ => rfl) _ _ nodeContents
    have listed := @List.mem_map_of_mem _ _ _ _ NodeRow.buildID member
    rw [builds] at listed
    rcases List.mem_map.mp listed with ⟨row, isRead, sameBuild⟩
    rw [← sameBuild]
    exact (List.mem_filter.mp (reading.nodes_perm.mem_iff.mp isRead)).2
  have holds : ∀ kept : Tables, kept.nodes = tables.nodes ++ nodes →
      kept.holds stored.build.id = stored.tables.holds stored.build.id := by
    intro kept same
    funext id
    have ids := @map_eq_of_content _ _ _ NodeRow.content NodeRow.id NodeRow.id (fun _ => rfl) _ _
      nodeContents
    rw [Bool.eq_iff_iff, ← reading.mem_ids, Tables.holds, decide_eq_true_eq,
      nodesOf kept same, ids]
  constructor
  · rw [nodesOf _ rfl, nodeContents]
    exact reading.nodes_perm.map _
  · rw [Tables.vmsOf, holds _ rfl]
    dsimp only
    rw [cleared.virtualMachines, filter_replaced, vmContents]
    · exact vmsGathered.map _
    · intro vm member
      have nodeIDs := @map_eq_of_content _ _ _ VirtualMachineRow.content VirtualMachineRow.nodeID
        VirtualMachineRow.nodeID (fun _ => rfl) _ _ vmContents
      have listed := @List.mem_map_of_mem _ _ _ _ VirtualMachineRow.nodeID member
      rw [nodeIDs] at listed
      rcases List.mem_map.mp listed with ⟨row, isRead, sameNode⟩
      rw [← sameNode]
      exact (List.mem_filter.mp (vmsGathered.mem_iff.mp isRead)).2
  · rw [Tables.componentsOf, holds _ rfl]
    dsimp only
    rw [cleared.components, filter_replaced, componentContents]
    · exact componentsGathered.map _
    · intro component member
      have nodeIDs := @map_eq_of_content _ _ _ NodeComponentRow.content NodeComponentRow.nodeID
        NodeComponentRow.nodeID (fun _ => rfl) _ _ componentContents
      have listed := @List.mem_map_of_mem _ _ _ _ NodeComponentRow.nodeID member
      rw [nodeIDs] at listed
      rcases List.mem_map.mp listed with ⟨row, isRead, sameNode⟩
      rw [← sameNode]
      exact (List.mem_filter.mp (componentsGathered.mem_iff.mp isRead)).2
  · have contents := congrArg (List.map Prod.snd) edgeContents
    rw [List.map_map, List.map_map] at contents
    rw [Tables.edgesOf]
    dsimp only
    rw [cleared.edges, filter_replaced]
    · exact List.Perm.of_eq (contents.trans (List.map_id cables))
    · intro edge member
      have listed := @List.mem_map_of_mem _ _ _ _
        (fun edge : EdgeRow => (edge.buildID, edge.toDTO)) member
      rw [edgeContents] at listed
      rcases List.mem_map.mp listed with ⟨cable, _, same⟩
      exact decide_eq_true (congrArg Prod.fst same).symm

end Reading

/-- A cable as its row says it: columns with defaults take them. -/
def EdgeDTO.written (edge : EdgeDTO) : EdgeDTO :=
  { edge with
    type := defaultString edge.type "ethernet"
    speed := defaultString edge.speed "1 GbE"
    direction := defaultString edge.direction "auto" }

theorem written_toDTO {edge : EdgeRow}
    (given : edge.type ≠ "" ∧ edge.speed ≠ "" ∧ edge.direction ≠ "") :
    edge.toDTO.written = edge.toDTO := by
  rcases given with ⟨type, speed, direction⟩
  simp only [EdgeDTO.written, EdgeRow.toDTO, defaultString_of_ne type, defaultString_of_ne speed,
    defaultString_of_ne direction]

structure CableOf (sent : EdgeDTO) (edge : EdgeRow) : Prop where
  source : sent.source = edge.sourceNodeID.text
  target : sent.target = edge.targetNodeID.text

theorem content_newEdges (supply : Supply) (buildID : UUID) {edges : List EdgeRow}
    {sent : EdgeRow → EdgeDTO} (cables : ∀ edge ∈ edges, CableOf (sent edge) edge) (tick : Nat) :
    (((edges.map fun edge => (sent edge, edge.sourceNodeID, edge.targetNodeID)).zipIdx tick).map
      (newEdge supply buildID)).map (fun edge => (edge.buildID, edge.toDTO)) =
      (edges.map fun edge => (sent edge).written).map fun cable => (buildID, cable) := by
  induction edges generalizing tick with
  | nil => rfl
  | cons edge rest induction =>
      rcases List.forall_mem_cons.mp cables with ⟨cable, others⟩
      have same : (newEdge supply buildID
          ((sent edge, edge.sourceNodeID, edge.targetNodeID), tick)).toDTO =
          (sent edge).written := by
        simp only [newEdge, EdgeRow.toDTO, EdgeDTO.written, ← cable.source, ← cable.target]
      rw [List.map_cons, List.zipIdx_cons, List.map_cons, List.map_cons, induction others, same,
        List.map_cons, List.map_cons]
      rfl

theorem joinedEdges {ids : List (String × UUID)} {edges : List EdgeRow}
    {sent : EdgeRow → EdgeDTO} (cables : ∀ edge ∈ edges, CableOf (sent edge) edge)
    (known : ∀ edge ∈ edges, ids.lookup edge.sourceNodeID.text = some edge.sourceNodeID ∧
      ids.lookup edge.targetNodeID.text = some edge.targetNodeID) :
    (edges.map sent).filterMap (joinedEdge ids) =
      edges.map fun edge => (sent edge, edge.sourceNodeID, edge.targetNodeID) := by
  induction edges with
  | nil => rfl
  | cons edge rest induction =>
      rcases List.forall_mem_cons.mp known with ⟨⟨source, target⟩, others⟩
      rcases List.forall_mem_cons.mp cables with ⟨cable, otherCables⟩
      have joined : joinedEdge ids (sent edge) =
          some (sent edge, edge.sourceNodeID, edge.targetNodeID) := by
        rw [joinedEdge, cable.source, source, cable.target, target]
        rfl
      rw [List.map_cons, List.filterMap_cons, joined, induction otherCables others, List.map_cons]

/-- Saving nodes that were read from a build goes through. It leaves the nodes as
they are, the cables that were sent, and no service. -/
theorem Reading.saveRevision_spec (runtime : Runtime) (supply : Supply) {stored : StoredBuild}
    (reading : Reading stored) {input : SyncGraphInput} {next : BuildRow}
    (saved : nextBuild stored.build input = .ok next)
    (nodesRead : List.Forall₂ (Reads reading.guests reading.parts) reading.nodes input.nodes)
    {sent : EdgeRow → EdgeDTO} (edgesRead : input.edges = reading.edges.map sent)
    (cables : ∀ edge ∈ reading.edges, CableOf (sent edge) edge)
    (noServices : input.services = [])
    (valid : validateGraph runtime input.nodes input.edges = .ok ()) :
    ∃ after, saveRevision runtime supply stored.tables stored.build input = .ok after ∧
      next ∈ after.builds ∧
      Rewritten stored.tables after stored.build.id
        (reading.edges.map fun edge => (sent edge).written) ∧
      after.servicesOf stored.build.id = [] := by
  rcases @reading.maps _ _ supply _ _ nodesRead valid with ⟨known, maps⟩
  have inBuild : ∀ row ∈ reading.nodes, row.buildID = stored.build.id := by
    intro row member
    exact of_decide_eq_true (List.mem_filter.mp (reading.nodes_perm.mem_iff.mp member)).2
  have onNode : ∀ (node : NodeRow) (vm : VirtualMachineRow), vm ∈ reading.guests node →
      vm.nodeID = node.id ∧ vm.status ≠ "" := by
    intro node vm member
    rcases List.mem_filter.mp ((reading.guests_perm node).mem_iff.mp member) with ⟨listed, on⟩
    exact ⟨of_decide_eq_true on, stored.statuses vm listed⟩
  have inNode : ∀ (node : NodeRow) (component : NodeComponentRow),
      component ∈ reading.parts node → component.nodeID = node.id := by
    intro node component member
    exact of_decide_eq_true
      (List.mem_filter.mp ((reading.parts_perm node).mem_iff.mp member)).2
  have vmsGathered := @reading.gathered _ _ stored.tables.virtualMachines VirtualMachineRow.nodeID
    reading.guests reading.guests_perm
  have componentsGathered := @reading.gathered _ _ stored.tables.components NodeComponentRow.nodeID
    reading.parts reading.parts_perm
  rw [saveRevision, saved]
  dsimp only [bind, Except.bind]
  rw [syncGraph, noServices, valid]
  dsimp only [bind, Except.bind]
  have cleared := cleared_deleteGraph stored.tables (stored.tables.builds.map fun row =>
    if row.id = stored.build.id then next else row) stored.build.id
  have builds : next ∈ (deleteGraph { stored.tables with
      builds := stored.tables.builds.map fun row => if row.id = stored.build.id then next else row }
      stored.build.id).builds :=
    List.mem_map.mpr ⟨stored.build, stored.listed, if_pos rfl⟩
  generalize deleteGraph { stored.tables with
    builds := stored.tables.builds.map fun row => if row.id = stored.build.id then next else row }
    stored.build.id = tables at cleared builds
  -- What is left of other builds, and the rows of this one, have ids of their own.
  have nodeIDs : ((tables.nodes ++ reading.nodes).map NodeRow.id).Nodup := by
    rw [cleared.nodes]
    exact (((kept_perm _ _).symm.trans (reading.nodes_perm.symm.append_left _)).map
      NodeRow.id).nodup_iff.mp stored.nodeIDs
  have vmIDs : ((tables.virtualMachines ++ reading.nodes.flatMap reading.guests).map
      VirtualMachineRow.id).Nodup := by
    rw [cleared.virtualMachines]
    exact (((kept_perm _ _).symm.trans (vmsGathered.symm.append_left _)).map
      VirtualMachineRow.id).nodup_iff.mp stored.vmIDs
  have componentIDs : ((tables.components ++ reading.nodes.flatMap reading.parts).map
      NodeComponentRow.id).Nodup := by
    rw [cleared.components]
    exact (((kept_perm _ _).symm.trans (componentsGathered.symm.append_left _)).map
      NodeComponentRow.id).nodup_iff.mp stored.componentIDs
  rcases @insertNodes_spec runtime supply reading.guests reading.parts stored.build.id
    (idMap runtime supply 0 input.nodes []) _ _ ⟨tables, input.nodes.length⟩ nodesRead
    (fun row member => ⟨inBuild row member, maps row member⟩) (fun row _ vm => onNode row vm)
    (fun row _ component => inNode row component) nodeIDs vmIDs componentIDs with
    ⟨nodes, vms, components, tick, inserted, nodeContents, vmContents, componentContents⟩
  rw [inserted]
  dsimp only
  -- The cables.
  have ends : ∀ edge ∈ reading.edges,
      (idMap runtime supply 0 input.nodes []).lookup edge.sourceNodeID.text =
          some edge.sourceNodeID ∧
        (idMap runtime supply 0 input.nodes []).lookup edge.targetNodeID.text =
          some edge.targetNodeID := by
    intro edge member
    have listed : sent edge ∈ input.edges := edgesRead ▸ List.mem_map_of_mem member
    have cable := cables edge member
    rcases (validated valid).2 (sent edge) listed with ⟨source, target⟩
    rw [cable.source] at source
    rw [cable.target] at target
    exact ⟨known _ source, known _ target⟩
  rw [edgesRead, joinedEdges cables ends, List.filterMap_nil, List.zipIdx_nil, List.map_nil,
    List.append_nil]
  refine ⟨_, rfl, builds, ?_, ?_⟩
  · apply reading.rewritten cleared nodeContents vmContents componentContents
    exact content_newEdges supply _ cables tick
  · have services := @filter_replaced _ (fun service => decide (service.buildID = stored.build.id))
      stored.tables.services [] (by simp)
    rw [List.append_nil] at services
    rw [Tables.servicesOf]
    dsimp only
    rw [cleared.services]
    exact services

/-- Older rows first, the order of `BuildToSyncInput`. -/
def StoredBuild.aged (stored : StoredBuild) : Reading stored where
  nodes := stored.tables.agedNodes stored.build.id
  guests := stored.tables.agedVMs
  parts := stored.tables.agedComponents
  edges := stored.tables.agedEdges stored.build.id
  nodes_perm := byAge_perm _ _ _
  guests_perm _ := byAge_perm _ _ _
  parts_perm _ := byAge_perm _ _ _
  edges_perm := byAge_perm _ _ _

/-- Saving what was read from a build goes through. It leaves the settings and
the topology as they are, and no service. -/
theorem saveRevision_spec (runtime : Runtime) (supply : Supply) (stored : StoredBuild)
    {input : SyncGraphInput} (read : buildToSyncInput stored.tables stored.build = some input)
    (valid : validateGraph runtime input.nodes input.edges = .ok ()) :
    ∃ after, saveRevision runtime supply stored.tables stored.build input = .ok after ∧
      (∃ row ∈ after.builds, SameSettings stored.build row) ∧
      SameTopology stored.tables after stored.build.id ∧ after.servicesOf stored.build.id = [] := by
  rcases nextBuild_spec stored read with ⟨next, saved, sameSettings⟩
  rcases buildToSyncInput_eq read with ⟨plan, settings, dtos, _, _, nodesRead, isInput⟩
  have inputNodes : input.nodes = dtos := by rw [isInput]
  have inputEdges : input.edges = stored.aged.edges.map EdgeRow.toDTO := by rw [isInput]; rfl
  have inputServices : input.services = [] := by rw [isInput]
  have nodesAged : List.Forall₂ (Reads stored.aged.guests stored.aged.parts) stored.aged.nodes
      input.nodes := inputNodes ▸ nodesRead.imp fun _ _ => nodeRowDTO_eq
  rcases stored.aged.saveRevision_spec runtime supply saved nodesAged inputEdges
    (fun _ _ => ⟨rfl, rfl⟩) inputServices valid with ⟨after, done, builds, rewritten, wiped⟩
  refine ⟨after, done, ⟨next, builds, sameSettings⟩, ⟨rewritten.nodes,
    rewritten.virtualMachines, rewritten.components, ?_⟩, wiped⟩
  apply rewritten.edges.trans
  have same : (stored.aged.edges.map fun edge => edge.toDTO.written) =
      stored.aged.edges.map EdgeRow.toDTO := by
    apply List.map_congr_left
    intro edge member
    exact written_toDTO (stored.edgeDefaults edge
      (List.mem_filter.mp (stored.aged.edges_perm.mem_iff.mp member)).1)
  rw [same]
  exact stored.aged.edges_perm.map _

/-- A build keeps all it stores exactly when it has no service instances. -/
theorem rewriting_keeps_build_iff (runtime : Runtime) (supply : Supply) (stored : StoredBuild)
    {input : SyncGraphInput} (read : buildToSyncInput stored.tables stored.build = some input)
    (valid : validateGraph runtime input.nodes input.edges = .ok ()) :
    ∃ after, saveRevision runtime supply stored.tables stored.build input = .ok after ∧
      (SameBuild stored.tables after stored.build ↔
        stored.tables.servicesOf stored.build.id = []) := by
  rcases saveRevision_spec runtime supply stored read valid with
    ⟨after, saved, settings, topology, wiped⟩
  refine ⟨after, saved, ?_⟩
  constructor
  · intro same
    have services := same.services
    rw [wiped] at services
    exact services.symm.eq_nil
  · intro none
    exact ⟨settings, topology, by rw [wiped, none]⟩

end

/-! ## A build with a service -/

def plainSupply : Supply := ⟨fun _ => UUID.numbered 9, fun tick => tick⟩

/-- A switch, and a service that waits to be placed. -/
def serviceBuild : StoredBuild where
  tables := {
    builds := [{ id := UUID.numbered 0, name := "Home" }]
    nodes :=
      [{ id := UUID.numbered 1, buildID := UUID.numbered 0, type := "switch", name := "Switch" }]
    services := [{
      id := UUID.numbered 2
      buildID := UUID.numbered 0
      catalogServiceID := UUID.numbered 3
      name := "Jellyfin" }] }
  build := { id := UUID.numbered 0, name := "Home" }
  listed := List.mem_singleton_self _
  nodeIDs := List.nodup_singleton _
  vmIDs := List.nodup_nil
  componentIDs := List.nodup_nil
  kind := by decide
  plan := .inl rfl
  edgeDefaults := nofun
  statuses := nofun

theorem serviceBuild_read :
    ∃ input, buildToSyncInput serviceBuild.tables serviceBuild.build = some input ∧
      validateGraph Runtime.plain input.nodes input.edges = .ok () := by
  exact ⟨_, rfl, rfl⟩

/-- A switch, and a server with a disk and two guests, cabled to each other. -/
def serverBuild : StoredBuild where
  tables := {
    builds := [{ id := UUID.numbered 0, name := "Home" }]
    nodes := [
      { id := UUID.numbered 1, buildID := UUID.numbered 0, type := "switch", name := "Switch" },
      { id := UUID.numbered 2, buildID := UUID.numbered 0, type := "server", name := "Server"
        ip := "10.0.0.2", powerDraw := 60, details := .obj [("model", .str "R1")] }]
    virtualMachines := [
      { id := UUID.numbered 3, nodeID := UUID.numbered 2, name := "Files", type := "vm"
        cpuCores := 2, ramMB := 4096 },
      { id := UUID.numbered 4, nodeID := UUID.numbered 2, name := "Media", type := "container"
        status := "running" }]
    components := [
      { id := UUID.numbered 5, nodeID := UUID.numbered 2, type := "disk", name := "Disk"
        details := .obj [("size", .num 4)] }]
    edges := [
      { id := UUID.numbered 6, buildID := UUID.numbered 0, sourceNodeID := UUID.numbered 1
        sourceHandle := "eth0", targetNodeID := UUID.numbered 2, targetHandle := "eth0"
        speed := "10 GbE" }] }
  build := { id := UUID.numbered 0, name := "Home" }
  listed := List.mem_singleton_self _
  nodeIDs := by decide
  vmIDs := by decide
  componentIDs := by decide
  kind := by decide
  plan := .inl rfl
  edgeDefaults := by decide
  statuses := by decide

theorem serverBuild_read :
    ∃ input, buildToSyncInput serverBuild.tables serverBuild.build = some input ∧
      validateGraph Runtime.plain input.nodes input.edges = .ok () := by
  exact ⟨_, rfl, rfl⟩

theorem rewriting_keeps_build_iff_serverBuild :
    (∃ input after, saveRevision Runtime.plain plainSupply serverBuild.tables serverBuild.build
        input = .ok after ∧ SameBuild serverBuild.tables after serverBuild.build) ∧
      ∃ input after, saveRevision Runtime.plain plainSupply serviceBuild.tables serviceBuild.build
        input = .ok after ∧ ¬SameBuild serviceBuild.tables after serviceBuild.build := by
  rcases serverBuild_read with ⟨server, serverRead, serverValid⟩
  rcases serviceBuild_read with ⟨service, serviceRead, serviceValid⟩
  rcases rewriting_keeps_build_iff Runtime.plain plainSupply serverBuild serverRead serverValid with
    ⟨kept, keptSaved, keeps⟩
  rcases rewriting_keeps_build_iff Runtime.plain plainSupply serviceBuild serviceRead
    serviceValid with ⟨lost, lostSaved, loses⟩
  have noService : serverBuild.tables.servicesOf serverBuild.build.id = [] := rfl
  have oneService : serviceBuild.tables.servicesOf serviceBuild.build.id ≠ [] := by
    simp [Tables.servicesOf, serviceBuild]
  exact ⟨⟨server, kept, keptSaved, keeps.mpr noService⟩, service, lost, lostSaved,
    fun same => oneService (loses.mp same)⟩

/-- Saving a build from its own graph loses a service. -/
theorem rewriting_loses_service :
    ¬∀ (runtime : Runtime) (supply : Supply) (stored : StoredBuild) (input : SyncGraphInput),
      buildToSyncInput stored.tables stored.build = some input →
      validateGraph runtime input.nodes input.edges = .ok () →
      ∃ after, saveRevision runtime supply stored.tables stored.build input = .ok after ∧
        SameBuild stored.tables after stored.build := by
  intro claim
  rcases serviceBuild_read with ⟨input, read, valid⟩
  rcases claim Runtime.plain plainSupply serviceBuild input read valid with ⟨after, saved, same⟩
  rcases saveRevision_spec Runtime.plain plainSupply serviceBuild read valid with
    ⟨written, savedAgain, _, _, wiped⟩
  cases saved.symm.trans savedAgain
  have services := same.services
  rw [wiped] at services
  exact absurd services.symm.eq_nil (by simp [Tables.servicesOf, serviceBuild])

end HomelabBuilder.Services
