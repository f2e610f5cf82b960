import HomelabBuilder.Canvas.ProposalPreview
import HomelabBuilder.Services.ConnectionKeys

/-! # What a review shows

Every node and cable that a proposal adds, changes or removes is drawn, marked and listed.
-/

namespace HomelabBuilder.Canvas

open Services (ProposalDiff ConnectionDiff NodeDiff StoredBuild NodeRow EdgeRow EdgeDTO Runtime
  NodeDTO UUID diffBuilds nodeComparison connectionComparison describeNode describeConnection
  nodeNames keyOfCable orderedPair)

/-! ## Canvases of stored builds -/

/-- The id, the kind of card and the rack of a card. -/
def cardPlace (card : FlowNode) : String × String × Option String :=
  (card.id, card.type, card.parentID.filter (· ≠ ""))

def rowPlace (row : NodeRow) : String × String × Option String :=
  (row.id.text, cardType row.type, row.parentID.map (·.text))

def cableEnds (edge : FlowEdge) : LinkEnd × String := (edge.ends, edge.data.connectionType)

def rowEnds (row : EdgeRow) : LinkEnd × String := (linkEnd row.toDTO, row.type)

/-- The canvas has the nodes and cables of a stored build, in any order. -/
structure Shows (live : Canvas) (stored : StoredBuild) : Prop where
  cards : (live.nodes.map cardPlace).Perm (stored.nodes.map rowPlace)
  cables : (live.edges.map cableEnds).Perm (stored.edges.map rowEnds)

section

variable (parseJSON : String → Option Json)

theorem cardPlace_flowNode (tables : Services.Tables) (row : NodeRow) :
    cardPlace (flowNode parseJSON (apiNode tables row)) = rowPlace row := by
  have parent : (apiNode tables row).parentID.filter (· ≠ "") = row.parentID.map (·.text) :=
    filter_text row.parentID
  rw [cardPlace, rowPlace]
  simp only [flowNode, parent, filter_text]
  rfl

theorem cableEnds_flowEdge {row : EdgeRow} (given : row.type ≠ "") :
    cableEnds (flowEdge (apiEdge row)) = rowEnds row := by
  have type : (flowEdge (apiEdge row)).data.connectionType = row.type := by
    by_cases power : row.type = "power"
    · simp [flowEdge, apiEdge, power]
    · simp [flowEdge, apiEdge, power, orElse_of_ne given]
  rw [cableEnds, type]
  rfl

theorem places_mapBuildToFlow (stored : StoredBuild) :
    ((mapBuildToFlow parseJSON (apiBuild stored.tables stored.build)).nodes.map cardPlace).Perm
      (stored.nodes.map rowPlace) := by
  have racksFirst := (List.filter_append_perm
    (fun node : BuildNode => decide (node.type = "rack"))
    (apiBuild stored.tables stored.build).nodes).map (cardPlace ∘ flowNode parseJSON)
  have rows : (apiBuild stored.tables stored.build).nodes.map (cardPlace ∘ flowNode parseJSON) =
      stored.nodes.map rowPlace := by
    rw [apiBuild, List.map_map]
    apply List.map_congr_left
    intro row _
    exact cardPlace_flowNode parseJSON stored.tables row
  rw [mapBuildToFlow, List.map_map, ← rows]
  simpa using racksFirst

theorem ends_mapBuildToFlow (stored : StoredBuild) :
    (mapBuildToFlow parseJSON (apiBuild stored.tables stored.build)).edges.map cableEnds =
      stored.edges.map rowEnds := by
  rw [mapBuildToFlow, apiBuild, List.map_map, List.map_map]
  apply List.map_congr_left
  intro row listed
  exact cableEnds_flowEdge (stored.edgeDefaults row (List.mem_filter.mp listed).1).1

theorem shows_mapBuildToFlow (stored : StoredBuild) :
    Shows (mapBuildToFlow parseJSON (apiBuild stored.tables stored.build)) stored where
  cards := places_mapBuildToFlow parseJSON stored
  cables := List.Perm.of_eq (ends_mapBuildToFlow parseJSON stored)

end

/-! ## Rows of validated builds -/

section

variable {runtime : Runtime} {stored : StoredBuild} {nodes : List NodeDTO}
  {settings : List (String × Json)}

theorem nodup_nodeIDs (stored : StoredBuild) : (stored.nodes.map (·.id.text)).Nodup := by
  have ids : (stored.nodes.map NodeRow.id).Nodup :=
    stored.nodeIDs.sublist (List.filter_sublist.map NodeRow.id)
  have texts := ids.map fun _ _ => UUID.text_inj.mp
  rwa [List.map_map] at texts

theorem nodup_connectionKeys (validated : Validated runtime stored nodes settings) :
    (stored.edges.map Services.connectionKey).Nodup := by
  have graph := (Services.validateGraph_eq_ok_iff.mp validated.valid).2.2
  unfold Services.graphIssues at graph
  exact Services.nodup_connectionKey (List.map_eq_nil_iff.mp (List.append_eq_nil_iff.mp graph).2)

theorem exists_row_of_read (validated : Validated runtime stored nodes settings) {dto : NodeDTO}
    (listed : dto ∈ nodes) : ∃ row ∈ stored.nodes, dto.id = row.id.text ∧ dto.type = row.type := by
  have read := Keyed.forall₂_of_mapM_option validated.read
  rcases Keyed.exists_of_forall₂ read.flip listed with ⟨row, member, isRead⟩
  exact ⟨row, member, (place_storedNode isRead).1, (place_storedNode isRead).2.1⟩

theorem mounted_row (validated : Validated runtime stored nodes settings) {row : NodeRow}
    (listed : row ∈ stored.nodes) {parent : UUID} (mounted : row.parentID = some parent) :
    row.type ≠ "rack" ∧ ∃ rack ∈ stored.nodes, rack.id = parent ∧ rack.type = "rack" := by
  have read := Keyed.forall₂_of_mapM_option validated.read
  rcases Keyed.exists_of_forall₂ read listed with ⟨dto, member, isRead⟩
  rcases place_storedNode isRead with ⟨_, type, place⟩
  rw [mounted, Option.map_some] at place
  have given : parent.text ≠ "" := by
    intro empty
    have length := parent.length_text
    rw [empty] at length
    cases length
  rcases Services.mounted_of_validateGraph validated.valid member place given with
    ⟨noRack, rack, rackListed, rackID, rackType⟩
  rcases exists_row_of_read validated rackListed with ⟨rackRow, stored, id, isType⟩
  exact ⟨type ▸ noRack, rackRow, stored, UUID.text_inj.mp (id.symm.trans rackID),
    isType.symm.trans rackType⟩

theorem joined_row (validated : Validated runtime stored nodes settings) {edge : EdgeRow}
    (listed : edge ∈ stored.edges) :
    edge.sourceNodeID.text ∈ stored.nodes.map (·.id.text) ∧
      edge.targetNodeID.text ∈ stored.nodes.map (·.id.text) := by
  rcases (Services.validated validated.valid).2 edge.toDTO (List.mem_map_of_mem listed) with
    ⟨⟨source, sourceListed, sourceID⟩, ⟨target, targetListed, targetID⟩⟩
  rcases exists_row_of_read validated sourceListed with ⟨sourceRow, inSource, sameSource, _⟩
  rcases exists_row_of_read validated targetListed with ⟨targetRow, inTarget, sameTarget, _⟩
  exact ⟨List.mem_map.mpr ⟨sourceRow, inSource, sameSource.symm.trans sourceID⟩,
    List.mem_map.mpr ⟨targetRow, inTarget, sameTarget.symm.trans targetID⟩⟩

end

/-! ## Keys -/

def endsKey (cable : LinkEnd × String) : String :=
  keyOfCable cable.1.source cable.1.target cable.2 cable.1.targetHandle

theorem connectionKey_eq (source target type targetHandle : String) :
    connectionKey source target type targetHandle =
      keyOfCable source target type targetHandle := by
  have pair : (if source < target then source ++ "|" ++ target else target ++ "|" ++ source) =
      (orderedPair source target).1 ++ "|" ++ (orderedPair source target).2 := by
    rw [orderedPair]
    by_cases less : source < target
    · rw [if_pos less, if_neg (String.lt_asymm less)]
    · rw [if_neg less]
      by_cases greater : target < source
      · rw [if_pos greater]
      · rw [if_neg greater, String.le_antisymm (String.not_lt.mp less) (String.not_lt.mp greater)]
  rw [connectionKey, keyOfCable, pair]

theorem edgeKey_eq (edge : FlowEdge) : edgeKey edge = endsKey (cableEnds edge) :=
  connectionKey_eq _ _ _ _

def linkEnds (link : ConnectionDiff) : LinkEnd × String :=
  ({ source := link.source
     target := link.target
     sourceHandle := link.sourceHandle
     targetHandle := link.targetHandle }, link.type)

theorem linkKey_eq (link : ConnectionDiff) : linkKey link = endsKey (linkEnds link) :=
  connectionKey_eq _ _ _ _

theorem endsKey_rowEnds (row : EdgeRow) : endsKey (rowEnds row) = Services.connectionKey row := rfl

/-! ## Statuses -/

theorem lookup_statuses (ids : List String) (status : DiffStatus) (id : String) :
    (ids.map fun id => (id, status)).reverse.lookup id =
      if id ∈ ids then some status else none := by
  rw [← List.map_reverse]
  have plain : ∀ ids : List String, (ids.map fun id => (id, status)).lookup id =
      if id ∈ ids then some status else none := by
    intro ids
    induction ids with
    | nil => rfl
    | cons first rest induction =>
        rw [List.map_cons, Table.lookup_cons, induction]
        by_cases same : id = first
        · simp [same]
        · simp [same]
  rw [plain]
  simp only [List.mem_reverse]

theorem nodeStatus_eq (diff : ProposalDiff) (id : String) :
    nodeStatus diff id =
      if id ∈ diff.nodes.added.map (·.id) then some .added
      else if id ∈ diff.nodes.changed.map (·.id) ∨ id ∈ touchedHosts diff then some .changed
      else none := by
  have listed : nodeStatuses diff =
      ((diff.nodes.changed.map (·.id)).map fun id => (id, DiffStatus.changed)) ++
        ((touchedHosts diff).map fun id => (id, DiffStatus.changed)) ++
        (diff.nodes.added.map (·.id)).map fun id => (id, DiffStatus.added) := by
    rw [nodeStatuses, List.map_map, List.map_map]
    rfl
  rw [nodeStatus, listed, List.reverse_append, List.reverse_append, Table.lookup_append,
    Table.lookup_append, lookup_statuses, lookup_statuses, lookup_statuses]
  by_cases added : id ∈ diff.nodes.added.map (·.id)
  · rw [if_pos added, if_pos added]
    rfl
  · rw [if_neg added, if_neg added]
    by_cases hosted : id ∈ touchedHosts diff
    · simp [hosted]
    · simp [hosted]

theorem edgeStatus_eq (diff : ProposalDiff) (key : String) :
    edgeStatus diff key =
      if key ∈ diff.connections.changed.map linkKey then some .changed
      else if key ∈ diff.connections.added.map linkKey then some .added
      else none := by
  have listed : edgeStatuses diff =
      ((diff.connections.added.map linkKey).map fun key => (key, DiffStatus.added)) ++
        (diff.connections.changed.map linkKey).map fun key => (key, DiffStatus.changed) := by
    rw [edgeStatuses, List.map_map, List.map_map]
    rfl
  rw [edgeStatus, listed, List.reverse_append, Table.lookup_append, lookup_statuses,
    lookup_statuses]
  by_cases changed : key ∈ diff.connections.changed.map linkKey
  · rw [if_pos changed, if_pos changed]
    rfl
  · rw [if_neg changed, if_neg changed]
    rfl

/-! ## Cables of a difference -/

theorem linkEnds_describeConnection (names : String → Option String) (row : EdgeRow)
    (changes : List Services.FieldChange) :
    linkEnds (describeConnection names row changes) = rowEnds row := rfl

section

variable {before after : StoredBuild}

/-- A cable of the later build is listed under its key just where it is listed itself. -/
theorem linkKey_mem_iff (links : List ConnectionDiff)
    (distinct : (after.edges.map Services.connectionKey).Nodup)
    (told : ∀ link ∈ links, ∃ row ∈ after.edges, linkEnds link = rowEnds row) {row : EdgeRow}
    (listed : row ∈ after.edges) :
    Services.connectionKey row ∈ links.map linkKey ↔ rowEnds row ∈ links.map linkEnds := by
  constructor
  · intro keyed
    rcases List.mem_map.mp keyed with ⟨link, member, same⟩
    rcases told link member with ⟨other, stored, ends⟩
    rw [linkKey_eq, ends, endsKey_rowEnds] at same
    rw [Keyed.eq_of_key_eq distinct listed stored same.symm, ← ends]
    exact List.mem_map_of_mem member
  · intro named
    rcases List.mem_map.mp named with ⟨link, member, same⟩
    rw [← endsKey_rowEnds, ← same, ← linkKey_eq]
    exact List.mem_map_of_mem member

variable (distinctBefore : (before.edges.map Services.connectionKey).Nodup)
  (distinctAfter : (after.edges.map Services.connectionKey).Nodup)

include distinctBefore distinctAfter

theorem edgeStatus_row {row : EdgeRow} (listed : row ∈ after.edges) :
    edgeStatus (diffBuilds before after) (Services.connectionKey row) =
      if rowEnds row ∈ (diffBuilds before after).connections.changed.map linkEnds then
        some .changed
      else if rowEnds row ∈ (diffBuilds before after).connections.added.map linkEnds then
        some .added
      else none := by
  have changed := linkKey_mem_iff (diffBuilds before after).connections.changed
    distinctAfter (fun link member => by
      rcases (Services.mem_changedCables distinctBefore distinctAfter).mp member with
        ⟨_, _, current, stored, _, _, rfl⟩
      exact ⟨current, stored, rfl⟩) listed
  have added := linkKey_mem_iff (diffBuilds before after).connections.added
    distinctAfter (fun link member => by
      rcases (Services.mem_addedCables distinctAfter).mp member with ⟨current, stored, _, rfl⟩
      exact ⟨current, stored, rfl⟩) listed
  rw [edgeStatus_eq]
  simp only [changed, added]

theorem not_added_of_changed {row : EdgeRow}
    (changed : rowEnds row ∈ (diffBuilds before after).connections.changed.map linkEnds) :
    rowEnds row ∉ (diffBuilds before after).connections.added.map linkEnds := by
  intro added
  rcases List.mem_map.mp changed with ⟨changedLink, changedListed, changedEnds⟩
  rcases List.mem_map.mp added with ⟨addedLink, addedListed, addedEnds⟩
  rcases (Services.mem_changedCables distinctBefore distinctAfter).mp changedListed with
    ⟨previous, known, current, _, same, _, rfl⟩
  rcases (Services.mem_addedCables distinctAfter).mp addedListed with ⟨other, _, new, rfl⟩
  rw [linkEnds_describeConnection] at changedEnds addedEnds
  have keys := congrArg endsKey (changedEnds.trans addedEnds.symm)
  rw [endsKey_rowEnds, endsKey_rowEnds, ← same] at keys
  exact new (List.mem_map.mpr ⟨previous, known, keys⟩)

omit distinctAfter in
theorem ghosts_perm {live : Canvas} (shown : Shows live before) :
    ((live.edges.filter fun edge =>
        edgeKey edge ∈ (diffBuilds before after).connections.removed.map linkKey).map
      cableEnds).Perm ((diffBuilds before after).connections.removed.map linkEnds) := by
  have removed := Services.perm_removedCables after distinctBefore
  have keys : ∀ row ∈ before.edges,
      (Services.connectionKey row ∈ (diffBuilds before after).connections.removed.map linkKey ↔
        Services.connectionKey row ∉ after.edges.map Services.connectionKey) := by
    intro row listed
    rw [(removed.map linkKey).mem_iff, List.map_map]
    simp only [List.mem_map, List.mem_filter, decide_eq_true_eq, Function.comp_apply, linkKey_eq,
      linkEnds_describeConnection, endsKey_rowEnds]
    constructor
    · rintro ⟨other, ⟨_, gone⟩, same⟩
      rw [← same]
      exact gone
    · exact fun gone => ⟨row, ⟨listed, gone⟩, rfl⟩
  have ends : (live.edges.filter fun edge =>
      edgeKey edge ∈ (diffBuilds before after).connections.removed.map linkKey).map cableEnds =
        (live.edges.map cableEnds).filter fun cable =>
          endsKey cable ∈ (diffBuilds before after).connections.removed.map linkKey := by
    rw [List.filter_map]
    simp only [edgeKey_eq]
    rfl
  rw [ends]
  apply (shown.cables.filter _).trans
  rw [List.filter_map]
  apply List.Perm.trans (List.Perm.of_eq _) (removed.map linkEnds).symm
  rw [List.map_map]
  have same : before.edges.filter ((fun cable =>
      decide (endsKey cable ∈ (diffBuilds before after).connections.removed.map linkKey)) ∘
        rowEnds) =
      before.edges.filter fun row =>
        Services.connectionKey row ∉ after.edges.map Services.connectionKey := by
    apply List.filter_congr
    intro row listed
    rw [Function.comp_apply, endsKey_rowEnds]
    exact decide_eq_decide.mpr (keys row listed)
  rw [same]
  rfl

end

/-! ## Drawn nodes -/

def PreviewNode.id (node : PreviewNode) : String := node.card.id

@[simp]
theorem id_mark (card : FlowNode) (status : Option DiffStatus) : (mark card status).id = card.id :=
  rfl

@[simp]
theorem proposalDiff_mark (card : FlowNode) (status : Option DiffStatus) :
    (mark card status).proposalDiff = status := rfl

section

variable (diff : ProposalDiff) (proposed live : Canvas)

/-- A ghost is the card of the canvas, but for its place where its rack is not there. -/
theorem ghost_eq (card : FlowNode) :
    (ghost diff proposed live card).id = card.id ∧
      (ghost diff proposed live card).card.type = card.type ∧
      (ghost diff proposed live card).proposalDiff = some .removed ∧
      ∀ parent, (ghost diff proposed live card).card.parentID = some parent → parent ≠ "" →
        card.parentID = some parent ∧
          (parent ∈ proposedIDs proposed ∨ parent ∈ ghostIDs diff proposed live) := by
  rw [ghost]
  split
  · rename_i floats
    refine ⟨rfl, rfl, rfl, ?_⟩
    intro parent mounted given
    have kept : card.parentID = some parent := mounted
    rw [kept, Option.filter_some, if_pos (by simpa using given)] at floats
    cases floats
  · rename_i rack mountedIn
    split
    · rename_i there
      refine ⟨rfl, rfl, rfl, ?_⟩
      intro parent mounted given
      have kept : card.parentID = some parent := mounted
      rw [kept, Option.filter_some, if_pos (by simpa using given)] at mountedIn
      cases mountedIn
      exact ⟨kept, there⟩
    · refine ⟨rfl, rfl, rfl, ?_⟩
      intro parent mounted
      cases mounted

def markedNodes : List PreviewNode :=
  proposed.nodes.map fun card => mark card (nodeStatus diff card.id)

def ghostNodes : List PreviewNode :=
  (ghostCards diff proposed live).map (ghost diff proposed live)

theorem drawnNodes_eq :
    drawnNodes diff proposed live =
      racksFirst (markedNodes diff proposed ++ ghostNodes diff proposed live) := rfl

theorem racksFirst_perm (nodes : List PreviewNode) : (racksFirst nodes).Perm nodes := by
  have both := List.filter_append_perm
    (fun node : PreviewNode => decide (node.card.type = "rack")) nodes
  simpa [racksFirst] using both

theorem ids_markedNodes :
    (markedNodes diff proposed).map PreviewNode.id = proposedIDs proposed := by
  rw [markedNodes, List.map_map]
  rfl

theorem ids_ghostNodes :
    (ghostNodes diff proposed live).map PreviewNode.id = ghostIDs diff proposed live := by
  rw [ghostNodes, List.map_map, ghostIDs]
  apply List.map_congr_left
  intro card _
  exact (ghost_eq diff proposed live card).1

theorem ids_drawnNodes :
    ((drawnNodes diff proposed live).map PreviewNode.id).Perm
      (proposedIDs proposed ++ ghostIDs diff proposed live) := by
  have drawn := (racksFirst_perm
    (markedNodes diff proposed ++ ghostNodes diff proposed live)).map PreviewNode.id
  rw [List.map_append, ids_markedNodes, ids_ghostNodes] at drawn
  exact drawn

theorem ghostIDs_eq :
    ghostIDs diff proposed live =
      (live.nodes.map (·.id)).filter fun id =>
        id ∈ diff.nodes.removed.map (·.id) && id ∉ proposedIDs proposed := by
  rw [ghostIDs, ghostCards, List.filter_map]
  rfl

theorem mem_drawnNodes {node : PreviewNode} (drawn : node ∈ drawnNodes diff proposed live) :
    (∃ card ∈ proposed.nodes, node = mark card (nodeStatus diff card.id)) ∨
      ∃ card ∈ ghostCards diff proposed live, node = ghost diff proposed live card := by
  rw [drawnNodes_eq, (racksFirst_perm _).mem_iff, List.mem_append] at drawn
  rcases drawn with marked | ghostly
  · rcases List.mem_map.mp marked with ⟨card, listed, rfl⟩
    exact .inl ⟨card, listed, rfl⟩
  · rcases List.mem_map.mp ghostly with ⟨card, listed, rfl⟩
    exact .inr ⟨card, listed, rfl⟩

end

/-! ## Parents -/

def ParentsFirst (nodes : List PreviewNode) : Prop :=
  ∀ front node back, nodes = front ++ node :: back →
    ∀ parent, node.card.parentID = some parent → parent ≠ "" → parent ∈ front.map PreviewNode.id

theorem split_behind {α : Type} {first second front back : List α} {item : α}
    (split : first ++ second = front ++ item :: back) (outside : item ∉ first) :
    ∃ between, front = first ++ between ∧ second = between ++ item :: back := by
  rcases List.append_eq_append_iff.mp split with ⟨between, isFront, isSecond⟩ | ⟨rest, isFirst, more⟩
  · exact ⟨between, isFront, isSecond⟩
  · cases rest with
    | nil =>
        rw [List.append_nil] at isFirst
        exact ⟨[], by rw [List.append_nil, isFirst], more.symm⟩
    | cons head rest =>
        cases more
        exact absurd (isFirst ▸ List.mem_append_right _ List.mem_cons_self) outside

theorem parentsFirst_racksFirst {marked ghosts : List PreviewNode}
    (mounted : ∀ node ∈ marked ++ ghosts, ∀ parent, node.card.parentID = some parent → parent ≠ "" →
      node.card.type ≠ "rack")
    (kept : ∀ node ∈ marked, ∀ parent, node.card.parentID = some parent → parent ≠ "" →
      ∃ rack ∈ marked, rack.id = parent ∧ rack.card.type = "rack")
    (left : ∀ node ∈ ghosts, ∀ parent, node.card.parentID = some parent → parent ≠ "" →
      parent ∈ marked.map PreviewNode.id ∨
        ∃ rack ∈ ghosts, rack.id = parent ∧ rack.card.type = "rack") :
    ParentsFirst (racksFirst (marked ++ ghosts)) := by
  intro front node back split parent isParent given
  have member : node ∈ marked ++ ghosts := by
    rw [← (racksFirst_perm _).mem_iff, split]
    exact List.mem_append_right _ List.mem_cons_self
  have noRack := mounted node member parent isParent given
  rw [racksFirst] at split
  rcases split_behind split (fun listed => noRack (by simpa using (List.mem_filter.mp listed).2))
    with ⟨between, rfl, others⟩
  have racks : ∀ rack ∈ marked ++ ghosts, rack.id = parent → rack.card.type = "rack" →
      parent ∈ (((marked ++ ghosts).filter fun node => node.card.type = "rack") ++ between).map
        PreviewNode.id := by
    intro rack listed same isRack
    rw [List.map_append, List.mem_append]
    exact .inl (List.mem_map.mpr ⟨rack, List.mem_filter.mpr ⟨listed, by simpa using isRack⟩, same⟩)
  by_cases isMarked : node ∈ marked
  · rcases kept node isMarked parent isParent given with ⟨rack, listed, same, isRack⟩
    exact racks rack (List.mem_append_left _ listed) same isRack
  · -- A ghost stands behind all nodes that are kept.
    rw [List.filter_append] at others
    rcases split_behind others (fun listed => isMarked (List.mem_filter.mp listed).1)
      with ⟨further, rfl, _⟩
    have isGhost := (List.mem_append.mp member).resolve_left isMarked
    rcases left node isGhost parent isParent given with known | ⟨rack, listed, same, isRack⟩
    · rcases List.mem_map.mp known with ⟨other, listed, same⟩
      by_cases isRack : other.card.type = "rack"
      · exact racks other (List.mem_append_left _ listed) same isRack
      · rw [List.map_append, List.map_append, List.mem_append, List.mem_append]
        exact .inr (.inl (List.mem_map.mpr
          ⟨other, List.mem_filter.mpr ⟨listed, by simpa using isRack⟩, same⟩))
    · exact racks rack (List.mem_append_right _ listed) same isRack

section

variable {runtime : Runtime} {stored : StoredBuild} {nodes : List NodeDTO}
  {settings : List (String × Json)} {canvas : Canvas}

theorem exists_row (shown : Shows canvas stored) {card : FlowNode} (listed : card ∈ canvas.nodes) :
    ∃ row ∈ stored.nodes, rowPlace row = cardPlace card :=
  List.mem_map.mp (shown.cards.mem_iff.mp (List.mem_map_of_mem listed))

theorem exists_card (shown : Shows canvas stored) {row : NodeRow} (listed : row ∈ stored.nodes) :
    ∃ card ∈ canvas.nodes, cardPlace card = rowPlace row :=
  List.mem_map.mp (shown.cards.mem_iff.mpr (List.mem_map_of_mem listed))

theorem ids_perm (shown : Shows canvas stored) :
    (canvas.nodes.map (·.id)).Perm (stored.nodes.map (·.id.text)) := by
  have ids := shown.cards.map Prod.fst
  rw [List.map_map, List.map_map] at ids
  exact ids

theorem mounted_card (validated : Validated runtime stored nodes settings)
    (shown : Shows canvas stored) {card : FlowNode} (listed : card ∈ canvas.nodes)
    {parent : String} (mounted : card.parentID = some parent) (given : parent ≠ "") :
    card.type ≠ "rack" ∧ (∃ rack ∈ canvas.nodes, rack.id = parent ∧ rack.type = "rack") ∧
      ∀ other ∈ canvas.nodes, other.id = parent → other.type = "rack" := by
  rcases exists_row shown listed with ⟨row, stored, place⟩
  rw [rowPlace, cardPlace, mounted, Option.filter_some, if_pos (by simpa using given)] at place
  simp only [Prod.mk.injEq, Option.map_eq_some_iff] at place
  rcases place with ⟨_, type, parentID, isParent, rfl⟩
  rcases mounted_row validated stored isParent with ⟨noRack, rack, rackStored, rfl, isRack⟩
  have rackPlace : rowPlace rack = (rack.id.text, "rack", rack.parentID.map (·.text)) := by
    rw [rowPlace, cardType, if_pos isRack]
  refine ⟨?_, ?_, ?_⟩
  · rw [← type, cardType, if_neg noRack]
    decide
  · rcases exists_card shown rackStored with ⟨rackCard, rackListed, same⟩
    rw [rackPlace] at same
    exact ⟨rackCard, rackListed, congrArg Prod.fst same, congrArg (·.2.1) same⟩
  · intro other otherListed same
    rcases exists_row shown otherListed with ⟨otherRow, otherStored, otherPlace⟩
    have id : otherRow.id.text = rack.id.text := (congrArg Prod.fst otherPlace).trans same
    rw [Keyed.eq_of_key_eq (nodup_nodeIDs _) otherStored rackStored id, rackPlace] at otherPlace
    exact (congrArg (·.2.1) otherPlace).symm

end

/-! ## Changed nodes -/

theorem mem_withEnds {ids : List String} {edge : PreviewEdge} {id : String} :
    id ∈ withEnds ids edge ↔ id ∈ ids ∨
      edge.proposalDiff.isSome ∧ (id = edge.cable.ends.source ∨ id = edge.cable.ends.target) := by
  have once : ∀ (ids : List String) (other : String),
      (id ∈ if other ∈ ids then ids else ids ++ [other]) ↔ id ∈ ids ∨ id = other := by
    intro ids other
    split
    · rename_i known
      exact ⟨.inl, fun either => either.elim (fun listed => listed) fun same => same ▸ known⟩
    · rw [List.mem_append, List.mem_singleton]
  rw [withEnds]
  split
  · rename_i marked
    rw [List.foldl_cons, List.foldl_cons, List.foldl_nil, once, once, or_assoc]
    simp only [marked, true_and]
  · rename_i plain
    simp only [plain, false_and, or_false, Bool.false_eq_true]

theorem mem_foldl_withEnds {edges : List PreviewEdge} {id : String} : ∀ {ids : List String},
    id ∈ edges.foldl withEnds ids ↔ id ∈ ids ∨ ∃ edge ∈ edges, edge.proposalDiff.isSome ∧
      (id = edge.cable.ends.source ∨ id = edge.cable.ends.target) := by
  induction edges with
  | nil => simp
  | cons edge rest induction =>
      intro ids
      rw [List.foldl_cons, induction, mem_withEnds]
      simp only [List.mem_cons, exists_eq_or_imp, or_assoc]

theorem mem_changedNodes {collate : String → String → Int} {nodes : List PreviewNode}
    {node : PreviewNode} :
    node ∈ changedNodes collate nodes ↔ node ∈ nodes ∧ node.proposalDiff.isSome := by
  rw [changedNodes, List.mem_insertionSort, List.mem_filter]

/-! ## The review as a whole -/

/-- The marks a node has are those the difference gives it. A node whose guests or
components are listed counts as changed. -/
structure MarkedAsListed (diff : ProposalDiff) (node : PreviewNode) : Prop where
  added : node.proposalDiff = some .added ↔ node.id ∈ diff.nodes.added.map (·.id)
  removed : node.proposalDiff = some .removed ↔ node.id ∈ diff.nodes.removed.map (·.id)
  changed : node.proposalDiff = some .changed ↔
    node.id ∉ diff.nodes.added.map (·.id) ∧ node.id ∉ diff.nodes.removed.map (·.id) ∧
      (node.id ∈ diff.nodes.changed.map (·.id) ∨ node.id ∈ touchedHosts diff)

/-- The marks of a cable of the proposal are those the difference gives it. -/
structure CableMarkedAsListed (diff : ProposalDiff) (edge : PreviewEdge) : Prop where
  added : edge.proposalDiff = some .added ↔
    cableEnds edge.cable ∈ diff.connections.added.map linkEnds
  changed : edge.proposalDiff = some .changed ↔
    cableEnds edge.cable ∈ diff.connections.changed.map linkEnds
  kept : edge.proposalDiff ≠ some .removed

/-- The cables of the proposal, and those it removes behind them. -/
structure DrawsCables (diff : ProposalDiff) (after : StoredBuild) (kept ghosts : List PreviewEdge) :
    Prop where
  drawn : (kept.map fun edge => cableEnds edge.cable).Perm (after.edges.map rowEnds)
  marks : ∀ edge ∈ kept, CableMarkedAsListed diff edge
  drawnOnce : (ghosts.map fun edge => cableEnds edge.cable).Perm
    (diff.connections.removed.map linkEnds)
  removed : ∀ edge ∈ ghosts, edge.proposalDiff = some .removed

structure ShowsEveryChange (before after : StoredBuild) (graph : ProposalPreviewGraph) : Prop where
  nodes : (graph.nodes.map PreviewNode.id).Perm
    (after.nodes.map (·.id.text) ++
      (before.nodes.map (·.id.text)).filter fun id => id ∉ after.nodes.map (·.id.text))
  once : (graph.nodes.map PreviewNode.id).Nodup
  parents : ParentsFirst graph.nodes
  marks : ∀ node ∈ graph.nodes, MarkedAsListed (diffBuilds before after) node
  cables : ∃ kept ghosts, graph.edges = kept ++ ghosts ∧
    DrawsCables (diffBuilds before after) after kept ghosts
  changedNodes : ∀ node ∈ graph.nodes, node.proposalDiff.isSome → node.id ∈ graph.changedNodeIDs
  changedEnds : ∀ edge ∈ graph.edges, edge.proposalDiff.isSome →
    edge.cable.ends.source ∈ graph.changedNodeIDs ∧ edge.cable.ends.target ∈ graph.changedNodeIDs

section

variable {runtime : Runtime} {before after : StoredBuild} {beforeNodes afterNodes : List NodeDTO}
  {beforeSettings afterSettings : List (String × Json)}
  (validBefore : Validated runtime before beforeNodes beforeSettings)
  (validAfter : Validated runtime after afterNodes afterSettings)
  {proposed live : Canvas} (shownBefore : Shows live before) (shownAfter : Shows proposed after)

include shownBefore shownAfter

theorem ghostIDs_perm :
    (ghostIDs (diffBuilds before after) proposed live).Perm
      ((before.nodes.map (·.id.text)).filter fun id => id ∉ after.nodes.map (·.id.text)) := by
  rw [ghostIDs_eq]
  apply ((ids_perm shownBefore).filter _).trans
  apply List.Perm.of_eq
  apply List.filter_congr
  intro id listed
  have drawn : id ∈ proposedIDs proposed ↔ id ∈ after.nodes.map (·.id.text) :=
    (ids_perm shownAfter).mem_iff
  rw [← Bool.decide_and]
  apply decide_eq_decide.mpr
  rw [Services.mem_removedNodes, drawn]
  exact ⟨And.right, fun gone => ⟨⟨listed, gone⟩, gone⟩⟩

theorem drawnIDs_perm :
    ((drawnNodes (diffBuilds before after) proposed live).map PreviewNode.id).Perm
      (after.nodes.map (·.id.text) ++
        (before.nodes.map (·.id.text)).filter fun id => id ∉ after.nodes.map (·.id.text)) :=
  (ids_drawnNodes _ proposed live).trans
    ((ids_perm shownAfter).append (ghostIDs_perm shownBefore shownAfter))

theorem nodup_drawnIDs :
    ((drawnNodes (diffBuilds before after) proposed live).map PreviewNode.id).Nodup := by
  rw [(drawnIDs_perm shownBefore shownAfter).nodup_iff, List.nodup_append']
  refine ⟨nodup_nodeIDs after, (nodup_nodeIDs before).filter _, ?_⟩
  intro id kept gone
  exact of_decide_eq_true (List.mem_filter.mp gone).2 kept

theorem mem_drawnIDs {id : String} :
    id ∈ (drawnNodes (diffBuilds before after) proposed live).map PreviewNode.id ↔
      id ∈ after.nodes.map (·.id.text) ∨ id ∈ before.nodes.map (·.id.text) := by
  rw [(drawnIDs_perm shownBefore shownAfter).mem_iff, List.mem_append, List.mem_filter,
    decide_eq_true_eq]
  tauto

omit shownBefore in
theorem marks_drawnNodes {node : PreviewNode}
    (drawn : node ∈ drawnNodes (diffBuilds before after) proposed live) :
    MarkedAsListed (diffBuilds before after) node := by
  rcases mem_drawnNodes _ _ _ drawn with ⟨card, listed, rfl⟩ | ⟨card, listed, rfl⟩
  · have inAfter : card.id ∈ after.nodes.map (·.id.text) :=
      (ids_perm shownAfter).mem_iff.mp (List.mem_map_of_mem listed)
    have kept : card.id ∉ (diffBuilds before after).nodes.removed.map (·.id) :=
      fun removed => (Services.mem_removedNodes.mp removed).2 inAfter
    constructor
    · rw [proposalDiff_mark, id_mark, nodeStatus_eq]
      split
      · rename_i added
        exact iff_of_true rfl added
      · rename_i old
        split <;> exact iff_of_false nofun old
    · rw [proposalDiff_mark, id_mark, nodeStatus_eq]
      split
      · exact iff_of_false nofun kept
      · split <;> exact iff_of_false nofun kept
    · rw [proposalDiff_mark, id_mark, nodeStatus_eq]
      split
      · rename_i added
        exact iff_of_false nofun fun changed => changed.1 added
      · rename_i old
        split
        · rename_i touched
          exact iff_of_true rfl ⟨old, kept, touched⟩
        · rename_i untouched
          exact iff_of_false nofun fun changed => untouched changed.2.2
  · rcases ghost_eq (diffBuilds before after) proposed live card with ⟨id, _, status, _⟩
    have gone : card.id ∈ (diffBuilds before after).nodes.removed.map (·.id) := by
      have kept := (List.mem_filter.mp listed).2
      rw [Bool.and_eq_true] at kept
      exact of_decide_eq_true kept.1
    have old : card.id ∉ (diffBuilds before after).nodes.added.map (·.id) :=
      fun added => (Services.mem_removedNodes.mp gone).2 (Services.mem_addedNodes.mp added).1
    constructor
    · rw [status, id]
      exact ⟨nofun, fun added => absurd added old⟩
    · rw [status, id]
      exact ⟨fun _ => gone, fun _ => rfl⟩
    · rw [status, id]
      exact ⟨nofun, fun changed => absurd gone changed.2.1⟩

include validBefore validAfter

theorem parentsFirst_drawnNodes :
    ParentsFirst (drawnNodes (diffBuilds before after) proposed live) := by
  have inLive : ∀ card ∈ ghostCards (diffBuilds before after) proposed live, card ∈ live.nodes :=
    fun card listed => (List.mem_filter.mp listed).1
  rw [drawnNodes_eq]
  apply parentsFirst_racksFirst
  · intro node listed parent isParent given
    rcases List.mem_append.mp listed with marked | ghostly
    · rcases List.mem_map.mp marked with ⟨card, drawn, rfl⟩
      exact (mounted_card validAfter shownAfter drawn isParent given).1
    · rcases List.mem_map.mp ghostly with ⟨card, drawn, rfl⟩
      rcases ghost_eq (diffBuilds before after) proposed live card with ⟨_, type, _, mounted⟩
      rw [type]
      exact (mounted_card validBefore shownBefore (inLive card drawn)
        (mounted parent isParent given).1 given).1
  · intro node listed parent isParent given
    rcases List.mem_map.mp listed with ⟨card, drawn, rfl⟩
    rcases (mounted_card validAfter shownAfter drawn isParent given).2.1 with
      ⟨rack, rackListed, same, isRack⟩
    exact ⟨_, List.mem_map_of_mem rackListed, same, isRack⟩
  · intro node listed parent isParent given
    rcases List.mem_map.mp listed with ⟨card, drawn, rfl⟩
    rcases (ghost_eq (diffBuilds before after) proposed live card).2.2.2 parent isParent given with
      ⟨mounted, known | ghostly⟩
    · left
      rw [ids_markedNodes]
      exact known
    · right
      rcases List.mem_map.mp ghostly with ⟨rack, rackListed, same⟩
      have isRack := (mounted_card validBefore shownBefore (inLive card drawn) mounted given).2.2
        rack (inLive rack rackListed) same
      rcases ghost_eq (diffBuilds before after) proposed live rack with ⟨id, type, _, _⟩
      exact ⟨_, List.mem_map_of_mem rackListed, id.trans same, type.trans isRack⟩

theorem joins_of_mem {edge : FlowEdge}
    (known : cableEnds edge ∈ after.edges.map rowEnds ∨ cableEnds edge ∈ before.edges.map rowEnds) :
    joins (drawnNodes (diffBuilds before after) proposed live) edge = true := by
  have drawn := @mem_drawnIDs before after proposed live shownBefore shownAfter
  have ends : (edge.ends.source ∈ after.nodes.map (·.id.text) ∨
        edge.ends.source ∈ before.nodes.map (·.id.text)) ∧
      (edge.ends.target ∈ after.nodes.map (·.id.text) ∨
        edge.ends.target ∈ before.nodes.map (·.id.text)) := by
    rcases known with listed | listed
    · rcases List.mem_map.mp listed with ⟨row, stored, same⟩
      have joined := joined_row validAfter stored
      have isEnds : linkEnd row.toDTO = edge.ends := congrArg Prod.fst same
      rw [← isEnds]
      exact ⟨.inl joined.1, .inl joined.2⟩
    · rcases List.mem_map.mp listed with ⟨row, stored, same⟩
      have joined := joined_row validBefore stored
      have isEnds : linkEnd row.toDTO = edge.ends := congrArg Prod.fst same
      rw [← isEnds]
      exact ⟨.inr joined.1, .inr joined.2⟩
  rw [joins, Bool.and_eq_true, decide_eq_true_eq, decide_eq_true_eq]
  exact ⟨drawn.mpr ends.1, drawn.mpr ends.2⟩

theorem drawsCables :
    DrawsCables (diffBuilds before after) after
      (keptEdges (diffBuilds before after) proposed
        (drawnNodes (diffBuilds before after) proposed live))
      (ghostEdges (diffBuilds before after) live
        (drawnNodes (diffBuilds before after) proposed live)) := by
  have distinctBefore := nodup_connectionKeys validBefore
  have distinctAfter := nodup_connectionKeys validAfter
  have inAfter : ∀ edge ∈ proposed.edges, cableEnds edge ∈ after.edges.map rowEnds :=
    fun edge listed => shownAfter.cables.mem_iff.mp (List.mem_map_of_mem listed)
  have inBefore : ∀ edge ∈ live.edges, cableEnds edge ∈ before.edges.map rowEnds :=
    fun edge listed => shownBefore.cables.mem_iff.mp (List.mem_map_of_mem listed)
  have joined := @joins_of_mem runtime before after _ _ _ _ validBefore validAfter proposed live
    shownBefore shownAfter
  have all : proposed.edges.filter (joins (drawnNodes (diffBuilds before after) proposed live)) =
      proposed.edges :=
    List.filter_eq_self.mpr fun edge listed => joined (.inl (inAfter edge listed))
  rw [keptEdges, all]
  constructor
  · rw [List.map_map]
    exact shownAfter.cables
  · intro edge listed
    rcases List.mem_map.mp listed with ⟨cable, drawn, rfl⟩
    rcases List.mem_map.mp (inAfter cable drawn) with ⟨row, stored, ends⟩
    have status := edgeStatus_row distinctBefore distinctAfter stored
    have apart := @not_added_of_changed before after distinctBefore distinctAfter row
    rw [← endsKey_rowEnds, ends, ← edgeKey_eq] at status
    rw [ends] at apart
    constructor
    · dsimp only
      rw [status]
      split
      · rename_i changed
        exact iff_of_false nofun (apart changed)
      · split
        · rename_i added
          exact iff_of_true rfl added
        · rename_i old
          exact iff_of_false nofun old
    · dsimp only
      rw [status]
      split
      · rename_i changed
        exact iff_of_true rfl changed
      · rename_i unchanged
        split <;> exact iff_of_false nofun unchanged
    · dsimp only
      rw [status]
      split
      · nofun
      · split <;> nofun
  · have gone : (live.edges.filter fun edge =>
        edgeKey edge ∈ (diffBuilds before after).connections.removed.map linkKey &&
          joins (drawnNodes (diffBuilds before after) proposed live) edge) =
        live.edges.filter fun edge =>
          edgeKey edge ∈ (diffBuilds before after).connections.removed.map linkKey := by
      apply List.filter_congr
      intro edge listed
      rw [joined (.inr (inBefore edge listed)), Bool.and_true]
    rw [ghostEdges, gone, List.map_map]
    exact ghosts_perm distinctBefore shownBefore
  · intro edge listed
    rcases List.mem_map.mp listed with ⟨cable, _, rfl⟩
    rfl

end

/-! ## The order of the changes -/

section

variable (collate : String → String → Int) (nodes : List PreviewNode)

theorem revealEdge_eq (edge : PreviewEdge) :
    (revealEdge collate nodes edge).cable = edge.cable ∧
      (revealEdge collate nodes edge).proposalDiff = edge.proposalDiff := by
  rw [revealEdge]
  split <;> exact ⟨rfl, rfl⟩

theorem DrawsCables.reveal {diff : ProposalDiff} {after : StoredBuild}
    {kept ghosts : List PreviewEdge} (draws : DrawsCables diff after kept ghosts) :
    DrawsCables diff after (kept.map (revealEdge collate nodes))
      (ghosts.map (revealEdge collate nodes)) := by
  have ends : ∀ edges : List PreviewEdge,
      (edges.map (revealEdge collate nodes)).map (fun edge => cableEnds edge.cable) =
        edges.map fun edge => cableEnds edge.cable := by
    intro edges
    rw [List.map_map]
    apply List.map_congr_left
    intro edge _
    rw [Function.comp_apply, (revealEdge_eq collate nodes edge).1]
  constructor
  · rw [ends]
    exact draws.drawn
  · intro edge listed
    rcases List.mem_map.mp listed with ⟨cable, drawn, rfl⟩
    rcases revealEdge_eq collate nodes cable with ⟨same, status⟩
    rcases draws.marks cable drawn with ⟨added, changed, kept⟩
    rw [← same, ← status] at added changed
    rw [← status] at kept
    exact ⟨added, changed, kept⟩
  · rw [ends]
    exact draws.drawnOnce
  · intro edge listed
    rcases List.mem_map.mp listed with ⟨cable, drawn, rfl⟩
    rw [(revealEdge_eq collate nodes cable).2]
    exact draws.removed cable drawn

end

theorem ParentsFirst.reveal {nodes : List PreviewNode} (order : String → Option Nat)
    (parents : ParentsFirst nodes) :
    ParentsFirst (nodes.map fun node => { node with revealIndex := order node.id }) := by
  intro front node back split parent isParent given
  rcases List.map_eq_append_iff.mp split with ⟨start, rest, isNodes, rfl, isRest⟩
  rcases List.map_eq_cons_iff.mp isRest with ⟨plain, more, rfl, rfl, rfl⟩
  have known := parents start plain more isNodes parent isParent given
  rw [List.map_map]
  exact known

/-! ## The whole review -/

section

variable (collate : String → String → Int) {runtime : Runtime} {before after : StoredBuild}
  {beforeNodes afterNodes : List NodeDTO} {beforeSettings afterSettings : List (String × Json)}
  (validBefore : Validated runtime before beforeNodes beforeSettings)
  (validAfter : Validated runtime after afterNodes afterSettings) {proposed live : Canvas}

include validBefore validAfter

theorem previewGraph_showsEveryChange (shownBefore : Shows live before)
    (shownAfter : Shows proposed after) (issues : List NodeIssue) :
    ShowsEveryChange before after
      (previewGraph collate (diffBuilds before after) proposed live issues) := by
  have draws := drawsCables validBefore validAfter shownBefore shownAfter
  have parents := parentsFirst_drawnNodes validBefore validAfter shownBefore shownAfter
  have drawnIDs := drawnIDs_perm shownBefore shownAfter
  have distinct := nodup_drawnIDs shownBefore shownAfter
  have marks := fun node => @marks_drawnNodes before after proposed live shownAfter node
  rw [previewGraph]
  generalize drawnNodes (diffBuilds before after) proposed live = nodes at *
  constructor
  · rw [List.map_map]
    exact drawnIDs
  · rw [List.map_map]
    exact distinct
  · exact parents.reveal (revealIndex collate nodes)
  · intro node listed
    rcases List.mem_map.mp listed with ⟨plain, drawn, rfl⟩
    rcases marks plain drawn with ⟨added, removed, changed⟩
    exact ⟨added, removed, changed⟩
  · exact ⟨_, _, List.map_append, draws.reveal collate nodes⟩
  · intro node listed marked
    rcases List.mem_map.mp listed with ⟨plain, drawn, rfl⟩
    have changed : plain ∈ changedNodes collate nodes := mem_changedNodes.mpr ⟨drawn, marked⟩
    exact mem_foldl_withEnds.mpr (.inl (List.mem_map.mpr ⟨plain, changed, rfl⟩))
  · intro edge listed marked
    rcases List.mem_map.mp listed with ⟨plain, drawn, rfl⟩
    rcases revealEdge_eq collate nodes plain with ⟨same, status⟩
    rw [status] at marked
    rw [same]
    exact ⟨mem_foldl_withEnds.mpr (.inr ⟨plain, drawn, marked, .inl rfl⟩),
      mem_foldl_withEnds.mpr (.inr ⟨plain, drawn, marked, .inr rfl⟩)⟩

end

/-- The proposal that leads from one build to another. -/
def proposalOf (before after : StoredBuild) (validation : Option ValidationReport) : Proposal where
  build := some (apiBuild after.tables after.build)
  diff := diffBuilds before after
  validation := validation

/-- A review draws, marks and lists every change. -/
theorem buildProposalPreview_showsEveryChange (parseJSON : String → Option Json)
    (collate : String → String → Int) {runtime : Runtime} {before after : StoredBuild}
    {beforeNodes afterNodes : List NodeDTO} {beforeSettings afterSettings : List (String × Json)}
    (validBefore : Validated runtime before beforeNodes beforeSettings)
    (validAfter : Validated runtime after afterNodes afterSettings)
    (validation : Option ValidationReport) {live : Canvas} (shown : Shows live before) :
    ShowsEveryChange before after
      (buildProposalPreview parseJSON collate (proposalOf before after validation) live) :=
  previewGraph_showsEveryChange collate validBefore validAfter shown
    (shows_mapBuildToFlow parseJSON after) (validationToIssues validation)

/-- The office without its server, and with another name for its core. -/
def trimmedBuild : StoredBuild where
  tables := {
    builds := [{ id := .numbered 0, name := "Office" }]
    nodes :=
      [{ id := .numbered 1, buildID := .numbered 0, type := "ups", name := "UPS" },
        { id := .numbered 2, buildID := .numbered 0, type := "switch", name := "Hall" }]
    edges :=
      [{ id := .numbered 4
         buildID := .numbered 0
         sourceNodeID := .numbered 1
         sourceHandle := "pwr-out-0"
         targetNodeID := .numbered 2
         targetHandle := "pwr-in-0"
         type := "power" }] }
  build := { id := .numbered 0, name := "Office" }
  listed := poweredBuild.listed
  nodeIDs := by decide
  vmIDs := List.nodup_nil
  componentIDs := List.nodup_nil
  kind := poweredBuild.kind
  plan := poweredBuild.plan
  edgeDefaults := by decide
  statuses := nofun

theorem trimmedBuild_validated :
    Validated Runtime.plain trimmedBuild (trimmedBuild.nodes.map fun row => row.toDTO [] [] [])
      [] where
  read := rfl
  purpose := rfl
  valid := Services.validateGraph_eq_ok_iff.mpr
    ⟨by decide, by decide, by decide⟩

theorem trimmedBuild_showsEveryChange :
    ShowsEveryChange poweredBuild trimmedBuild
      (buildProposalPreview (fun _ => none) (fun _ _ => 0)
        (proposalOf poweredBuild trimmedBuild none)
        (mapBuildToFlow (fun _ => none) (apiBuild poweredBuild.tables poweredBuild.build))) :=
  buildProposalPreview_showsEveryChange _ _ poweredBuild_validated trimmedBuild_validated none
    (shows_mapBuildToFlow _ poweredBuild)

/-! ## Guests of kept hosts -/

/-- The marks of a node are those of the node, its guests and its components together. -/
structure MarkedWithGuests (diff : ProposalDiff) (node : PreviewNode) : Prop where
  added : node.proposalDiff = some .added ↔ node.id ∈ diff.nodes.added.map (·.id) ∨
    node.id ∈ diff.vms.added.map (·.hostID) ∨ node.id ∈ diff.components.added.map (·.hostID)
  changed : node.proposalDiff = some .changed ↔ node.id ∈ diff.nodes.changed.map (·.id) ∨
    node.id ∈ diff.vms.changed.map (·.hostID)
  removed : node.proposalDiff = some .removed ↔ node.id ∈ diff.nodes.removed.map (·.id) ∨
    node.id ∈ diff.vms.removed.map (·.hostID) ∨ node.id ∈ diff.components.removed.map (·.hostID)

def servedBuild (vms : List Services.VirtualMachineRow)
    (ids : (vms.map Services.VirtualMachineRow.id).Nodup) (statuses : ∀ vm ∈ vms, vm.status ≠ "") :
    StoredBuild where
  tables := {
    builds := [{ id := .numbered 0, name := "Home" }]
    nodes := [{ id := .numbered 1, buildID := .numbered 0, type := "server", name := "Server" }]
    virtualMachines := vms }
  build := { id := .numbered 0, name := "Home" }
  listed := Services.serviceBuild.listed
  nodeIDs := List.nodup_singleton _
  vmIDs := ids
  componentIDs := List.nodup_nil
  kind := Services.serviceBuild.kind
  plan := Services.serviceBuild.plan
  edgeDefaults := nofun
  statuses := statuses

def emptyServer : StoredBuild := servedBuild [] List.nodup_nil nofun

def busyServer : StoredBuild :=
  servedBuild [{ id := .numbered 2, nodeID := .numbered 1, name := "Wiki", type := "container" }]
    (List.nodup_singleton _) (by decide)

/-- A host that gets a guest is shown as changed, not as added. -/
theorem host_of_new_guest_changed :
    ¬ ∀ (parseJSON : String → Option Json) (collate : String → String → Int) (runtime : Runtime)
      (before after : StoredBuild) (beforeNodes afterNodes : List NodeDTO)
      (beforeSettings afterSettings : List (String × Json)) (live : Canvas),
      Validated runtime before beforeNodes beforeSettings →
      Validated runtime after afterNodes afterSettings → Shows live before →
      ∀ node ∈ (buildProposalPreview parseJSON collate (proposalOf before after none) live).nodes,
        MarkedWithGuests (diffBuilds before after) node := by
  intro claim
  have emptyValid : Validated Runtime.plain emptyServer
      (emptyServer.nodes.map fun row => row.toDTO [] [] []) [] :=
    ⟨rfl, rfl, Services.validateGraph_eq_ok_iff.mpr
      ⟨by decide, by decide, by decide⟩⟩
  have busyValid : ∃ nodes, Validated Runtime.plain busyServer nodes [] :=
    ⟨_, rfl, rfl, Services.validateGraph_eq_ok_iff.mpr
      ⟨by decide, by decide, by decide⟩⟩
  rcases busyValid with ⟨busyNodes, busyValid⟩
  have shown := shows_mapBuildToFlow (fun _ => none) emptyServer
  have review := previewGraph_showsEveryChange (fun _ _ => 0) emptyValid busyValid shown
    (shows_mapBuildToFlow (fun _ => none) busyServer) []
  have drawn : (UUID.numbered 1).text ∈ (buildProposalPreview (fun _ => none) (fun _ _ => 0)
      (proposalOf emptyServer busyServer none)
      (mapBuildToFlow (fun _ => none) (apiBuild emptyServer.tables emptyServer.build))).nodes.map
        PreviewNode.id :=
    review.nodes.mem_iff.mpr (List.mem_append_left _ (by decide))
  rcases List.mem_map.mp drawn with ⟨node, listed, id⟩
  have marks := claim _ _ _ _ _ _ _ _ _ _ emptyValid busyValid shown node listed
  have guest : node.id ∈ (diffBuilds emptyServer busyServer).vms.added.map (·.hostID) := by
    rw [id]
    decide
  have added := marks.added.mpr (.inr (.inl guest))
  have new := (review.marks node listed).added.mp added
  rw [id, Services.mem_addedNodes] at new
  exact new.2 (by decide)

end HomelabBuilder.Canvas
