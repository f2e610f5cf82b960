import Mathlib.Logic.Relation
import HomelabBuilder.Canvas.Consistency
import HomelabBuilder.Canvas.OpenedBuild

/-! # Runs of the store

Every canvas the store comes to hold, from a loaded build on and through any
actions, keeps its two copies of the devices together.
-/

namespace HomelabBuilder.Canvas

inductive Action
  | edit (made : Edit)
  | mergeAnswer (sentBuildID : String) (sent : BuildData) (build : Build)
  | takeOver (latest : Build)
  | takeProposal (build : Build)
  | loadBuild (id name : String) (build : Build)
  | startOpening (id : String)
  | clearCurrentBuild

section Allowed

/-- A build whose ids are its own, with cables between its nodes and racks that are
there. -/
structure Build.Fits (build : Build) : Prop where
  distinct : (build.nodes.map BuildNode.id).Nodup
  named : ∀ node ∈ build.nodes, node.id ≠ ""
  cables : ∀ edge ∈ build.edges, edge.sourceNodeID ∈ build.nodes.map BuildNode.id ∧
    edge.targetNodeID ∈ build.nodes.map BuildNode.id
  racks : ∀ node ∈ build.nodes, ∀ parent ∈ idOf node.parentID,
    ∃ rack ∈ build.nodes, rack.id = parent ∧ rack.type = "rack"

def Build.Unnested (build : Build) : Prop :=
  ∀ node ∈ build.nodes, node.type = "rack" → idOf node.parentID = none

variable (canvas : Canvas)

def Fresh (id : String) : Prop := id ≠ "" ∧ id ∉ canvas.hardwareNodes.map HardwareNode.id

/-- New ids are fresh, racks and the ends of cables are there, and no id or type
changes. -/
def Edit.Allowed : Edit → Prop
  | .addHardware rawNode => Fresh canvas rawNode.id ∧
      ∀ parent ∈ idOf rawNode.parentID, IsRack canvas.hardwareNodes parent
  | .duplicateHardware _ newID _ => Fresh canvas newID
  | .updateHardware nodeID updates =>
      (∀ id ∈ updates.id, id = nodeID) ∧
        (∀ type ∈ updates.type, ∀ device ∈ canvas.hardwareNodes, device.id = nodeID →
          device.type = type) ∧
        ∀ parent ∈ updates.parentID.bind idOf, IsRack canvas.hardwareNodes parent
  | .onConnect connection => connection.source ∈ canvas.nodes.map FlowNode.id ∧
      connection.target ∈ canvas.nodes.map FlowNode.id
  | .updateEdge _ updates => (∀ source ∈ updates.source, source ∈ canvas.nodes.map FlowNode.id) ∧
      ∀ target ∈ updates.target, target ∈ canvas.nodes.map FlowNode.id
  | _ => True

def Edit.Unnested : Edit → Prop
  | .addHardware rawNode => rawNode.type = "rack" → idOf rawNode.parentID = none
  | .updateHardware nodeID updates => (updates.parentID.bind idOf).isSome →
      ∀ device ∈ canvas.hardwareNodes, device.id = nodeID → device.type ≠ "rack"
  | _ => True

def Action.Allowed : Action → Prop
  | .edit made => made.Allowed canvas
  | .takeOver build | .takeProposal build | .loadBuild _ _ build => build.Fits
  | _ => True

def Action.Unnested : Action → Prop
  | .edit made => made.Unnested canvas
  | .takeOver build | .takeProposal build | .loadBuild _ _ build => build.Unnested
  | _ => True

end Allowed

section Acts

variable (library : FlowLibrary) (parseJSON : String → Option Json)

def BuilderState.act (state : BuilderState) : Action → BuilderState
  | .edit made => state.edit library made
  | .mergeAnswer sentBuildID sent build => Canvas.mergeAnswer parseJSON sentBuildID sent build state
  | .takeOver latest => Canvas.takeOver parseJSON state latest
  | .takeProposal build => Canvas.takeProposal parseJSON state build
  | .loadBuild id name build => Canvas.loadBuild parseJSON state id name build
  | .startOpening id => Canvas.startOpening state id
  | .clearCurrentBuild => Canvas.clearCurrentBuild state

/-- One action that is fit for the canvas it meets. -/
def Acts (fit : Canvas → Action → Prop) (state later : BuilderState) : Prop :=
  ∃ action, fit state.canvas action ∧ later = state.act library parseJSON action

end Acts

/-! ## What holds of the store -/

/-- The canvas and every canvas that Undo or Redo can bring back. -/
structure SoundState (flat : Prop) (state : BuilderState) : Prop where
  canvas : Sound flat state.canvas
  past : ∀ step ∈ state.historyPast, Sound flat step.canvas
  future : ∀ step ∈ state.historyFuture, Sound flat step.canvas

theorem sound_nil (flat : Prop) : Sound flat {} where
  devices := Mirrored.nil
  named := nofun
  cables := nofun
  racks _ := nofun

theorem mem_lastSteps {steps : List Snapshot} {step : Snapshot} (member : step ∈ lastSteps steps) :
    step ∈ steps := List.mem_of_mem_drop member

theorem sound_mapBuildToFlow (parseJSON : String → Option Json) {flat : Prop} {build : Build}
    (fits : build.Fits) (unnested : flat → build.Unnested) :
    Sound flat (mapBuildToFlow parseJSON build) where
  devices := by
    have ids : (build.nodes.map (hardwareNode parseJSON)).map HardwareNode.id =
        build.nodes.map BuildNode.id := by
      rw [List.map_map]
      rfl
    have inOrder : Mirrored FlowNode.id HardwareNode.id Agrees
        (build.nodes.map (flowNode parseJSON)) (build.nodes.map (hardwareNode parseJSON)) := by
      refine ⟨ids ▸ fits.distinct, ?_, ?_⟩
      · rw [List.map_map, List.map_map]
        exact List.Perm.refl _
      · intro card listed device known same
        rcases List.mem_map.mp listed with ⟨node, member, rfl⟩
        rcases List.mem_map.mp known with ⟨other, otherMember, rfl⟩
        cases Keyed.eq_of_key_eq fits.distinct member otherMember same
        exact ⟨rfl, rfl, rfl, rfl, rfl, rfl, rfl, rfl⟩
    apply inOrder.perm
    have both := List.filter_append_perm (fun node : BuildNode => decide (node.type = "rack"))
      build.nodes
    have sorted := both.map (flowNode parseJSON)
    simpa [mapBuildToFlow] using sorted
  named := by
    intro device listed
    rcases List.mem_map.mp listed with ⟨node, member, rfl⟩
    exact fits.named node member
  cables := by
    intro edge listed
    rcases List.mem_map.mp listed with ⟨cable, member, rfl⟩
    have card {id : String} (known : id ∈ build.nodes.map BuildNode.id) :
        id ∈ (mapBuildToFlow parseJSON build).nodes.map FlowNode.id := by
      rcases List.mem_map.mp known with ⟨node, nodeMember, rfl⟩
      refine List.mem_map.mpr ⟨flowNode parseJSON node, List.mem_map_of_mem ?_, rfl⟩
      by_cases rack : node.type = "rack"
      · exact List.mem_append_left _ (List.mem_filter.mpr ⟨nodeMember, decide_eq_true rack⟩)
      · exact List.mem_append_right _ (List.mem_filter.mpr ⟨nodeMember, decide_eq_true rack⟩)
    exact ⟨card (fits.cables cable member).1, card (fits.cables cable member).2⟩
  racks := by
    intro isFlat device listed parent given
    rcases List.mem_map.mp listed with ⟨node, member, rfl⟩
    have set : parent ∈ idOf node.parentID := by
      have named := mem_idOf.mp given
      exact Option.mem_def.mpr named.1
    constructor
    · intro rack
      rw [unnested isFlat node member rack] at set
      cases set
    · rcases fits.racks node member parent set with ⟨rack, rackMember, same, type⟩
      exact ⟨hardwareNode parseJSON rack, List.mem_map_of_mem rackMember, same, type⟩

theorem sameCard_dropped {nodes moved : List FlowNode} {removals gone : List String}
    (cards : List.Forall₂ SameCard (nodes.filter fun node => node.id ∉ removals) moved)
    (goes : removals ⊆ gone) :
    List.Forall₂ SameCard (nodes.filter fun node => node.id ∉ gone)
      (moved.filter fun node => node.id ∉ gone) := by
  have alike : Relator.LiftFun SameCard (· ↔ ·)
      (fun node => decide (node.id ∉ gone) = true) fun node => decide (node.id ∉ gone) = true := by
    intro before after card
    show decide (before.id ∉ gone) = true ↔ decide (after.id ∉ gone) = true
    rw [card.id]
  have dropped := List.rel_filter alike cards
  have both : ((nodes.filter fun node => node.id ∉ removals).filter fun node => node.id ∉ gone) =
      nodes.filter fun node => node.id ∉ gone := by
    rw [List.filter_filter]
    apply List.filter_congr
    intro node _
    by_cases stays : node.id ∉ gone
    · have kept : node.id ∉ removals := fun removed => stays (goes removed)
      simp [stays, kept]
    · simp [stays]
  rw [both] at dropped
  exact dropped

theorem mem_addEdge (library : CanvasLibrary) {edge other : FlowEdge} {edges : List FlowEdge}
    (listed : other ∈ library.addEdge FlowEdge.ends edge edges) : other = edge ∨ other ∈ edges := by
  by_cases known : ∃ old ∈ edges, old.ends = edge.ends
  · rw [library.addEdge_old _ _ _ known] at listed
    exact .inr listed
  · rw [library.addEdge_new _ _ _ fun old member same => known ⟨old, member, same⟩] at listed
    rcases List.mem_append.mp listed with old | isNew
    · exact .inr old
    · exact .inl (List.mem_singleton.mp isNew)

theorem joins_newEdge {library : FlowLibrary} {types : List (String × String)}
    {connection : LinkEnd} {edge : FlowEdge} (made : newEdge library types connection = some edge)
    {ids : List String} (source : connection.source ∈ ids) (target : connection.target ∈ ids) :
    edge.ends.source ∈ ids ∧ edge.ends.target ∈ ids := by
  unfold newEdge at made
  split at made
  · rcases Option.map_eq_some_iff.mp made with ⟨cable, normal, rfl⟩
    unfold normalizePowerConnection at normal
    dsimp only at normal
    split at normal
    · cases normal
      exact ⟨source, target⟩
    · split at normal
      · cases normal
        exact ⟨target, source⟩
      · cases normal
  · cases made
    exact ⟨source, target⟩

theorem completed_place (rawNode : HardwareNode) : (completed rawNode).id = rawNode.id ∧
    (completed rawNode).type = rawNode.type ∧ (completed rawNode).parentID = rawNode.parentID := by
  unfold completed
  split <;> exact ⟨rfl, rfl, rfl⟩

namespace SoundState

variable {flat : Prop} {state : BuilderState}

theorem loadBuild (parseJSON : String → Option Json) (state : BuilderState) (id name : String)
    {build : Build} (fits : build.Fits) (unnested : flat → build.Unnested) :
    SoundState flat (Canvas.loadBuild parseJSON state id name build) where
  canvas := sound_mapBuildToFlow parseJSON fits unnested
  past := nofun
  future := nofun

theorem withCanvas (sound : SoundState flat state) {canvas : Canvas} (next : Sound flat canvas) :
    SoundState flat { state with canvas := canvas } where
  canvas := next
  past := sound.past
  future := sound.future

theorem withStep {past : List Snapshot} {snap : Snapshot}
    (sound : ∀ step ∈ past, Sound flat step.canvas) (last : Sound flat snap.canvas)
    (canvas : Sound flat state.canvas) : SoundState flat (state.withStep past snap) where
  canvas := canvas
  past := by
    intro step member
    rcases List.mem_append.mp (mem_lastSteps member) with old | isNew
    · exact sound step old
    · rw [List.mem_singleton.mp isNew]
      exact last
  future := nofun

theorem recorded (sound : SoundState flat state) {canvas : Canvas} (next : Sound flat canvas) :
    SoundState flat { state.recordEdit with canvas := canvas } :=
  (@withStep flat state state.historyPast { canvas := state.canvas } sound.past sound.canvas
    sound.canvas).withCanvas next

theorem undo (sound : SoundState flat state) : SoundState flat state.undo := by
  unfold BuilderState.undo
  split
  · exact sound
  · split
    · exact sound
    · rename_i snap last
      refine ⟨sound.past snap (List.mem_of_getLast? last), ?_, ?_⟩
      · exact fun step member => sound.past step (List.dropLast_subset _ member)
      · intro step member
        rcases List.mem_cons.mp (List.mem_of_mem_take member) with rfl | later
        · exact sound.canvas
        · exact sound.future step later

theorem redo (sound : SoundState flat state) : SoundState flat state.redo := by
  unfold BuilderState.redo
  split
  · exact sound
  · split
    · exact sound
    · rename_i snap future isNext
      have next := isNext ▸ sound.future
      refine ⟨next snap List.mem_cons_self, ?_, fun step member =>
        next step (List.mem_cons_of_mem _ member)⟩
      intro step member
      rcases List.mem_append.mp (mem_lastSteps member) with old | isNew
      · exact sound.past step old
      · rw [List.mem_singleton.mp isNew]
        exact sound.canvas

section Edits

variable (library : FlowLibrary) (sound : SoundState flat state)

include sound

theorem updateVirtualNetwork (hostID : String) (network : Json) :
    SoundState flat (state.updateVirtualNetwork hostID network) := by
  unfold BuilderState.updateVirtualNetwork
  split
  · exact sound
  · apply sound.recorded
    exact sound.canvas.updateHardware _ nofun nofun nofun

theorem openVirtualNetwork (hostID : Option String) :
    SoundState flat (state.openVirtualNetwork hostID) := by
  have opened : ∀ next : BuilderState, SoundState flat next → ∀ host selected,
      SoundState flat { next with virtualHostID := host, selectedNodeID := selected } :=
    fun _ next _ _ => ⟨next.canvas, next.past, next.future⟩
  apply opened
  split
  · split
    · exact sound
    · exact sound.updateVirtualNetwork _ _
  · exact sound

theorem applyLayout (positions : List Placement) : SoundState flat (state.applyLayout positions) := by
  unfold BuilderState.applyLayout
  split
  · exact sound
  · split
    · exact sound
    · apply sound.recorded
      have cards : List.Forall₂ SameCard state.canvas.nodes
          (state.canvas.nodes.map (placed positions)) := by
        rw [List.forall₂_map_right_iff]
        apply List.forall₂_same.mpr
        intro node _
        unfold placed
        split <;> exact ⟨rfl, rfl, rfl, rfl, rfl⟩
      exact (sound.canvas.moved cards).positioned

theorem onNodesChange (changes : List NodeChange) :
    SoundState flat (state.onNodesChange library changes) := by
  have cards := library.applyNodeChanges_cards changes state.canvas.nodes
  unfold BuilderState.onNodesChange
  dsimp only
  generalize library.applyNodeChanges changes state.canvas.nodes = nodes at cards ⊢
  generalize changes.filterMap NodeChange.removed = removals at cards ⊢
  have left : Sound flat (if removals = [] then { state.canvas with nodes := nodes }
    else dropNodes { state.canvas with nodes := nodes }
      (if removals = [] then [] else withMounted state.canvas.hardwareNodes removals)) := by
    split
    · rename_i none_
      apply sound.canvas.moved
      simpa [none_] using cards
    · have closed (isFlat : flat) :=
        closed_withMounted (sound.canvas.racks isFlat) sound.canvas.distinct removals
      exact (sound.canvas.dropNodes closed).moved
        (sameCard_dropped cards (subset_withMounted state.canvas.hardwareNodes removals))
  split
  · rename_i quiet
    rw [if_pos quiet.2] at left
    exact sound.withCanvas left
  · have placed {canvas : Canvas} (left : Sound flat canvas) :
        Sound flat (if changes.filter NodeChange.isDragEnd = [] then canvas
          else { canvas with
            hardwareNodes := withNodePositions canvas.hardwareNodes canvas.nodes }) := by
      split
      · exact left
      · exact left.positioned
    have done := sound.recorded (placed left)
    exact ⟨done.canvas, done.past, done.future⟩

theorem onEdgesChange (changes : List EdgeChange) :
    SoundState flat (state.onEdgesChange library changes) := by
  have next : Sound flat { state.canvas with
      edges := library.applyEdgeChanges changes state.canvas.edges } := by
    apply sound.canvas.cabled
    rw [library.applyEdgeChanges_cables]
    exact fun edge listed => sound.canvas.cables edge (List.mem_filter.mp listed).1
  unfold BuilderState.onEdgesChange
  dsimp only
  split
  · exact sound.withCanvas next
  · exact sound.recorded next

theorem updateEdge (id : String) {updates : EdgePatch}
    (source : ∀ source ∈ updates.source, source ∈ state.canvas.nodes.map FlowNode.id)
    (target : ∀ target ∈ updates.target, target ∈ state.canvas.nodes.map FlowNode.id) :
    SoundState flat (state.updateEdge id updates) := by
  apply sound.withCanvas
  apply sound.canvas.cabled
  intro edge listed
  rcases List.mem_map.mp listed with ⟨before, member, rfl⟩
  have ends := sound.canvas.cables before member
  split
  · constructor
    · show updates.source.getD before.ends.source ∈ _
      cases given : updates.source with
      | none => exact ends.1
      | some newSource => exact source newSource given
    · show updates.target.getD before.ends.target ∈ _
      cases given : updates.target with
      | none => exact ends.2
      | some newTarget => exact target newTarget given
  · exact ends

theorem onConnect {connection : LinkEnd}
    (source : connection.source ∈ state.canvas.nodes.map FlowNode.id)
    (target : connection.target ∈ state.canvas.nodes.map FlowNode.id) :
    SoundState flat (state.onConnect library connection) := by
  unfold BuilderState.onConnect
  split
  · exact sound
  · rename_i edge made
    apply sound.recorded
    apply sound.canvas.cabled
    intro other listed
    rcases mem_addEdge library.toCanvasLibrary listed with rfl | old
    · exact joins_newEdge made source target
    · exact sound.canvas.cables other old

theorem addHardware {rawNode : HardwareNode} (fresh : Fresh state.canvas rawNode.id)
    (racks : ∀ parent ∈ idOf rawNode.parentID, IsRack state.canvas.hardwareNodes parent)
    (unnested : flat → rawNode.type = "rack" → idOf rawNode.parentID = none) :
    SoundState flat (state.addHardware rawNode) := by
  rcases completed_place rawNode with ⟨id, type, parentID⟩
  apply sound.recorded
  refine sound.canvas.concat rfl ⟨rfl, rfl, rfl, rfl, rfl, rfl, rfl, rfl⟩ ?_ ?_ ?_
  · rw [id]
    exact fresh.1
  · rw [id]
    exact fresh.2
  · intro isFlat parent given
    rw [parentID] at given
    refine ⟨?_, racks parent given⟩
    intro rack
    rw [unnested isFlat (type ▸ rack)] at given
    cases given

theorem removeHardware (nodeID : String) : SoundState flat (state.removeHardware nodeID) := by
  have closed (isFlat : flat) := closed_removedWith (sound.canvas.racks isFlat)
    sound.canvas.distinct sound.canvas.named nodeID
  have done := sound.recorded (sound.canvas.dropNodes closed)
  exact ⟨done.canvas, done.past, done.future⟩

theorem duplicateHardware (nodeID : String) {newID : String} (ids : Nat → String)
    (fresh : Fresh state.canvas newID) :
    SoundState flat (state.duplicateHardware nodeID newID ids) := by
  unfold BuilderState.duplicateHardware
  split
  · exact sound
  · rename_i orig found
    split
    · exact sound
    · rename_i noRack
      have member := List.mem_of_find?_eq_some found
      have agrees : Agrees (newCard "hardware" (copied ids newID orig)) (copied ids newID orig) :=
        ⟨rfl, rfl, rfl, rfl, rfl, rfl, rfl, rfl⟩
      have next := sound.canvas.concat rfl agrees fresh.1 fresh.2 fun isFlat parent given =>
        ⟨noRack, (sound.canvas.racks isFlat orig member parent given).2⟩
      have done := sound.recorded next
      exact ⟨done.canvas, done.past, done.future⟩

theorem change (nodeID : String) {change : HardwareNode → DevicePatch}
    (keeps : ∀ device, (change device).KeepsPlace) : SoundState flat (state.change nodeID change) :=
  sound.recorded (sound.canvas.changeDevice nodeID keeps)

theorem edit (made : Edit) (allowed : made.Allowed state.canvas)
    (unnested : flat → made.Unnested state.canvas) : SoundState flat (state.edit library made) := by
  have keeps (patch : DevicePatch) (id : patch.id = none) (type : patch.type = none)
      (parentID : patch.parentID = none) : patch.KeepsPlace := ⟨id, type, parentID⟩
  cases made with
  | openVirtualNetwork host => exact sound.openVirtualNetwork host
  | updateVirtualNetwork host network => exact sound.updateVirtualNetwork host network
  | addTag tag => exact ⟨sound.canvas, sound.past, sound.future⟩
  | deleteTag tagID => exact ⟨sound.canvas.deleteTag tagID, sound.past, sound.future⟩
  | setBuildKind kind => exact ⟨sound.canvas, sound.past, sound.future⟩
  | setGamingPlan plan => exact ⟨sound.canvas, sound.past, sound.future⟩
  | setSetupDone stepIDs =>
      unfold BuilderState.edit BuilderState.setSetupDone
      dsimp only
      split
      · exact sound
      · exact ⟨sound.canvas, sound.past, sound.future⟩
  | setProjectName name => exact ⟨sound.canvas, sound.past, sound.future⟩
  | applyLayout positions => exact sound.applyLayout positions
  | onNodesChange changes => exact sound.onNodesChange library changes
  | onEdgesChange changes => exact sound.onEdgesChange library changes
  | updateEdge id updates => exact sound.updateEdge id allowed.1 allowed.2
  | onConnect connection => exact sound.onConnect library allowed.1 allowed.2
  | selectNode node => exact ⟨sound.canvas, sound.past, sound.future⟩
  | addHardware rawNode => exact sound.addHardware allowed.1 allowed.2 unnested
  | removeHardware nodeID => exact sound.removeHardware nodeID
  | updateHardware nodeID updates =>
      apply sound.withCanvas
      refine sound.canvas.updateHardware nodeID allowed.1 allowed.2.1 ?_
      intro isFlat parent given
      exact ⟨allowed.2.2 parent given,
        unnested isFlat (Option.isSome_iff_exists.mpr ⟨parent, given⟩)⟩
  | duplicateHardware nodeID newID fresh => exact sound.duplicateHardware nodeID fresh allowed
  | addInternalComponent nodeID component => exact sound.change nodeID fun _ => keeps _ rfl rfl rfl
  | removeInternalComponent nodeID componentID =>
      exact sound.change nodeID fun _ => keeps _ rfl rfl rfl
  | updateInternalComponent nodeID componentID updates =>
      exact sound.withCanvas (sound.canvas.changeDevice nodeID fun _ => keeps _ rfl rfl rfl)
  | addVM nodeID rawVM =>
      unfold BuilderState.edit BuilderState.addVM
      dsimp only
      split
      · exact sound.change nodeID fun _ => keeps _ rfl rfl rfl
      · exact sound
  | removeVM nodeID vmID => exact sound.change nodeID fun _ => keeps _ rfl rfl rfl
  | updateVM nodeID vmID updates => exact sound.change nodeID fun _ => keeps _ rfl rfl rfl
  | startProposalPreview => exact ⟨sound.canvas, sound.past, sound.future⟩
  | endProposalPreview => exact ⟨sound.canvas, sound.past, sound.future⟩
  | undo => exact sound.undo
  | redo => exact sound.redo

theorem mergeAnswer (parseJSON : String → Option Json) (sentBuildID : String) (sent : BuildData)
    (build : Build) :
    SoundState flat (Canvas.mergeAnswer parseJSON sentBuildID sent build state) := by
  have merged := sound.canvas.mergeNodes parseJSON build.nodes
  unfold Canvas.mergeAnswer
  split
  · exact sound
  · dsimp only
    split <;> exact ⟨merged, sound.past, sound.future⟩

theorem act (parseJSON : String → Option Json) {action : Action}
    (allowed : action.Allowed state.canvas) (unnested : flat → action.Unnested state.canvas) :
    SoundState flat (state.act library parseJSON action) := by
  cases action with
  | edit made => exact sound.edit library made allowed unnested
  | mergeAnswer sentBuildID sent build => exact sound.mergeAnswer parseJSON sentBuildID sent build
  | takeOver latest =>
      exact withStep sound.past sound.canvas (sound_mapBuildToFlow parseJSON allowed unnested)
  | takeProposal build =>
      exact withStep sound.past sound.canvas (sound_mapBuildToFlow parseJSON allowed unnested)
  | loadBuild id name build => exact SoundState.loadBuild parseJSON state id name allowed unnested
  | startOpening id =>
      unfold BuilderState.act Canvas.startOpening
      dsimp only
      split
      · exact sound
      · split <;> exact ⟨sound_nil flat, nofun, nofun⟩
  | clearCurrentBuild => exact ⟨sound_nil flat, nofun, nofun⟩

end Edits

end SoundState

/-! ## The open build -/

/-- The open build of a store, and the revision it holds of it. -/
structure SameBuild (state later : BuilderState) : Prop where
  id : later.currentBuildID = state.currentBuildID
  ready : later.isReady = state.isReady
  revision : later.currentRevision = state.currentRevision

theorem sameBuild_updateVirtualNetwork (state : BuilderState) (hostID : String) (network : Json) :
    SameBuild state (state.updateVirtualNetwork hostID network) := by
  unfold BuilderState.updateVirtualNetwork
  split <;> exact ⟨rfl, rfl, rfl⟩

theorem sameBuild_edit (library : FlowLibrary) (state : BuilderState) (made : Edit) :
    SameBuild state (state.edit library made) := by
  cases made with
  | openVirtualNetwork host =>
      unfold BuilderState.edit BuilderState.openVirtualNetwork
      dsimp only
      split
      · split
        · exact ⟨rfl, rfl, rfl⟩
        · have updated := sameBuild_updateVirtualNetwork state
          exact ⟨(updated _ _).id, (updated _ _).ready, (updated _ _).revision⟩
      · exact ⟨rfl, rfl, rfl⟩
  | updateVirtualNetwork host network => exact sameBuild_updateVirtualNetwork state host network
  | setSetupDone stepIDs =>
      unfold BuilderState.edit BuilderState.setSetupDone
      dsimp only
      split <;> exact ⟨rfl, rfl, rfl⟩
  | applyLayout positions =>
      unfold BuilderState.edit BuilderState.applyLayout
      dsimp only
      split
      · exact ⟨rfl, rfl, rfl⟩
      · split <;> exact ⟨rfl, rfl, rfl⟩
  | onNodesChange changes =>
      unfold BuilderState.edit BuilderState.onNodesChange
      dsimp only
      split <;> exact ⟨rfl, rfl, rfl⟩
  | onEdgesChange changes =>
      unfold BuilderState.edit BuilderState.onEdgesChange
      dsimp only
      split <;> exact ⟨rfl, rfl, rfl⟩
  | onConnect connection =>
      unfold BuilderState.edit BuilderState.onConnect
      dsimp only
      split <;> exact ⟨rfl, rfl, rfl⟩
  | duplicateHardware nodeID newID fresh =>
      unfold BuilderState.edit BuilderState.duplicateHardware
      dsimp only
      split
      · exact ⟨rfl, rfl, rfl⟩
      · split <;> exact ⟨rfl, rfl, rfl⟩
  | addVM nodeID rawVM =>
      unfold BuilderState.edit BuilderState.addVM
      dsimp only
      split <;> exact ⟨rfl, rfl, rfl⟩
  | undo =>
      unfold BuilderState.edit BuilderState.undo
      dsimp only
      split
      · exact ⟨rfl, rfl, rfl⟩
      · split <;> exact ⟨rfl, rfl, rfl⟩
  | redo =>
      unfold BuilderState.edit BuilderState.redo
      dsimp only
      split
      · exact ⟨rfl, rfl, rfl⟩
      · split <;> exact ⟨rfl, rfl, rfl⟩
  | _ => exact ⟨rfl, rfl, rfl⟩

/-! ## Runs -/

section Runs

variable (library : FlowLibrary) (parseJSON : String → Option Json)

theorem soundState_run {flat : Prop} {start later : BuilderState} (sound : SoundState flat start)
    (run : Relation.ReflTransGen (Acts library parseJSON fun canvas action =>
      action.Allowed canvas ∧ (flat → action.Unnested canvas)) start later) :
    SoundState flat later := by
  induction run with
  | refl => exact sound
  | tail _ acts induction =>
      rcases acts with ⟨action, ⟨allowed, unnested⟩, rfl⟩
      exact induction.act library parseJSON allowed unnested

/-- From a loaded build on, ids, cards and cables stay consistent, and as long as no
rack is put in a rack, so does what is mounted. -/
theorem canvas_consistent (state : BuilderState) (id name : String) {build : Build}
    (fits : build.Fits) {later : BuilderState} :
    (Relation.ReflTransGen (Acts library parseJSON fun canvas action => action.Allowed canvas)
        (loadBuild parseJSON state id name build) later →
      Mirrored FlowNode.id HardwareNode.id Agrees later.canvas.nodes later.canvas.hardwareNodes ∧
        Joins (later.canvas.nodes.map FlowNode.id) later.canvas.edges) ∧
    (build.Unnested → Relation.ReflTransGen
        (Acts library parseJSON fun canvas action => action.Allowed canvas ∧ action.Unnested canvas)
        (loadBuild parseJSON state id name build) later →
      Consistent later.canvas) := by
  constructor
  · intro run
    have loaded := @SoundState.loadBuild False parseJSON state id name build fits False.elim
    have sound := (soundState_run library parseJSON loaded
      (Relation.ReflTransGen.mono ?_ _ _ run)).canvas
    · exact ⟨sound.devices, sound.cables⟩
    · rintro before after ⟨action, allowed, rfl⟩
      exact ⟨action, ⟨allowed, False.elim⟩, rfl⟩
  · intro unnested run
    have loaded := @SoundState.loadBuild True parseJSON state id name build fits fun _ => unnested
    refine (soundState_run library parseJSON loaded
      (Relation.ReflTransGen.mono ?_ _ _ run)).canvas.consistent
    rintro before after ⟨action, ⟨allowed, flat⟩, rfl⟩
    exact ⟨action, ⟨allowed, fun _ => flat⟩, rfl⟩

end Runs

theorem apiBuild_fits {runtime : Services.Runtime} {stored : Services.StoredBuild}
    {nodes : List Services.NodeDTO} {settings : List (String × Json)}
    (validated : Validated runtime stored nodes settings) :
    (apiBuild stored.tables stored.build).Fits ∧
      (apiBuild stored.tables stored.build).Unnested := by
  have read := Keyed.forall₂_of_mapM_option validated.read
  have ids : nodes.map Services.NodeDTO.id =
      (apiBuild stored.tables stored.build).nodes.map BuildNode.id := by
    rw [Keyed.map_eq_of_forall₂ (read.imp fun _ _ isRead => (place_storedNode isRead).1)]
    show _ = ((stored.tables.nodesOf stored.build.id).map (apiNode stored.tables)).map BuildNode.id
    rw [List.map_map]
    rfl
  have checked := (Services.validateGraph_eq_ok_iff.mp validated.valid).2.2
  unfold Services.graphIssues at checked
  simp only [List.append_eq_nil_iff, List.map_eq_nil_iff] at checked
  rcases Services.nodeIssues_eq_nil_iff.mp checked.1.1 with ⟨rows, distinct, _, _⟩
  have mounted {row : Services.NodeRow} (listed : row ∈ stored.tables.nodesOf stored.build.id)
      {parent : String} (given : parent ∈ idOf (apiNode stored.tables row).parentID) :
      row.type ≠ "rack" ∧ ∃ rack ∈ stored.tables.nodesOf stored.build.id,
        rack.id.text = parent ∧ rack.type = "rack" := by
    rcases Keyed.exists_of_forall₂ read listed with ⟨dto, member, isRead⟩
    rcases place_storedNode isRead with ⟨_, type, parentID⟩
    rcases mem_idOf.mp given with ⟨set, named⟩
    rcases Services.mounted_of_validateGraph validated.valid member (parentID.trans set) named with
      ⟨noRack, other, otherMember, same, isRack⟩
    rcases Keyed.exists_of_forall₂ read.flip otherMember with ⟨rack, rackListed, rackRead⟩
    rcases place_storedNode rackRead with ⟨rackID, rackType, _⟩
    exact ⟨type ▸ noRack, rack, rackListed, rackID.symm.trans same, rackType.symm.trans isRack⟩
  refine ⟨⟨ids ▸ distinct, ?_, ?_, ?_⟩, ?_⟩
  · intro node listed empty
    have known : node.id ∈ nodes.map Services.NodeDTO.id := ids ▸ List.mem_map_of_mem listed
    rcases List.mem_map.mp known with ⟨dto, member, same⟩
    apply (rows dto member).named
    rw [same, empty]
    decide
  · intro edge listed
    rcases List.mem_map.mp listed with ⟨row, member, rfl⟩
    rcases (Services.validated validated.valid).2 row.toDTO (List.mem_map_of_mem member) with
      ⟨⟨source, sourceListed, sourceID⟩, ⟨target, targetListed, targetID⟩⟩
    rw [← ids]
    exact ⟨List.mem_map.mpr ⟨source, sourceListed, sourceID⟩,
      List.mem_map.mpr ⟨target, targetListed, targetID⟩⟩
  · intro node listed parent given
    rcases List.mem_map.mp listed with ⟨row, member, rfl⟩
    rcases (mounted member given).2 with ⟨rack, rackMember, same, type⟩
    exact ⟨apiNode stored.tables rack, List.mem_map_of_mem rackMember, same, type⟩
  · intro node listed rack
    rcases List.mem_map.mp listed with ⟨row, member, rfl⟩
    cases given : idOf (apiNode stored.tables row).parentID with
    | none => rfl
    | some parent => exact absurd rack (mounted member given).1

/-! ### A server in a rack, and a rack in a rack -/

/-- An empty build. -/
def emptyBuild : Build where
  id := "build"
  name := "Home"
  revision := 1

theorem emptyBuild_fits : emptyBuild.Fits where
  distinct := List.nodup_nil
  named := nofun
  cables := nofun
  racks := nofun

def outerRack : HardwareNode := { id := "outer", type := "rack", name := "Rack", x := 0, y := 0 }

def innerRack : HardwareNode :=
  { id := "inner", type := "rack", name := "Shelf", x := 0, y := 0, parentID := some "outer" }

def mountedServer (rack : String) : HardwareNode :=
  { id := "server", type := "server", name := "Server", x := 0, y := 0, parentID := some rack }

/-- The store after an empty build was opened and edited. -/
def edited (edits : List Edit) : BuilderState :=
  edits.foldl (fun state made => state.edit FlowLibrary.plain made)
    (loadBuild (fun _ => none) {} "build" "Home" emptyBuild)

theorem isRack_edited {edits : List Edit} {rack : HardwareNode}
    (last : (edited edits).canvas.hardwareNodes.getLast? = some rack) (type : rack.type = "rack") :
    ∀ parent ∈ some rack.id, IsRack (edited edits).canvas.hardwareNodes parent := by
  rintro parent ⟨⟩
  exact ⟨rack, List.mem_of_getLast? last, rfl, type⟩

def looseSwitch : HardwareNode :=
  { id := "switch", type := "switch", name := "Switch", x := 0, y := 0 }

/-- A server is mounted in a rack and gets a cable and a guest; the guest goes and
comes back. -/
def rackedEdits : List Edit :=
  [.addHardware outerRack, .addHardware (mountedServer "outer"), .addHardware looseSwitch,
    .onConnect ⟨"server", "switch", "eth0", "eth0"⟩,
    .addVM "server" { id := "media", name := "Media", type := "vm" }, .undo, .redo]

/-- A server is mounted in a rack that is in a rack that goes. -/
def nestedEdits : List Edit :=
  [.addHardware outerRack, .addHardware innerRack, .addHardware (mountedServer "inner"),
    .removeHardware "outer"]

theorem nestedEdits_run :
    Relation.ReflTransGen
      (Acts FlowLibrary.plain (fun _ => none) fun canvas action => action.Allowed canvas)
      (loadBuild (fun _ => none) {} "build" "Home" emptyBuild) (edited nestedEdits) := by
  refine .tail (.tail (.tail (.tail .refl ⟨.edit (.addHardware outerRack), ?_, rfl⟩)
    ⟨.edit (.addHardware innerRack), ?_, rfl⟩)
    ⟨.edit (.addHardware (mountedServer "inner")), ?_, rfl⟩)
    ⟨.edit (.removeHardware "outer"), trivial, rfl⟩
  · exact ⟨⟨by decide, by decide⟩, nofun⟩
  · exact ⟨⟨by decide, by decide⟩,
      @isRack_edited [.addHardware outerRack] outerRack rfl rfl⟩
  · exact ⟨⟨by decide, by decide⟩,
      @isRack_edited [.addHardware outerRack, .addHardware innerRack] innerRack rfl rfl⟩

theorem rackedEdits_run :
    Relation.ReflTransGen
      (Acts FlowLibrary.plain (fun _ => none) fun canvas action =>
        action.Allowed canvas ∧ action.Unnested canvas)
      (loadBuild (fun _ => none) {} "build" "Home" emptyBuild) (edited rackedEdits) := by
  refine .tail (.tail (.tail (.tail (.tail (.tail (.tail .refl
    ⟨.edit (.addHardware outerRack), ⟨?_, ?_⟩, rfl⟩)
    ⟨.edit (.addHardware (mountedServer "outer")), ⟨?_, ?_⟩, rfl⟩)
    ⟨.edit (.addHardware looseSwitch), ⟨?_, ?_⟩, rfl⟩)
    ⟨.edit (.onConnect ⟨"server", "switch", "eth0", "eth0"⟩), ⟨?_, trivial⟩, rfl⟩)
    ⟨.edit (.addVM "server" { id := "media", name := "Media", type := "vm" }),
      ⟨trivial, trivial⟩, rfl⟩)
    ⟨.edit .undo, ⟨trivial, trivial⟩, rfl⟩)
    ⟨.edit .redo, ⟨trivial, trivial⟩, rfl⟩
  · exact ⟨⟨by decide, by decide⟩, nofun⟩
  · exact fun _ => rfl
  · exact ⟨⟨by decide, by decide⟩,
      @isRack_edited [.addHardware outerRack] outerRack rfl rfl⟩
  · intro rack
    exact absurd rack (by decide)
  · exact ⟨⟨by decide, by decide⟩, nofun⟩
  · exact fun _ => rfl
  · exact ⟨by decide, by decide⟩

theorem canvas_consistent_mounted :
    Consistent (edited rackedEdits).canvas ∧
      (edited rackedEdits).canvas.hardwareNodes.map
        (fun device => (device.id, idOf device.parentID, (device.vms.getD []).map (·.id))) =
          [("outer", none, []), ("server", some "outer", ["media"]), ("switch", none, [])] ∧
      (edited rackedEdits).canvas.edges.length = 1 ∧
      Mirrored FlowNode.id HardwareNode.id Agrees (edited nestedEdits).canvas.nodes
        (edited nestedEdits).canvas.hardwareNodes := by
  have racked := (@canvas_consistent FlowLibrary.plain (fun _ => none) {} "build" "Home" _
    emptyBuild_fits (edited rackedEdits)).2 nofun rackedEdits_run
  have nested := (@canvas_consistent FlowLibrary.plain (fun _ => none) {} "build" "Home" _
    emptyBuild_fits (edited nestedEdits)).1 nestedEdits_run
  exact ⟨racked, by decide, by decide, nested.1⟩

/-- A rack that is removed leaves what is mounted in a rack inside it. -/
theorem nested_rack_breaks_canvas :
    ¬ ∀ (library : FlowLibrary) (parseJSON : String → Option Json) (state : BuilderState)
      (id name : String) (build : Build), build.Fits → ∀ later : BuilderState,
      Relation.ReflTransGen (Acts library parseJSON fun canvas action => action.Allowed canvas)
        (loadBuild parseJSON state id name build) later → Consistent later.canvas := by
  intro claim
  have consistent := claim _ _ _ _ _ _ emptyBuild_fits _ nestedEdits_run
  have ids : (edited nestedEdits).canvas.hardwareNodes.map
      (fun device => (device.id, idOf device.parentID)) = [("server", some "inner")] := by
    decide
  generalize (edited nestedEdits).canvas = canvas at consistent ids
  have left : canvas.hardwareNodes.map HardwareNode.id = ["server"] := by
    have first := congrArg (List.map Prod.fst) ids
    rw [List.map_map] at first
    exact first
  have listed : ("server", some "inner") ∈ canvas.hardwareNodes.map
      fun device => (device.id, idOf device.parentID) := ids ▸ List.mem_singleton_self _
  rcases List.mem_map.mp listed with ⟨device, member, same⟩
  rcases consistent.mounted device member "inner" (congrArg Prod.snd same) with
    ⟨rack, rackMember, isInner, _⟩
  have known := left ▸ List.mem_map_of_mem (f := HardwareNode.id) rackMember
  rw [isInner, List.mem_singleton] at known
  exact absurd known (by decide)

end HomelabBuilder.Canvas
