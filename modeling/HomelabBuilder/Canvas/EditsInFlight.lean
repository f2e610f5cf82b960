import HomelabBuilder.Canvas.StoreRuns

/-! # Edits while a save is under way

What is left of an edit that was made between a save and its answer, once the
answer has been merged.
-/

namespace HomelabBuilder.Canvas

/-! ## What an edit is -/

def heldDetail (canvas : Canvas) (id key : String) : Option Json :=
  (deviceOf canvas.hardwareNodes id).bind fun device => (device.details.getD []).lookup key

/-- A detail that was added, changed or cleared, and that no server computes. -/
def DetailEdited (before after : Canvas) (id key : String) : Prop :=
  key ∉ derivedDetailKeys ∧ heldDetail before id key ≠ heldDetail after id key

def unaddressed (vm : Guest) : Guest := { vm with ip := "" }

/-- The fields of a device that no server computes; of its details, those given. -/
structure KeptDevice (edited : String → Prop) (before after : HardwareNode) : Prop where
  id : after.id = before.id
  type : after.type = before.type
  name : after.name = before.name
  macAddress : after.macAddress = before.macAddress
  powerDraw : after.powerDraw = before.powerDraw
  x : after.x = before.x
  y : after.y = before.y
  details : ∀ key, edited key →
    (after.details.getD []).lookup key = (before.details.getD []).lookup key
  vms : (after.vms.getD []).map unaddressed = (before.vms.getD []).map unaddressed
  internalComponents : after.internalComponents = before.internalComponents
  parentID : after.parentID = before.parentID

structure KeptCard (edited : String → Prop) (before after : FlowNode) : Prop where
  id : after.id = before.id
  type : after.type = before.type
  x : after.x = before.x
  y : after.y = before.y
  label : after.label = before.label
  parentID : after.parentID = before.parentID
  data : KeptDevice edited before.data after.data

/-- Two nodes of a save that differ in nothing but what the server computes. -/
structure SameNode (left right : SavedNode) : Prop where
  id : left.id = right.id
  type : left.type = right.type
  name : left.name = right.name
  x : left.x = right.x
  y : left.y = right.y
  powerDraw : left.powerDraw = right.powerDraw
  macAddress : left.macAddress = right.macAddress
  details : ∀ key, key ∉ derivedDetailKeys → left.details.lookup key = right.details.lookup key
  vms : left.vms.map unaddressed = right.vms.map unaddressed
  internalComponents : left.internalComponents = right.internalComponents
  parentID : left.parentID = right.parentID

structure SameFields (left right : BuildData) : Prop where
  kind : left.kind = right.kind
  gamingPlan : left.gamingPlan = right.gamingPlan
  nodes : List.Forall₂ SameNode left.nodes right.nodes
  edges : left.edges = right.edges
  settings : left.settings = right.settings

theorem SameFields.refl (data : BuildData) : SameFields data data where
  kind := rfl
  gamingPlan := rfl
  nodes := List.forall₂_same.mpr fun _ _ =>
    ⟨rfl, rfl, rfl, rfl, rfl, rfl, rfl, fun _ _ => rfl, rfl, rfl, rfl⟩
  edges := rfl
  settings := rfl

/-- Every field that was edited while a save was under way holds the edited value
after the answer, and the canvas counts as unsaved if there was any. -/
structure EditsKept (sent edited merged : BuilderState) : Prop where
  cards : List.Forall₂
    (fun before after => KeptCard (DetailEdited sent.canvas edited.canvas before.id) before after)
    edited.canvas.nodes merged.canvas.nodes
  devices : List.Forall₂
    (fun before after => KeptDevice (DetailEdited sent.canvas edited.canvas before.id) before after)
    edited.canvas.hardwareNodes merged.canvas.hardwareNodes
  cables : merged.canvas.edges = edited.canvas.edges
  projectName : merged.projectName = edited.projectName
  buildKind : merged.buildKind = edited.buildKind
  gamingPlan : merged.gamingPlan = edited.gamingPlan
  buildSettings : merged.buildSettings = edited.buildSettings
  unsaved : ¬ SameFields (getBuildData sent) (getBuildData edited) →
    hasUnsavedChanges merged = true

/-! ## The condition -/

section Condition

variable (parseJSON : String → Option Json)

def answeredDetail (nodes : List BuildNode) (id key : String) : Option Json :=
  (nodes.reverse.find? fun node => node.id = id).bind fun node =>
    (parseDetails parseJSON node.details).lookup key

/-- No detail that was edited comes back with another value. The virtual network
of a host is not taken from an answer. -/
def AnswerFits (sent edited : Canvas) (nodes : List BuildNode) : Prop :=
  ∀ id ∈ edited.hardwareNodes.map HardwareNode.id, ∀ key, DetailEdited sent edited id key →
    key ≠ virtualNetworkKey → ∀ value, answeredDetail parseJSON nodes id key = some value →
      heldDetail edited id key = some value

/-- A node of a save with what the server calculated for it. -/
def answeredNode (nodes : List BuildNode) (node : SavedNode) : SavedNode :=
  match fromServer parseJSON nodes node.id with
  | some entry =>
      { node with
        ip := entry.ip
        details := mergeServerDetails (some node.details) entry.details
        vms := node.vms.map entry.guest }
  | none => node

/-- What a canvas sends, with what the server calculated. -/
def answered (nodes : List BuildNode) (data : BuildData) : BuildData :=
  { data with nodes := data.nodes.map (answeredNode parseJSON nodes) }

/-- The edits did not bring the canvas back to the copy that was last in sync. -/
def NotLastSynced (sent edited : BuilderState) (nodes : List BuildNode) : Prop :=
  ¬ SameFields (getBuildData sent) (getBuildData edited) →
    edited.lastSyncedFingerprint ≠ some (answered parseJSON nodes (getBuildData edited))

end Condition

/-! ## What a merge does -/

section Merge

variable (parseJSON : String → Option Json) {canvas : Canvas} {nodes : List BuildNode}

theorem lookup_mergeServerDetails (details : Option (List (String × Json)))
    (server : List (String × Json)) {key : String} (given : key ∉ derivedDetailKeys) :
    (mergeServerDetails details server).lookup key =
      (server.lookup key).or ((details.getD []).lookup key) := by
  rw [mergeServerDetails, Table.lookup_merge,
    Table.lookup_filter _ fun key => decide (key ∉ derivedDetailKeys),
    if_pos (decide_eq_true given)]

theorem lookup_fromServer {id key : String} {entry : ServerEntry}
    (found : fromServer parseJSON nodes id = some entry) : entry.details.lookup key =
      if key = virtualNetworkKey then none else answeredDetail parseJSON nodes id key := by
  rcases Option.map_eq_some_iff.mp found with ⟨node, isNode, rfl⟩
  rw [answeredDetail, isNode, serverEntry, Table.lookup_erase]
  rfl

theorem deviceOf_map {devices : List HardwareNode} {f : HardwareNode → HardwareNode}
    (kept : ∀ device, (f device).id = device.id) (id : String) :
    deviceOf (devices.map f) id = (deviceOf devices id).map f := by
  have same : (fun device : HardwareNode => decide (device.id = id)) ∘ f =
      fun device => decide (device.id = id) := by
    funext device
    rw [Function.comp_apply, kept]
  rw [deviceOf, deviceOf, ← List.map_reverse, List.find?_map, same]

theorem unaddressed_guest (entry : ServerEntry) (vms : List Guest) :
    (vms.map entry.guest).map unaddressed = vms.map unaddressed := by
  rw [List.map_map]
  rfl

@[simp]
theorem mergedDevice_id (device : HardwareNode) :
    (mergedDevice parseJSON nodes device).id = device.id := by
  unfold mergedDevice
  split <;> rfl

@[simp]
theorem mergedCard_id (node : FlowNode) : (mergedCard parseJSON nodes node).id = node.id := by
  unfold mergedCard
  split <;> rfl

theorem savedNode_merged {devices : List HardwareNode} {node : FlowNode} {device : HardwareNode}
    (listed : deviceOf devices node.id = some device) (same : device.id = node.id)
    (agrees : Agrees node device) :
    savedNode (devices.map (mergedDevice parseJSON nodes)) (mergedCard parseJSON nodes node) =
      answeredNode parseJSON nodes (savedNode devices node) := by
  have found : deviceOf (devices.map (mergedDevice parseJSON nodes))
      (mergedCard parseJSON nodes node).id = some (mergedDevice parseJSON nodes device) := by
    rw [mergedCard_id, deviceOf_map (mergedDevice_id parseJSON), listed, Option.map_some]
  have details : (node.data.details.or device.details) = node.data.details := by
    rw [agrees.details, Option.or_self]
  have vms : (node.data.vms.or device.vms).getD [] = node.data.vms.getD [] := by
    cases given : node.data.vms with
    | none =>
        have none_ := agrees.vms
        rw [given] at none_
        exact none_.symm
    | some vms => rfl
  have id : (savedNode devices node).id = node.id := rfl
  rw [answeredNode, id, savedNode, found]
  unfold mergedCard mergedDevice savedNode
  rw [same, listed]
  cases fromServer parseJSON nodes node.id with
  | none => rfl
  | some entry =>
      simp only [Option.elim_some, Option.bind_some]
      rw [details, vms]
      simp only [ServerEntry.card, ServerEntry.device, Option.some_or, Option.getD_some,
        orElse_self, mergeServerDetails]

/-- What the merged canvas sends is what the canvas sent, with what the server
calculated. -/
theorem getBuildData_merged {flat : Prop} {state merged : BuilderState}
    (sound : Sound flat state.canvas)
    (canvas : merged.canvas = mergeNodes parseJSON state.canvas nodes)
    (kind : merged.buildKind = state.buildKind) (plan : merged.gamingPlan = state.gamingPlan)
    (settings : merged.buildSettings = state.buildSettings) :
    getBuildData merged = answered parseJSON nodes (getBuildData state) := by
  have ids : merged.canvas.nodes.map (·.id) = state.canvas.nodes.map (·.id) := by
    rw [canvas, mergeNodes, List.map_map]
    exact List.map_congr_left fun node _ => mergedCard_id parseJSON node
  have edges : merged.canvas.edges = state.canvas.edges := by rw [canvas, mergeNodes]
  unfold getBuildData answered sanitizedEdges
  rw [ids, edges, kind, plan, settings, canvas]
  congr 1
  rw [mergeNodes, List.map_map, List.map_map]
  apply List.map_congr_left
  intro node member
  rcases sound.devices.exists_right member with ⟨device, listed, same, agrees⟩
  exact savedNode_merged parseJSON (same ▸ Keyed.find?_reverse_key sound.distinct listed) same
    agrees

theorem keptDevice_iff {edited : String → Prop} (derived : ∀ key, edited key → key ∉ derivedDetailKeys)
    {device : HardwareNode} :
    KeptDevice edited device (mergedDevice parseJSON nodes device) ↔
      ∀ key, edited key → key ≠ virtualNetworkKey → ∀ value,
        answeredDetail parseJSON nodes device.id key = some value →
          (device.details.getD []).lookup key = some value := by
  unfold mergedDevice
  cases found : fromServer parseJSON nodes device.id with
  | none =>
      have missing (key : String) : answeredDetail parseJSON nodes device.id key = none := by
        rw [answeredDetail, Option.map_eq_none_iff.mp found]
        rfl
      refine ⟨fun _ key _ _ value given => ?_, fun _ =>
        ⟨rfl, rfl, rfl, rfl, rfl, rfl, rfl, fun _ _ => rfl, rfl, rfl, rfl⟩⟩
      rw [missing] at given
      cases given
  | some entry =>
      have merged {key : String} (given : edited key) :
          ((entry.device device).details.getD []).lookup key =
            (if key = virtualNetworkKey then none
              else answeredDetail parseJSON nodes device.id key).or
                ((device.details.getD []).lookup key) := by
        show (mergeServerDetails device.details entry.details).lookup key = _
        rw [lookup_mergeServerDetails _ _ (derived key given), lookup_fromServer parseJSON found]
      have vms : ((entry.device device).vms.getD []).map unaddressed =
          (device.vms.getD []).map unaddressed := by
        show ((device.vms.map fun vms => vms.map entry.guest).getD []).map unaddressed = _
        cases device.vms with
        | none => rfl
        | some vms => exact unaddressed_guest entry vms
      constructor
      · intro kept key given named value answered
        have same := kept.details key given
        rw [merged given, if_neg named, answered, Option.some_or] at same
        exact same.symm
      · intro fits
        refine ⟨rfl, rfl, rfl, rfl, rfl, rfl, rfl, ?_, vms, rfl, rfl⟩
        intro key given
        rw [merged given]
        split
        · rfl
        · rename_i named
          cases answered : answeredDetail parseJSON nodes device.id key with
          | none => rfl
          | some value => exact (fits key given named value answered).symm

theorem keptCard_of_device {edited : String → Prop} {node : FlowNode} {device : HardwareNode}
    (same : device.id = node.id) (agrees : Agrees node device)
    (kept : KeptDevice edited device (mergedDevice parseJSON nodes device)) :
    KeptCard edited node (mergedCard parseJSON nodes node) := by
  unfold mergedDevice at kept
  unfold mergedCard
  rw [same] at kept
  cases found : fromServer parseJSON nodes node.id with
  | none =>
      exact ⟨rfl, rfl, rfl, rfl, rfl, rfl, rfl, rfl, rfl, rfl, rfl, rfl, rfl, fun _ _ => rfl, rfl, rfl,
        rfl⟩
  | some entry =>
      rw [found] at kept
      refine ⟨rfl, rfl, rfl, rfl, rfl, rfl, rfl, rfl, rfl, rfl, rfl, rfl, rfl, ?_, ?_, rfl, rfl⟩
      · intro key given
        have details := kept.details key given
        rw [← agrees.details] at details
        show (mergeServerDetails node.data.details entry.details).lookup key = _
        rw [agrees.details] at details ⊢
        exact details
      · exact unaddressed_guest entry _

end Merge

/-! ## Edits -/

section Edits

variable (library : FlowLibrary) (parseJSON : String → Option Json)

def Edits (state later : BuilderState) : Prop :=
  ∃ made : Edit, made.Allowed state.canvas ∧ later = state.edit library made

variable {library} in
theorem edits_run {sent edited : BuilderState} (sound : SoundState False sent)
    (run : Relation.ReflTransGen (Edits library) sent edited) :
    SoundState False edited ∧ SameBuild sent edited := by
  induction run with
  | refl => exact ⟨sound, rfl, rfl, rfl⟩
  | @tail middle _ _ step induction =>
      rcases step with ⟨made, allowed, rfl⟩
      have same := sameBuild_edit library middle made
      exact ⟨induction.1.edit library made allowed False.elim,
        same.id.trans induction.2.id, same.ready.trans induction.2.ready,
        same.revision.trans induction.2.revision⟩

structure Merged (sent edited : BuilderState) (answer : Build) (merged : BuilderState) : Prop where
  canvas : merged.canvas = mergeNodes parseJSON edited.canvas answer.nodes
  id : merged.currentBuildID = edited.currentBuildID
  ready : merged.isReady = edited.isReady
  projectName : merged.projectName = edited.projectName
  buildKind : merged.buildKind = edited.buildKind
  gamingPlan : merged.gamingPlan = edited.gamingPlan
  buildSettings : merged.buildSettings = edited.buildSettings
  lastSynced : getBuildData edited ≠ getBuildData sent →
    merged.lastSyncedFingerprint = edited.lastSyncedFingerprint

theorem merged_mergeAnswer {sent edited : BuilderState} {buildID : String}
    (isOpen : edited.currentBuildID = some buildID) (answer : Build) :
    Merged parseJSON sent edited answer
      (mergeAnswer parseJSON buildID (getBuildData sent) answer edited) := by
  rw [mergeAnswer, if_neg (not_not.mpr isOpen)]
  dsimp only
  split
  · exact ⟨rfl, rfl, rfl, rfl, rfl, rfl, rfl, fun _ => rfl⟩
  · rename_i same
    exact ⟨rfl, rfl, rfl, rfl, rfl, rfl, rfl, fun different => absurd different same⟩

variable {parseJSON}

theorem heldDetail_of_mem {canvas : Canvas} {flat : Prop} (sound : Sound flat canvas)
    {device : HardwareNode} (member : device ∈ canvas.hardwareNodes) (key : String) :
    heldDetail canvas device.id key = (device.details.getD []).lookup key := by
  have found : deviceOf canvas.hardwareNodes device.id = some device :=
    Keyed.find?_reverse_key sound.distinct member
  rw [heldDetail, found, Option.bind_some]

theorem devices_kept_iff {flat : Prop} {sent edited : BuilderState} {answer : Build}
    {merged : BuilderState} (sound : Sound flat edited.canvas)
    (after : Merged parseJSON sent edited answer merged) :
    List.Forall₂
      (fun before after => KeptDevice (DetailEdited sent.canvas edited.canvas before.id) before after)
      edited.canvas.hardwareNodes merged.canvas.hardwareNodes ↔
        AnswerFits parseJSON sent.canvas edited.canvas answer.nodes := by
  rw [after.canvas, mergeNodes, List.forall₂_map_right_iff, List.forall₂_same]
  constructor
  · intro kept id listed key given named value answered
    rcases List.mem_map.mp listed with ⟨device, member, rfl⟩
    rw [heldDetail_of_mem sound member]
    exact (keptDevice_iff parseJSON fun _ => And.left).mp (kept device member) key given named value
      answered
  · intro fits device member
    apply (keptDevice_iff parseJSON fun _ => And.left).mpr
    intro key given named value answered
    rw [← heldDetail_of_mem sound member]
    exact fits device.id (List.mem_map_of_mem member) key given named value answered

/-- The canvas counts as unsaved if and only if it is not back at the copy that was
last in sync. -/
theorem unsaved_iff {flat : Prop} {sent edited : BuilderState} {answer : Build}
    {merged : BuilderState} (sound : Sound flat edited.canvas)
    (after : Merged parseJSON sent edited answer merged) (isOpen : edited.currentBuildID.isSome)
    (ready : edited.isReady = true) :
    (¬ SameFields (getBuildData sent) (getBuildData edited) → hasUnsavedChanges merged = true) ↔
      NotLastSynced parseJSON sent edited answer.nodes := by
  have data : getBuildData merged = answered parseJSON answer.nodes (getBuildData edited) :=
    getBuildData_merged parseJSON sound after.canvas after.buildKind after.gamingPlan
      after.buildSettings
  refine forall_congr' fun different => ?_
  have changed : getBuildData edited ≠ getBuildData sent := fun same =>
    different (same ▸ SameFields.refl _)
  rw [hasUnsavedChanges, after.id, after.ready, isOpen, ready,
    after.lastSynced changed, data, Bool.true_and, Bool.true_and, decide_eq_true_eq]

theorem editsKept_iff {flat : Prop} {sent edited : BuilderState} {answer : Build}
    {merged : BuilderState} (sound : Sound flat edited.canvas)
    (after : Merged parseJSON sent edited answer merged) (isOpen : edited.currentBuildID.isSome)
    (ready : edited.isReady = true) :
    EditsKept sent edited merged ↔
      AnswerFits parseJSON sent.canvas edited.canvas answer.nodes ∧
        NotLastSynced parseJSON sent edited answer.nodes := by
  rw [← devices_kept_iff sound after, ← unsaved_iff sound after isOpen ready]
  constructor
  · exact fun kept => ⟨kept.devices, kept.unsaved⟩
  · rintro ⟨devices, unsaved⟩
    refine ⟨?_, devices, ?_, after.projectName, after.buildKind, after.gamingPlan,
      after.buildSettings, unsaved⟩
    · rw [after.canvas, mergeNodes] at devices ⊢
      rw [List.forall₂_map_right_iff, List.forall₂_same] at devices ⊢
      intro node member
      rcases sound.devices.exists_right member with ⟨device, listed, same, agrees⟩
      exact keptCard_of_device parseJSON same agrees (same ▸ devices device listed)
    · rw [after.canvas, mergeNodes]

/-- Edits that are made while a save is under way are kept and counted as unsaved if
and only if the answer has no other value for a detail that was edited, and they did
not bring the canvas back to the copy that was last in sync. -/
theorem edits_in_flight_kept_iff {library : FlowLibrary} (state : BuilderState) (id name : String)
    {build : Build} (fits : build.Fits) {sent edited : BuilderState}
    (before : Relation.ReflTransGen
      (Acts library parseJSON fun canvas action => action.Allowed canvas)
      (loadBuild parseJSON state id name build) sent)
    (edits : Relation.ReflTransGen (Edits library) sent edited) {buildID : String}
    (isOpen : sent.currentBuildID = some buildID) (ready : sent.isReady = true) (answer : Build) :
    EditsKept sent edited (mergeAnswer parseJSON buildID (getBuildData sent) answer edited) ↔
      AnswerFits parseJSON sent.canvas edited.canvas answer.nodes ∧
        NotLastSynced parseJSON sent edited answer.nodes := by
  have loaded := @SoundState.loadBuild False parseJSON state id name build fits False.elim
  have sound : SoundState False sent := by
    refine soundState_run library parseJSON loaded (Relation.ReflTransGen.mono ?_ _ _ before)
    rintro here there ⟨action, allowed, rfl⟩
    exact ⟨action, ⟨allowed, False.elim⟩, rfl⟩
  rcases edits_run sound edits with ⟨editedSound, same⟩
  have stillOpen := same.id.trans isOpen
  exact editsKept_iff editedSound.canvas (merged_mergeAnswer parseJSON stillOpen answer)
    (stillOpen ▸ rfl) (same.ready.trans ready)

end Edits

/-! ### A server with a note -/

/-- A build of one server, as the server has it at a revision. -/
def notedBuild (revision : Nat) : Build where
  id := "build"
  name := "Home"
  revision := revision
  nodes := [{ id := "server", type := "server", name := "Server",
              details := .obj [("notes", .str "old")] }]

theorem notedBuild_fits (revision : Nat) : (notedBuild revision).Fits where
  distinct := List.nodup_singleton _
  named := by
    intro node listed
    rw [List.mem_singleton.mp listed]
    decide
  cables := nofun
  racks := by
    intro node listed parent given
    rw [List.mem_singleton.mp listed] at given
    cases given

def noted : BuilderState := loadBuild (fun _ => none) {} "build" "Home" (notedBuild 1)

def notedThen (updates : DevicePatch) : BuilderState :=
  noted.edit FlowLibrary.plain (.updateHardware "server" updates)

theorem edits_notedThen {updates : DevicePatch} (id : updates.id = none) (type : updates.type = none)
    (parentID : updates.parentID = none) :
    Relation.ReflTransGen (Edits FlowLibrary.plain) noted (notedThen updates) := by
  refine .single ⟨.updateHardware "server" updates, ⟨?_, ?_, ?_⟩, rfl⟩
  · rw [id]
    exact nofun
  · rw [type]
    exact nofun
  · rw [parentID]
    exact nofun

/-- A new name is kept and counted as unsaved. -/
theorem edits_in_flight_kept_name :
    EditsKept noted (notedThen { name := some "Proxmox" })
      (mergeAnswer (fun _ => none) "build" (getBuildData noted) (notedBuild 2)
        (notedThen { name := some "Proxmox" })) := by
  apply (edits_in_flight_kept_iff {} "build" "Home" (notedBuild_fits 1) .refl
    (edits_notedThen rfl rfl rfl) rfl rfl (notedBuild 2)).mpr
  constructor
  · intro id listed key edited
    cases List.mem_singleton.mp listed
    exact absurd rfl edited.2
  · intro _ same
    have names := congrArg (Option.map fun data => data.nodes.map SavedNode.name) same
    revert names
    decide

/-- A note that is changed while a save is under way is lost. -/
theorem note_edit_lost :
    ¬ ∀ (library : FlowLibrary) (parseJSON : String → Option Json) (state : BuilderState)
      (id name : String) (build : Build), build.Fits → ∀ sent edited : BuilderState,
      Relation.ReflTransGen (Acts library parseJSON fun canvas action => action.Allowed canvas)
        (loadBuild parseJSON state id name build) sent →
      Relation.ReflTransGen (Edits library) sent edited → ∀ buildID : String,
      sent.currentBuildID = some buildID → sent.isReady = true → ∀ answer : Build,
      EditsKept sent edited (mergeAnswer parseJSON buildID (getBuildData sent) answer edited) := by
  intro claim
  have kept := claim FlowLibrary.plain (fun _ => none) {} "build" "Home" (notedBuild 1)
    (notedBuild_fits 1) noted (notedThen { details := some (some [("notes", .str "new")]) }) .refl
    (edits_notedThen rfl rfl rfl) "build" rfl rfl (notedBuild 2)
  have devices := kept.devices
  rcases List.forall₂_cons_left_iff.mp devices with ⟨merged, _, device, _, isMerged⟩
  have edited : DetailEdited noted.canvas
      (notedThen { details := some (some [("notes", .str "new")]) }).canvas "server" "notes" :=
    ⟨by decide, by decide⟩
  have note := device.details "notes" edited
  cases isMerged
  revert note
  decide

end HomelabBuilder.Canvas
