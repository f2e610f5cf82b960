import HomelabBuilder.Topology.Edits

/-! # Node operations as edits -/

namespace HomelabBuilder.Topology

open Services Wiring

/-! ## Lookups -/

theorem locate_eq_some {α : Type} {fits : α → Bool} {items : List α} {item : α} {index : Nat}
    (found : locate fits items = some (item, index)) :
    items[index]? = some item ∧ fits item = true := by
  constructor
  · exact List.mem_zipIdx_iff_getElem?.mp (List.mem_of_find?_eq_some found)
  · have fitting := List.find?_some found
    exact fitting

theorem nodeIndex_eq_some {nodes : List NodeDTO} {id : String} {node : NodeDTO} {index : Nat}
    (found : nodeIndex nodes id = some (node, index)) : nodes[index]? = some node ∧ node.id = id := by
  rcases locate_eq_some found with ⟨located, fits⟩
  exact ⟨located, of_decide_eq_true fits⟩

section

variable {env : Env} {start editor after : Editor} {op resolved : TopologyOp}
  {node changed : NodeDTO} {index : Nat}

theorem resolvedNode_eq_ok {token field : String}
    (done : resolvedNode env editor token field = .ok (node, index)) :
    nodeIndex editor.graph.nodes node.id = some (node, index) := by
  rcases bind_eq_ok.mp done with ⟨id, _, found⟩
  rw [given_eq_ok] at found
  rw [(nodeIndex_eq_some found).2]
  exact found

theorem located_of_resolvedNode {token field : String}
    (done : resolvedNode env editor token field = .ok (node, index)) :
    editor.graph.nodes[index]? = some node :=
  (nodeIndex_eq_some (resolvedNode_eq_ok done)).1

/-! ## Writing a node -/

@[simp]
theorem Editor.putNode_putNode (first second : NodeDTO) :
    (editor.putNode index first).putNode index second = editor.putNode index second := by
  unfold Editor.putNode Editor.withNodes
  simp only [List.set_set]

theorem Editor.located_putNode (located : editor.graph.nodes[index]? = some node) :
    (editor.putNode index changed).graph.nodes[index]? = some changed := by
  have small : index < editor.graph.nodes.length := (List.getElem?_eq_some_iff.mp located).1
  change (editor.graph.nodes.set index changed)[index]? = some changed
  rw [List.getElem?_set_self small]

/-! ## Quiet changes -/

theorem Keeps.of_eq (id : changed.id = node.id) (type : changed.type = node.type)
    (vms : changed.vms = node.vms)
    (components : changed.internalComponents = node.internalComponents) : Keeps node changed :=
  ⟨id, type, vms ▸ List.Sublist.refl _, components ▸ List.Sublist.refl _⟩

theorem Keeps.trans {first second third : NodeDTO} (left : Keeps first second)
    (right : Keeps second third) : Keeps first third :=
  ⟨right.id.trans left.id, right.type.trans left.type, right.vms.trans left.vms,
    right.components.trans left.components⟩

theorem Quiet.refl (node : NodeDTO) : Quiet node node :=
  ⟨.of_eq rfl rfl rfl rfl, rfl, fun _ => rfl, .refl _⟩

theorem Quiet.trans {first second third : NodeDTO} (left : Quiet first second)
    (right : Quiet second third) : Quiet first third where
  toKeeps := left.toKeeps.trans right.toKeeps
  parentID := right.parentID.trans left.parentID
  y := fun mounted => (right.y (left.parentID ▸ mounted)).trans (left.y mounted)
  shape := right.shape.trans left.shape

theorem quiet_setNodeIP {value : String} (done : setNodeIP node value = .ok changed) :
    Quiet node changed := by
  unfold setNodeIP at done
  rcases bind_eq_ok.mp done with ⟨_, _, done⟩
  split at done
  · cases done
    exact ⟨.of_eq rfl rfl rfl rfl, rfl, fun _ => rfl, agreeOn_erase _ (by decide)⟩
  · rcases bind_eq_ok.mp done with ⟨_, _, done⟩
    cases done
    refine ⟨.of_eq rfl rfl rfl rfl, rfl, fun _ => rfl, ?_⟩
    split
    · exact .refl _
    · exact agreeOn_set _ _ (by decide)

theorem quiet_whenGiven {α : Type} {value : Option α} {change : α → Except String NodeDTO}
    (quiet : ∀ value changed, change value = .ok changed → Quiet node changed)
    (done : whenGiven value node change = .ok changed) : Quiet node changed := by
  rcases whenGiven_eq_ok.mp done with ⟨_, same⟩ | ⟨value, _, done⟩
  · exact same ▸ Quiet.refl node
  · exact quiet value changed done

theorem quiet_givenMAC (done : givenMAC op node = .ok changed) : Quiet node changed := by
  apply quiet_whenGiven _ done
  intro mac changed done
  rcases bind_eq_ok.mp done with ⟨_, _, done⟩
  cases done
  exact ⟨.of_eq rfl rfl rfl rfl, rfl, fun _ => rfl, .refl _⟩

/-! ## Ids and refs -/

theorem newEntityID_eq_ok {preset id : String} {limit : Nat}
    (unused : Unused env limit editor) (more : editor.minted < limit) (asked : preset = op.id) (done : newEntityID env editor preset = .ok (id, after)) :
    ∃ uuid, id = uuid.text ∧ NewID env after op uuid ∧
      (editor.minted ≤ after.minted ∧ after.minted ≤ editor.minted + 1) ∧
      after = { editor with minted := after.minted } ∧
      (¬ Mentions editor.graph.nodes uuid.text ∨
        env.parseUUID (trimSpace op.id) = some uuid) := by
  unfold newEntityID at done
  split at done
  · cases done
    have new := unused editor.minted (Nat.le_refl _) more
    refine ⟨_, rfl, ⟨?_, .inl ⟨editor.minted, Nat.lt_succ_self _, rfl⟩⟩,
      ⟨Nat.le_succ _, Nat.le_refl _⟩, rfl, .inl new⟩
    by_contra used
    exact new (.inl (Bool.eq_true_of_not_eq_false used))
  · rcases bind_eq_ok.mp done with ⟨uuid, parsed, done⟩
    rcases bind_eq_ok.mp done with ⟨_, free, done⟩
    cases done
    rw [given_eq_ok, asked] at parsed
    exact ⟨uuid, rfl, ⟨require_eq_ok.mp free, .inr parsed⟩, ⟨Nat.le_refl _, Nat.le_succ _⟩, rfl,
      .inr parsed⟩

theorem registerRef_eq_ok {ref id : String} {kind : EntityKind}
    (done : registerRef env editor ref id kind = .ok after) :
    after = { editor with refs := after.refs } ∧
      ∀ entry ∈ after.refs, entry ∈ editor.refs ∨ env.parseUUID entry.1 = none := by
  unfold registerRef at done
  dsimp only at done
  split at done
  · cases done
    exact ⟨rfl, fun _ member => .inl member⟩
  · rcases bind_eq_ok.mp done with ⟨_, _, done⟩
    rcases bind_eq_ok.mp done with ⟨_, noID, done⟩
    rcases bind_eq_ok.mp done with ⟨_, _, done⟩
    cases done
    refine ⟨rfl, ?_⟩
    intro entry member
    rcases List.mem_cons.mp member with rfl | old
    · exact .inr (require_eq_ok.mp noID)
    · exact .inl old

/-- A new entity that has its id and its ref. -/
structure Named (env : Env) (editor after : Editor) (op : TopologyOp) (id : String)
    (uuid : UUID) : Prop where
  named : id = uuid.text
  new : NewID env after op uuid
  sameGraph : after.graph = editor.graph
  samePending : after.pending = editor.pending
  unknown : ¬ Mentions editor.graph.nodes uuid.text ∨
    env.parseUUID (trimSpace op.id) = some uuid

theorem edit_of_named {drawn : Editor} {id : String} {kind : EntityKind} {limit : Nat}
    (unused : Unused env limit editor) (more : editor.minted < limit)
    (minted : newEntityID env editor op.id = .ok (id, drawn))
    (registered : registerRef env drawn op.ref id kind = .ok after) :
    Edit env editor op editor after ∧ ∃ uuid, Named env editor after op id uuid := by
  rcases newEntityID_eq_ok unused more rfl minted with ⟨uuid, named, new, grows, isDrawn, unknown⟩
  rcases registerRef_eq_ok registered with ⟨isAfter, refs⟩
  have graph : after.graph = editor.graph := by rw [isAfter, isDrawn]
  have pending : after.pending = editor.pending := by rw [isAfter, isDrawn]
  have sameMinted : after.minted = drawn.minted := by rw [isAfter]
  have sameGraph : drawn.graph = editor.graph := by rw [isDrawn]
  have sameRefs : drawn.refs = editor.refs := by rw [isDrawn]
  rw [sameRefs] at refs
  constructor
  · exact .note (by rw [graph]) (by rw [graph]) pending (sameMinted ▸ grows) refs
  · refine ⟨uuid, named, ⟨?_, ?_⟩, graph, pending, unknown⟩
    · rw [graph, ← sameGraph]
      exact new.unused
    · rw [sameMinted]
      exact new.origin

/-! ## Mounting -/

theorem rackNode_edit {parent rackID : String} {slot : Option Rat}
    (located : editor.graph.nodes[index]? = some node)
    (inRange : SlotInRange env start op → ∀ value, slot = some value →
      truncate env.floats (mathRound value) + rackUnitsOf env.floats node < 2 ^ 63)
    (done : rackNode env editor node index parent slot = .ok (rackID, after)) :
    Edit env start op editor after := by
  rcases bind_eq_ok.mp done with ⟨⟨rack, rackIndex⟩, found, done⟩
  rcases bind_eq_ok.mp done with ⟨_, isRack, done⟩
  rcases bind_eq_ok.mp done with ⟨_, noRack, done⟩
  rcases bind_eq_ok.mp done with ⟨_, _, done⟩
  rcases bind_eq_ok.mp done with ⟨chosen, allocated, done⟩
  cases done
  refine .mount located ⟨⟨rackIndex, resolvedNode_eq_ok found⟩, require_eq_ok.mp isRack,
    require_eq_ok.mp noRack, allocated, ?_, ?_⟩
  · intro requested asked
    rcases Option.map_eq_some_iff.mp asked with ⟨value, _, rfl⟩
    exact ⟨_, rfl⟩
  · intro inside requested asked
    rcases Option.map_eq_some_iff.mp asked with ⟨value, given, rfl⟩
    exact inRange inside value given

/-! ## Changing details -/

theorem agreeOn_updateTable {keys : List String} (done : updateTable node op = .ok changed)
    (others : ∀ key ∈ tableKeys, key ∉ keys) :
    AgreeOn keys changed.details node.details := by
  rcases bind_eq_ok.mp done with ⟨details, filled, done⟩
  cases done
  have kept := agreeOn_applyTableDefaults filled others
  refine kept.trans ?_
  split
  · exact agreeOn_erase _ (others _ (by decide))
  · exact .refl _

theorem updateTable_stays (done : updateTable node op = .ok changed) : Stays node changed := by
  rcases bind_eq_ok.mp done with ⟨details, filled, done⟩
  cases done
  exact ⟨.of_eq rfl rfl rfl rfl, rfl, rfl⟩

theorem settleDetails_stays {details : List (String × Json)}
    (done : settleDetails env (withDetails node details) op = .ok changed) :
    Stays node changed ∧ AgreeOn shapeKeys changed.details details := by
  have pruned : AgreeOn shapeKeys (prunePortConfig details
      (portCount env.floats node.type details)) details :=
    agreeOn_prunePortConfig _ _ (by decide)
  change (if node.type = nodeTypeLANTable then
      updateTable (withDetails node (prunePortConfig details
        (portCount env.floats node.type details))) op
    else .ok (withDetails node (prunePortConfig details
      (portCount env.floats node.type details)))) = .ok changed at done
  split at done
  · have stays := updateTable_stays done
    have filled := agreeOn_updateTable done tableKeys_disjoint
    exact ⟨⟨⟨stays.id, stays.type, stays.vms, stays.components⟩, stays.parentID, stays.y⟩,
      filled.trans pruned⟩
  · cases done
    exact ⟨⟨.of_eq rfl rfl rfl rfl, rfl, rfl⟩, pruned⟩

theorem checkPortsFit_congr {floats : Floats} {edges : List EdgeDTO}
    (stays : Stays node changed) (agree : AgreeOn handleKeys changed.details node.details)
    (fits : checkPortsFit floats edges node = .ok ()) :
    checkPortsFit floats edges changed = .ok () := by
  unfold checkPortsFit at fits ⊢
  rw [require_eq_ok] at fits ⊢
  rwa [stays.id, stays.type, portCount_congr floats agree]

theorem checkPowerHandlesFit_congr {floats : Floats} {edges : List EdgeDTO}
    (stays : Stays node changed) (agree : AgreeOn handleKeys changed.details node.details)
    (fits : checkPowerHandlesFit floats edges node = .ok ()) :
    checkPowerHandlesFit floats edges changed = .ok () := by
  rcases bind_eq_ok.mp fits with ⟨_, inputs, sockets⟩
  rw [require_eq_ok] at inputs sockets
  rw [← powerInputCount_congr floats agree, ← stays.id, ← stays.type] at inputs
  rw [← powerOutputCount_congr floats agree, ← stays.id, ← stays.type] at sockets
  exact bind_eq_ok.mpr ⟨(), require_of inputs, require_of sockets⟩

theorem Stays.trans {first second third : NodeDTO} (left : Stays first second)
    (right : Stays second third) : Stays first third :=
  ⟨left.toKeeps.trans right.toKeeps, right.parentID.trans left.parentID, right.y.trans left.y⟩

theorem updateDetails_edit {named : NodeDTO} {asked : TopologyOp}
    (located : editor.graph.nodes[index]? = some node)
    (stays : Stays node named) (sameDetails : named.details = node.details)
    (inRange : SlotInRange env start op → node.parentID ≠ none →
      ∀ merged, mergedDetails node asked = .ok merged →
        rackSlotOf env.floats node + rackUnitsOf env.floats (withDetails node merged) < 2 ^ 63)
    (done : updateDetails env editor named index asked = .ok changed) :
    Edit env start op editor (editor.putNode index changed) ∧ changed.type = node.type ∧
      ∃ merged, mergedDetails node asked = .ok merged ∧
        AgreeOn heightKeys changed.details merged := by
  unfold updateDetails at done
  unfold mergedDetails at inRange ⊢
  split at done
  · rename_i noDetails
    have same : named = changed := Except.ok.inj done
    subst same
    have quiet : Quiet node named :=
      ⟨stays.toKeeps, stays.parentID, fun _ => stays.y, sameDetails ▸ .refl _⟩
    exact ⟨.quiet located quiet, stays.type, node.details, if_pos noDetails,
      sameDetails ▸ .refl _⟩
  · rename_i details
    rw [if_neg details] at inRange ⊢
    rcases bind_eq_ok.mp done with ⟨merged, merges, done⟩
    rcases bind_eq_ok.mp done with ⟨_, portsFit, done⟩
    rcases bind_eq_ok.mp done with ⟨_, powerFits, done⟩
    rcases bind_eq_ok.mp done with ⟨settled, settles, done⟩
    rcases bind_eq_ok.mp done with ⟨_, placed, done⟩
    cases done
    rcases bind_eq_ok.mp placed with ⟨_, rackFits, mounted⟩
    rcases settleDetails_stays settles with ⟨settled, agree⟩
    have fromMerged : Stays (withDetails named merged) changed :=
      ⟨⟨settled.id, settled.type, settled.vms, settled.components⟩, settled.parentID, settled.y⟩
    have handles := agree.mono (show handleKeys ⊆ shapeKeys from by decide)
    have position : changed.details.lookup "rack_position" =
        node.details.lookup "rack_position" := by
      rw [agree "rack_position" (by decide), lookup_mergeDetails merges (by decide),
        sameDetails]
    have heights : AgreeOn heightKeys changed.details merged :=
      agree.mono (show heightKeys ⊆ shapeKeys from by decide)
    have sameType := settled.type.trans stays.type
    rw [sameDetails, stays.type] at merges
    refine ⟨.reshape located (stays.trans settled) position ⟨?_, ?_, ?_, mounted⟩ ?_, sameType,
      merged, merges, heights⟩
    · exact checkPortsFit_congr fromMerged handles portsFit
    · exact checkPowerHandlesFit_congr fromMerged handles powerFits
    · intro isRack
      rwa [if_pos isRack] at rackFits
    · intro inside inRack
      have tall : rackUnitsOf env.floats (withDetails node merged) =
          rackUnitsOf env.floats changed :=
        rackUnitsOf_congr env.floats heights.symm sameType.symm
      rw [← tall]
      exact inRange inside inRack merged merges

/-! ## Moving -/

theorem unmounted_edit (located : editor.graph.nodes[index]? = some node) (x y : Rat → Rat) :
    Edit env start op editor (editor.putNode index
      { unmounted editor.graph.nodes node with
        x := x (unmounted editor.graph.nodes node).x
        y := y (unmounted editor.graph.nodes node).y }) := by
  unfold unmounted
  cases mounted : node.parentID with
  | none =>
      refine .quiet located ⟨.of_eq rfl rfl rfl rfl, rfl, ?_, .refl _⟩
      exact fun inRack => absurd mounted inRack
  | some parentID =>
      exact .unmount located (.of_eq rfl rfl rfl rfl) rfl (agreeOn_erase _ (by decide))

theorem moveNode_edits (located : editor.graph.nodes[index]? = some node) {asked : TopologyOp}
    (sameSlot : asked.rackSlot = op.rackSlot)
    (height : asked.parent.any (fun parent => trimSpace parent = "") = false →
      mountedHeight env start op = some (rackUnitsOf env.floats node))
    (done : moveNode env editor node index asked = .ok (after, resolved)) :
    Edits env start op editor after := by
  have inRange : asked.parent.any (fun parent => trimSpace parent = "") = false →
      SlotInRange env start op → ∀ value, asked.rackSlot = some value →
        truncate env.floats (mathRound value) + rackUnitsOf env.floats node < 2 ^ 63 := by
    intro mounts inside value given
    exact inside.asked value _ (sameSlot ▸ given) (height mounts)
  unfold moveNode at done
  split at done
  · rename_i parent isParent
    split at done
    · have same := congrArg Prod.fst (Except.ok.inj done)
      subst same
      cases asked.x with
      | none => exact .single (unmounted_edit located id id)
      | some x =>
          cases asked.y with
          | none => exact .single (unmounted_edit located id id)
          | some y =>
              exact .single (unmounted_edit located (fun _ => snapToGrid x)
                (fun _ => snapToGrid y))
    · rename_i named
      rcases bind_eq_ok.mp done with ⟨rackID, _, done⟩
      dsimp only at done
      split at done
      · cases done
        exact .refl
      · rcases bind_eq_ok.mp done with ⟨⟨_, mounted⟩, mounts, done⟩
        cases done
        exact .single (rackNode_edit located (inRange (by simp [isParent, named])) mounts)
  · rename_i noParent
    split at done
    · rename_i slot given
      rcases bind_eq_ok.mp done with ⟨parentID, _, done⟩
      rcases bind_eq_ok.mp done with ⟨⟨_, mounted⟩, mounts, done⟩
      cases done
      rw [given] at inRange
      exact .single (rackNode_edit located (inRange (by simp [noParent])) mounts)
    · split at done
      · cases done
        exact .refl
      · rcases bind_eq_ok.mp done with ⟨_, free, done⟩
        cases done
        refine .single (.quiet located ⟨.of_eq rfl rfl rfl rfl, rfl, ?_, .refl _⟩)
        exact fun inRack => absurd (require_eq_ok.mp free) inRack

theorem updateNode_edits (isUpdate : op.op = "update_node")
    (done : updateNode env editor op = .ok (after, resolved)) :
    Edits env editor op editor after := by
  rcases bind_eq_ok.mp done with ⟨⟨node, index⟩, found, done⟩
  rcases bind_eq_ok.mp done with ⟨_, _, done⟩
  rcases bind_eq_ok.mp done with ⟨named, names, done⟩
  rcases bind_eq_ok.mp done with ⟨changed, changes, done⟩
  rcases bind_eq_ok.mp done with ⟨power, _, done⟩
  rcases bind_eq_ok.mp done with ⟨addressed, addresses, done⟩
  rcases bind_eq_ok.mp done with ⟨final, finishes, done⟩
  have located := located_of_resolvedNode found
  have stays : Stays node named ∧ named.details = node.details := by
    rcases whenGiven_eq_ok.mp names with ⟨_, rfl⟩ | ⟨name, _, names⟩
    · exact ⟨⟨.of_eq rfl rfl rfl rfl, rfl, rfl⟩, rfl⟩
    · rcases bind_eq_ok.mp names with ⟨_, _, names⟩
      cases names
      exact ⟨⟨.of_eq rfl rfl rfl rfl, rfl, rfl⟩, rfl⟩
  have inRange : SlotInRange env editor op → node.parentID ≠ none →
      ∀ merged, mergedDetails node op = .ok merged →
        rackSlotOf env.floats node + rackUnitsOf env.floats (withDetails node merged) < 2 ^ 63 :=
    fun inside inRack merged merges => inside.kept isUpdate node index merged found inRack merges
  rcases updateDetails_edit located stays.1 stays.2 inRange changes with
    ⟨edit, sameType, merged, merges, agree⟩
  have quiet : Quiet changed final := by
    have powered : Quiet changed { changed with powerDraw := power } :=
      ⟨.of_eq rfl rfl rfl rfl, rfl, fun _ => rfl, .refl _⟩
    have pinned := quiet_whenGiven (fun _ _ => quiet_setNodeIP) addresses
    exact (powered.trans pinned).trans (quiet_givenMAC finishes)
  have second : Edit env editor op (editor.putNode index changed) (editor.putNode index final) := by
    rw [← Editor.putNode_putNode changed final]
    exact .quiet (Editor.located_putNode located) quiet
  have tall : rackUnitsOf env.floats (withDetails node merged) =
      rackUnitsOf env.floats final := by
    apply rackUnitsOf_congr
    · exact (agree.symm).trans
        (quiet.shape.symm.mono (show heightKeys ⊆ shapeKeys from by decide))
    · exact (quiet.type.trans sameType).symm
  have last : Edits env editor op (editor.putNode index final) after := by
    apply moveNode_edits (Editor.located_putNode located) _ _ done
    · rfl
    · intro mounts
      have merges : mergedDetails node op = .ok merged := merges
      have mounts : op.parent.any (fun parent => trimSpace parent = "") = false := mounts
      unfold mountedHeight
      simp only [isUpdate, mounts, found, merges, Except.toOption, Option.bind_some,
        Option.map_some, Bool.false_eq_true, if_false]
      exact congrArg some tall
  exact (Relation.ReflTransGen.single edit).trans (.head second last)

/-! ## Adding and removing -/

/-- A device that is new: it is in no rack and holds nothing. -/
structure Bare (node : NodeDTO) : Prop where
  free : node.parentID = none
  noVMs : node.vms = []
  noComponents : node.internalComponents = []

theorem Bare.of_quiet (bare : Bare node) (quiet : Quiet node changed) : Bare changed := by
  refine ⟨quiet.parentID.trans bare.free, ?_, ?_⟩
  · have vms := quiet.vms
    rw [bare.noVMs] at vms
    exact List.map_eq_nil_iff.mp (List.sublist_nil.mp vms)
  · have components := quiet.components
    rw [bare.noComponents] at components
    exact List.map_eq_nil_iff.mp (List.sublist_nil.mp components)

theorem newNode_edit {limit : Nat} (unused : Unused env limit editor)
    (more : editor.minted < limit) (done : newNode env editor op = .ok (node, after)) :
    Edit env editor op editor after ∧ Bare node ∧ ∃ uuid, Named env editor after op node.id uuid := by
  rcases bind_eq_ok.mp done with ⟨_, _, done⟩
  rcases bind_eq_ok.mp done with ⟨draft, _, done⟩
  rcases bind_eq_ok.mp done with ⟨_, _, done⟩
  rcases bind_eq_ok.mp done with ⟨_, _, done⟩
  rcases bind_eq_ok.mp done with ⟨name, _, done⟩
  rcases bind_eq_ok.mp done with ⟨detailed, _, done⟩
  rcases bind_eq_ok.mp done with ⟨power, _, done⟩
  rcases bind_eq_ok.mp done with ⟨⟨id, drawn⟩, minted, done⟩
  rcases bind_eq_ok.mp done with ⟨registered, registers, done⟩
  rcases bind_eq_ok.mp done with ⟨addressed, addresses, done⟩
  rcases bind_eq_ok.mp done with ⟨final, finishes, done⟩
  cases done
  have quiet := (quiet_whenGiven (fun _ _ => quiet_setNodeIP) addresses).trans
    (quiet_givenMAC finishes)
  rcases edit_of_named unused more minted registers with ⟨edit, uuid, named⟩
  refine ⟨edit, Bare.of_quiet ⟨rfl, rfl, rfl⟩ quiet, uuid, ?_⟩
  rw [quiet.id]
  exact named

theorem addNode_edits {limit : Nat} (isAdd : op.op = "add_node")
    (unused : Unused env limit editor) (more : editor.minted < limit) (done : addNode env editor op = .ok (after, resolved)) : Edits env editor op editor after := by
  rcases bind_eq_ok.mp done with ⟨⟨node, named⟩, added, done⟩
  rcases newNode_edit unused more added with ⟨edit, bare, uuid, isNew⟩
  have appended : ∀ placed : NodeDTO, placed.id = node.id → Bare placed →
      Edit env editor op named (named.withNodes (named.graph.nodes ++ [placed])) := by
    intro placed sameID bare
    refine .addNode (sameID.trans isNew.named) isNew.new bare.free bare.noVMs bare.noComponents ?_
    intro orphans other member isParent
    rw [sameID, isNew.named] at isParent
    rw [isNew.sameGraph] at member
    rcases isNew.unknown with unknown | parsed
    · exact unknown (.inr ⟨other, member, isParent⟩)
    · exact orphans isAdd uuid parsed other member isParent
  dsimp only at done
  refine .head edit ?_
  split at done
  · rename_i parent given
    rcases bind_eq_ok.mp done with ⟨⟨rackID, mounted⟩, mounts, done⟩
    cases done
    refine .head (appended node rfl bare) (.single (rackNode_edit ?_ ?_ mounts))
    · change (named.graph.nodes ++ [node])[named.graph.nodes.length]? = some node
      simp
    · intro inside value asked
      apply inside.asked value _ asked
      unfold mountedHeight
      simp only [isAdd, given, added, Except.toOption, Option.bind_some, Option.map_some]
  · split at done
    · cases done
      exact .single (appended _ rfl ⟨bare.free, bare.noVMs, bare.noComponents⟩)
    · cases done
      refine .head (appended node rfl bare) (.single ?_)
      exact .wait (List.mem_append_right _ (List.mem_singleton.mpr rfl)) bare.free

theorem removeNode_edit (done : removeNode env editor op = .ok (after, resolved)) :
    Edit env start op editor after := by
  rcases bind_eq_ok.mp done with ⟨⟨node, index⟩, found, done⟩
  cases done
  exact .remove (List.mem_of_getElem? (located_of_resolvedNode found))

end

end HomelabBuilder.Topology

/-! # Operations as edits

The operations on guests, components and cables, and what holds of every state
a batch goes through.
-/

namespace HomelabBuilder.Topology

open Services Wiring

/-! ## Guests and components -/

theorem kept_of_whenGiven {α β γ : Type} {part : β → γ} {value : Option α} {current result : β}
    {change : α → Except String β}
    (kept : ∀ value result, change value = .ok result → part result = part current)
    (done : whenGiven value current change = .ok result) : part result = part current := by
  rcases whenGiven_eq_ok.mp done with ⟨_, rfl⟩ | ⟨value, _, done⟩
  · rfl
  · exact kept value result done

theorem mem_partsOf {α : Type} {parts : NodeDTO → List α} {nodes : List NodeDTO} {found : Part α}
    (member : found ∈ partsOf parts nodes) :
    nodes[found.hostIndex]? = some found.host ∧
      (parts found.host)[found.index]? = some found.part := by
  rcases List.mem_flatMap.mp member with ⟨⟨host, hostIndex⟩, inNodes, member⟩
  rcases List.mem_map.mp member with ⟨⟨part, index⟩, inParts, rfl⟩
  exact ⟨List.mem_zipIdx_iff_getElem?.mp inNodes, List.mem_zipIdx_iff_getElem?.mp inParts⟩

theorem map_set_of_eq {α β : Type} (key : α → β) {items : List α} {index : Nat} {old new : α}
    (located : items[index]? = some old) (same : key new = key old) :
    (items.set index new).map key = items.map key := by
  have there : (items.map key)[index]? = some (key old) := by
    rw [List.getElem?_map, located, Option.map_some]
  rw [List.map_set, same]
  rcases List.getElem?_eq_some_iff.mp there with ⟨small, isOld⟩
  rw [← isOld, List.set_getElem_self]

section

variable {env : Env} {start editor after : Editor} {op resolved : TopologyOp}

theorem resolveVM_eq_ok {token : String} {found : Part VMDTO}
    (done : resolveVM env editor token = .ok found) :
    editor.graph.nodes[found.hostIndex]? = some found.host ∧
      found.host.vms[found.index]? = some found.part := by
  apply mem_partsOf
  unfold resolveVM at done
  dsimp only at done
  split at done
  · cases done
  · split at done
    · rename_i vm isFound
      cases done
      exact List.mem_of_find?_eq_some isFound
    · split at done
      · cases done
      · rename_i vm alone
        cases done
        have member : found ∈ [found] := List.mem_singleton.mpr rfl
        rw [← alone] at member
        exact (List.mem_filter.mp member).1
      · cases done

theorem resolveComponent_eq_ok {token : String} {found : Part ComponentDTO}
    (done : resolveComponent env editor token = .ok found) :
    editor.graph.nodes[found.hostIndex]? = some found.host ∧
      found.host.internalComponents[found.index]? = some found.part := by
  apply mem_partsOf
  unfold resolveComponent at done
  dsimp only at done
  split at done
  · cases done
  · rw [given_eq_ok] at done
    exact List.mem_of_find?_eq_some done

theorem applyStaticIP_id {vm changed : VMDTO} {value : String}
    (done : applyStaticIP vm value = .ok changed) : changed.id = vm.id := by
  unfold applyStaticIP at done
  dsimp only at done
  split at done
  · cases done
    rfl
  · rcases bind_eq_ok.mp done with ⟨_, _, done⟩
    cases done
    rfl

theorem applyVMFields_id {vm changed : VMDTO} (done : applyVMFields vm op = .ok changed) :
    changed.id = vm.id := by
  rcases bind_eq_ok.mp done with ⟨typed, types, done⟩
  rcases bind_eq_ok.mp done with ⟨named, names, done⟩
  rcases bind_eq_ok.mp done with ⟨cored, cores, done⟩
  rcases bind_eq_ok.mp done with ⟨sized, sizes, done⟩
  rcases bind_eq_ok.mp done with ⟨withOS, oses, done⟩
  rcases bind_eq_ok.mp done with ⟨withStatus, statuses, done⟩
  rcases bind_eq_ok.mp done with ⟨withMAC, macs, done⟩
  rcases bind_eq_ok.mp done with ⟨noted, notes, done⟩
  rcases bind_eq_ok.mp done with ⟨withDisk, disks, done⟩
  rcases bind_eq_ok.mp done with ⟨withVMID, vmids, statics⟩
  -- Each field is checked first and then written over the guest so far.
  have written : ∀ {α β : Type} {value : Option α} {check : α → Except String β}
      {write : α → β → VMDTO} {before after : VMDTO},
      whenGiven value before (fun value => check value >>= fun cleaned =>
        .ok (write value cleaned)) = .ok after →
      (∀ value cleaned, (write value cleaned).id = before.id) → after.id = before.id := by
    intro α β value check write before after done keeps
    apply kept_of_whenGiven _ done
    intro value result done
    rcases bind_eq_ok.mp done with ⟨cleaned, _, done⟩
    cases done
    exact keeps value cleaned
  have static : changed.id = withVMID.id :=
    kept_of_whenGiven (fun _ _ => applyStaticIP_id) statics
  rw [static, written vmids fun _ _ => rfl, written disks fun _ _ => rfl,
    written notes fun _ _ => rfl, written macs fun _ _ => rfl, written statuses fun _ _ => rfl,
    written oses fun _ _ => rfl, written sizes fun _ _ => rfl, written cores fun _ _ => rfl,
    written names fun _ _ => rfl]
  unfold applyVMType at types
  split at types
  · cases types
    rfl
  · rcases bind_eq_ok.mp types with ⟨_, _, types⟩
    cases types
    rfl

theorem applyGameFields_id {vm changed : VMDTO} {created : Bool}
    (done : applyGameFields env vm op created = .ok changed) : changed.id = vm.id := by
  rcases bind_eq_ok.mp done with ⟨parsed, _, done⟩
  dsimp only at done
  split at done
  · rcases bind_eq_ok.mp done with ⟨_, _, done⟩
    cases done
    rfl
  · split at done
    · cases done
      rfl
    · rcases bind_eq_ok.mp done with ⟨_, _, done⟩
      rcases bind_eq_ok.mp done with ⟨⟨server, profile⟩, _, done⟩
      dsimp only at done
      split at done <;> cases done <;> rfl

theorem addVM_edits {limit : Nat} (unused : Unused env limit editor)
    (more : editor.minted < limit) (done : addVM env editor op = .ok (after, resolved)) : Edits env editor op editor after := by
  rcases bind_eq_ok.mp done with ⟨⟨host, index⟩, found, done⟩
  rcases bind_eq_ok.mp done with ⟨_, _, done⟩
  rcases bind_eq_ok.mp done with ⟨_, _, done⟩
  rcases bind_eq_ok.mp done with ⟨drafted, _, done⟩
  rcases bind_eq_ok.mp done with ⟨fielded, _, done⟩
  rcases bind_eq_ok.mp done with ⟨gamed, _, done⟩
  rcases bind_eq_ok.mp done with ⟨name, _, done⟩
  rcases bind_eq_ok.mp done with ⟨⟨id, drawn⟩, minted, done⟩
  rcases bind_eq_ok.mp done with ⟨named, registers, done⟩
  cases done
  rcases edit_of_named unused more minted registers with ⟨edit, uuid, isNew⟩
  refine .head edit (.single (.addVM ?_ isNew.named isNew.new ?_))
  · rw [isNew.sameGraph]
    exact located_of_resolvedNode found
  · exact agreeOn_wireVirtualGuest _ _ (by decide)

theorem updateVM_edit (done : updateVM env editor op = .ok (after, resolved)) :
    Edit env start op editor after := by
  rcases bind_eq_ok.mp done with ⟨found, finds, done⟩
  rcases bind_eq_ok.mp done with ⟨fielded, fields, done⟩
  rcases bind_eq_ok.mp done with ⟨gamed, games, done⟩
  cases done
  rcases resolveVM_eq_ok finds with ⟨located, inHost⟩
  have sameID : gamed.id = found.part.id := (applyGameFields_id games).trans (applyVMFields_id fields)
  refine .quiet located ⟨⟨rfl, rfl, ?_, List.Sublist.refl _⟩, rfl, fun _ => rfl, .refl _⟩
  dsimp only
  rw [map_set_of_eq VMDTO.id inHost sameID]

theorem removeVM_edit (done : removeVM env editor op = .ok (after, resolved)) :
    Edit env start op editor after := by
  rcases bind_eq_ok.mp done with ⟨found, finds, done⟩
  cases done
  rcases resolveVM_eq_ok finds with ⟨located, _⟩
  refine .quiet located ⟨⟨rfl, rfl, ?_, List.Sublist.refl _⟩, rfl, fun _ => rfl, ?_⟩
  · exact (List.eraseIdx_sublist _ _).map _
  · exact agreeOn_unwireVirtualGuest _ _ (by decide)

theorem addComponent_edits {limit : Nat} (unused : Unused env limit editor)
    (more : editor.minted < limit) (done : addComponent env editor op = .ok (after, resolved)) :
    Edits env editor op editor after := by
  rcases bind_eq_ok.mp done with ⟨⟨host, index⟩, found, done⟩
  rcases bind_eq_ok.mp done with ⟨_, _, done⟩
  rcases bind_eq_ok.mp done with ⟨_, _, done⟩
  rcases bind_eq_ok.mp done with ⟨draft, _, done⟩
  rcases bind_eq_ok.mp done with ⟨_, _, done⟩
  rcases bind_eq_ok.mp done with ⟨name, _, done⟩
  rcases bind_eq_ok.mp done with ⟨details, _, done⟩
  rcases bind_eq_ok.mp done with ⟨power, _, done⟩
  rcases bind_eq_ok.mp done with ⟨⟨id, drawn⟩, minted, done⟩
  rcases bind_eq_ok.mp done with ⟨named, registers, done⟩
  cases done
  rcases edit_of_named unused more minted registers with ⟨edit, uuid, isNew⟩
  refine .head edit (.single (.addComponent ?_ isNew.named isNew.new))
  rw [isNew.sameGraph]
  exact located_of_resolvedNode found

theorem removeComponent_edit (done : removeComponent env editor op = .ok (after, resolved)) :
    Edit env start op editor after := by
  rcases bind_eq_ok.mp done with ⟨found, finds, done⟩
  cases done
  rcases resolveComponent_eq_ok finds with ⟨located, _⟩
  refine .quiet located ⟨⟨rfl, rfl, List.Sublist.refl _, ?_⟩, rfl, fun _ => rfl, .refl _⟩
  exact (List.eraseIdx_sublist _ _).map _

/-! ## The build -/

theorem renameBuild_edit (done : renameBuild editor op = .ok (after, resolved)) :
    Edit env editor op editor after := by
  rcases bind_eq_ok.mp done with ⟨name, _, done⟩
  rcases bind_eq_ok.mp done with ⟨cleaned, _, done⟩
  cases done
  exact .note rfl rfl rfl ⟨Nat.le_refl _, Nat.le_succ _⟩ fun _ member => .inl member

theorem setPlan_edit (done : setPlan editor op = .ok (after, resolved)) :
    Edit env editor op editor after := by
  rcases bind_eq_ok.mp done with ⟨_, _, done⟩
  rcases bind_eq_ok.mp done with ⟨kind, _, done⟩
  rcases bind_eq_ok.mp done with ⟨plan, _, done⟩
  cases done
  exact .note rfl rfl rfl ⟨Nat.le_refl _, Nat.le_succ _⟩ fun _ member => .inl member

end

end HomelabBuilder.Topology
