import Mathlib.Data.List.Nodup
import HomelabBuilder.Foundation.Table
import HomelabBuilder.Topology.Batch
import HomelabBuilder.Topology.Placement

/-! # Positions that are asked for

Which coordinates a batch asks for last for every device, and that a device stands
there unless it was moved while it waited to be placed.
-/

namespace HomelabBuilder.Topology

open Services Wiring

/-! ## What is asked for -/

/-- What an operation asks of where its node stands. -/
inductive Request
  | unchanged
  | asked (x y : Rat)
  /-- What was asked before no longer counts. -/
  | forgotten

def addRequest (op : TopologyOp) : Request :=
  match op.parent.filter fun parent => trimSpace parent ≠ "" with
  | some _ => .forgotten
  | none =>
      match op.x, op.y with
      | some x, some y => .asked x y
      | _, _ => .forgotten

/-- Mounting, unmounting and a move along one axis forget what was asked. -/
def updateRequest (op : TopologyOp) (mounted : Bool) : Request :=
  match op.parent with
  | some parent =>
      if trimSpace parent ≠ "" then .forgotten
      else
        match op.x, op.y with
        | some x, some y => .asked x y
        | _, _ => if mounted then .forgotten else .unchanged
  | none =>
      if op.rackSlot.isSome then .forgotten
      else
        match op.x, op.y with
        | some x, some y => .asked x y
        | none, none => .unchanged
        | _, _ => .forgotten

/-- The last coordinates that were asked for, by node. -/
abbrev Asked := String → Option (Rat × Rat)

def Request.note (request : Request) (known : Asked) (id : String) : Asked :=
  match request with
  | .unchanged => known
  | .asked x y => Function.update known id (some (x, y))
  | .forgotten => Function.update known id none

def isMounted (nodes : List NodeDTO) (id : String) : Bool :=
  ((nodeIndex nodes id).bind fun found => found.1.parentID).isSome

def noteStep (editor : Editor) (op resolved : TopologyOp) (known : Asked) : Asked :=
  match op.op with
  | "add_node" => (addRequest op).note known resolved.id
  | "update_node" =>
      (updateRequest op (isMounted editor.graph.nodes resolved.node)).note known resolved.node
  | _ => known

/-- What a batch asks for, behind what has been asked. -/
def askedBy (env : Env) : Editor → List TopologyOp → Asked → Asked
  | _, [], known => known
  | editor, op :: rest, known =>
      match step env editor op with
      | .error _ => known
      | .ok (after, resolved) => askedBy env after rest (noteStep editor op.lowered resolved known)

/-- An update gives both coordinates to a node that waits to be placed. -/
def MovesWaiting (env : Env) (editor : Editor) (op : TopologyOp) : Prop :=
  op.op = "update_node" ∧ ∃ node index x y,
    resolvedNode env editor op.node "node" = .ok (node, index) ∧
      updateRequest op node.parentID.isSome = .asked x y ∧ node.id ∈ editor.pending

/-! ## Where nodes stand -/

/-- The rack and the coordinates of every node. -/
def places (nodes : List NodeDTO) : List (String × Option String × Rat × Rat) :=
  nodes.map fun node => (node.id, node.parentID, node.x, node.y)

structure Stood (known : Asked) (editor : Editor) : Prop where
  listed : ∀ id ∈ editor.pending, id ∈ editor.graph.nodes.map NodeDTO.id
  once : editor.pending.Nodup
  settled : ∀ id place, known id = some place → id ∉ editor.pending
  there : ∀ id place, known id = some place → ∀ x y,
    (places editor.graph.nodes).lookup id = some (none, x, y) →
      x = snapToGrid place.1 ∧ y = snapToGrid place.2

theorem map_fst_places (nodes : List NodeDTO) :
    (places nodes).map Prod.fst = nodes.map NodeDTO.id := by
  unfold places
  rw [List.map_map]
  rfl

theorem first_of_nodeIndex {nodes : List NodeDTO} {id : String} {node : NodeDTO} {index : Nat}
    (found : nodeIndex nodes id = some (node, index)) :
    ∀ earlier < index, ∀ other, nodes[earlier]? = some other → other.id ≠ id := by
  intro earlier small other located same
  rcases List.find?_eq_some_iff_getElem.mp found with ⟨_, place, inside, isFound, before⟩
  rw [List.getElem_zipIdx, Prod.mk.injEq, Nat.zero_add] at isFound
  have apart := before earlier (isFound.2 ▸ small)
  rw [List.getElem_zipIdx] at apart
  rcases List.getElem?_eq_some_iff.mp located with ⟨_, isOther⟩
  simp [isOther, same] at apart

theorem lookup_places_set {nodes : List NodeDTO} {node changed : NodeDTO} {index : Nat}
    (found : nodeIndex nodes node.id = some (node, index)) (sameID : changed.id = node.id)
    (id : String) :
    (places (nodes.set index changed)).lookup id =
      if id = node.id then some (changed.parentID, changed.x, changed.y)
      else (places nodes).lookup id := by
  unfold places
  rw [List.map_set, sameID]
  apply Table.lookup_set_index
  · rw [List.getElem?_map, (nodeIndex_eq_some found).1]
    rfl
  · intro earlier small entry located
    rw [List.getElem?_map] at located
    rcases Option.map_eq_some_iff.mp located with ⟨other, inNodes, rfl⟩
    exact first_of_nodeIndex found earlier small other inNodes

theorem lookup_places_self {nodes : List NodeDTO} {node : NodeDTO} {index : Nat}
    (found : nodeIndex nodes node.id = some (node, index)) :
    (places nodes).lookup node.id = some (node.parentID, node.x, node.y) := by
  have written := lookup_places_set found (Eq.refl node.id) node.id
  rcases List.getElem?_eq_some_iff.mp (nodeIndex_eq_some found).1 with ⟨small, isNode⟩
  have same : nodes.set index node = nodes := by
    rw [← isNode, List.set_getElem_self]
  rwa [same, if_pos rfl] at written

section

variable {env : Env} {editor after : Editor} {op resolved : TopologyOp} {known : Asked}

theorem Stood.unmoved (stood : Stood known editor) (pending : after.pending = editor.pending)
    (same : places after.graph.nodes = places editor.graph.nodes) : Stood known after where
  listed := by
    rw [pending, ← map_fst_places, same, map_fst_places]
    exact stood.listed
  once := pending ▸ stood.once
  settled := pending ▸ stood.settled
  there := same ▸ stood.there

theorem Stood.without (stood : Stood known editor) (removed : List String) :
    Stood known (editor.without removed) := by
  have pending : (editor.without removed).pending = editor.pending.diff removed :=
    (List.diff_eq_foldl _ _).symm
  have kept : places (editor.without removed).graph.nodes =
      (places editor.graph.nodes).filter fun entry => decide (entry.1 ∉ removed) := by
    unfold places
    rw [List.filter_map]
    rfl
  have fewer : editor.pending.diff removed ⊆ editor.pending := (List.diff_sublist _ _).subset
  constructor
  · intro id waits
    rw [pending] at waits
    rcases stood.once.mem_sdiff_iff.mp waits with ⟨old, notRemoved⟩
    rcases List.mem_map.mp (stood.listed id old) with ⟨node, member, rfl⟩
    exact List.mem_map_of_mem (List.mem_filter.mpr ⟨member, decide_eq_true notRemoved⟩)
  · rw [pending]
    exact stood.once.diff
  · intro id place asked waits
    rw [pending] at waits
    exact stood.settled id place asked (fewer waits)
  · intro id place asked x y found
    rw [kept, Table.lookup_filter _ fun id => decide (id ∉ removed)] at found
    split at found
    · exact stood.there id place asked x y found
    · cases found

/-- What a changed node has to meet for what was asked of it. -/
def Meets (request : Request) (pending : List String) (node changed : NodeDTO) : Prop :=
  match request with
  | .unchanged =>
      (changed.parentID, changed.x, changed.y) = (node.parentID, node.x, node.y)
  | .asked x y => node.id ∉ pending ∧ changed.x = snapToGrid x ∧ changed.y = snapToGrid y
  | .forgotten => True

theorem Request.note_other (request : Request) {id other : String} (apart : other ≠ id) :
    request.note known id other = known other := by
  cases request with
  | unchanged => rfl
  | asked x y => exact Function.update_of_ne apart _ _
  | forgotten => exact Function.update_of_ne apart _ _

theorem Stood.rewrite (stood : Stood known editor) {node changed : NodeDTO} {index : Nat}
    (found : nodeIndex editor.graph.nodes node.id = some (node, index))
    (sameID : changed.id = node.id) {pending : List String}
    (fewer : pending.Sublist editor.pending) {request : Request}
    (meets : Meets request pending node changed) :
    Stood (request.note known node.id) { editor.putNode index changed with pending := pending } := by
  have ids : (editor.graph.nodes.set index changed).map NodeDTO.id =
      editor.graph.nodes.map NodeDTO.id :=
    map_set_of_eq NodeDTO.id (nodeIndex_eq_some found).1 sameID
  constructor
  · intro id waits
    change id ∈ (editor.graph.nodes.set index changed).map NodeDTO.id
    rw [ids]
    exact stood.listed id (fewer.subset waits)
  · exact stood.once.sublist fewer
  · intro id place asked waits
    by_cases here : id = node.id
    · subst here
      cases request with
      | unchanged => exact stood.settled _ place asked (fewer.subset waits)
      | asked x y => exact meets.1 waits
      | forgotten => simp [Request.note] at asked
    · rw [request.note_other here] at asked
      exact stood.settled id place asked (fewer.subset waits)
  · intro id place asked x y stands
    change (places (editor.graph.nodes.set index changed)).lookup id = _ at stands
    rw [lookup_places_set found sameID] at stands
    by_cases here : id = node.id
    · subst here
      rw [if_pos rfl, Option.some.injEq] at stands
      cases request with
      | unchanged =>
          apply stood.there node.id place asked x y
          rw [lookup_places_self found, ← stands]
          exact congrArg some meets.symm
      | asked wantedX wantedY =>
          simp only [Request.note, Function.update_self, Option.some.injEq] at asked
          simp only [Prod.mk.injEq] at stands
          rw [← asked, ← stands.2.1, ← stands.2.2]
          exact meets.2
      | forgotten => simp [Request.note] at asked
    · rw [if_neg here] at stands
      rw [request.note_other here] at asked
      exact stood.there id place asked x y stands

/-! ## Changing a node -/

/-- A change that leaves a node where it stands. -/
structure Standing (before after : NodeDTO) : Prop where
  id : after.id = before.id
  place : (after.parentID, after.x, after.y) = (before.parentID, before.x, before.y)

theorem Standing.refl (node : NodeDTO) : Standing node node := ⟨rfl, rfl⟩

theorem Standing.trans {first second third : NodeDTO} (left : Standing first second)
    (right : Standing second third) : Standing first third :=
  ⟨right.id.trans left.id, right.place.trans left.place⟩

variable {node changed : NodeDTO} {index : Nat}

theorem standing_whenGiven {α : Type} {value : Option α} {change : α → Except String NodeDTO}
    (stands : ∀ value changed, change value = .ok changed → Standing node changed)
    (done : whenGiven value node change = .ok changed) : Standing node changed := by
  rcases whenGiven_eq_ok.mp done with ⟨_, same⟩ | ⟨value, _, done⟩
  · exact same ▸ Standing.refl node
  · exact stands value changed done

theorem standing_setNodeIP {value : String} (done : setNodeIP node value = .ok changed) :
    Standing node changed := by
  unfold setNodeIP at done
  rcases bind_eq_ok.mp done with ⟨_, _, done⟩
  split at done
  · cases done
    exact ⟨rfl, rfl⟩
  · rcases bind_eq_ok.mp done with ⟨_, _, done⟩
    cases done
    exact ⟨rfl, rfl⟩

theorem standing_givenMAC (done : givenMAC op node = .ok changed) : Standing node changed := by
  apply standing_whenGiven _ done
  intro mac changed done
  rcases bind_eq_ok.mp done with ⟨_, _, done⟩
  cases done
  exact ⟨rfl, rfl⟩

theorem standing_withDetails (node : NodeDTO) (details : List (String × Json)) :
    Standing node (withDetails node details) := ⟨rfl, rfl⟩

theorem standing_updateTable (done : updateTable node op = .ok changed) : Standing node changed := by
  rcases bind_eq_ok.mp done with ⟨details, _, done⟩
  cases done
  exact ⟨rfl, rfl⟩

theorem standing_settleDetails (done : settleDetails env node op = .ok changed) :
    Standing node changed := by
  unfold settleDetails at done
  generalize isPruned : withDetails node (prunePortConfig node.details
    (portCount env.floats node.type node.details)) = pruned at done
  have stays : Standing node pruned := by
    rw [← isPruned]
    exact standing_withDetails node _
  dsimp only at done
  split at done
  · exact stays.trans (standing_updateTable done)
  · cases done
    exact stays

theorem standing_updateDetails (done : updateDetails env editor node index op = .ok changed) :
    Standing node changed := by
  unfold updateDetails at done
  split at done
  · cases done
    exact .refl _
  · rcases bind_eq_ok.mp done with ⟨merged, _, done⟩
    rcases bind_eq_ok.mp done with ⟨_, _, done⟩
    rcases bind_eq_ok.mp done with ⟨_, _, done⟩
    rcases bind_eq_ok.mp done with ⟨settled, settles, done⟩
    rcases bind_eq_ok.mp done with ⟨_, _, done⟩
    cases done
    exact (standing_withDetails node merged).trans (standing_settleDetails settles)

theorem rackNode_eq_ok {parent rackID : String} {slot : Option Rat}
    (done : rackNode env editor node index parent slot = .ok (rackID, after)) :
    ∃ chosen, after = { editor.putNode index (mountedAt rackID chosen node) with
      pending := editor.pending.erase node.id } := by
  rcases bind_eq_ok.mp done with ⟨⟨rack, rackIndex⟩, _, done⟩
  rcases bind_eq_ok.mp done with ⟨_, _, done⟩
  rcases bind_eq_ok.mp done with ⟨_, _, done⟩
  rcases bind_eq_ok.mp done with ⟨_, _, done⟩
  rcases bind_eq_ok.mp done with ⟨chosen, _, done⟩
  cases done
  exact ⟨chosen, rfl⟩

@[simp]
theorem unmounted_id (nodes : List NodeDTO) (node : NodeDTO) : (unmounted nodes node).id = node.id := by
  unfold unmounted
  split <;> rfl

theorem unmounted_of_free {nodes : List NodeDTO} (free : node.parentID = none) :
    unmounted nodes node = node := by
  unfold unmounted
  rw [free]

theorem meets_unmounted (nodes : List NodeDTO) (pending : List String) (node : NodeDTO) :
    Meets (if node.parentID.isSome then .forgotten else .unchanged) pending node
      (unmounted nodes node) := by
  split
  · trivial
  · rename_i free
    rw [unmounted_of_free (Option.not_isSome_iff_eq_none.mp free)]
    rfl

theorem moveNode_eq_ok (located : editor.graph.nodes[index]? = some node)
    (settled : ∀ x y, updateRequest op node.parentID.isSome = .asked x y →
      node.id ∉ editor.pending)
    (done : moveNode env editor node index op = .ok (after, resolved)) :
    resolved.node = op.node ∧ ∃ final pending,
      after = { editor.putNode index final with pending := pending } ∧ final.id = node.id ∧
      pending.Sublist editor.pending ∧
      Meets (updateRequest op node.parentID.isSome) pending node final := by
  have same : editor = { editor.putNode index node with pending := editor.pending } := by
    rcases List.getElem?_eq_some_iff.mp located with ⟨small, isNode⟩
    unfold Editor.putNode Editor.withNodes
    rw [← isNode, List.set_getElem_self]
  have waiting := List.Sublist.refl editor.pending
  unfold moveNode at done
  unfold updateRequest at settled ⊢
  cases isParent : op.parent with
  | some parent =>
    simp only [isParent] at done settled ⊢
    by_cases blank : trimSpace parent = ""
    · rw [if_pos blank] at done
      rw [if_neg (not_not.mpr blank)] at settled ⊢
      have isDone := Except.ok.inj done
      rw [Prod.mk.injEq] at isDone
      rcases isDone with ⟨isAfter, rfl⟩
      refine ⟨rfl, _, editor.pending, isAfter.symm, ?_, waiting, ?_⟩
      · split <;> exact unmounted_id _ _
      · have partly := meets_unmounted editor.graph.nodes editor.pending node
        cases xs : op.x with
        | none => exact partly
        | some x =>
            cases ys : op.y with
            | none => exact partly
            | some y => exact ⟨settled x y (by rw [xs, ys]), rfl, rfl⟩
    · rw [if_neg blank] at done
      rw [if_pos blank]
      rcases bind_eq_ok.mp done with ⟨rackID, _, done⟩
      split at done
      · cases done
        exact ⟨rfl, node, editor.pending, same, rfl, waiting, trivial⟩
      · rcases bind_eq_ok.mp done with ⟨⟨_, mounted⟩, mounts, done⟩
        cases done
        rcases rackNode_eq_ok mounts with ⟨chosen, rfl⟩
        exact ⟨rfl, _, _, rfl, rfl, List.erase_sublist, trivial⟩
  | none =>
    simp only [isParent] at done settled ⊢
    cases isSlot : op.rackSlot with
    | some slot =>
      simp only [isSlot] at done ⊢
      rcases bind_eq_ok.mp done with ⟨parentID, _, done⟩
      rcases bind_eq_ok.mp done with ⟨⟨_, mounted⟩, mounts, done⟩
      cases done
      rcases rackNode_eq_ok mounts with ⟨chosen, rfl⟩
      exact ⟨rfl, _, _, rfl, rfl, List.erase_sublist, trivial⟩
    | none =>
      simp only [isSlot] at done
      rw [isSlot, if_neg (by decide)] at settled
      split at done
      · rename_i neither
        cases done
        rw [neither.1, neither.2]
        exact ⟨rfl, node, editor.pending, same, rfl, waiting, rfl⟩
      · rename_i some_
        rcases bind_eq_ok.mp done with ⟨_, free, done⟩
        cases done
        refine ⟨rfl, _, editor.pending, rfl, rfl, waiting, ?_⟩
        cases xs : op.x with
        | none =>
            cases ys : op.y with
            | none => exact absurd ⟨xs, ys⟩ some_
            | some y => trivial
        | some x =>
            cases ys : op.y with
            | none => trivial
            | some y => exact ⟨settled x y (by rw [xs, ys]), rfl, rfl⟩

theorem Meets.of_standing {request : Request} {pending : List String} {before middle last : NodeDTO}
    (stands : Standing before middle) (meets : Meets request pending middle last) :
    Meets request pending before last := by
  cases request with
  | unchanged => exact Eq.trans meets stands.place
  | asked x y => exact ⟨stands.id ▸ meets.1, meets.2⟩
  | forgotten => trivial

theorem Stood.update (stood : Stood known editor) (isUpdate : op.op = "update_node")
    (calm : ¬ MovesWaiting env editor op)
    (done : updateNode env editor op = .ok (after, resolved)) :
    Stood (noteStep editor op resolved known) after := by
  rcases bind_eq_ok.mp done with ⟨⟨node, index⟩, finds, done⟩
  rcases bind_eq_ok.mp done with ⟨_, _, done⟩
  rcases bind_eq_ok.mp done with ⟨named, names, done⟩
  rcases bind_eq_ok.mp done with ⟨detailed, changes, done⟩
  rcases bind_eq_ok.mp done with ⟨power, _, done⟩
  rcases bind_eq_ok.mp done with ⟨addressed, addresses, done⟩
  rcases bind_eq_ok.mp done with ⟨final, finishes, done⟩
  have found := resolvedNode_eq_ok finds
  have naming : Standing node named := by
    apply standing_whenGiven _ names
    intro name changed naming
    rcases bind_eq_ok.mp naming with ⟨_, _, naming⟩
    cases naming
    exact ⟨rfl, rfl⟩
  have powered : Standing detailed { detailed with powerDraw := power } := ⟨rfl, rfl⟩
  have stands : Standing node final :=
    (((naming.trans (standing_updateDetails changes)).trans powered).trans
      (standing_whenGiven (fun _ _ => standing_setNodeIP) addresses)).trans
      (standing_givenMAC finishes)
  have mounted : final.parentID = node.parentID := congrArg Prod.fst stands.place
  have located : (editor.putNode index final).graph.nodes[index]? = some final :=
    Editor.located_putNode (nodeIndex_eq_some found).1
  have settled : ∀ x y, updateRequest { op with node := node.id } final.parentID.isSome =
      .asked x y → final.id ∉ (editor.putNode index final).pending := by
    intro x y asks waits
    rw [mounted] at asks
    rw [stands.id] at waits
    exact calm ⟨isUpdate, node, index, x, y, finds, asks, waits⟩
  rcases moveNode_eq_ok located settled done with ⟨sameNode, last, pending, isAfter, sameID, fewer,
    meets⟩
  rw [mounted] at meets
  have noted := stood.rewrite found (sameID.trans stands.id) fewer (meets.of_standing stands)
  rw [Editor.putNode_putNode] at isAfter
  have isNoted : noteStep editor op resolved known =
      (updateRequest op node.parentID.isSome).note known node.id := by
    unfold noteStep isMounted
    rw [isUpdate, sameNode, found]
    rfl
  rw [isNoted, isAfter]
  exact noted

/-! ## Adding a node -/

theorem Stood.append (stood : Stood known editor) {node : NodeDTO}
    (fresh : node.id ∉ editor.graph.nodes.map NodeDTO.id)
    (nodes : after.graph.nodes = editor.graph.nodes ++ [node]) (once : after.pending.Nodup)
    (waits : ∀ id ∈ after.pending, id ∈ editor.pending ∨ id = node.id) {request : Request}
    (new : request ≠ .unchanged) (meets : Meets request after.pending node node) :
    Stood (request.note known node.id) after := by
  have found : ∀ id, (places after.graph.nodes).lookup id =
      if id = node.id then some (node.parentID, node.x, node.y)
      else (places editor.graph.nodes).lookup id := by
    intro id
    have last : places after.graph.nodes = places editor.graph.nodes ++ places [node] := by
      rw [nodes]
      exact List.map_append
    rw [last, Table.lookup_append, places, places, List.map_singleton, Table.lookup_cons]
    split
    · rename_i here
      have none : (places editor.graph.nodes).lookup id = none := by
        rw [List.lookup_eq_none_iff]
        intro entry member
        rcases List.mem_map.mp member with ⟨other, listed, rfl⟩
        rw [here, bne_iff_ne]
        exact fun same => fresh (same ▸ List.mem_map_of_mem listed)
      rw [places] at none
      rw [none, Option.none_or]
    · exact Option.or_none
  constructor
  · intro id waiting
    rw [nodes, List.map_append, List.mem_append]
    rcases waits id waiting with old | here
    · exact .inl (stood.listed id old)
    · exact .inr (List.mem_singleton.mpr here)
  · exact once
  · intro id place asked waiting
    by_cases here : id = node.id
    · subst here
      cases request with
      | unchanged => exact new rfl
      | asked x y => exact meets.1 waiting
      | forgotten => simp [Request.note] at asked
    · rw [request.note_other here] at asked
      exact stood.settled id place asked ((waits id waiting).resolve_right here)
  · intro id place asked x y stands
    rw [found] at stands
    by_cases here : id = node.id
    · subst here
      rw [if_pos rfl, Option.some.injEq, Prod.mk.injEq, Prod.mk.injEq] at stands
      cases request with
      | unchanged => exact absurd rfl new
      | asked wantedX wantedY =>
          simp only [Request.note, Function.update_self, Option.some.injEq] at asked
          rw [← asked, ← stands.2.1, ← stands.2.2]
          exact meets.2
      | forgotten => simp [Request.note] at asked
    · rw [if_neg here] at stands
      rw [request.note_other here] at asked
      exact stood.there id place asked x y stands

theorem Stood.add {limit : Nat} (stood : Stood known editor) (isAdd : op.op = "add_node")
    (unused : Unused env limit editor) (more : editor.minted < limit)
    (done : addNode env editor op = .ok (after, resolved)) :
    Stood (noteStep editor op resolved known) after := by
  rcases bind_eq_ok.mp done with ⟨⟨node, named⟩, added, done⟩
  rcases newNode_edit unused more added with ⟨_, bare, uuid, isNew⟩
  have fresh : node.id ∉ editor.graph.nodes.map NodeDTO.id := by
    intro taken
    rcases List.mem_map.mp taken with ⟨other, member, same⟩
    have used : idInUse named.graph.nodes uuid.text = true := by
      rw [isNew.sameGraph]
      refine idInUse_iff.mpr ⟨other, member, ?_⟩
      rw [← isNew.named, ← same]
      exact List.mem_append_left _ List.mem_cons_self
    rw [isNew.new.unused] at used
    cases used
  have settled : node.id ∉ editor.pending := fun waits => fresh (stood.listed _ waits)
  have appended : ∀ (placed : NodeDTO) (after : Editor) (request : Request), placed.id = node.id →
      after.graph.nodes = named.graph.nodes ++ [placed] → after.pending.Nodup →
      (∀ id ∈ after.pending, id ∈ editor.pending ∨ id = node.id) → request ≠ .unchanged →
      Meets request after.pending placed placed → Stood (request.note known node.id) after := by
    intro placed after request sameID nodes once waits new meets
    rw [isNew.sameGraph] at nodes
    rw [← sameID] at waits fresh ⊢
    exact stood.append fresh nodes once waits new meets
  have noted : noteStep editor op resolved known = (addRequest op).note known resolved.id := by
    simp only [noteStep, isAdd]
  rw [noted]
  dsimp only at done
  split at done
  · rename_i parent given
    rcases bind_eq_ok.mp done with ⟨⟨rackID, mounted⟩, mounts, done⟩
    cases done
    rcases rackNode_eq_ok mounts with ⟨chosen, rfl⟩
    have request : addRequest op = .forgotten := by simp only [addRequest, given]
    rw [request]
    apply appended (mountedAt rackID chosen node) _ .forgotten rfl _ _ _ nofun trivial
    · change (named.graph.nodes ++ [node]).set named.graph.nodes.length _ = _
      rw [List.set_append_right _ _ (Nat.le_refl _), Nat.sub_self, List.set_cons_zero]
    · exact (isNew.samePending ▸ stood.once).sublist List.erase_sublist
    · exact fun id waits => .inl (isNew.samePending ▸ List.mem_of_mem_erase waits)
  · rename_i free
    split at done
    · rename_i x y givenX givenY
      cases done
      have request : addRequest op = .asked x y := by simp only [addRequest, free, givenX, givenY]
      rw [request]
      apply appended { node with x := snapToGrid x, y := snapToGrid y } _ (.asked x y) rfl rfl _ _
        nofun ⟨_, rfl, rfl⟩
      · exact isNew.samePending ▸ stood.once
      · exact fun id waits => .inl (isNew.samePending ▸ waits)
      · exact isNew.samePending ▸ settled
    · rename_i partly
      cases done
      have request : addRequest op = .forgotten := by
        cases givenX : op.x with
        | none => simp only [addRequest, free, givenX]
        | some x =>
            cases givenY : op.y with
            | none => simp only [addRequest, free, givenX, givenY]
            | some y => exact absurd givenY (partly x y givenX)
      rw [request]
      apply appended node _ .forgotten rfl rfl _ _ nofun trivial
      · change (named.pending ++ [node.id]).Nodup
        rw [isNew.samePending, ← List.concat_eq_append]
        exact stood.once.concat settled
      · intro id waits
        rcases List.mem_append.mp waits with old | here
        · exact .inl (isNew.samePending ▸ old)
        · exact .inr (List.mem_singleton.mp here)

/-! ## Other operations -/

theorem Stood.held (stood : Stood known editor) {node changed : NodeDTO} {index : Nat}
    {named : Editor} (graph : named.graph = editor.graph) (pending : named.pending = editor.pending)
    (located : editor.graph.nodes[index]? = some node) (stands : Standing node changed) :
    Stood known (named.putNode index changed) := by
  have same : places (named.putNode index changed).graph.nodes = places editor.graph.nodes := by
    change places (named.graph.nodes.set index changed) = _
    rw [graph]
    apply map_set_of_eq _ located
    rw [stands.id, stands.place]
  exact stood.unmoved pending same

theorem Stood.connect (stood : Stood known editor)
    (done : Topology.connect env editor op = .ok (after, resolved)) : Stood known after := by
  rcases bind_eq_ok.mp done with ⟨⟨source, _⟩, _, done⟩
  rcases bind_eq_ok.mp done with ⟨⟨target, _⟩, _, done⟩
  rcases bind_eq_ok.mp done with ⟨_, _, done⟩
  rcases bind_eq_ok.mp done with ⟨_, _, done⟩
  rcases bind_eq_ok.mp done with ⟨connectionType, _, done⟩
  split at done
  · rcases bind_eq_ok.mp done with ⟨_, _, done⟩
    rcases bind_eq_ok.mp done with ⟨edge, _, done⟩
    cases done
    exact stood.unmoved rfl rfl
  · rcases bind_eq_ok.mp done with ⟨_, _, done⟩
    rcases bind_eq_ok.mp done with ⟨_, _, done⟩
    rcases bind_eq_ok.mp done with ⟨edge, _, done⟩
    cases done
    exact stood.unmoved rfl rfl

theorem Stood.updateConnection (stood : Stood known editor)
    (done : Topology.updateConnection env editor op = .ok (after, resolved)) :
    Stood known after := by
  rcases bind_eq_ok.mp done with ⟨connection, _, done⟩
  rcases bind_eq_ok.mp done with ⟨⟨source, _⟩, _, done⟩
  rcases bind_eq_ok.mp done with ⟨⟨target, _⟩, _, done⟩
  rcases bind_eq_ok.mp done with ⟨retyped, _, done⟩
  rcases bind_eq_ok.mp done with ⟨edge, _, done⟩
  cases done
  exact stood.unmoved rfl rfl

theorem Stood.addVM {limit : Nat} (stood : Stood known editor) (unused : Unused env limit editor)
    (more : editor.minted < limit) (done : Topology.addVM env editor op = .ok (after, resolved)) :
    Stood known after := by
  rcases bind_eq_ok.mp done with ⟨⟨host, index⟩, found, done⟩
  rcases bind_eq_ok.mp done with ⟨_, _, done⟩
  rcases bind_eq_ok.mp done with ⟨_, _, done⟩
  rcases bind_eq_ok.mp done with ⟨drafted, _, done⟩
  rcases bind_eq_ok.mp done with ⟨fielded, _, done⟩
  rcases bind_eq_ok.mp done with ⟨gamed, _, done⟩
  rcases bind_eq_ok.mp done with ⟨name, _, done⟩
  rcases bind_eq_ok.mp done with ⟨⟨id, drawn⟩, minted, done⟩
  rcases bind_eq_ok.mp done with ⟨named, registers, done⟩
  cases done
  rcases edit_of_named unused more minted registers with ⟨_, uuid, isNew⟩
  exact stood.held isNew.sameGraph isNew.samePending (located_of_resolvedNode found) ⟨rfl, rfl⟩

theorem Stood.updateVM (stood : Stood known editor)
    (done : Topology.updateVM env editor op = .ok (after, resolved)) : Stood known after := by
  rcases bind_eq_ok.mp done with ⟨found, finds, done⟩
  rcases bind_eq_ok.mp done with ⟨fielded, _, done⟩
  rcases bind_eq_ok.mp done with ⟨gamed, _, done⟩
  cases done
  exact stood.held rfl rfl (resolveVM_eq_ok finds).1 ⟨rfl, rfl⟩

theorem Stood.removeVM (stood : Stood known editor)
    (done : Topology.removeVM env editor op = .ok (after, resolved)) : Stood known after := by
  rcases bind_eq_ok.mp done with ⟨found, finds, done⟩
  cases done
  exact stood.held rfl rfl (resolveVM_eq_ok finds).1 ⟨rfl, rfl⟩

theorem Stood.addComponent {limit : Nat} (stood : Stood known editor)
    (unused : Unused env limit editor) (more : editor.minted < limit)
    (done : Topology.addComponent env editor op = .ok (after, resolved)) : Stood known after := by
  rcases bind_eq_ok.mp done with ⟨⟨host, index⟩, found, done⟩
  rcases bind_eq_ok.mp done with ⟨_, _, done⟩
  rcases bind_eq_ok.mp done with ⟨_, _, done⟩
  rcases bind_eq_ok.mp done with ⟨draft, _, done⟩
  rcases bind_eq_ok.mp done with ⟨_, _, done⟩
  rcases bind_eq_ok.mp done with ⟨name, _, done⟩
  rcases bind_eq_ok.mp done with ⟨details, _, done⟩
  rcases bind_eq_ok.mp done with ⟨power, _, done⟩
  rcases bind_eq_ok.mp done with ⟨⟨id, drawn⟩, minted, done⟩
  rcases bind_eq_ok.mp done with ⟨named, registers, done⟩
  cases done
  rcases edit_of_named unused more minted registers with ⟨_, uuid, isNew⟩
  exact stood.held isNew.sameGraph isNew.samePending (located_of_resolvedNode found) ⟨rfl, rfl⟩

theorem Stood.removeComponent (stood : Stood known editor)
    (done : Topology.removeComponent env editor op = .ok (after, resolved)) :
    Stood known after := by
  rcases bind_eq_ok.mp done with ⟨found, finds, done⟩
  cases done
  exact stood.held rfl rfl (resolveComponent_eq_ok finds).1 ⟨rfl, rfl⟩

theorem noteStep_of_ne (other : op.op ≠ "add_node" ∧ op.op ≠ "update_node") :
    noteStep editor op resolved known = known := by
  unfold noteStep
  split
  · rename_i isAdd
    exact absurd isAdd other.1
  · rename_i isUpdate
    exact absurd isUpdate other.2
  · rfl

theorem Stood.step {limit : Nat} (stood : Stood known editor) (unused : Unused env limit editor)
    (more : editor.minted < limit) (calm : ¬ MovesWaiting env editor op.lowered)
    (done : Topology.step env editor op = .ok (after, resolved)) :
    Stood (noteStep editor op.lowered resolved known) after := by
  unfold Topology.step at done
  generalize op.lowered = op at calm done ⊢
  unfold applyOp at done
  split at done
  · rename_i isAdd
    exact stood.add isAdd unused more done
  · rename_i isUpdate
    exact stood.update isUpdate calm done
  all_goals
    rename_i isOther
    first
    | cases done
    | rw [noteStep_of_ne (by rw [isOther]; decide)]
  · rcases bind_eq_ok.mp done with ⟨⟨node, index⟩, _, done⟩
    cases done
    exact stood.without _
  · exact stood.connect done
  · rcases bind_eq_ok.mp done with ⟨connection, _, done⟩
    cases done
    exact stood.unmoved rfl rfl
  · exact stood.updateConnection done
  · exact stood.addVM unused more done
  · exact stood.updateVM done
  · exact stood.removeVM done
  · exact stood.addComponent unused more done
  · exact stood.removeComponent done
  · rcases bind_eq_ok.mp done with ⟨name, _, done⟩
    rcases bind_eq_ok.mp done with ⟨cleaned, _, done⟩
    cases done
    exact stood.unmoved rfl rfl
  · rcases bind_eq_ok.mp done with ⟨_, _, done⟩
    rcases bind_eq_ok.mp done with ⟨kind, _, done⟩
    rcases bind_eq_ok.mp done with ⟨plan, _, done⟩
    cases done
    exact stood.unmoved rfl rfl

/-! ## Batches -/

theorem stood_opening (base : SyncGraphInput) : Stood (fun _ => none) (.opening base) :=
  ⟨nofun, List.nodup_nil, nofun, nofun⟩

theorem stood_applyFrom {limit : Nat} : ∀ (ops : List TopologyOp) {editor after : Editor}
    {count : Nat} {resolved : List TopologyOp} {known : Asked},
    (∀ op ∈ ops, Draws env limit op) → Unused env limit editor →
    editor.minted + ops.length ≤ limit →
    Along env (fun editor op => ¬ MovesWaiting env editor op) editor ops →
    applyFrom env editor count ops = .ok (after, resolved) → Stood known editor →
    Stood (askedBy env editor ops known) after := by
  intro ops
  induction ops with
  | nil =>
      intro editor after count resolved known _ _ _ _ done stood
      cases done
      exact stood
  | cons op rest induction =>
      intro editor after count resolved known draws unused enough calm done stood
      rw [List.length_cons] at enough
      rcases applyFrom_cons_eq_ok done with ⟨middle, first, later, stepped, walked, _⟩
      have next := @step_preserves env editor middle op first limit (fun _ _ => True)
        (fun _ => True) (fun _ _ _ => trivial) (draws op List.mem_cons_self) unused (by omega)
        trivial stepped trivial
      rw [askedBy, stepped]
      apply induction _ next.2.1 _ (calm.2 middle first stepped) walked
      · exact stood.step unused (by omega) calm.1 stepped
      · exact fun other member => draws other (List.mem_cons_of_mem _ member)
      · have one := next.2.2
        omega

/-- Where no update gives coordinates to a node that waits to be placed, a node
that ends up on the canvas stands where it was asked to last. -/
theorem asked_positions_kept {base : SyncGraphInput} {ops : List TopologyOp}
    {applied : AppliedTopology} (fresh : FreshIDs env base ops)
    (calm : Along env (fun editor op => ¬ MovesWaiting env editor op) (.opening base) ops)
    (done : applyTopologyOps env base ops = .ok applied) :
    ∀ node ∈ applied.input.nodes, node.parentID = none → ∀ x y,
      askedBy env (.opening base) ops (fun _ => none) node.id = some (x, y) →
        node.x = snapToGrid x ∧ node.y = snapToGrid y := by
  intro node member free x y asked
  rcases applyTopologyOps_eq_ok done with ⟨final, walked, isPlaced, _, clean⟩
  have stood := stood_applyFrom ops
    (fun op member => ⟨fresh.distinct, fun draw few => fresh.unnamed draw few op member⟩)
    (fun draw _ few => fresh.unused draw few) (by simp [Editor.opening]) calm walked
    (stood_opening base)
  have moved := placedFrom_placeNodes env.floats final.graph.edges final.pending.length
    final.graph.nodes final.pending final.pending (List.Subset.refl final.pending)
  have distinct := distinct_of_graphIssues clean
  rw [isPlaced] at member distinct
  rcases moved.exists_mem member with ⟨was, inFinal, isMoved⟩
  have settled := stood.settled node.id (x, y) asked
  have same : node = was := isMoved.still (isMoved.id ▸ settled)
  subst same
  have ids : (final.placed env).nodes.map NodeDTO.id = final.graph.nodes.map NodeDTO.id :=
    moved.map_id
  rw [ids] at distinct
  apply stood.there node.id (x, y) asked node.x node.y
  apply Table.lookup_of_mem
  · rw [map_fst_places]
    exact distinct
  · rw [← free]
    exact List.mem_map_of_mem inFinal

end

/-! ## Examples -/

/-- A switch that comes without a place, and is moved before it has one. -/
def movedWhileWaiting : List TopologyOp :=
  [{ op := "add_node", ref := "core", type := "switch" },
    { op := "update_node", node := "core", x := some 1000, y := some 1000 }]

theorem asked_position_lost :
    ∃ applied, applyTopologyOps Env.plain { name := "Office" } movedWhileWaiting = .ok applied ∧
      ∃ node ∈ applied.input.nodes, node.parentID = none ∧
        askedBy Env.plain (.opening { name := "Office" }) movedWhileWaiting (fun _ => none)
          node.id = some (1000, 1000) ∧ node.x = 80 ∧ node.x ≠ snapToGrid 1000 := by
  have lost : (applyTopologyOps Env.plain { name := "Office" } movedWhileWaiting).toOption.map
      (fun applied => applied.input.nodes.any fun node => node.parentID = none ∧
        askedBy Env.plain (.opening { name := "Office" }) movedWhileWaiting (fun _ => none)
          node.id = some (1000, 1000) ∧ node.x = 80 ∧ node.x ≠ snapToGrid 1000) = some true := by
    decide +kernel
  rcases Option.map_eq_some_iff.mp lost with ⟨applied, done, found⟩
  rcases List.any_eq_true.mp found with ⟨node, member, holds⟩
  exact ⟨applied, toOption_eq_some.mp done, node, member, of_decide_eq_true holds⟩

/-- A switch that comes with a place and is moved to another. -/
def movedTwice : List TopologyOp :=
  [{ op := "add_node", ref := "core", type := "switch", x := some 200, y := some 200 },
    { op := "update_node", node := "core", x := some 1000, y := some 1000 }]

theorem freshIDs_movedTwice : FreshIDs Env.plain { name := "Office" } movedTwice where
  distinct := by
    unfold movedTwice
    decide
  unused := by
    rintro draw _ (used | ⟨node, member, _⟩)
    · cases used
    · cases member
  unnamed := by
    unfold movedTwice
    decide

theorem asked_positions_kept_twice :
    ∃ applied, applyTopologyOps Env.plain { name := "Office" } movedTwice = .ok applied ∧
      ∃ node ∈ applied.input.nodes, node.x = snapToGrid 1000 ∧ node.y = snapToGrid 1000 := by
  have accepted : (applyTopologyOps Env.plain { name := "Office" } movedTwice).toOption.map
      (fun applied => applied.input.nodes.any fun node => node.parentID = none ∧
        askedBy Env.plain (.opening { name := "Office" }) movedTwice (fun _ => none) node.id =
          some (1000, 1000)) = some true := by
    decide
  have calm : Along Env.plain (fun editor op => ¬ MovesWaiting Env.plain editor op)
      (.opening { name := "Office" }) movedTwice := by
    refine ⟨?_, fun after resolved stepped => ⟨?_, fun _ _ _ => trivial⟩⟩
    · rintro ⟨isUpdate, _⟩
      exact absurd isUpdate (by decide)
    · have settled : (step Env.plain (.opening { name := "Office" })
          { op := "add_node", ref := "core", type := "switch", x := some 200
            y := some 200 }).toOption.map (fun stepped => stepped.1.pending) = some [] := by
        decide
      rw [stepped] at settled
      rintro ⟨_, node, _, _, _, _, _, waits⟩
      have nobody : after.pending = [] := Option.some.inj settled
      rw [nobody] at waits
      cases waits
  rcases Option.map_eq_some_iff.mp accepted with ⟨applied, done, found⟩
  have done := toOption_eq_some.mp done
  rcases List.any_eq_true.mp found with ⟨node, member, holds⟩
  have holds := of_decide_eq_true holds
  exact ⟨applied, done, node, member,
    asked_positions_kept freshIDs_movedTwice calm done node member holds.1 1000 1000 holds.2⟩

end HomelabBuilder.Topology
