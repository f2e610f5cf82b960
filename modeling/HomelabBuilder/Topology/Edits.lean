import Mathlib.Logic.Relation
import HomelabBuilder.Topology.Apply

/-! # The shape of a device

Which details the height of a device and the handles of its card are read from,
and that the other ones change neither.
-/

namespace HomelabBuilder.Topology

open Services Wiring

/-- Details the handles of a card are read from. -/
def handleKeys : List String := ["ports", "psu_count", "outlets"]

/-- Details the height of a device or of a rack is read from. -/
def heightKeys : List String := ["rack_size", "rack_units"]

def shapeKeys : List String := "rack_position" :: heightKeys ++ handleKeys

/-- Details the defaults of a LAN table fill in. -/
def tableKeys : List String := ["seats", "seat_watts", "switch_ports", "switch_speed"]

theorem tableKeys_disjoint : ∀ key ∈ tableKeys, key ∉ shapeKeys := by decide

def AgreeOn (keys : List String) (left right : List (String × Json)) : Prop :=
  ∀ key ∈ keys, left.lookup key = right.lookup key

section

variable {keys fewer : List String} {left middle right : List (String × Json)} {key : String}

theorem AgreeOn.refl (details : List (String × Json)) : AgreeOn keys details details :=
  fun _ _ => rfl

theorem AgreeOn.symm (agree : AgreeOn keys left right) : AgreeOn keys right left :=
  fun key member => (agree key member).symm

theorem AgreeOn.trans (first : AgreeOn keys left middle) (second : AgreeOn keys middle right) :
    AgreeOn keys left right :=
  fun key member => (first key member).trans (second key member)

theorem AgreeOn.mono (agree : AgreeOn keys left right) (subset : fewer ⊆ keys) :
    AgreeOn fewer left right :=
  fun key member => agree key (subset member)

theorem agreeOn_set (details : List (String × Json)) (value : Json) (other : key ∉ keys) :
    AgreeOn keys (Table.set details key value) details := by
  intro wanted member
  have different : wanted ≠ key := fun same => other (same ▸ member)
  rw [Table.lookup_set, if_neg different]

theorem agreeOn_erase (details : List (String × Json)) (other : key ∉ keys) :
    AgreeOn keys (Table.erase details key) details := by
  intro wanted member
  have different : wanted ≠ key := fun same => other (same ▸ member)
  rw [Table.lookup_erase, if_neg different]

theorem agreeOn_setUnless (details : List (String × Json)) (readable : Bool) (value : Json)
    (other : key ∉ keys) : AgreeOn keys (setUnless readable details key value) details := by
  unfold setUnless
  split
  · exact .refl details
  · exact agreeOn_set details value other

theorem agreeOn_prunePortConfig (details : List (String × Json)) (ports : Int)
    (other : "port_config" ∉ keys) : AgreeOn keys (prunePortConfig details ports) details := by
  unfold prunePortConfig
  split
  · exact .refl details
  · dsimp only
    split
    · exact agreeOn_erase details other
    · exact agreeOn_set details _ other

theorem agreeOn_applyTableDefaults {details filled : List (String × Json)}
    (done : applyTableDefaults details = .ok filled)
    (others : ∀ key ∈ tableKeys, key ∉ keys) :
    AgreeOn keys filled details := by
  unfold applyTableDefaults at done
  dsimp only at done
  split at done
  · cases done
  · cases done
    refine (agreeOn_setUnless _ _ _ (others _ (by decide))).trans ?_
    refine (agreeOn_setUnless _ _ _ (others _ (by decide))).trans ?_
    refine (agreeOn_setUnless _ _ _ (others _ (by decide))).trans ?_
    exact agreeOn_setUnless _ _ _ (others _ (by decide))

theorem agreeOn_wireVirtualGuest (details : List (String × Json)) (vmID : String)
    (other : "virtual_network" ∉ keys) : AgreeOn keys (wireVirtualGuest details vmID) details := by
  unfold wireVirtualGuest
  split
  · exact .refl details
  · exact agreeOn_set details _ other

theorem agreeOn_unwireVirtualGuest (details : List (String × Json)) (vmID : String)
    (other : "virtual_network" ∉ keys) :
    AgreeOn keys (unwireVirtualGuest details vmID) details := by
  unfold unwireVirtualGuest
  split
  · exact .refl details
  · exact agreeOn_set details _ other

theorem lookup_mergeDetail {nodeType : String} {details merged : List (String × Json)}
    {entry : String × Json} (done : mergeDetail nodeType details entry = .ok merged)
    (reserved : isReservedDetail key = true) : merged.lookup key = details.lookup key := by
  rcases bind_eq_ok.mp done with ⟨_, _, done⟩
  rcases bind_eq_ok.mp done with ⟨_, free, done⟩
  have other : key ≠ entry.1 := by
    intro same
    rw [require_eq_ok, ← same, reserved] at free
    cases free
  split at done
  · cases done
    rw [Table.lookup_erase, if_neg other]
  · rcases bind_eq_ok.mp done with ⟨cleaned, _, done⟩
    cases done
    rw [Table.lookup_set, if_neg other]

theorem lookup_mergeEntries {nodeType : String} (reserved : isReservedDetail key = true) :
    ∀ {patch details merged : List (String × Json)},
      mergeEntries nodeType details patch = .ok merged → merged.lookup key = details.lookup key
  | [], _, _, done => by
      cases done
      rfl
  | _ :: _, _, _, done => by
      rcases bind_eq_ok.mp done with ⟨_, first, later⟩
      exact (lookup_mergeEntries reserved later).trans (lookup_mergeDetail first reserved)

theorem lookup_mergeDetails {nodeType : String} {details patch merged : List (String × Json)}
    (done : mergeDetails details patch nodeType = .ok merged)
    (reserved : isReservedDetail key = true) : merged.lookup key = details.lookup key := by
  rcases bind_eq_ok.mp done with ⟨entries, walked, done⟩
  rcases bind_eq_ok.mp done with ⟨_, _, done⟩
  cases done
  exact lookup_mergeEntries reserved walked

end

section

variable (floats : Floats) {left right : NodeDTO}

theorem rackSizeOf_congr (agree : AgreeOn heightKeys left.details right.details) :
    rackSizeOf floats left = rackSizeOf floats right := by
  unfold rackSizeOf detailNumber
  rw [agree "rack_size" (by decide)]

theorem rackUnitsOf_congr (agree : AgreeOn heightKeys left.details right.details)
    (sameType : left.type = right.type) : rackUnitsOf floats left = rackUnitsOf floats right := by
  unfold rackUnitsOf detailNumber
  rw [agree "rack_units" (by decide), sameType]

theorem rackSlotOf_congr
    (agree : left.details.lookup "rack_position" = right.details.lookup "rack_position")
    (sameY : left.y = right.y) : rackSlotOf floats left = rackSlotOf floats right := by
  unfold rackSlotOf detailNumber
  rw [agree, sameY]

variable {leftDetails rightDetails : List (String × Json)}

theorem portCount_congr (agree : AgreeOn handleKeys leftDetails rightDetails) (nodeType : String) :
    portCount floats nodeType leftDetails = portCount floats nodeType rightDetails := by
  unfold portCount
  rw [agree "ports" (by decide)]

theorem powerInputCount_congr (agree : AgreeOn handleKeys leftDetails rightDetails)
    (nodeType : String) : powerInputCount floats nodeType leftDetails =
      powerInputCount floats nodeType rightDetails := by
  unfold powerInputCount countDetail
  rw [agree "psu_count" (by decide)]

theorem powerOutputCount_congr (agree : AgreeOn handleKeys leftDetails rightDetails)
    (nodeType : String) : powerOutputCount floats nodeType leftDetails =
      powerOutputCount floats nodeType rightDetails := by
  unfold powerOutputCount countDetail
  rw [agree "outlets" (by decide)]

end

end HomelabBuilder.Topology

/-! # Edits

The operations as sequences of small edits of the graph. An edit says what a
change keeps and which of the code's checks it passed, so that an invariant of
the graph is a fact about a dozen edits.
-/

namespace HomelabBuilder.Topology

open Services Wiring

/-! ## Ids -/

/-- An id that a graph knows, as the id of something or as the rack of a device. -/
def Mentions (nodes : List NodeDTO) (id : String) : Prop :=
  idInUse nodes id = true ∨ ∃ node ∈ nodes, node.parentID = some id

/-- Ids that are still to be drawn are new, up to a number of draws. -/
def Unused (env : Env) (limit : Nat) (editor : Editor) : Prop :=
  ∀ draw, editor.minted ≤ draw → draw < limit → ¬ Mentions editor.graph.nodes (env.newID draw).text

/-- What `uuid.NewString` promises of the ids a batch draws, one an operation at
most: none is drawn twice, and none is known to the base or asked for. -/
structure FreshIDs (env : Env) (base : SyncGraphInput) (ops : List TopologyOp) : Prop where
  distinct : ∀ draw < ops.length, ∀ other < ops.length, env.newID draw = env.newID other →
    draw = other
  unused : ∀ draw < ops.length, ¬ Mentions base.nodes (env.newID draw).text
  unnamed : ∀ draw < ops.length, ∀ op ∈ ops,
    env.parseUUID (trimSpace op.id) ≠ some (env.newID draw)

/-- An id an operation gives to a new entity. -/
structure NewID (env : Env) (editor : Editor) (op : TopologyOp) (id : UUID) : Prop where
  unused : idInUse editor.graph.nodes id.text = false
  origin : (∃ draw, draw < editor.minted ∧ id = env.newID draw) ∨
    env.parseUUID (trimSpace op.id) = some id

/-! ## Conditions on operations -/

def mergedDetails (node : NodeDTO) (op : TopologyOp) : Except String (List (String × Json)) :=
  if op.details = [] then .ok node.details else mergeDetails node.details op.details node.type

/-- The height of the device an operation mounts in a rack. -/
def mountedHeight (env : Env) (editor : Editor) (op : TopologyOp) : Option Int :=
  match op.op with
  | "add_node" =>
      (op.parent.filter fun parent => trimSpace parent ≠ "").bind fun _ =>
        (newNode env editor op).toOption.map fun added => rackUnitsOf env.floats added.1
  | "update_node" =>
      if op.parent.any fun parent => trimSpace parent = "" then none
      else
        (resolvedNode env editor op.node "node").toOption.bind fun found =>
          (mergedDetails found.1 op).toOption.map fun details =>
            rackUnitsOf env.floats (withDetails found.1 details)
  | _ => none

/-- The slots a device is asked to take, or keeps when its details change, end at
numbers an `int` can hold. -/
structure SlotInRange (env : Env) (editor : Editor) (op : TopologyOp) : Prop where
  asked : ∀ slot height, op.rackSlot = some slot → mountedHeight env editor op = some height →
    truncate env.floats (mathRound slot) + height < 2 ^ 63
  kept : op.op = "update_node" → ∀ node index details,
    resolvedNode env editor op.node "node" = .ok (node, index) → node.parentID ≠ none →
    mergedDetails node op = .ok details →
    rackSlotOf env.floats node + rackUnitsOf env.floats (withDetails node details) < 2 ^ 63

/-- The id an added node asks for is not the rack some device is said to be in. -/
def LeavesOrphans (env : Env) (editor : Editor) (op : TopologyOp) : Prop :=
  op.op = "add_node" → ∀ id, env.parseUUID (trimSpace op.id) = some id →
    ∀ node ∈ editor.graph.nodes, node.parentID ≠ some id.text

/-- A VPN link is made a physical one although its ends already reach each other. -/
def ClosesLoop (env : Env) (editor : Editor) (op : TopologyOp) : Prop :=
  op.op = "update_connection" ∧
    ∃ connection value type, resolveConnection env editor op = .ok connection ∧
      connection.edge.type = "vpn" ∧ op.connectionType = some value ∧
      cleanEnum "connection_type" value connectionTypes = .ok type ∧ type ≠ "vpn" ∧
      physicalPathExists editor.graph.edges connection.edge.source connection.edge.target = true

/-! ## Kinds of edits -/

/-- What every edit keeps of a node; guests and components may go. -/
structure Keeps (before after : NodeDTO) : Prop where
  id : after.id = before.id
  type : after.type = before.type
  vms : (after.vms.map VMDTO.id).Sublist (before.vms.map VMDTO.id)
  components : (after.internalComponents.map ComponentDTO.id).Sublist
    (before.internalComponents.map ComponentDTO.id)

/-- A change that leaves a device where it is. -/
structure Stays (before after : NodeDTO) : Prop extends Keeps before after where
  parentID : after.parentID = before.parentID
  y : after.y = before.y

/-- A change that leaves a device where it is mounted, in the shape it has. -/
structure Quiet (before after : NodeDTO) : Prop extends Keeps before after where
  parentID : after.parentID = before.parentID
  y : before.parentID ≠ none → after.y = before.y
  shape : AgreeOn shapeKeys after.details before.details

structure Checked (env : Env) (editor : Editor) (index : Nat) (node : NodeDTO) : Prop where
  ports : checkPortsFit env.floats editor.graph.edges node = .ok ()
  power : checkPowerHandlesFit env.floats editor.graph.edges node = .ok ()
  rackSize : node.type = "rack" →
    checkRackSize env.floats (editor.putNode index node).graph.nodes node = .ok ()
  mounted : checkMounted env.floats (editor.putNode index node).graph.nodes node = .ok ()

/-- What is known of a device that is mounted. -/
structure Mounting (env : Env) (start : Editor) (op : TopologyOp) (editor : Editor)
    (node rack : NodeDTO) (requested : Option Int) (chosen : Int) : Prop where
  found : ∃ index, nodeIndex editor.graph.nodes rack.id = some (rack, index)
  isRack : rack.type = "rack"
  noRack : node.type ≠ "rack"
  allocated : allocateRackSlot env.floats editor.graph.nodes rack node.id node.name
    (rackUnitsOf env.floats node) requested = .ok chosen
  whole : ∀ slot, requested = some slot → ∃ value, slot = truncate env.floats value
  inRange : SlotInRange env start op → ∀ slot, requested = some slot →
    slot + rackUnitsOf env.floats node < 2 ^ 63

structure FreeHandle (env : Env) (editor : Editor) (id handle : String) : Prop where
  drawn : ∃ node ∈ editor.graph.nodes, node.id = id ∧
    handle ∈ validHandles env.floats node.type node.details
  free : handle ∉ usedHandles (nodeTypeOf editor.graph.nodes) id editor.graph.edges

structure Linking (env : Env) (editor : Editor) (edge : EdgeDTO) : Prop where
  apart : edge.source ≠ edge.target
  handles : edge.isPower = false →
    FreeHandle env editor edge.source edge.sourceHandle ∧
      FreeHandle env editor edge.target edge.targetHandle
  loopless : isPhysical edge = true → env.allowLoops = false →
    physicalPathExists editor.graph.edges edge.source edge.target = false ∨
      physicalPathExists editor.graph.edges edge.target edge.source = false

/-- What is known of a cable that is changed. -/
structure Relinking (env : Env) (start : Editor) (op : TopologyOp) (editor : Editor)
    (before after : EdgeDTO) : Prop where
  source : after.source = before.source ∧ after.sourceHandle = before.sourceHandle
  target : after.target = before.target ∧ after.targetHandle = before.targetHandle
  power : after.isPower = before.isPower
  loopless : ¬ ClosesLoop env start op → isPhysical after = true →
    isPhysical before = true ∨
      physicalPathExists editor.graph.edges before.source before.target = false

/-- The edits an operation that starts here is made of. -/
inductive Edit (env : Env) (start : Editor) (op : TopologyOp) : Editor → Editor → Prop
  /-- An id is drawn, a ref is noted, or the build itself changes. -/
  | note {before after : Editor} (nodes : after.graph.nodes = before.graph.nodes)
      (edges : after.graph.edges = before.graph.edges) (pending : after.pending = before.pending)
      (minted : before.minted ≤ after.minted ∧ after.minted ≤ start.minted + 1)
      (refs : ∀ entry ∈ after.refs, entry ∈ before.refs ∨ env.parseUUID entry.1 = none) :
      Edit env start op before after
  | addNode {before : Editor} {node : NodeDTO} {id : UUID} (named : node.id = id.text)
      (new : NewID env before op id) (free : node.parentID = none) (noVMs : node.vms = [])
      (noComponents : node.internalComponents = [])
      (childless : LeavesOrphans env start op →
        ∀ other ∈ before.graph.nodes, other.parentID ≠ some node.id) :
      Edit env start op before (before.withNodes (before.graph.nodes ++ [node]))
  | wait {before : Editor} {node : NodeDTO} (member : node ∈ before.graph.nodes)
      (free : node.parentID = none) :
      Edit env start op before { before with pending := before.pending ++ [node.id] }
  | quiet {before : Editor} {index : Nat} {node changed : NodeDTO}
      (located : before.graph.nodes[index]? = some node) (quiet : Quiet node changed) :
      Edit env start op before (before.putNode index changed)
  | reshape {before : Editor} {index : Nat} {node changed : NodeDTO}
      (located : before.graph.nodes[index]? = some node) (stays : Stays node changed)
      (position : changed.details.lookup "rack_position" = node.details.lookup "rack_position")
      (checked : Checked env before index changed)
      (inRange : SlotInRange env start op → node.parentID ≠ none →
        rackSlotOf env.floats node + rackUnitsOf env.floats changed < 2 ^ 63) :
      Edit env start op before (before.putNode index changed)
  | addVM {before : Editor} {index : Nat} {host : NodeDTO} {vm : VMDTO}
      {details : List (String × Json)} {id : UUID}
      (located : before.graph.nodes[index]? = some host) (named : vm.id = id.text)
      (new : NewID env before op id) (shape : AgreeOn shapeKeys details host.details) :
      Edit env start op before
        (before.putNode index { host with vms := host.vms ++ [vm], details := details })
  | addComponent {before : Editor} {index : Nat} {host : NodeDTO} {component : ComponentDTO}
      {id : UUID} (located : before.graph.nodes[index]? = some host)
      (named : component.id = id.text) (new : NewID env before op id) :
      Edit env start op before (before.putNode index
        { host with internalComponents := host.internalComponents ++ [component] })
  | mount {before : Editor} {index : Nat} {node rack : NodeDTO} {requested : Option Int}
      {chosen : Int} (located : before.graph.nodes[index]? = some node)
      (mounting : Mounting env start op before node rack requested chosen) :
      Edit env start op before
        { before.putNode index (mountedAt rack.id chosen node) with
          pending := before.pending.erase node.id }
  | unmount {before : Editor} {index : Nat} {node changed : NodeDTO}
      (located : before.graph.nodes[index]? = some node) (keeps : Keeps node changed)
      (free : changed.parentID = none)
      (shape : AgreeOn (heightKeys ++ handleKeys) changed.details node.details) :
      Edit env start op before (before.putNode index changed)
  | remove {before : Editor} {node : NodeDTO} (member : node ∈ before.graph.nodes) :
      Edit env start op before (before.without (removedIDs before.graph.nodes node))
  | link {before : Editor} {edge : EdgeDTO} (linking : Linking env before edge) :
      Edit env start op before (before.withEdges (before.graph.edges ++ [edge]))
  | unlink {before : Editor} (index : Nat) :
      Edit env start op before (before.withEdges (before.graph.edges.eraseIdx index))
  | relink {before : Editor} {index : Nat} {edge changed : EdgeDTO}
      (located : before.graph.edges[index]? = some edge)
      (relinking : Relinking env start op before edge changed) :
      Edit env start op before (before.withEdges (before.graph.edges.set index changed))

abbrev Edits (env : Env) (start : Editor) (op : TopologyOp) : Editor → Editor → Prop :=
  Relation.ReflTransGen (Edit env start op)

end HomelabBuilder.Topology
