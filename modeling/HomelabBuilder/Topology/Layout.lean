import HomelabBuilder.Topology.Operation

/-! # Racks and places on the canvas

`topology_layout.go`: which slots of a rack are taken, and where a new device is
put. Coordinates are exact.
-/

namespace HomelabBuilder.Topology

open Services Wiring

def defaultRackSizeU : Int := 24
def layoutGrid : Rat := 20
def rackUnitHeightPx : Rat := 90
def rackHeaderPx : Rat := 40
def rackFooterPx : Rat := 8
def rackRailWidthPx : Rat := 28
def rackWidthPx : Rat := 280

def defaultRackUnits : List (String × Int) :=
  [("server", 2), ("server_v2", 2), ("firewall", 1), ("vps", 1), ("switch", 1), ("router", 2),
    ("nas", 2), ("pc", 4), ("minipc", 1), ("sbc", 1), ("access_point", 1), ("ups", 4), ("pdu", 1),
    ("hba", 1), ("gpu", 2), ("cpu", 1), ("disk", 1), ("pcie", 1), ("iot", 1), ("modem", 1)]

def snapToGrid (value : Rat) : Rat := mathRound (value / layoutGrid) * layoutGrid

/-! ## Racks -/

section

variable (floats : Floats)

def rackSizeOf (rack : NodeDTO) : Int :=
  match (detailNumber rack.details "rack_size").filter (1 ≤ ·) with
  | some size => truncate floats size
  | none => defaultRackSizeU

def rackUnitsOf (node : NodeDTO) : Int :=
  match (detailNumber node.details "rack_units").filter (1 ≤ ·) with
  | some units => truncate floats units
  | none => (defaultRackUnits.lookup node.type).getD 1

/-- The slot a mounted node occupies, 0 at the top. -/
def rackSlotOf (node : NodeDTO) : Int :=
  match (detailNumber node.details "rack_position").filter (0 ≤ ·) with
  | some slot => truncate floats slot
  | none => max 0 (truncate floats (mathRound ((node.y - rackHeaderPx) / rackUnitHeightPx)))

def mountedIn (rackID : String) (node : NodeDTO) : Bool := node.parentID = some rackID

/-- Whether a slot is taken by a device other than the one that is mounted. -/
def occupied (nodes : List NodeDTO) (rackID deviceID : String) (slot : Int) : Bool :=
  nodes.any fun node => mountedIn rackID node && node.id ≠ deviceID && rackSlotOf floats node ≤ slot &&
    slot < wrapInt (rackSlotOf floats node + rackUnitsOf floats node)

/-- Whether a device of this height fits at a slot. The sum may wrap around. -/
def fitsAt (nodes : List NodeDTO) (rackID deviceID : String) (size units start : Int) : Bool :=
  0 ≤ start && wrapInt (start + units) ≤ size &&
    (List.range (wrapInt (start + units) - start).toNat).all fun offset =>
      !occupied floats nodes rackID deviceID (start + offset)

/-- Where a device of this height goes in a rack: the slot that is asked for, or
the first gap from the top. -/
def allocateRackSlot (nodes : List NodeDTO) (rack : NodeDTO) (deviceID deviceName : String)
    (units : Int) (requested : Option Int) : Except String Int :=
  let size := rackSizeOf floats rack
  if size < units then
    .error (quoted deviceName ++ " needs " ++ toString units ++ "U but rack " ++ quoted rack.name ++
      " only has " ++ toString size ++ "U")
  else
    match requested with
    | some slot =>
        if fitsAt floats nodes rack.id deviceID size units slot then .ok slot
        else
          .error ("rack " ++ quoted rack.name ++ " has no room for " ++ toString units ++
            "U at slot " ++ toString slot ++ " (slots are 0-" ++ toString (size - 1) ++
            " from the top)")
    | none =>
        let starts := (List.range (size - units + 1).toNat).map Int.ofNat
        match starts.find? (fitsAt floats nodes rack.id deviceID size units) with
        | some start => .ok start
        | none =>
            .error ("rack " ++ quoted rack.name ++ " is full: no free " ++ toString units ++
              "U gap in " ++ toString size ++ "U")

end

def rackSlotPosition (slot : Int) : Rat × Rat := (rackRailWidthPx, rackHeaderPx + slot * rackUnitHeightPx)

/-! ## The canvas -/

def layoutStepX : Rat := 280
def layoutStepY : Rat := 260
def layoutNodeWidth : Rat := 250
def layoutNodeHeight : Rat := 210
def layoutOriginX : Rat := 80
def layoutOriginY : Rat := 80
def layoutSearchSteps : Nat := 12

structure LayoutBox where
  x : Rat
  y : Rat
  w : Rat
  h : Rat

def LayoutBox.overlaps (box other : LayoutBox) : Bool :=
  box.x < other.x + other.w && other.x < box.x + box.w && box.y < other.y + other.h &&
    other.y < box.y + box.h

def nodeBox (floats : Floats) (node : NodeDTO) : LayoutBox :=
  if node.type = "rack" then
    ⟨node.x, node.y, rackWidthPx,
      rackHeaderPx + rackSizeOf floats node * rackUnitHeightPx + rackFooterPx⟩
  else ⟨node.x, node.y, layoutNodeWidth, layoutNodeHeight⟩

/-- The last node of an id, as a map from ids has it. -/
def lastOf (nodes : List NodeDTO) (id : String) : Option NodeDTO :=
  nodes.reverse.find? fun node => node.id = id

/-- Where a node is on the canvas; mounted nodes store where they are in the rack. -/
def absolutePosition (nodes : List NodeDTO) (node : NodeDTO) : Rat × Rat :=
  match node.parentID.bind (lastOf nodes) with
  | some parent => (parent.x + node.x, parent.y + node.y)
  | none => (node.x, node.y)

/-- A placed neighbour, preferring the upstream side of a cable. -/
def anchorFor (nodes : List NodeDTO) (edges : List EdgeDTO) (waiting : List String) (id : String) :
    Option NodeDTO :=
  let upstream := edges.findSome? fun edge =>
    if edge.target = id ∧ edge.source ∉ waiting then lastOf nodes edge.source else none
  let downstream := edges.findSome? fun edge =>
    if edge.source = id ∧ edge.target ∉ waiting then lastOf nodes edge.target else none
  upstream <|> downstream

/-- The places that are tried for a node, in order. -/
def candidates (nodes : List NodeDTO) (boxes : List LayoutBox) (node : NodeDTO)
    (anchor : Option NodeDTO) : List (Rat × Rat) :=
  let minX := (boxes.map LayoutBox.x).foldl min ((boxes.map LayoutBox.x).headD layoutOriginX)
  let minY := (boxes.map LayoutBox.y).foldl min ((boxes.map LayoutBox.y).headD layoutOriginY)
  let rights := boxes.map fun box => box.x + box.w
  let bottoms := boxes.map fun box => box.y + box.h
  let maxX := rights.foldl max (rights.headD layoutOriginX)
  let maxY := bottoms.foldl max (bottoms.headD layoutOriginY)
  if node.type = "rack" then
    let x := if boxes.isEmpty then layoutOriginX else maxX + 60
    (List.range (layoutSearchSteps * 4)).map fun step => (x + step * (rackWidthPx + 40), minY)
  else if boxes.isEmpty then [(layoutOriginX, layoutOriginY)]
  else
    let around := match anchor with
      | none => []
      | some anchor =>
          let (ax, ay) := absolutePosition nodes anchor
          [1, 2, 3].flatMap fun row =>
            (List.range (layoutSearchSteps + 1)).flatMap fun step =>
              let y := ay + row * layoutStepY
              (ax + step * layoutStepX, y) ::
                if step = 0 then [] else [(ax - step * layoutStepX, y)]
    around ++ (List.range (layoutSearchSteps * 8)).map fun step =>
      (minX + step * layoutStepX, maxY + 50)

/-- Where a node goes that finds no free place. -/
def lastResort (boxes : List LayoutBox) : Rat × Rat :=
  let rights := boxes.map fun box => box.x + box.w
  let bottoms := boxes.map fun box => box.y + box.h
  (rights.foldl max (rights.headD layoutOriginX) + 60,
    bottoms.foldl max (bottoms.headD layoutOriginY) + 50)

def placeNode (floats : Floats) (nodes : List NodeDTO) (edges : List EdgeDTO)
    (waiting : List String) (node : NodeDTO) : NodeDTO :=
  let boxes := (nodes.filter fun other => other.id ∉ waiting && other.parentID.isNone).map
    (nodeBox floats)
  let size := nodeBox floats node
  let free := fun place : Rat × Rat =>
    boxes.all fun box =>
      !(LayoutBox.mk (snapToGrid place.1) (snapToGrid place.2) size.w size.h).overlaps box
  let place := ((candidates nodes boxes node (anchorFor nodes edges waiting node.id)).find?
    free).getD (lastResort boxes)
  { node with x := snapToGrid place.1, y := snapToGrid place.2 }

/-- Changes the last node of an id. -/
def modifyLast (nodes : List NodeDTO) (id : String) (change : NodeDTO → NodeDTO) : List NodeDTO :=
  match nodes.reverse.findIdx? fun node => node.id = id with
  | none => nodes
  | some index => nodes.modify (nodes.length - 1 - index) change

/-- Places the nodes that wait, one after the other: first those that have a
placed neighbour, so that chains unfold from what is there. -/
def placeNodes (floats : Floats) (edges : List EdgeDTO) :
    Nat → List NodeDTO → List String → List String → List NodeDTO
  | 0, nodes, _, _ => nodes
  | _, nodes, _, [] => nodes
  | fuel + 1, nodes, waiting, first :: rest =>
      let remaining := first :: rest
      let id := (remaining.find? fun id => (anchorFor nodes edges waiting id).isSome).getD first
      let placed := modifyLast nodes id (placeNode floats nodes edges waiting)
      -- An id that is no node's stays among those waiting.
      let still := if (lastOf nodes id).isSome then waiting.filter (· ≠ id) else waiting
      placeNodes floats edges fuel placed still (remaining.erase id)

end HomelabBuilder.Topology

/-! # Placing new devices

Placing moves devices that wait for it and changes nothing else.
-/

namespace HomelabBuilder.Topology

open Services Wiring

/-- A device that is where it was, or waited for a place. -/
structure Moved (waiting : List String) (before after : NodeDTO) : Prop where
  same : after = { before with x := after.x, y := after.y }
  still : before.id ∉ waiting → after = before

/-- The same devices in the same order, some of them moved. -/
structure PlacedFrom (waiting : List String) (before after : List NodeDTO) : Prop where
  length : after.length = before.length
  moved : ∀ (index : Nat) (node : NodeDTO), after[index]? = some node →
    ∃ was, before[index]? = some was ∧ Moved waiting was node

section

variable {waiting : List String} {nodes : List NodeDTO}

theorem Moved.refl (node : NodeDTO) : Moved waiting node node := ⟨rfl, fun _ => rfl⟩

theorem Moved.id {before after : NodeDTO} (moved : Moved waiting before after) :
    after.id = before.id := by
  rw [moved.same]

theorem Moved.trans {first second third : NodeDTO} (left : Moved waiting first second)
    (right : Moved waiting second third) : Moved waiting first third where
  same := by
    rw [right.same, left.same]
  still := by
    intro settled
    have unmoved := left.still settled
    rw [right.still (unmoved ▸ settled), unmoved]

theorem PlacedFrom.refl (nodes : List NodeDTO) : PlacedFrom waiting nodes nodes :=
  ⟨rfl, fun _ node located => ⟨node, located, .refl node⟩⟩

theorem PlacedFrom.trans {first second third : List NodeDTO}
    (left : PlacedFrom waiting first second) (right : PlacedFrom waiting second third) :
    PlacedFrom waiting first third where
  length := right.length.trans left.length
  moved := by
    intro index node located
    rcases right.moved index node located with ⟨middle, inMiddle, later⟩
    rcases left.moved index middle inMiddle with ⟨was, inFirst, earlier⟩
    exact ⟨was, inFirst, earlier.trans later⟩

theorem PlacedFrom.exists_mem {placed : List NodeDTO} (from_ : PlacedFrom waiting nodes placed)
    {node : NodeDTO} (member : node ∈ placed) : ∃ was ∈ nodes, Moved waiting was node := by
  rcases List.getElem?_of_mem member with ⟨index, located⟩
  rcases from_.moved index node located with ⟨was, inNodes, moved⟩
  exact ⟨was, List.mem_of_getElem? inNodes, moved⟩

theorem PlacedFrom.map_id {placed : List NodeDTO} (from_ : PlacedFrom waiting nodes placed) :
    placed.map NodeDTO.id = nodes.map NodeDTO.id := by
  apply List.ext_getElem?
  intro index
  rw [List.getElem?_map, List.getElem?_map]
  cases located : placed[index]? with
  | none =>
      have short := List.getElem?_eq_none_iff.mp located
      rw [from_.length] at short
      rw [List.getElem?_eq_none_iff.mpr short]
  | some node =>
      rcases from_.moved index node located with ⟨was, inNodes, moved⟩
      rw [inNodes, Option.map_some, Option.map_some, moved.id]

theorem moved_placeNode (floats : Floats) (edges : List EdgeDTO) (others : List String)
    {node : NodeDTO} (member : node.id ∈ waiting) :
    Moved waiting node (placeNode floats nodes edges others node) :=
  ⟨rfl, fun settled => absurd member settled⟩

theorem placedFrom_modifyLast {id : String} {change : NodeDTO → NodeDTO}
    (moves : ∀ node ∈ nodes, node.id = id → Moved waiting node (change node)) :
    PlacedFrom waiting nodes (modifyLast nodes id change) := by
  unfold modifyLast
  split
  · exact .refl nodes
  · rename_i index found
    rcases List.findIdx?_eq_some_iff_getElem.mp found with ⟨small, fits, _⟩
    rw [List.length_reverse] at small
    rw [List.getElem_reverse, decide_eq_true_eq] at fits
    refine ⟨List.length_modify .., ?_⟩
    intro place node located
    rw [List.getElem?_modify] at located
    rcases Option.map_eq_some_iff.mp located with ⟨was, inNodes, isNode⟩
    refine ⟨was, inNodes, ?_⟩
    split at isNode
    · rename_i here
      rw [← isNode]
      apply moves was (List.mem_of_getElem? inNodes)
      rw [List.getElem?_eq_some_iff] at inNodes
      rcases inNodes with ⟨_, isWas⟩
      subst here
      rw [← isWas]
      exact fits
    · rw [← isNode]
      exact .refl was

theorem mem_picked {first : String} {rest : List String} (placeable : String → Bool) :
    ((first :: rest).find? placeable).getD first ∈ first :: rest := by
  cases found : (first :: rest).find? placeable with
  | none => exact List.mem_cons_self
  | some id => exact List.mem_of_find?_eq_some found

theorem placedFrom_placeNodes (floats : Floats) (edges : List EdgeDTO) {asked : List String} :
    ∀ (fuel : Nat) (nodes : List NodeDTO) (waiting remaining : List String), remaining ⊆ asked →
      PlacedFrom asked nodes (placeNodes floats edges fuel nodes waiting remaining) := by
  intro fuel
  induction fuel with
  | zero =>
      intro nodes waiting remaining _
      exact .refl nodes
  | succ fuel induction =>
      intro nodes waiting remaining subset
      cases remaining with
      | nil => exact .refl nodes
      | cons first rest =>
          rw [placeNodes]
          generalize chosen : ((first :: rest).find? fun id =>
            (anchorFor nodes edges waiting id).isSome).getD first = id
          have member : id ∈ first :: rest := chosen ▸ mem_picked _
          refine PlacedFrom.trans (placedFrom_modifyLast ?_) (induction _ _ _ ?_)
          · intro node _ isNode
            exact moved_placeNode floats edges waiting (isNode ▸ subset member)
          · exact List.Subset.trans (List.erase_subset) subset

end

end HomelabBuilder.Topology
