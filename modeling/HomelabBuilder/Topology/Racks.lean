import Mathlib
import HomelabBuilder.Topology.Batch
import HomelabBuilder.Topology.Layout

/-! # Racks

The devices of a rack lie inside it and apart from each other. `allocateRackSlot`
sees to that as long as the end of a device is a number an `int` can hold, and a
new rack comes empty unless it takes the id of one that went without its devices.
-/

namespace HomelabBuilder.Topology

open Services Wiring

section

variable (floats : Floats)

def slotsOf (node : NodeDTO) : Set Int :=
  Set.Ico (rackSlotOf floats node) (rackSlotOf floats node + rackUnitsOf floats node)

structure RackFits (nodes : List NodeDTO) (rack : NodeDTO) : Prop where
  inside : ∀ child ∈ nodes, child.parentID = some rack.id →
    slotsOf floats child ⊆ Set.Ico 0 (rackSizeOf floats rack)
  apart : ∀ child ∈ nodes, ∀ other ∈ nodes, child.parentID = some rack.id →
    other.parentID = some rack.id → child.id ≠ other.id →
    Disjoint (slotsOf floats child) (slotsOf floats other)

structure RacksFit (nodes : List NodeDTO) : Prop where
  distinct : (nodes.map NodeDTO.id).Nodup
  fits : ∀ rack ∈ nodes, rack.type = "rack" → RackFits floats nodes rack

/-- Numbers that are out of range are still converted to an `int`. -/
def Int64Conversions : Prop :=
  ∀ value, -2 ^ 63 ≤ floats.overflow value ∧ floats.overflow value < 2 ^ 63

end

section

variable {floats : Floats}

/-! ## Conversions -/

theorem truncate_inRange (conversions : Int64Conversions floats) (value : Rat) :
    -2 ^ 63 ≤ truncate floats value ∧ truncate floats value < 2 ^ 63 := by
  unfold truncate
  dsimp only
  split
  · assumption
  · exact conversions value

theorem truncate_intCast {whole : Int} (low : -2 ^ 63 ≤ whole) (high : whole < 2 ^ 63) :
    truncate floats (whole : Rat) = whole := by
  have exact_ : (whole : Rat).num.tdiv (whole : Rat).den = whole := by simp
  unfold truncate
  simp only [exact_]
  rw [if_pos ⟨low, high⟩]

theorem wrapInt_of_inRange {value : Int} (low : -2 ^ 63 ≤ value) (high : value < 2 ^ 63) :
    wrapInt value = value := by
  unfold wrapInt
  apply Int.bmod_eq_of_le
  · omega
  · omega

theorem rackSizeOf_lt (conversions : Int64Conversions floats) (rack : NodeDTO) :
    rackSizeOf floats rack < 2 ^ 63 := by
  unfold rackSizeOf
  split
  · exact (truncate_inRange conversions _).2
  · decide

/-! ## Allocation -/

theorem bounds_of_subset {start height size : Int} (tall : 0 < height)
    (inside : Set.Ico start (start + height) ⊆ Set.Ico 0 size) :
    0 ≤ start ∧ start + height ≤ size := by
  have first := inside (show start ∈ Set.Ico start (start + height) from ⟨by omega, by omega⟩)
  have last := inside
    (show start + height - 1 ∈ Set.Ico start (start + height) from ⟨by omega, by omega⟩)
  have ends := last.2
  exact ⟨first.1, by omega⟩

theorem occupied_of_mem {nodes : List NodeDTO} {rack other : NodeDTO} {deviceID : String}
    {slot : Int} (conversions : Int64Conversions floats) (member : other ∈ nodes)
    (mounted : other.parentID = some rack.id) (different : other.id ≠ deviceID)
    (inside : slotsOf floats other ⊆ Set.Ico 0 (rackSizeOf floats rack))
    (taken : slot ∈ slotsOf floats other) :
    occupied floats nodes rack.id deviceID slot = true := by
  have starts : rackSlotOf floats other ≤ slot := taken.1
  have ends : slot < rackSlotOf floats other + rackUnitsOf floats other := taken.2
  have bounds := bounds_of_subset (show 0 < rackUnitsOf floats other by omega) inside
  have small := rackSizeOf_lt conversions rack
  have noWrap := wrapInt_of_inRange
    (show -2 ^ 63 ≤ rackSlotOf floats other + rackUnitsOf floats other by omega) (by omega)
  unfold occupied
  rw [List.any_eq_true]
  refine ⟨other, member, ?_⟩
  simp only [mountedIn, mounted, noWrap, Bool.and_eq_true, decide_true, ne_eq,
    different, not_false_eq_true, starts, ends, and_self]

theorem inside_of_fitsAt {nodes : List NodeDTO} {rackID deviceID : String}
    {size units start : Int} (inRange : start + units < 2 ^ 63)
    (fits : fitsAt floats nodes rackID deviceID size units start = true) :
    Set.Ico start (start + units) ⊆ Set.Ico 0 size := by
  unfold fitsAt at fits
  simp only [Bool.and_eq_true, decide_eq_true_eq] at fits
  rintro slot ⟨starts, ends⟩
  have noWrap := wrapInt_of_inRange (show -2 ^ 63 ≤ start + units by omega) inRange
  rw [noWrap] at fits
  exact ⟨by omega, by omega⟩

theorem free_of_fitsAt {nodes : List NodeDTO} {rackID deviceID : String}
    {size units start slot : Int} (inRange : start + units < 2 ^ 63)
    (fits : fitsAt floats nodes rackID deviceID size units start = true)
    (within : slot ∈ Set.Ico start (start + units)) :
    occupied floats nodes rackID deviceID slot = false := by
  unfold fitsAt at fits
  simp only [Bool.and_eq_true, decide_eq_true_eq] at fits
  rcases within with ⟨starts, ends⟩
  have noWrap := wrapInt_of_inRange (show -2 ^ 63 ≤ start + units by omega) inRange
  rw [noWrap] at fits
  have free := List.all_eq_true.mp fits.2 (slot - start).toNat
    (List.mem_range.mpr (by omega))
  have back : start + ((slot - start).toNat : Int) = slot := by omega
  rw [back] at free
  simpa using free

/-- A slot that is allocated fits, and if it was chosen freely its end is in the rack. -/
theorem allocateRackSlot_eq_ok {nodes : List NodeDTO} {rack : NodeDTO}
    {deviceID deviceName : String} {units chosen : Int} {requested : Option Int}
    (done : allocateRackSlot floats nodes rack deviceID deviceName units requested = .ok chosen) :
    fitsAt floats nodes rack.id deviceID (rackSizeOf floats rack) units chosen = true ∧
      (requested = some chosen ∨
        requested = none ∧ chosen + units ≤ rackSizeOf floats rack) := by
  unfold allocateRackSlot at done
  dsimp only at done
  split at done
  · cases done
  · split at done
    · split at done
      · rename_i fits
        cases done
        exact ⟨fits, .inl rfl⟩
      · cases done
    · split at done
      · rename_i start found
        cases done
        rcases List.mem_map.mp (List.mem_of_find?_eq_some found) with ⟨offset, inRange, isStart⟩
        rw [List.mem_range] at inRange
        rw [Int.ofNat_eq_natCast] at isStart
        exact ⟨List.find?_some found, .inr ⟨rfl, by omega⟩⟩
      · cases done

/-- Slots that were allocated lie inside the rack and apart from the devices that
are there. -/
theorem slots_of_allocated {nodes : List NodeDTO} {rack : NodeDTO} {deviceID deviceName : String}
    {units chosen : Int} {requested : Option Int} (conversions : Int64Conversions floats)
    (inside : ∀ other ∈ nodes, other.parentID = some rack.id → other.id ≠ deviceID →
      slotsOf floats other ⊆ Set.Ico 0 (rackSizeOf floats rack))
    (inRange : chosen + units < 2 ^ 63)
    (done : allocateRackSlot floats nodes rack deviceID deviceName units requested = .ok chosen) :
    Set.Ico chosen (chosen + units) ⊆ Set.Ico 0 (rackSizeOf floats rack) ∧
      ∀ other ∈ nodes, other.parentID = some rack.id → other.id ≠ deviceID →
        Disjoint (Set.Ico chosen (chosen + units)) (slotsOf floats other) := by
  have fitting := (allocateRackSlot_eq_ok done).1
  refine ⟨inside_of_fitsAt inRange fitting, ?_⟩
  intro other member mounted different
  rw [Set.disjoint_left]
  intro taken within twice
  have free := free_of_fitsAt inRange fitting within
  rw [occupied_of_mem conversions member mounted different (inside other member mounted different)
    twice] at free
  cases free

/-! ## Changed graphs -/

theorem eq_of_sameID {nodes : List NodeDTO} {first second : NodeDTO}
    (distinct : (nodes.map NodeDTO.id).Nodup) (inFirst : first ∈ nodes) (inSecond : second ∈ nodes)
    (sameID : first.id = second.id) : first = second :=
  List.inj_on_of_nodup_map distinct inFirst inSecond sameID

theorem RackFits.of_covered {before after : List NodeDTO} {old rack : NodeDTO}
    (fits : RackFits floats before old) (sameSize : rackSizeOf floats rack = rackSizeOf floats old)
    (covered : ∀ child ∈ after, child.parentID = some rack.id →
      ∃ was ∈ before, was.parentID = some old.id ∧ was.id = child.id ∧
        slotsOf floats was = slotsOf floats child) : RackFits floats after rack where
  inside := by
    intro child member mounted
    rcases covered child member mounted with ⟨was, inBefore, wasMounted, _, slots⟩
    rw [← slots, sameSize]
    exact fits.inside was inBefore wasMounted
  apart := by
    intro child member other inAfter mounted otherMounted different
    rcases covered child member mounted with ⟨was, inBefore, wasMounted, isChild, slots⟩
    rcases covered other inAfter otherMounted with ⟨otherWas, otherIn, otherWasIn, isOther, others⟩
    rw [← slots, ← others]
    apply fits.apart was inBefore otherWas otherIn wasMounted otherWasIn
    rw [isChild, isOther]
    exact different

/-- One device is written. Where it is a rack its devices fit, and where it is in
a rack it fits among the others. -/
theorem RacksFit.replace {nodes : List NodeDTO} {index : Nat} {node changed : NodeDTO}
    (fit : RacksFit floats nodes) (located : nodes[index]? = some node)
    (sameID : changed.id = node.id) (sameType : changed.type = node.type)
    (holds : changed.type = "rack" → ∀ child ∈ nodes, child.id ≠ node.id →
      child.parentID = some node.id → slotsOf floats child ⊆ Set.Ico 0 (rackSizeOf floats changed))
    (own : ∀ rack ∈ nodes.set index changed, rack.type = "rack" →
      changed.parentID = some rack.id →
        slotsOf floats changed ⊆ Set.Ico 0 (rackSizeOf floats rack) ∧
          ∀ other ∈ nodes, other.parentID = some rack.id → other.id ≠ node.id →
            Disjoint (slotsOf floats changed) (slotsOf floats other)) :
    RacksFit floats (nodes.set index changed) := by
  have inNodes : node ∈ nodes := List.mem_of_getElem? located
  have sameIDs : (nodes.set index changed).map NodeDTO.id = nodes.map NodeDTO.id :=
    map_set_of_eq NodeDTO.id located sameID
  have distinct : ((nodes.set index changed).map NodeDTO.id).Nodup := sameIDs ▸ fit.distinct
  have isChanged : ∀ child ∈ nodes.set index changed, child.id = node.id → child = changed := by
    intro child member sameAsNode
    have small : index < nodes.length := (List.getElem?_eq_some_iff.mp located).1
    exact eq_of_sameID distinct member (List.mem_set small changed) (sameAsNode.trans sameID.symm)
  have isOld : ∀ child ∈ nodes.set index changed, child.id ≠ node.id → child ∈ nodes := by
    intro child member different
    rcases List.mem_or_eq_of_mem_set member with old | same
    · exact old
    · exact absurd (same ▸ sameID) different
  -- The rack before the change.
  have wasRack : ∀ rack ∈ nodes.set index changed, rack.type = "rack" →
      ∃ old ∈ nodes, old.id = rack.id ∧ old.type = "rack" := by
    intro rack member isRack
    rcases List.mem_or_eq_of_mem_set member with old | same
    · exact ⟨rack, old, rfl, isRack⟩
    · exact ⟨node, inNodes, by rw [same, sameID], by rw [← sameType, ← same, isRack]⟩
  refine ⟨distinct, ?_⟩
  intro rack rackIn isRack
  constructor
  · intro child member mounted
    by_cases isNode : child.id = node.id
    · have same := isChanged child member isNode
      rw [same] at mounted ⊢
      exact (own rack rackIn isRack mounted).1
    · have childIn := isOld child member isNode
      by_cases isSelf : rack.id = node.id
      · have same := isChanged rack rackIn isSelf
        rw [isSelf] at mounted
        rw [same] at isRack ⊢
        exact holds isRack child childIn isNode mounted
      · exact (fit.fits rack (isOld rack rackIn isSelf) isRack).inside child childIn mounted
  · intro child member other otherIn mounted otherMounted different
    by_cases isNode : child.id = node.id
    · have same := isChanged child member isNode
      have others : other.id ≠ node.id := fun sameAsNode => different (isNode.trans sameAsNode.symm)
      rw [same] at mounted ⊢
      exact (own rack rackIn isRack mounted).2 other (isOld other otherIn others) otherMounted others
    · by_cases otherIsNode : other.id = node.id
      · have same := isChanged other otherIn otherIsNode
        rw [same] at otherMounted ⊢
        exact ((own rack rackIn isRack otherMounted).2 child (isOld child member isNode) mounted
          isNode).symm
      · rcases wasRack rack rackIn isRack with ⟨old, oldIn, isOldRack, oldType⟩
        rw [← isOldRack] at mounted otherMounted
        exact (fit.fits old oldIn oldType).apart child (isOld child member isNode) other
          (isOld other otherIn otherIsNode) mounted otherMounted different

theorem RacksFit.set {nodes : List NodeDTO} {index : Nat} {node changed : NodeDTO}
    (fit : RacksFit floats nodes) (located : nodes[index]? = some node)
    (sameID : changed.id = node.id) (sameType : changed.type = node.type)
    (sameSize : rackSizeOf floats changed = rackSizeOf floats node)
    (place : changed.parentID = none ∨
      changed.parentID = node.parentID ∧ slotsOf floats changed = slotsOf floats node) :
    RacksFit floats (nodes.set index changed) := by
  have inNodes : node ∈ nodes := List.mem_of_getElem? located
  apply fit.replace located sameID sameType
  · intro isRack child childIn _ mounted
    rw [sameSize]
    exact (fit.fits node inNodes (sameType ▸ isRack)).inside child childIn mounted
  · intro rack rackIn isRack mounted
    rcases place with free | ⟨sameParent, sameSlots⟩
    · rw [free] at mounted
      cases mounted
    · rw [sameParent] at mounted
      rw [sameSlots]
      have old : ∃ old ∈ nodes, old.id = rack.id ∧ old.type = "rack" ∧
          rackSizeOf floats old = rackSizeOf floats rack := by
        rcases List.mem_or_eq_of_mem_set rackIn with old | same
        · exact ⟨rack, old, rfl, isRack, rfl⟩
        · rw [same] at isRack ⊢
          exact ⟨node, inNodes, sameID.symm, sameType ▸ isRack, sameSize.symm⟩
      rcases old with ⟨old, oldIn, isOld, oldType, oldSize⟩
      have fits := fit.fits old oldIn oldType
      rw [← isOld] at mounted ⊢
      rw [← oldSize]
      refine ⟨fits.inside node inNodes mounted, ?_⟩
      intro other otherIn otherMounted different
      exact fits.apart node inNodes other otherIn mounted otherMounted (Ne.symm different)

/-! ## Edits -/

/-- A device whose place on the canvas does not decide its slot. -/
def Placeable (node : NodeDTO) : Prop :=
  node.parentID = none ∨ ((detailNumber node.details "rack_position").filter (0 ≤ ·)).isSome

theorem slotsOf_of_placeable {node moved : NodeDTO} {x y : Rat} (placeable : Placeable node)
    (same : moved = { node with x := x, y := y }) :
    moved.parentID = none ∨ slotsOf floats moved = slotsOf floats node := by
  subst same
  rcases placeable with free | positioned
  · exact .inl free
  · rcases Option.isSome_iff_exists.mp positioned with ⟨slot, isSlot⟩
    right
    have sameSlot : rackSlotOf floats { node with x := x, y := y } = rackSlotOf floats node := by
      unfold rackSlotOf
      simp only [isSlot]
    have sameUnits : rackUnitsOf floats { node with x := x, y := y } = rackUnitsOf floats node :=
      rackUnitsOf_congr floats (.refl _) rfl
    unfold slotsOf
    rw [sameSlot, sameUnits]

theorem slotsOf_mountedAt {rackID : String} {chosen : Int} {node : NodeDTO} (low : 0 ≤ chosen)
    (inRange : chosen + rackUnitsOf floats node < 2 ^ 63) :
    slotsOf floats (mountedAt rackID chosen node) =
      Set.Ico chosen (chosen + rackUnitsOf floats node) := by
  have sameUnits : rackUnitsOf floats (mountedAt rackID chosen node) = rackUnitsOf floats node :=
    rackUnitsOf_congr floats (agreeOn_set _ _ (by decide)) rfl
  unfold slotsOf
  rw [sameUnits]
  by_cases tall : 0 < rackUnitsOf floats node
  · have position : (detailNumber (mountedAt rackID chosen node).details "rack_position").filter
        (0 ≤ ·) = some (chosen : Rat) := by
      simp [mountedAt, detailNumber, Table.lookup_set, Json.asNumber, low]
    have slot : rackSlotOf floats (mountedAt rackID chosen node) = chosen := by
      unfold rackSlotOf
      simp only [position]
      exact truncate_intCast (by omega) (by omega)
    rw [slot]
  · rw [Set.Ico_eq_empty (by omega), Set.Ico_eq_empty (by omega)]

structure Racked (env : Env) (editor : Editor) : Prop where
  fit : RacksFit env.floats editor.graph.nodes
  waiting : ∀ node ∈ editor.graph.nodes, node.id ∈ editor.pending → Placeable node

section

variable {env : Env} {start before after : Editor} {op : TopologyOp}

theorem RacksFit.mount {editor : Editor} {index : Nat} {node rack : NodeDTO}
    {requested : Option Int} {chosen : Int} (conversions : Int64Conversions env.floats)
    (fit : RacksFit env.floats editor.graph.nodes) (inRange : SlotInRange env start op)
    (located : editor.graph.nodes[index]? = some node)
    (mounting : Mounting env start op editor node rack requested chosen) :
    RacksFit env.floats (editor.graph.nodes.set index (mountedAt rack.id chosen node)) ∧
      0 ≤ chosen := by
  have allocated := allocateRackSlot_eq_ok mounting.allocated
  have ends : chosen + rackUnitsOf env.floats node < 2 ^ 63 := by
    rcases allocated.2 with asked | ⟨_, within⟩
    · exact mounting.inRange inRange chosen asked
    · have small := rackSizeOf_lt conversions rack
      omega
  have low : 0 ≤ chosen := by
    have fitting := allocated.1
    unfold fitsAt at fitting
    simp only [Bool.and_eq_true, decide_eq_true_eq] at fitting
    exact fitting.1.1
  refine ⟨?_, low⟩
  rcases mounting.found with ⟨rackIndex, found⟩
  have rackIn : rack ∈ editor.graph.nodes := List.mem_of_getElem? (nodeIndex_eq_some found).1
  have slots := slots_of_allocated conversions
    (fun other member mounted _ => (fit.fits rack rackIn mounting.isRack).inside other member mounted)
    ends mounting.allocated
  have sameID : (mountedAt rack.id chosen node).id = node.id := rfl
  apply fit.replace located sameID rfl
  · exact fun isRack => absurd isRack mounting.noRack
  · intro other member isRack mounted
    have sameID : rack.id = other.id := Option.some.inj mounted
    have old : other ∈ editor.graph.nodes := by
      rcases List.mem_or_eq_of_mem_set member with old | same
      · exact old
      · rw [same] at isRack
        exact absurd isRack mounting.noRack
    rw [← eq_of_sameID fit.distinct rackIn old sameID, slotsOf_mountedAt low ends]
    exact slots

theorem mem_set_of_ne {nodes : List NodeDTO} {index : Nat} {node changed other : NodeDTO}
    (located : nodes[index]? = some node) (member : other ∈ nodes) (different : other ≠ node) :
    other ∈ nodes.set index changed := by
  rcases List.getElem?_of_mem member with ⟨place, inNodes⟩
  have elsewhere : index ≠ place := by
    rintro rfl
    rw [located] at inNodes
    exact different (Option.some.inj inNodes).symm
  apply List.mem_of_getElem? (i := place)
  rw [List.getElem?_set_ne elsewhere]
  exact inNodes

theorem RacksFit.reshape {editor : Editor} {index : Nat} {node changed : NodeDTO}
    (conversions : Int64Conversions env.floats) (fit : RacksFit env.floats editor.graph.nodes)
    (located : editor.graph.nodes[index]? = some node) (stays : Stays node changed)
    (position : changed.details.lookup "rack_position" = node.details.lookup "rack_position")
    (checked : Checked env editor index changed)
    (ends : node.parentID ≠ none →
      rackSlotOf env.floats node + rackUnitsOf env.floats changed < 2 ^ 63) :
    RacksFit env.floats (editor.graph.nodes.set index changed) := by
  have inNodes : node ∈ editor.graph.nodes := List.mem_of_getElem? located
  have small : index < editor.graph.nodes.length := (List.getElem?_eq_some_iff.mp located).1
  have changedIn := List.mem_set small changed
  have isOther : ∀ other ∈ editor.graph.nodes, other.id ≠ node.id →
      other ∈ editor.graph.nodes.set index changed := by
    intro other member different
    exact mem_set_of_ne located member fun same => different (same ▸ rfl)
  have holds : changed.type = "rack" → ∀ child ∈ editor.graph.nodes, child.id ≠ node.id →
      child.parentID = some node.id →
      slotsOf env.floats child ⊆ Set.Ico 0 (rackSizeOf env.floats changed) := by
    intro isRack child member different mounted
    have fits := checked.rackSize isRack
    have inside := (fit.fits node inNodes (stays.type ▸ isRack)).inside child member mounted
    unfold checkRackSize at fits
    dsimp only at fits
    split at fits
    · rename_i none
      have within := List.find?_eq_none.mp none child (isOther child member different)
      simp only [mountedIn, mounted, stays.id, decide_true, Bool.true_and, decide_eq_true_eq,
        not_lt] at within
      by_cases tall : 0 < rackUnitsOf env.floats child
      · have bounds := bounds_of_subset tall inside
        have range := rackSizeOf_lt conversions node
        rw [wrapInt_of_inRange (by omega) (by omega)] at within
        exact Set.Ico_subset_Ico bounds.1 within
      · unfold slotsOf
        rw [Set.Ico_eq_empty (by omega)]
        exact Set.empty_subset _
    · cases fits
  apply fit.replace located stays.id stays.type holds
  intro rack rackIn isRack mounted
  have distinct : ((editor.graph.nodes.set index changed).map NodeDTO.id).Nodup := by
    rw [map_set_of_eq NodeDTO.id located stays.id]
    exact fit.distinct
  have inside : ∀ other ∈ editor.graph.nodes.set index changed, other.parentID = some rack.id →
      other.id ≠ changed.id →
      slotsOf env.floats other ⊆ Set.Ico 0 (rackSizeOf env.floats rack) := by
    intro other member otherMounted different
    rw [stays.id] at different
    have old : other ∈ editor.graph.nodes := by
      rcases List.mem_or_eq_of_mem_set member with old | same
      · exact old
      · exact absurd (same ▸ stays.id) different
    rcases List.mem_or_eq_of_mem_set rackIn with oldRack | same
    · exact (fit.fits rack oldRack isRack).inside other old otherMounted
    · rw [same] at isRack otherMounted ⊢
      rw [stays.id] at otherMounted
      exact holds isRack other old different otherMounted
  have sameSlot : rackSlotOf env.floats changed = rackSlotOf env.floats node :=
    rackSlotOf_congr env.floats position stays.y
  -- The height was checked against the rack the device is in.
  have allocated : ∃ chosen, allocateRackSlot env.floats (editor.graph.nodes.set index changed) rack
      changed.id changed.name (rackUnitsOf env.floats changed)
      (some (rackSlotOf env.floats changed)) = .ok chosen := by
    have fits := checked.mounted
    unfold checkMounted at fits
    rw [mounted, Option.bind_some] at fits
    split at fits
    · rename_i missing
      have none := List.find?_eq_none.mp missing
      rcases List.getElem?_of_mem rackIn with ⟨place, inPlace⟩
      exact absurd (decide_eq_true rfl)
        (none (rack, place) (List.mem_zipIdx_iff_getElem?.mpr inPlace))
    · rename_i found place isFound
      rcases nodeIndex_eq_some isFound with ⟨inPlace, sameID⟩
      rw [eq_of_sameID distinct (List.mem_of_getElem? inPlace) rackIn sameID] at fits
      cases allocation : allocateRackSlot env.floats (editor.putNode index changed).graph.nodes rack
          changed.id changed.name (rackUnitsOf env.floats changed)
          (some (rackSlotOf env.floats changed)) with
      | error message =>
          rw [allocation] at fits
          cases fits
      | ok chosen => exact ⟨chosen, allocation⟩
  rcases allocated with ⟨chosen, allocated⟩
  have isChosen : rackSlotOf env.floats changed = chosen := by
    rcases (allocateRackSlot_eq_ok allocated).2 with asked | ⟨none, _⟩
    · exact Option.some.inj asked
    · cases none
  have inRack : node.parentID ≠ none := by
    rw [← stays.parentID, mounted]
    exact Option.some_ne_none _
  have slots := slots_of_allocated conversions inside
    (by rw [← isChosen, sameSlot]; exact ends inRack) allocated
  rw [← isChosen] at slots
  refine ⟨slots.1, ?_⟩
  intro other member otherMounted different
  rw [← stays.id] at different
  exact slots.2 other (isOther other member (stays.id ▸ different)) otherMounted different

theorem Placeable.of_agree {node changed : NodeDTO} (placeable : Placeable node)
    (sameParent : changed.parentID = node.parentID)
    (position : changed.details.lookup "rack_position" = node.details.lookup "rack_position") :
    Placeable changed := by
  unfold Placeable detailNumber at placeable ⊢
  rw [sameParent, position]
  exact placeable

theorem placeable_mountedAt {rackID : String} {chosen : Int} {node : NodeDTO} (low : 0 ≤ chosen) :
    Placeable (mountedAt rackID chosen node) := by
  right
  simp [mountedAt, detailNumber, Table.lookup_set, Json.asNumber, low]

theorem waiting_set {nodes : List NodeDTO} {pending : List String} {index : Nat}
    {node changed : NodeDTO} (waiting : ∀ node ∈ nodes, node.id ∈ pending → Placeable node)
    (located : nodes[index]? = some node) (sameID : changed.id = node.id)
    (placeable : Placeable node → Placeable changed) :
    ∀ node ∈ nodes.set index changed, node.id ∈ pending → Placeable node := by
  intro other member waits
  rcases List.mem_or_eq_of_mem_set member with old | rfl
  · exact waiting other old waits
  · rw [sameID] at waits
    exact placeable (waiting node (List.mem_of_getElem? located) waits)

theorem slotsOf_of_quiet {node changed : NodeDTO} (quiet : Quiet node changed) :
    changed.parentID = none ∨
      changed.parentID = node.parentID ∧ slotsOf floats changed = slotsOf floats node := by
  cases mounted : node.parentID with
  | none => exact .inl (quiet.parentID.trans mounted)
  | some rackID =>
      have inRack : node.parentID ≠ none := by simp [mounted]
      have sameSlot : rackSlotOf floats changed = rackSlotOf floats node :=
        rackSlotOf_congr floats (quiet.shape "rack_position" (by decide)) (quiet.y inRack)
      have sameUnits : rackUnitsOf floats changed = rackUnitsOf floats node :=
        rackUnitsOf_congr floats
          (quiet.shape.mono (show heightKeys ⊆ shapeKeys from by decide)) quiet.type
      right
      unfold slotsOf
      rw [sameSlot, sameUnits]
      exact ⟨quiet.parentID.trans mounted, rfl⟩

theorem foldl_erase_subset (removed pending : List String) :
    removed.foldl List.erase pending ⊆ pending := by
  induction removed generalizing pending with
  | nil => exact List.Subset.refl _
  | cons first rest induction =>
      exact List.Subset.trans (induction _) List.erase_subset

theorem Racked.quiet {editor : Editor} {index : Nat} {node changed : NodeDTO}
    (racked : Racked env editor) (located : editor.graph.nodes[index]? = some node)
    (quiet : Quiet node changed) : Racked env (editor.putNode index changed) where
  fit := by
    have sameSize : rackSizeOf env.floats changed = rackSizeOf env.floats node :=
      rackSizeOf_congr env.floats
        (quiet.shape.mono (show heightKeys ⊆ shapeKeys from by decide))
    exact racked.fit.set located quiet.id quiet.type sameSize (slotsOf_of_quiet quiet)
  waiting := waiting_set racked.waiting located quiet.id fun placeable =>
    placeable.of_agree quiet.parentID (quiet.shape "rack_position" (by decide))

theorem RacksFit.append {nodes : List NodeDTO} {node : NodeDTO} (fit : RacksFit floats nodes)
    (unused : idInUse nodes node.id = false) (free : node.parentID = none)
    (childless : ∀ other ∈ nodes, other.parentID ≠ some node.id) :
    RacksFit floats (nodes ++ [node]) := by
  have unknown : node.id ∉ nodes.map NodeDTO.id := by
    intro known
    rcases List.mem_map.mp known with ⟨other, member, sameID⟩
    have used : idInUse nodes node.id = true :=
      idInUse_iff.mpr ⟨other, member, sameID ▸ List.mem_append_left _ List.mem_cons_self⟩
    rw [unused] at used
    cases used
  have isOld : ∀ child ∈ nodes ++ [node], child.parentID ≠ none → child ∈ nodes := by
    intro child member mounted
    rcases List.mem_append.mp member with old | new
    · exact old
    · rw [List.mem_singleton.mp new] at mounted
      exact absurd free mounted
  constructor
  · rw [List.map_append, List.map_singleton, List.nodup_append]
    refine ⟨fit.distinct, List.nodup_singleton _, ?_⟩
    intro id known other new same
    rw [List.mem_singleton] at new
    exact unknown (new ▸ same ▸ known)
  · intro rack member isRack
    rcases List.mem_append.mp member with old | new
    · apply (fit.fits rack old isRack).of_covered rfl
      intro child inAfter mounted
      exact ⟨child, isOld child inAfter (by simp [mounted]), mounted, rfl, rfl⟩
    · rw [List.mem_singleton.mp new]
      constructor
      · intro child inAfter mounted
        exact absurd mounted (childless child (isOld child inAfter (by simp [mounted])))
      · intro child inAfter _ _ mounted _ _
        exact absurd mounted (childless child (isOld child inAfter (by simp [mounted])))

theorem Racked.edit (conversions : Int64Conversions env.floats)
    (met : SlotInRange env start op ∧ LeavesOrphans env start op)
    (edit : Edit env start op before after) (racked : Racked env before) : Racked env after := by
  cases edit with
  | note nodes _ pending _ _ =>
      constructor
      · rw [nodes]
        exact racked.fit
      · rw [nodes, pending]
        exact racked.waiting
  | addNode named new free _ _ childless =>
      refine ⟨racked.fit.append (named ▸ new.unused) free (childless met.2), ?_⟩
      intro other member waits
      rcases List.mem_append.mp member with old | isNew
      · exact racked.waiting other old waits
      · rw [List.mem_singleton.mp isNew]
        exact .inl free
  | @wait node member free =>
      refine ⟨racked.fit, ?_⟩
      intro other inNodes waits
      rcases List.mem_append.mp waits with old | new
      · exact racked.waiting other inNodes old
      · rw [eq_of_sameID racked.fit.distinct inNodes member (List.mem_singleton.mp new)]
        exact .inl free
  | quiet located quiet => exact racked.quiet located quiet
  | reshape located stays position checked inRange =>
      refine ⟨racked.fit.reshape conversions located stays position checked (inRange met.1), ?_⟩
      exact waiting_set racked.waiting located stays.id fun placeable =>
        placeable.of_agree stays.parentID position
  | @addVM index host vm details uuid located _ _ shape =>
      have sameSize : rackSizeOf env.floats { host with
          vms := host.vms ++ [vm], details := details } = rackSizeOf env.floats host :=
        rackSizeOf_congr env.floats
          (shape.mono (show heightKeys ⊆ shapeKeys from by decide))
      have sameSlot : rackSlotOf env.floats { host with
          vms := host.vms ++ [vm], details := details } = rackSlotOf env.floats host :=
        rackSlotOf_congr env.floats (shape "rack_position" (by decide)) rfl
      have sameUnits : rackUnitsOf env.floats { host with
          vms := host.vms ++ [vm], details := details } = rackUnitsOf env.floats host :=
        rackUnitsOf_congr env.floats
          (shape.mono (show heightKeys ⊆ shapeKeys from by decide)) rfl
      have sameSlots : slotsOf env.floats { host with
          vms := host.vms ++ [vm], details := details } = slotsOf env.floats host := by
        unfold slotsOf
        rw [sameSlot, sameUnits]
      refine ⟨racked.fit.set located rfl rfl sameSize (.inr ⟨rfl, sameSlots⟩), ?_⟩
      exact waiting_set racked.waiting located rfl fun placeable =>
        placeable.of_agree rfl (shape "rack_position" (by decide))
  | addComponent located _ _ =>
      refine ⟨racked.fit.set located rfl rfl rfl (.inr ⟨rfl, rfl⟩), ?_⟩
      exact waiting_set racked.waiting located rfl fun placeable => placeable.of_agree rfl rfl
  | mount located mounting =>
      rcases racked.fit.mount conversions met.1 located mounting with ⟨fit, low⟩
      refine ⟨fit, ?_⟩
      intro other member waits
      apply waiting_set racked.waiting located _ (fun _ => placeable_mountedAt low) other member
      · exact List.mem_of_mem_erase waits
      · rfl
  | unmount located keeps free shape =>
      have sameSize := rackSizeOf_congr env.floats (shape.mono (List.subset_append_left _ _))
      refine ⟨racked.fit.set located keeps.id keeps.type sameSize (.inl free), ?_⟩
      exact waiting_set racked.waiting located keeps.id fun _ => .inl free
  | remove _ =>
      refine ⟨⟨racked.fit.distinct.sublist (List.filter_sublist.map _), ?_⟩, ?_⟩
      · intro rack member isRack
        apply (racked.fit.fits rack (List.mem_of_mem_filter member) isRack).of_covered rfl
        intro child inAfter mounted
        exact ⟨child, List.mem_of_mem_filter inAfter, mounted, rfl, rfl⟩
      · intro other member waits
        exact racked.waiting other (List.mem_of_mem_filter member) (foldl_erase_subset _ _ waits)
  | link | unlink | relink => exact ⟨racked.fit, racked.waiting⟩

/-! ## Batches -/

theorem RacksFit.placed {nodes placed : List NodeDTO} {pending : List String}
    (fit : RacksFit floats nodes)
    (waiting : ∀ node ∈ nodes, node.id ∈ pending → Placeable node)
    (from_ : PlacedFrom pending nodes placed) : RacksFit floats placed := by
  constructor
  · rw [from_.map_id]
    exact fit.distinct
  · intro rack rackIn isRack
    rcases from_.exists_mem rackIn with ⟨old, oldIn, moved⟩
    have sameID : rack.id = old.id := moved.id
    have sameType : rack.type = old.type := by rw [moved.same]
    have sameSize : rackSizeOf floats rack = rackSizeOf floats old := by
      apply rackSizeOf_congr
      rw [moved.same]
      exact .refl _
    apply (fit.fits old oldIn (sameType ▸ isRack)).of_covered sameSize
    intro child member mounted
    rcases from_.exists_mem member with ⟨was, wasIn, childMoved⟩
    have sameParent : child.parentID = was.parentID := by rw [childMoved.same]
    refine ⟨was, wasIn, sameID ▸ sameParent ▸ mounted, childMoved.id.symm, ?_⟩
    by_cases waits : was.id ∈ pending
    · rcases slotsOf_of_placeable (waiting was wasIn waits) childMoved.same with free | same
      · rw [mounted] at free
        cases free
      · exact same.symm
    · rw [childMoved.still waits]

/-- Where the devices of every rack lie inside it and apart from each other, they
do so after every accepted batch whose slots stay in range and whose new racks
do not take the id of a rack that went without its devices. -/
theorem applied_racksFit {base : SyncGraphInput} {ops : List TopologyOp}
    {applied : AppliedTopology} (conversions : Int64Conversions env.floats)
    (fresh : FreshIDs env base ops)
    (along : Along env (fun editor op => SlotInRange env editor op ∧ LeavesOrphans env editor op)
      (.opening base) ops)
    (fit : RacksFit env.floats base.nodes) (done : applyTopologyOps env base ops = .ok applied) :
    RacksFit env.floats applied.input.nodes := by
  have opening : Racked env (.opening base) := ⟨fit, fun _ _ waits => absurd waits List.not_mem_nil⟩
  rcases applied_preserves (fun met edit => Racked.edit conversions met edit) fresh along opening
    done with ⟨final, racked, isPlaced, _⟩
  rw [isPlaced]
  exact racked.fit.placed racked.waiting
    (placedFrom_placeNodes env.floats _ _ _ _ _ (List.Subset.refl _))

end

end

/-! ## Examples -/

/-- A tall rack and a device that is not in it. -/
def tallRack : SyncGraphInput where
  name := "Rack"
  nodes :=
    [{ id := sampleID 1, type := "rack", name := "Rack", details := [("rack_size", .num 2000)] },
      { id := sampleID 2, type := "server_v2", name := "Server",
        details := [("rack_units", .num 1024)] }]

def mountAt (slot : Rat) : TopologyOp where
  op := "update_node"
  node := sampleID 2
  parent := some (sampleID 1)
  rackSlot := some slot

theorem racksFit_tallRack : RacksFit Env.plain.floats tallRack.nodes := by
  have noneMounted : ∀ child ∈ tallRack.nodes, child.parentID = none := by decide
  refine ⟨by decide, ?_⟩
  intro rack _ _
  constructor
  · intro child member mounted
    rw [noneMounted child member] at mounted
    cases mounted
  · intro child member _ _ mounted
    rw [noneMounted child member] at mounted
    cases mounted

/-- The slot and the height of the device add up to one more than an `int` holds. -/
theorem mount_beyond_rack :
    RacksFit Env.plain.floats tallRack.nodes ∧
      ∃ applied, applyTopologyOps Env.plain tallRack [mountAt (2 ^ 63 - 1024)] = .ok applied ∧
        ¬ RacksFit Env.plain.floats applied.input.nodes := by
  refine ⟨racksFit_tallRack, ?_⟩
  have accepted : (applyTopologyOps Env.plain tallRack [mountAt (2 ^ 63 - 1024)]).toOption.map
      (fun applied => decide (∃ rack ∈ applied.input.nodes, rack.type = "rack" ∧
        ∃ child ∈ applied.input.nodes, child.parentID = some rack.id ∧
          0 < rackUnitsOf Env.plain.floats child ∧
          rackSizeOf Env.plain.floats rack ≤ rackSlotOf Env.plain.floats child)) = some true := by
    decide +kernel
  rcases Option.map_eq_some_iff.mp accepted with ⟨applied, done, outside⟩
  refine ⟨applied, toOption_eq_some.mp done, ?_⟩
  rcases of_decide_eq_true outside with ⟨rack, rackIn, isRack, child, childIn, mounted, tall, beyond⟩
  intro fit
  have bounds := bounds_of_subset tall ((fit.fits rack rackIn isRack).inside child childIn mounted)
  omega

/-- The tall rack with a storage device in its first four slots. -/
def sharedRack : SyncGraphInput where
  name := "Rack"
  nodes := tallRack.nodes ++
    [{ id := sampleID 3, type := "nas", name := "Storage", parentID := some (sampleID 1),
        details := [("rack_units", .num 4), ("rack_position", .num 0)] }]

theorem racksFit_sharedRack : RacksFit Env.plain.floats sharedRack.nodes := by
  have onlyStorage : ∀ child ∈ sharedRack.nodes, child.parentID ≠ none →
      child.id = sampleID 3 ∧ rackSlotOf Env.plain.floats child = 0 ∧
        rackUnitsOf Env.plain.floats child = 4 := by
    decide
  have tall : ∀ rack ∈ sharedRack.nodes, rack.type = "rack" →
      4 ≤ rackSizeOf Env.plain.floats rack := by
    decide
  have isStorage {child rack : NodeDTO} (member : child ∈ sharedRack.nodes)
      (mounted : child.parentID = some rack.id) :=
    onlyStorage child member (mounted ▸ Option.some_ne_none rack.id)
  refine ⟨by decide, ?_⟩
  intro rack rackIn isRack
  have height := tall rack rackIn isRack
  constructor
  · intro child member mounted slot taken
    rcases isStorage member mounted with ⟨_, first, units⟩
    rw [slotsOf, first, units] at taken
    exact ⟨taken.1, by have := taken.2; omega⟩
  · intro child member other otherIn mounted otherMounted differ
    have same := (isStorage member mounted).1.trans (isStorage otherIn otherMounted).1.symm
    exact absurd same differ

theorem mountedHeight_sharedRack :
    mountedHeight Env.plain (.opening sharedRack) (mountAt 4).lowered = some 1024 := by
  decide

theorem slotInRange_sharedRack :
    SlotInRange Env.plain (.opening sharedRack) (mountAt 4).lowered := by
  constructor
  · intro slot height asked tall
    have isSlot : (mountAt 4).lowered.rackSlot = some 4 := rfl
    rw [isSlot] at asked
    rw [mountedHeight_sharedRack] at tall
    cases asked
    cases tall
    decide +kernel
  · intro _ node index _ found inRack
    have free : (resolvedNode Env.plain (.opening sharedRack) (mountAt 4).lowered.node
        "node").toOption.map (fun found => found.1.parentID) = some none := by
      decide
    rw [found] at free
    exact absurd (Option.some.inj free) inRack

theorem leavesOrphans_of_not_add {env : Env} {editor : Editor} {op : TopologyOp}
    (other : op.op ≠ "add_node") : LeavesOrphans env editor op :=
  fun isAdd => absurd isAdd other

/-- The server goes right under the storage device. -/
theorem applied_racksFit_mount :
    ∃ applied, applyTopologyOps Env.plain sharedRack [mountAt 4] = .ok applied ∧
      RacksFit Env.plain.floats applied.input.nodes ∧
      ∃ server ∈ applied.input.nodes, ∃ storage ∈ applied.input.nodes,
        rackSlotOf Env.plain.floats server = 4 ∧ rackUnitsOf Env.plain.floats server = 1024 ∧
        rackSlotOf Env.plain.floats storage = 0 ∧ rackUnitsOf Env.plain.floats storage = 4 ∧
        Disjoint (slotsOf Env.plain.floats server) (slotsOf Env.plain.floats storage) := by
  have unused : ¬ Mentions sharedRack.nodes (Env.plain.newID 0).text := by
    unfold Mentions
    decide
  have fresh : FreshIDs Env.plain sharedRack [mountAt 4] := freshIDs_single (by decide) unused
  have conversions : Int64Conversions Env.plain.floats :=
    fun _ => ⟨Int.le_refl (-2 ^ 63), show (-2 ^ 63 : Int) < 2 ^ 63 by decide⟩
  have orphans : LeavesOrphans Env.plain (.opening sharedRack) (mountAt 4).lowered :=
    leavesOrphans_of_not_add (by decide)
  have accepted : (applyTopologyOps Env.plain sharedRack [mountAt 4]).toOption.map
      (fun applied => decide (∃ rack ∈ applied.input.nodes, rack.type = "rack" ∧
        ∃ server ∈ applied.input.nodes, ∃ storage ∈ applied.input.nodes,
          server.parentID = some rack.id ∧ storage.parentID = some rack.id ∧
          server.id ≠ storage.id ∧
          (rackSlotOf Env.plain.floats server = 4 ∧ rackUnitsOf Env.plain.floats server = 1024) ∧
          rackSlotOf Env.plain.floats storage = 0 ∧ rackUnitsOf Env.plain.floats storage = 4)) =
      some true := by
    decide +kernel
  rcases Option.map_eq_some_iff.mp accepted with ⟨applied, done, mounted⟩
  have done := toOption_eq_some.mp done
  have fit := applied_racksFit conversions fresh
    ⟨⟨slotInRange_sharedRack, orphans⟩, fun _ _ _ => trivial⟩ racksFit_sharedRack done
  rcases of_decide_eq_true mounted with ⟨rack, rackIn, isRack, server, serverIn, storage, storageIn,
    inRack, sharesRack, differ, ⟨slot, height⟩, first, units⟩
  exact ⟨applied, done, fit, server, serverIn, storage, storageIn, slot, height, first, units,
    (fit.fits rack rackIn isRack).apart server serverIn storage storageIn inRack sharesRack differ⟩

end HomelabBuilder.Topology
