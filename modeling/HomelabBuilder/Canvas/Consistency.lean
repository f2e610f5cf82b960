import HomelabBuilder.Canvas.Actions
import HomelabBuilder.Foundation.Keyed
import HomelabBuilder.Foundation.Mirrored

/-! # Two copies of every device

What holds of a canvas over any run of actions: the cards and the device list are
two copies of the same devices, cables join devices that are there, and what is
mounted is mounted in a rack.
-/

namespace HomelabBuilder.Canvas

/-- The data of a card and the entry of its device. No guests are the same as none
given. -/
structure Agrees (node : FlowNode) (device : HardwareNode) : Prop where
  type : node.data.type = device.type
  name : node.data.name = device.name
  powerDraw : node.data.powerDraw = device.powerDraw
  ip : node.data.ip = device.ip
  macAddress : node.data.macAddress = device.macAddress
  details : node.data.details = device.details
  vms : node.data.vms.getD [] = device.vms.getD []
  internalComponents : node.data.internalComponents = device.internalComponents

def IsRack (devices : List HardwareNode) (id : String) : Prop :=
  ∃ rack ∈ devices, rack.id = id ∧ rack.type = "rack"

def Joins (ids : List String) (edges : List FlowEdge) : Prop :=
  ∀ edge ∈ edges, edge.ends.source ∈ ids ∧ edge.ends.target ∈ ids

structure Consistent (canvas : Canvas) : Prop where
  devices : Mirrored FlowNode.id HardwareNode.id Agrees canvas.nodes canvas.hardwareNodes
  cables : Joins (canvas.nodes.map FlowNode.id) canvas.edges
  mounted : ∀ device ∈ canvas.hardwareNodes, ∀ parent ∈ idOf device.parentID,
    IsRack canvas.hardwareNodes parent

/-- What is mounted is in a rack, and is no rack itself. -/
def RacksFit (devices : List HardwareNode) : Prop :=
  ∀ device ∈ devices, ∀ parent ∈ idOf device.parentID,
    device.type ≠ "rack" ∧ IsRack devices parent

/-- The invariant of a canvas. What is mounted is spoken of only where no rack is in
a rack, which `flat` says. -/
structure Sound (flat : Prop) (canvas : Canvas) : Prop where
  devices : Mirrored FlowNode.id HardwareNode.id Agrees canvas.nodes canvas.hardwareNodes
  named : ∀ device ∈ canvas.hardwareNodes, device.id ≠ ""
  cables : Joins (canvas.nodes.map FlowNode.id) canvas.edges
  racks : flat → RacksFit canvas.hardwareNodes

theorem Sound.consistent {canvas : Canvas} (sound : Sound True canvas) : Consistent canvas where
  devices := sound.devices
  cables := sound.cables
  mounted device member parent given := (sound.racks trivial device member parent given).2

/-! ## Updates -/

theorem Agrees.patch {node : FlowNode} {device : HardwareNode} (agrees : Agrees node device)
    (patch : DevicePatch) : Agrees { node with data := patch.apply node.data } (patch.apply device) where
  type := congrArg patch.type.getD agrees.type
  name := congrArg patch.name.getD agrees.name
  powerDraw := congrArg patch.powerDraw.getD agrees.powerDraw
  ip := congrArg patch.ip.getD agrees.ip
  macAddress := congrArg patch.macAddress.getD agrees.macAddress
  details := congrArg patch.details.getD agrees.details
  internalComponents := congrArg patch.internalComponents.getD agrees.internalComponents
  vms := by
    unfold DevicePatch.apply
    cases patch.vms with
    | none => exact agrees.vms
    | some vms => rfl

/-! ## Racks -/

section Racks

variable {devices : List HardwareNode}

theorem IsRack.map {g : HardwareNode → HardwareNode} {id : String}
    (kept : ∀ device ∈ devices, (g device).id = device.id ∧ (g device).type = device.type)
    (isRack : IsRack devices id) : IsRack (devices.map g) id := by
  rcases isRack with ⟨rack, member, same, type⟩
  exact ⟨g rack, List.mem_map_of_mem member, (kept rack member).1.trans same,
    (kept rack member).2.trans type⟩

theorem RacksFit.map (fit : RacksFit devices) {g : HardwareNode → HardwareNode}
    (kept : ∀ device ∈ devices, (g device).id = device.id ∧ (g device).type = device.type)
    (parents : ∀ device ∈ devices, (g device).parentID = device.parentID ∨
      ∀ parent ∈ idOf (g device).parentID, device.type ≠ "rack" ∧ IsRack devices parent) :
    RacksFit (devices.map g) := by
  intro after listed parent given
  rcases List.mem_map.mp listed with ⟨device, member, rfl⟩
  have fits : device.type ≠ "rack" ∧ IsRack devices parent := by
    rcases parents device member with same | other
    · rw [same] at given
      exact fit device member parent given
    · exact other parent given
  exact ⟨(kept device member).2.symm ▸ fits.1, fits.2.map kept⟩

/-- What goes takes along what is mounted in it. -/
def Closed (devices : List HardwareNode) (gone : List String) : Prop :=
  ∀ device ∈ devices, ∀ parent ∈ idOf device.parentID, parent ∈ gone → device.id ∈ gone

theorem RacksFit.filter (fit : RacksFit devices) {gone : List String}
    (closed : Closed devices gone) :
    RacksFit (devices.filter fun device => device.id ∉ gone) := by
  intro device listed parent given
  rcases List.mem_filter.mp listed with ⟨member, stays⟩
  have kept : device.id ∉ gone := of_decide_eq_true stays
  rcases fit device member parent given with ⟨type, rack, rackMember, same, isRack⟩
  refine ⟨type, rack, List.mem_filter.mpr ⟨rackMember, decide_eq_true ?_⟩, same, isRack⟩
  rw [same]
  exact fun goes => kept (closed device member parent given goes)

theorem RacksFit.concat (fit : RacksFit devices) {device : HardwareNode}
    (fits : ∀ parent ∈ idOf device.parentID, device.type ≠ "rack" ∧ IsRack devices parent) :
    RacksFit (devices ++ [device]) := by
  have more {id : String} (isRack : IsRack devices id) : IsRack (devices ++ [device]) id := by
    rcases isRack with ⟨rack, member, same, type⟩
    exact ⟨rack, List.mem_append_left _ member, same, type⟩
  intro other listed parent given
  rcases List.mem_append.mp listed with old | isNew
  · exact ⟨(fit other old parent given).1, more (fit other old parent given).2⟩
  · rw [List.mem_singleton.mp isNew] at given ⊢
    exact ⟨(fits parent given).1, more (fits parent given).2⟩

theorem RacksFit.not_mounted (fit : RacksFit devices) (distinct : (devices.map (·.id)).Nodup)
    {device : HardwareNode} (member : device ∈ devices) (isRack : IsRack devices device.id) :
    idOf device.parentID = none := by
  rcases isRack with ⟨rack, listed, same, type⟩
  cases Keyed.eq_of_key_eq distinct listed member same
  cases given : idOf device.parentID with
  | none => rfl
  | some parent => exact absurd type (fit device member parent given).1

/-! ### What goes with a rack -/

theorem mem_idOf {id : Option String} {given : String} :
    given ∈ idOf id ↔ id = some given ∧ given ≠ "" := by
  rw [idOf, Option.mem_def, Option.filter_eq_some_iff, decide_eq_true_eq]

theorem closed_removedWith (fit : RacksFit devices) (distinct : (devices.map (·.id)).Nodup)
    (named : ∀ device ∈ devices, device.id ≠ "") (nodeID : String) :
    Closed devices (removedWith devices nodeID) := by
  intro device member parent given goes
  rcases fit device member parent given with ⟨_, isRack⟩
  have here : parent = nodeID → device.id ∈ removedWith devices nodeID := by
    rintro rfl
    rcases isRack with ⟨rack, listed, rfl, type⟩
    unfold removedWith
    rw [Keyed.find?_key distinct listed]
    dsimp only
    rw [if_pos type]
    refine List.mem_cons_of_mem _ (List.mem_map_of_mem (List.mem_filter.mpr ⟨member, ?_⟩))
    exact decide_eq_true (mem_idOf.mp given).1
  unfold removedWith at goes
  split at goes
  · rename_i removed found
    split at goes
    · rcases List.mem_cons.mp goes with same | child
      · exact here same
      · -- What is mounted in the rack is no rack, so nothing is mounted in it.
        rcases List.mem_map.mp child with ⟨mounted, listed, rfl⟩
        rcases List.mem_filter.mp listed with ⟨mountedMember, isIn⟩
        have removedID : removed.id = nodeID := by simpa using List.find?_some found
        have inside : nodeID ∈ idOf mounted.parentID :=
          mem_idOf.mpr ⟨of_decide_eq_true isIn,
            removedID ▸ named removed (List.mem_of_find?_eq_some found)⟩
        rw [fit.not_mounted distinct mountedMember isRack] at inside
        cases inside
    · exact here (List.mem_singleton.mp goes)
  · exact here (List.mem_singleton.mp goes)

theorem subset_withMounted : ∀ (devices : List HardwareNode) (removals : List String),
    removals ⊆ withMounted devices removals
  | [], _ => List.Subset.refl _
  | device :: rest, removals => by
      unfold withMounted
      rw [List.foldl_cons]
      split
      · exact fun id member =>
          subset_withMounted rest (removals ++ [device.id]) (List.mem_append_left _ member)
      · exact subset_withMounted rest removals

theorem mem_withMounted {id : String} : ∀ {devices : List HardwareNode} {removals : List String},
    id ∈ withMounted devices removals → id ∈ removals ∨
      ∃ device ∈ devices, device.id = id ∧ (idOf device.parentID).isSome
  | [], _, goes => .inl goes
  | device :: rest, removals, goes => by
      unfold withMounted at goes
      rw [List.foldl_cons] at goes
      split at goes
      · rename_i mounted
        have isIn : (idOf device.parentID).isSome := by
          unfold mountedIn at mounted
          cases given : idOf device.parentID with
          | none =>
              rw [given] at mounted
              cases mounted
          | some parent => rfl
        rcases mem_withMounted goes with before | ⟨other, member, same, given⟩
        · rcases List.mem_append.mp before with old | isNew
          · exact .inl old
          · exact .inr ⟨device, List.mem_cons_self, (List.mem_singleton.mp isNew).symm, isIn⟩
        · exact .inr ⟨other, List.mem_cons_of_mem _ member, same, given⟩
      · rcases mem_withMounted goes with before | ⟨other, member, same, given⟩
        · exact .inl before
        · exact .inr ⟨other, List.mem_cons_of_mem _ member, same, given⟩

theorem mounted_withMounted {parent : String} : ∀ {devices : List HardwareNode}
    {removals : List String} {device : HardwareNode}, device ∈ devices →
    parent ∈ idOf device.parentID → parent ∈ removals → device.id ∈ withMounted devices removals
  | first :: rest, removals, device, member, given, goes => by
      unfold withMounted
      rw [List.foldl_cons]
      rcases List.mem_cons.mp member with rfl | later
      · have mounted : mountedIn removals device = true := by
          rw [mountedIn, Option.mem_def.mp given, Option.any_some]
          exact decide_eq_true goes
        rw [if_pos mounted]
        exact subset_withMounted rest _ (List.mem_append_right _ (List.mem_singleton_self _))
      · split
        · exact mounted_withMounted later given (List.mem_append_left _ goes)
        · exact mounted_withMounted later given goes

theorem closed_withMounted (fit : RacksFit devices) (distinct : (devices.map (·.id)).Nodup)
    (removals : List String) : Closed devices (withMounted devices removals) := by
  intro device member parent given goes
  rcases fit device member parent given with ⟨_, isRack⟩
  rcases mem_withMounted goes with asked | ⟨rack, listed, rfl, inside⟩
  · exact mounted_withMounted member given asked
  · rw [fit.not_mounted distinct listed isRack] at inside
    cases inside

end Racks

/-! ## Canvases -/

namespace Sound

variable {flat : Prop} {canvas : Canvas}

theorem map (sound : Sound flat canvas) {f : FlowNode → FlowNode} {g : HardwareNode → HardwareNode}
    (cards : ∀ node ∈ canvas.nodes, (f node).id = node.id)
    (kept : ∀ device ∈ canvas.hardwareNodes,
      (g device).id = device.id ∧ (g device).type = device.type)
    (parents : flat → ∀ device ∈ canvas.hardwareNodes, (g device).parentID = device.parentID ∨
      ∀ parent ∈ idOf (g device).parentID,
        device.type ≠ "rack" ∧ IsRack canvas.hardwareNodes parent)
    (agree : ∀ node ∈ canvas.nodes, ∀ device ∈ canvas.hardwareNodes, node.id = device.id →
      Agrees node device → Agrees (f node) (g device)) :
    Sound flat { canvas with
      nodes := canvas.nodes.map f, hardwareNodes := canvas.hardwareNodes.map g } where
  devices := sound.devices.map cards (fun device member => (kept device member).1) agree
  named := by
    intro after listed
    rcases List.mem_map.mp listed with ⟨device, member, rfl⟩
    rw [(kept device member).1]
    exact sound.named device member
  cables := by
    have ids : (canvas.nodes.map f).map FlowNode.id = canvas.nodes.map FlowNode.id := by
      rw [List.map_map]
      exact List.map_congr_left cards
    rw [ids]
    exact sound.cables
  racks isFlat := (sound.racks isFlat).map kept (parents isFlat)

theorem sameCard_agrees {before after : FlowNode} (card : SameCard before after)
    {device : HardwareNode} (agrees : Agrees before device) : Agrees after device := by
  have data := card.data
  exact ⟨data ▸ agrees.type, data ▸ agrees.name, data ▸ agrees.powerDraw, data ▸ agrees.ip,
    data ▸ agrees.macAddress, data ▸ agrees.details, data ▸ agrees.vms,
    data ▸ agrees.internalComponents⟩

theorem moved (sound : Sound flat canvas) {nodes : List FlowNode}
    (same : List.Forall₂ SameCard canvas.nodes nodes) : Sound flat { canvas with nodes := nodes } where
  devices := sound.devices.forall₂_left
    (same.imp fun _ _ card => ⟨card.id, fun _ => sameCard_agrees card⟩)
  named := sound.named
  cables := by
    have ids : nodes.map FlowNode.id = canvas.nodes.map FlowNode.id :=
      Keyed.map_eq_of_forall₂ (same.imp fun _ _ card => card.id)
    show Joins (nodes.map FlowNode.id) canvas.edges
    rw [ids]
    exact sound.cables
  racks := sound.racks

theorem positioned (sound : Sound flat canvas) :
    Sound flat { canvas with
      hardwareNodes := withNodePositions canvas.hardwareNodes canvas.nodes } := by
  have moved : Sound flat { canvas with
      nodes := canvas.nodes.map id
      hardwareNodes := withNodePositions canvas.hardwareNodes canvas.nodes } := by
    unfold withNodePositions
    apply Sound.map sound (fun _ _ => rfl)
    · intro device _
      split
      · split <;> exact ⟨rfl, rfl⟩
      · exact ⟨rfl, rfl⟩
    · intro _ device _
      split
      · split <;> exact .inl rfl
      · exact .inl rfl
    · intro node _ device _ _ agrees
      split
      · split
        · exact ⟨agrees.type, agrees.name, agrees.powerDraw, agrees.ip, agrees.macAddress,
            agrees.details, agrees.vms, agrees.internalComponents⟩
        · exact agrees
      · exact agrees
  rw [List.map_id] at moved
  exact moved

theorem dropNodes (sound : Sound flat canvas) {gone : List String}
    (closed : flat → Closed canvas.hardwareNodes gone) : Sound flat (Canvas.dropNodes canvas gone) where
  devices := sound.devices.filter fun id => id ∉ gone
  named device listed := sound.named device (List.mem_filter.mp listed).1
  cables := by
    intro edge listed
    rcases List.mem_filter.mp listed with ⟨member, stays⟩
    rw [Bool.and_eq_true, decide_eq_true_eq, decide_eq_true_eq] at stays
    have ends := sound.cables edge member
    have kept {id : String} (known : id ∈ canvas.nodes.map FlowNode.id) (stays : id ∉ gone) :
        id ∈ (Canvas.dropNodes canvas gone).nodes.map FlowNode.id := by
      rcases List.mem_map.mp known with ⟨node, nodeMember, rfl⟩
      exact List.mem_map_of_mem (List.mem_filter.mpr ⟨nodeMember, decide_eq_true stays⟩)
    exact ⟨kept ends.1 stays.1, kept ends.2 stays.2⟩
  racks isFlat := (sound.racks isFlat).filter (closed isFlat)

theorem concat (sound : Sound flat canvas) {node : FlowNode} {device : HardwareNode}
    (same : node.id = device.id) (agrees : Agrees node device) (named : device.id ≠ "")
    (fresh : device.id ∉ canvas.hardwareNodes.map HardwareNode.id)
    (fits : flat → ∀ parent ∈ idOf device.parentID,
      device.type ≠ "rack" ∧ IsRack canvas.hardwareNodes parent) :
    Sound flat { canvas with
      nodes := canvas.nodes ++ [node], hardwareNodes := canvas.hardwareNodes ++ [device] } where
  devices := sound.devices.concat same fresh agrees
  named := List.forall_mem_append.mpr ⟨sound.named, List.forall_mem_singleton.mpr named⟩
  cables := by
    intro edge member
    have ends := sound.cables edge member
    rw [List.map_append]
    exact ⟨List.mem_append_left _ ends.1, List.mem_append_left _ ends.2⟩
  racks isFlat := (sound.racks isFlat).concat (fits isFlat)

theorem cabled (sound : Sound flat canvas) {edges : List FlowEdge}
    (joins : Joins (canvas.nodes.map FlowNode.id) edges) : Sound flat { canvas with edges := edges } where
  devices := sound.devices
  named := sound.named
  cables := joins
  racks := sound.racks

end Sound

/-! ## Actions on a canvas -/

/-- A patch that leaves id, type and rack of a device as they are. -/
structure DevicePatch.KeepsPlace (patch : DevicePatch) : Prop where
  id : patch.id = none
  type : patch.type = none
  parentID : patch.parentID = none

namespace Sound

variable {flat : Prop} {canvas : Canvas} (sound : Sound flat canvas)

include sound

theorem distinct : (canvas.hardwareNodes.map HardwareNode.id).Nodup := sound.devices.nodup

theorem changeDevice (nodeID : String) {change : HardwareNode → DevicePatch}
    (keeps : ∀ device, (change device).KeepsPlace) :
    Sound flat (Canvas.changeDevice canvas nodeID change) := by
  unfold Canvas.changeDevice
  split
  · exact sound
  · rename_i device found
    have member := List.mem_of_find?_eq_some found
    have same : device.id = nodeID := by simpa using List.find?_some found
    have keeps := keeps device
    apply sound.map
    · intro node _
      split <;> rfl
    · intro other _
      split
      · rename_i isDevice
        rw [isDevice, DevicePatch.apply, keeps.id, keeps.type]
        exact ⟨rfl, rfl⟩
      · exact ⟨rfl, rfl⟩
    · intro _ other _
      left
      split
      · rename_i isDevice
        rw [isDevice, DevicePatch.apply, keeps.parentID]
        rfl
      · rfl
    · intro node _ other listed key agrees
      by_cases here : other = device
      · subst here
        rw [if_pos (key.trans same), if_pos rfl]
        exact agrees.patch _
      · have otherID : node.id ≠ nodeID := fun isNode => here (Keyed.eq_of_key_eq sound.distinct
          listed member (key.symm.trans (isNode.trans same.symm)))
        rw [if_neg otherID, if_neg here]
        exact agrees

theorem updateHardware (nodeID : String) {updates : DevicePatch}
    (id : ∀ id ∈ updates.id, id = nodeID)
    (type : ∀ type ∈ updates.type, ∀ device ∈ canvas.hardwareNodes, device.id = nodeID →
      device.type = type)
    (rack : flat → ∀ parent ∈ updates.parentID.bind idOf, IsRack canvas.hardwareNodes parent ∧
      ∀ device ∈ canvas.hardwareNodes, device.id = nodeID → device.type ≠ "rack") :
    Sound flat (Canvas.updateHardware canvas nodeID updates) := by
  apply sound.map
  · intro node _
    split <;> rfl
  · intro device member
    split
    · rename_i isDevice
      constructor
      · show updates.id.getD device.id = device.id
        cases given : updates.id with
        | none => rfl
        | some newID => exact (id newID given).trans isDevice.symm
      · show updates.type.getD device.type = device.type
        cases given : updates.type with
        | none => rfl
        | some newType => exact (type newType given device member isDevice).symm
    · exact ⟨rfl, rfl⟩
  · intro isFlat device member
    split
    · rename_i isDevice
      show updates.parentID.getD device.parentID = device.parentID ∨ _
      cases given : updates.parentID with
      | none => exact .inl rfl
      | some newParent =>
          right
          intro parent isParent
          have named : parent ∈ updates.parentID.bind idOf := by
            rw [given, Option.bind_some]
            have applied : (updates.apply device).parentID = newParent := by
              rw [DevicePatch.apply, given]
              rfl
            rw [applied] at isParent
            exact isParent
          exact ⟨(rack isFlat parent named).2 device member isDevice, (rack isFlat parent named).1⟩
    · exact .inl rfl
  · intro node _ device _ key agrees
    by_cases here : node.id = nodeID
    · rw [if_pos here, if_pos (key.symm.trans here)]
      exact ⟨(agrees.patch updates).type, (agrees.patch updates).name,
        (agrees.patch updates).powerDraw, (agrees.patch updates).ip,
        (agrees.patch updates).macAddress, (agrees.patch updates).details,
        (agrees.patch updates).vms, (agrees.patch updates).internalComponents⟩
    · rw [if_neg here, if_neg fun isDevice => here (key.trans isDevice)]
      exact agrees

theorem deleteTag (tagID : String) : Sound flat (Canvas.deleteTag canvas tagID) := by
  have kept (device : HardwareNode) : (untagged tagID device).id = device.id ∧
      (untagged tagID device).type = device.type ∧
      (untagged tagID device).parentID = device.parentID := by
    unfold untagged
    split <;> exact ⟨rfl, rfl, rfl⟩
  have tagged : ((canvas.hardwareNodes.filter fun node => .str tagID ∈ nodeTags node).map
      (untagged tagID)).map HardwareNode.id =
      (canvas.hardwareNodes.filter fun node => .str tagID ∈ nodeTags node).map HardwareNode.id := by
    rw [List.map_map]
    exact List.map_congr_left fun device _ => (kept device).1
  have distinct := tagged ▸ sound.distinct.sublist (List.filter_sublist.map HardwareNode.id)
  apply sound.map
  · intro node _
    split <;> rfl
  · exact fun device _ => ⟨(kept device).1, (kept device).2.1⟩
  · exact fun _ device _ => .inl (kept device).2.2
  · intro node _ device member key agrees
    by_cases has : .str tagID ∈ nodeTags device
    · have listed : untagged tagID device ∈
          (canvas.hardwareNodes.filter fun node => .str tagID ∈ nodeTags node).map
            (untagged tagID) :=
        List.mem_map_of_mem (List.mem_filter.mpr ⟨member, decide_eq_true has⟩)
      have found := Keyed.find?_reverse_key distinct listed
      rw [(kept device).1, ← key] at found
      rw [found]
      dsimp only
      rw [untagged, if_pos has]
      exact ⟨agrees.type, agrees.name, agrees.powerDraw, agrees.ip, agrees.macAddress, rfl,
        agrees.vms, agrees.internalComponents⟩
    · have missing : ((canvas.hardwareNodes.filter fun node => .str tagID ∈ nodeTags node).map
          (untagged tagID)).reverse.find? (fun other => other.id = node.id) = none := by
        rw [List.find?_eq_none]
        intro other listed same
        rcases List.mem_map.mp (List.mem_reverse.mp listed) with ⟨before, beforeListed, rfl⟩
        rcases List.mem_filter.mp beforeListed with ⟨beforeMember, beforeHas⟩
        have isDevice := Keyed.eq_of_key_eq sound.distinct beforeMember member
          (((kept before).1.symm.trans (of_decide_eq_true same)).trans key)
        exact has (isDevice ▸ of_decide_eq_true beforeHas)
      rw [missing, untagged, if_neg has]
      exact agrees

theorem mergeNodes (parseJSON : String → Option Json) (nodes : List BuildNode) :
    Sound flat (Canvas.mergeNodes parseJSON canvas nodes) := by
  apply sound.map
  · intro node _
    unfold mergedCard
    split <;> rfl
  · intro device _
    unfold mergedDevice
    split <;> exact ⟨rfl, rfl⟩
  · intro _ device _
    left
    unfold mergedDevice
    split <;> rfl
  · intro node _ device _ key agrees
    unfold mergedCard mergedDevice
    rw [key]
    split
    · rename_i entry _
      refine ⟨agrees.type, agrees.name, agrees.powerDraw, rfl, agrees.macAddress, ?_, ?_,
        agrees.internalComponents⟩
      · exact congrArg (fun details => some (mergeServerDetails details entry.details))
          agrees.details
      · show (some ((node.data.vms.getD []).map entry.guest)).getD [] =
          (device.vms.map fun vms => vms.map entry.guest).getD []
        rw [agrees.vms]
        cases device.vms <;> rfl
    · exact agrees

end Sound

end HomelabBuilder.Canvas
