import HomelabBuilder.Wiring.PortValidation

/-! # VLANs of a cable

`CableVLAN` of `checks.go`: what a cable carries and its colour, read from the
port settings and the VLAN tables of its two ends.
-/

namespace HomelabBuilder.Wiring

structure VLAN where
  id : Int
  name : String
  color : String
  subnet : String
  deriving DecidableEq

def readVLAN (entry : List (String × Json)) : Option VLAN :=
  ((entry.lookup "id").bind integer).map fun id =>
    { id
      name := ((entry.lookup "name").bind Json.asString).getD ""
      color := ((entry.lookup "color").bind Json.asString).getD ""
      subnet := ((entry.lookup "subnet").bind Json.asString).getD "" }

/-- `ReadVLANs`, skipping entries without a whole id. -/
def readVLANs (details : List (String × Json)) : List VLAN :=
  (((details.lookup "vlans").bind Json.asArray).getD []).filterMap fun entry =>
    entry.asObject.bind readVLAN

/-! ## The VLANs of a port -/

/-- An item that counts and is not there yet goes to the end. -/
def appendNew {α : Type} [DecidableEq α] (counts : α → Bool) (out : List α) (item : α) : List α :=
  if counts item && item ∉ out then out ++ [item] else out

section AppendNew

variable {α : Type} [DecidableEq α] {counts : α → Bool}

theorem mem_appendNew {out : List α} {item other : α} :
    other ∈ appendNew counts out item ↔ other ∈ out ∨ other = item ∧ counts item = true := by
  unfold appendNew
  split
  · rename_i added
    rw [Bool.and_eq_true] at added
    rw [List.mem_append, List.mem_singleton, and_iff_left added.1]
  · rename_i skipped
    refine ⟨.inl, ?_⟩
    rintro (old | ⟨rfl, counted⟩)
    · exact old
    · by_contra absent
      simp [counted, absent] at skipped

theorem nodup_appendNew {out : List α} (nodup : out.Nodup) (item : α) :
    (appendNew counts out item).Nodup := by
  unfold appendNew
  split
  · rename_i added
    rw [Bool.and_eq_true, decide_eq_true_eq] at added
    rw [List.nodup_append]
    refine ⟨nodup, List.nodup_singleton item, fun other member last isLast equal => ?_⟩
    rw [List.mem_singleton.mp isLast] at equal
    exact added.2 (equal ▸ member)
  · exact nodup

theorem mem_foldl_appendNew {other : α} : ∀ (items out : List α),
    other ∈ items.foldl (appendNew counts) out ↔
      other ∈ out ∨ other ∈ items ∧ counts other = true
  | [], out => by simp
  | head :: tail, out => by
      rw [List.foldl_cons, mem_foldl_appendNew tail, mem_appendNew, List.mem_cons]
      constructor
      · rintro ((old | ⟨rfl, counted⟩) | ⟨later, counted⟩)
        · exact .inl old
        · exact .inr ⟨.inl rfl, counted⟩
        · exact .inr ⟨.inr later, counted⟩
      · rintro (old | ⟨rfl | later, counted⟩)
        · exact .inl (.inl old)
        · exact .inl (.inr ⟨rfl, counted⟩)
        · exact .inr ⟨later, counted⟩

theorem nodup_foldl_appendNew : ∀ (items : List α) {out : List α}, out.Nodup →
    (items.foldl (appendNew counts) out).Nodup
  | [], _, nodup => nodup
  | head :: tail, _, nodup => nodup_foldl_appendNew tail (nodup_appendNew nodup head)

end AppendNew

/-- The untagged VLAN of a port, and the tagged ones of a switch port. -/
def portVLANs (nodeType : String) (settings : PortSettings) : List Int :=
  let untagged := appendNew isVLANID [] settings.untaggedVLAN
  if nodeType = "switch" then settings.taggedVLANs.foldl (appendNew isVLANID) untagged
  else untagged

/-- `VLANSet`: the VLANs a port carries in ascending order. -/
def vlanSet (nodeType : String) (details : List (String × Json)) (handle : String) : List Int :=
  if !hasPortSettings nodeType then []
  else
    match (readPortConfig details).lookup handle with
    | none => []
    | some settings => (portVLANs nodeType settings).insertionSort (· ≤ ·)

theorem mem_portVLANs {nodeType : String} {settings : PortSettings} {id : Int} :
    id ∈ portVLANs nodeType settings ↔ isVLANID id = true ∧
      (id = settings.untaggedVLAN ∨ nodeType = "switch" ∧ id ∈ settings.taggedVLANs) := by
  unfold portVLANs
  dsimp only
  split
  · rename_i isSwitch
    rw [mem_foldl_appendNew, mem_appendNew]
    constructor
    · rintro ((old | ⟨rfl, valid⟩) | ⟨tagged, valid⟩)
      · cases old
      · exact ⟨valid, .inl rfl⟩
      · exact ⟨valid, .inr ⟨isSwitch, tagged⟩⟩
    · rintro ⟨valid, rfl | ⟨_, tagged⟩⟩
      · exact .inl (.inr ⟨rfl, valid⟩)
      · exact .inr ⟨tagged, valid⟩
  · rename_i noSwitch
    rw [mem_appendNew]
    constructor
    · rintro (old | ⟨rfl, valid⟩)
      · cases old
      · exact ⟨valid, .inl rfl⟩
    · rintro ⟨valid, rfl | ⟨isSwitch, _⟩⟩
      · exact .inr ⟨rfl, valid⟩
      · exact absurd isSwitch noSwitch

theorem nodup_portVLANs (nodeType : String) (settings : PortSettings) :
    (portVLANs nodeType settings).Nodup := by
  have single : (appendNew isVLANID [] settings.untaggedVLAN).Nodup :=
    nodup_appendNew List.nodup_nil settings.untaggedVLAN
  unfold portVLANs
  dsimp only
  split
  · exact nodup_foldl_appendNew _ single
  · exact single

/-! ## The VLANs of a cable -/

/-- `CableVLAN`'s results. -/
structure CableVLAN where
  vlans : List Int := []
  color : String := ""
  mismatch : Bool := false
  deriving DecidableEq

structure CableEnd where
  nodeType : String
  details : List (String × Json)
  handle : String

def vlanColor (details : List (String × Json)) (id : Int) : String :=
  (((readVLANs details).find? fun vlan => vlan.id = id && isColor vlan.color).map
    (·.color)).getD ""

/-- The handles the canvas leaves empty. -/
def defaultHandles (source target : String) : String × String :=
  (if source = "" then "eth0" else source, if target = "" then "target-0" else target)

def shownColor (color : String) : Option String := if color = "" then none else some color

/-- The colour of the untagged VLAN of a switch end when the cable carries it. -/
def untaggedColor (vlans : List Int) (cableEnd : CableEnd) : Option String :=
  if cableEnd.nodeType ≠ "switch" then none
  else
    let settings := ((readPortConfig cableEnd.details).lookup cableEnd.handle).getD {}
    if settings.untaggedVLAN ∈ vlans
      then shownColor (vlanColor cableEnd.details settings.untaggedVLAN)
      else none

/-- The colour of a switch end's untagged VLAN, else that of the lowest VLAN that
has one at either end. -/
def cableColor (ends : List CableEnd) (vlans : List Int) : String :=
  ((ends.findSome? (untaggedColor vlans)).or
    (vlans.findSome? fun id =>
      ends.findSome? fun cableEnd => shownColor (vlanColor cableEnd.details id))).getD ""

def cableVLAN (srcType : String) (srcDetails : List (String × Json)) (srcHandle : String)
    (tgtType : String) (tgtDetails : List (String × Json)) (tgtHandle : String) : CableVLAN :=
  let handles := defaultHandles srcHandle tgtHandle
  let srcSet := vlanSet srcType srcDetails handles.1
  let tgtSet := vlanSet tgtType tgtDetails handles.2
  let ends := [⟨srcType, srcDetails, handles.1⟩, ⟨tgtType, tgtDetails, handles.2⟩]
  if srcSet ≠ [] ∧ tgtSet ≠ [] then
    let vlans := srcSet.filter (· ∈ tgtSet)
    if vlans = [] then { mismatch := true }
    else { vlans, color := cableColor ends vlans }
  else if srcSet ≠ [] then { vlans := srcSet, color := cableColor ends srcSet }
  else if tgtSet ≠ [] then { vlans := tgtSet, color := cableColor ends tgtSet }
  else {}

end HomelabBuilder.Wiring
