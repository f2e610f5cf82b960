import HomelabBuilder.Canvas.PortConfig

/-! # One reading of cable VLANs

The canvas and the server read the same VLANs, colour and mismatch for every
network cable between devices whose settings the server accepts.
-/

namespace HomelabBuilder.Canvas

open Wiring (appendNew mem_foldl_appendNew nodup_foldl_appendNew mem_appendNew isVLANID integer
  byKey validatePortConfig validateVLANs hasPortSettings isColor shownColor)

variable {nodeType : String} {details : List (String × Json)}

theorem vlanId_eq (value : Json) : vlanId value = (integer value).filter isVLANID := by
  cases value with
  | num value =>
      unfold vlanId integer
      by_cases whole : value.den = 1
      · by_cases small : value.num.natAbs ≤ 2 ^ 31
        · simp only [whole, small, true_and, and_self, if_true, Option.filter_some, isVLANID,
            Bool.and_eq_true, decide_eq_true_eq]
        · have large : ¬ (1 ≤ value.num ∧ value.num ≤ 4094) := by omega
          simp only [whole, true_and, if_neg large, if_neg small, Option.filter_none]
      · simp [whole]
  | _ => rfl

/-! ## Port settings -/

def portEntries (details : List (String × Json)) : List (String × List (String × Json)) :=
  (((details.lookup "port_config").bind Json.asObject).getD []).filterMap fun entry =>
    entry.2.asObject.map fun settings => (entry.1, settings)

theorem lookup_map_snd {α β : Type} (read : α → β) (handle : String) :
    ∀ entries : List (String × α),
      (entries.map fun entry => (entry.1, read entry.2)).lookup handle =
        (entries.lookup handle).map read
  | [] => rfl
  | head :: tail => by
      rw [List.map_cons, Table.lookup_cons, Table.lookup_cons]
      split
      · rfl
      · exact lookup_map_snd read handle tail

theorem lookup_serverConfig (handle : String) :
    (Wiring.readPortConfig details).lookup handle =
      ((portEntries details).lookup handle).map Wiring.readPortSettings := by
  rw [← lookup_map_snd, portEntries, List.map_filterMap]
  simp only [Wiring.readPortConfig, Option.map_map, Function.comp_def]

theorem lookup_canvasConfig (handle : String) :
    (readPortConfig (.obj details)).lookup handle =
      ((portEntries details).lookup handle).map readPortSettings := by
  rw [← lookup_map_snd, portEntries, List.map_filterMap]
  simp only [readPortConfig, Json.asObject, Option.bind_some, Option.map_map, Function.comp_def]

/-- What the server accepts as the settings of a port. -/
structure Accepted (nodeType : String) (entry : List (String × Json)) : Prop where
  settings : hasPortSettings nodeType = true
  tagged : nodeType ≠ "switch" → entry.lookup "tagged_vlans" = none

theorem accepted_of_validatePortConfig {ports : Int} {handle : String}
    {entry : List (String × Json)} (valid : validatePortConfig nodeType details ports = none)
    (found : (portEntries details).lookup handle = some entry) : Accepted nodeType entry := by
  have member := Table.mem_of_lookup found
  rcases List.mem_filterMap.mp member with ⟨port, listed, isEntry⟩
  rcases Option.map_eq_some_iff.mp isEntry with ⟨members, isObject, same⟩
  cases same
  unfold validatePortConfig at valid
  cases stored : details.lookup "port_config" with
  | none => simp [stored] at listed
  | some value =>
      cases value with
      | obj config =>
          rw [stored] at valid listed
          simp only [Json.asObject, Option.bind_some, Option.getD_some] at valid listed
          split at valid
          · cases valid
          · rename_i settings
            refine ⟨by simpa using settings, fun noSwitch => ?_⟩
            have inOrder : port ∈ byKey config := (List.mem_insertionSort _).mpr listed
            have portValid := List.findSome?_eq_none_iff.mp valid port inOrder
            unfold Wiring.portComplaint at portValid
            split at portValid
            · cases portValid
            · rw [isObject] at portValid
              rw [Option.map_eq_none_iff, List.findSome?_eq_none_iff] at portValid
              cases tagged : entry.lookup "tagged_vlans" with
              | none => rfl
              | some value =>
                  have inEntry : ("tagged_vlans", value) ∈ byKey entry :=
                    (List.mem_insertionSort _).mpr (Table.mem_of_lookup tagged)
                  have complaint := portValid _ inEntry
                  simp [Wiring.settingComplaint, noSwitch] at complaint
      | _ => simp [stored, Json.asObject] at listed

theorem untaggedVlan_eq (entry : List (String × Json)) :
    (readPortSettings entry).untaggedVlan =
      (some (Wiring.readPortSettings entry).untaggedVLAN).filter isVLANID := by
  simp only [readPortSettings, Wiring.readPortSettings]
  cases entry.lookup "untagged_vlan" with
  | none => rfl
  | some value =>
      rw [Option.bind_some, Option.bind_some, vlanId_eq]
      cases integer value <;> rfl

theorem taggedVlans_eq (entry : List (String × Json)) :
    (readPortSettings entry).taggedVlans.getD [] =
      (Wiring.readPortSettings entry).taggedVLANs.filter isVLANID := by
  simp only [readPortSettings, Wiring.readPortSettings]
  cases (entry.lookup "tagged_vlans").bind Json.asArray with
  | none => rfl
  | some items =>
      have read : items.filterMap vlanId = (items.filterMap integer).filter isVLANID := by
        rw [List.filter_filterMap]
        exact List.filterMap_congr fun value _ => vlanId_eq value
      rw [Option.bind_some, Option.getD_some, read]
      split
      · rename_i empty
        exact empty.symm
      · rfl

theorem insertionSort_congr {left right : List Int} (leftOnce : left.Nodup)
    (rightOnce : right.Nodup) (same : ∀ id, id ∈ left ↔ id ∈ right) :
    left.insertionSort (· ≤ ·) = right.insertionSort (· ≤ ·) := by
  have equal : left.Perm right := (List.perm_ext_iff_of_nodup leftOnce rightOnce).mpr same
  have sorted : (left.insertionSort (· ≤ ·)).Perm (right.insertionSort (· ≤ ·)) :=
    (List.perm_insertionSort _ left).trans (equal.trans (List.perm_insertionSort _ right).symm)
  exact sorted.eq_of_sortedLE List.sortedLE_insertionSort List.sortedLE_insertionSort

theorem mem_portVlans {entry : List (String × Json)} (accepted : Accepted nodeType entry)
    {id : Int} : id ∈ portVlans (readPortSettings entry) ↔
      id ∈ Wiring.portVLANs nodeType (Wiring.readPortSettings entry) := by
  have onSwitch : id ∈ (Wiring.readPortSettings entry).taggedVLANs → nodeType = "switch" := by
    intro tagged
    by_contra noSwitch
    simp [Wiring.readPortSettings, accepted.tagged noSwitch] at tagged
  rw [portVlans, mem_foldl_appendNew, Wiring.mem_portVLANs, taggedVlans_eq, untaggedVlan_eq,
    List.mem_append, List.mem_filter, Option.mem_toList, Option.filter_eq_some_iff,
    Option.some.injEq]
  constructor
  · rintro (old | ⟨⟨tagged, valid⟩ | ⟨rfl, valid⟩, _⟩)
    · cases old
    · exact ⟨valid, .inr ⟨onSwitch tagged, tagged⟩⟩
    · exact ⟨valid, .inl rfl⟩
  · rintro ⟨valid, rfl | ⟨_, tagged⟩⟩
    · exact .inr ⟨.inr ⟨rfl, valid⟩, rfl⟩
    · exact .inr ⟨.inl ⟨tagged, valid⟩, rfl⟩

theorem vlanSet_eq {ports : Int} (valid : validatePortConfig nodeType details ports = none)
    (handle : String) :
    vlanSet ⟨nodeType, .obj details⟩ handle =
      if Wiring.vlanSet nodeType details handle = [] then none
      else some (Wiring.vlanSet nodeType details handle) := by
  unfold vlanSet Wiring.vlanSet
  rw [lookup_canvasConfig, lookup_serverConfig]
  cases found : (portEntries details).lookup handle with
  | none => simp
  | some entry =>
      have accepted := accepted_of_validatePortConfig valid found
      have kept : recordHas vlanTypes nodeType = true := by
        unfold recordHas
        rw [Bool.or_eq_true]
        exact .inl accepted.settings
      have same : (portVlans (readPortSettings entry)).insertionSort (· ≤ ·) =
          (Wiring.portVLANs nodeType (Wiring.readPortSettings entry)).insertionSort (· ≤ ·) :=
        insertionSort_congr (nodup_foldl_appendNew _ List.nodup_nil)
          (Wiring.nodup_portVLANs _ _) fun _ => mem_portVlans accepted
      simp only [kept, accepted.settings, Bool.not_true, Bool.false_eq_true, if_false,
        Option.map_some, same]

/-! ## Colours -/

theorem isColor_ne_empty {text : String} (color : isColor text = true) : text ≠ "" := by
  rintro rfl
  simp [isColor] at color

theorem color_of_fields {id : Int} {entry : List (String × Json)}
    (valid : entry.findSome? (fun field => Wiring.vlanFieldComplaint id field.1 field.2) = none) :
    ((entry.lookup "color").bind Json.asString).bind nonEmpty =
      Option.guard (isColor ·) (((entry.lookup "color").bind Json.asString).getD "") := by
  cases stored : entry.lookup "color" with
  | none => rfl
  | some value =>
      have complaint := List.findSome?_eq_none_iff.mp valid _ (Table.mem_of_lookup stored)
      have color : isColor (value.asString.getD "") = true := by
        by_contra malformed
        simp [Wiring.vlanFieldComplaint, Wiring.complain, malformed] at complaint
      cases text : value.asString with
      | none =>
          rw [text] at color
          simp [isColor] at color
      | some shown =>
          rw [text, Option.getD_some] at color
          simp [text, nonEmpty, Option.guard, color, isColor_ne_empty color]

/-- What the two sides read of the first VLAN of a table the server accepts. -/
structure FirstVlan (seen : List Int) (rest : List Json) (vlan : Wiring.VLAN) (shown : VlanDef) :
    Prop where
  id : shown.id = vlan.id
  color : shown.color = Option.guard (isColor ·) vlan.color
  unseen : vlan.id ∉ seen
  rest : Wiring.vlanComplaint (vlan.id :: seen) rest = none

theorem firstVlan_of_vlanComplaint {seen : List Int} {item : Json} {rest : List Json}
    (valid : Wiring.vlanComplaint seen (item :: rest) = none) :
    ∃ vlan shown, item.asObject.bind Wiring.readVLAN = some vlan ∧
      item.asObject.bind readVlan = some shown ∧ FirstVlan seen rest vlan shown := by
  unfold Wiring.vlanComplaint at valid
  cases item with
  | obj entry =>
      simp only [Json.asObject] at valid
      cases read : (entry.lookup "id").bind integer with
      | none => simp [read] at valid
      | some id =>
          rw [read] at valid
          by_cases inRange : isVLANID id = true
          · have shown : (entry.lookup "id").bind vlanId = some id := by
              rcases Option.bind_eq_some_iff.mp read with ⟨value, stored, isID⟩
              rw [stored, Option.bind_some, vlanId_eq, isID]
              simp [Option.filter_some, inRange]
            simp only [Option.filter_some, inRange, if_true] at valid
            split at valid
            · cases valid
            · rename_i unseen
              split at valid
              · cases valid
              · rename_i fields
                split at valid
                · cases valid
                · simp only [Json.asObject, Option.bind_some]
                  refine ⟨_, _, by rw [Wiring.readVLAN, read, Option.map_some],
                    by rw [readVlan, shown, Option.map_some], rfl, ?_, unseen, valid⟩
                  exact color_of_fields fields
          · simp [Option.filter_some, inRange] at valid
  | _ => simp [Json.asObject] at valid

theorem find?_seen {id : Int} : ∀ (items : List Json) {seen : List Int},
    Wiring.vlanComplaint seen items = none → id ∈ seen → ∀ keep : Wiring.VLAN → Bool,
    (items.filterMap fun item => item.asObject.bind Wiring.readVLAN).find?
      (fun vlan => vlan.id = id && keep vlan) = none
  | [], _, _, _, _ => rfl
  | item :: rest, seen, valid, member, keep => by
      rcases firstVlan_of_vlanComplaint valid with ⟨vlan, _, read, _, first⟩
      have different : vlan.id ≠ id := fun same => first.unseen (same ▸ member)
      simp only [List.filterMap_cons, read]
      rw [List.find?_cons_of_neg (by simp [different])]
      exact find?_seen rest first.rest (List.mem_cons_of_mem _ member) keep

theorem find?_color {id : Int} : ∀ (items : List Json) {seen : List Int},
    Wiring.vlanComplaint seen items = none →
    ((items.filterMap fun item => item.asObject.bind readVlan).find? (·.id = id)).bind (·.color) =
      ((items.filterMap fun item => item.asObject.bind Wiring.readVLAN).find?
        fun vlan => vlan.id = id && isColor vlan.color).map (·.color)
  | [], _, _ => rfl
  | item :: rest, seen, valid => by
      rcases firstVlan_of_vlanComplaint valid with ⟨vlan, shown, read, reads, first⟩
      simp only [List.filterMap_cons, read, reads]
      by_cases here : vlan.id = id
      · rw [List.find?_cons_of_pos (by simp [first.id, here]), Option.bind_some, first.color]
        by_cases colored : isColor vlan.color = true
        · rw [List.find?_cons_of_pos (by simp [here, colored])]
          simp [Option.guard, colored]
        · rw [List.find?_cons_of_neg (by simp [colored]),
            find?_seen rest first.rest (by simp [here])]
          simp [Option.guard, colored]
      · rw [List.find?_cons_of_neg (by simp [first.id, here]),
          List.find?_cons_of_neg (by simp [here])]
        exact find?_color rest first.rest

theorem colorOf_eq (valid : validateVLANs nodeType details = none) (id : Int) :
    colorOf ⟨nodeType, .obj details⟩ id = shownColor (Wiring.vlanColor details id) := by
  have read : ∃ items, ((details.lookup "vlans").bind Json.asArray).getD [] = items ∧
      Wiring.vlanComplaint [] items = none := by
    unfold validateVLANs at valid
    cases stored : details.lookup "vlans" with
    | none => exact ⟨[], rfl, rfl⟩
    | some value =>
        cases value with
        | arr items =>
            rw [stored] at valid
            simp only [Json.asArray] at valid
            split at valid
            · cases valid
            · split at valid
              · cases valid
              · exact ⟨items, rfl, valid⟩
        | _ => exact ⟨[], rfl, rfl⟩
  rcases read with ⟨items, isItems, accepted⟩
  rw [colorOf, readVlans, Json.asObject, Option.bind_some, isItems, find?_color items accepted,
    Wiring.vlanColor, Wiring.readVLANs, isItems]
  cases found : (items.filterMap fun item => item.asObject.bind Wiring.readVLAN).find?
    fun vlan => vlan.id = id && isColor vlan.color with
  | none => rfl
  | some vlan =>
      have colored := List.find?_some found
      rw [Bool.and_eq_true] at colored
      simp [shownColor, isColor_ne_empty colored.2]

/-! ## Cables -/

structure SameReading (canvas : CableVlan) (server : Wiring.CableVLAN) : Prop where
  vlans : canvas.vlans = server.vlans
  color : canvas.color.getD "" = server.color
  mismatch : canvas.mismatch = server.mismatch

/-- A device whose port settings and VLANs the server accepts. -/
structure ValidDevice (nodeType : String) (details : List (String × Json)) (ports : Int) :
    Prop where
  portConfig : validatePortConfig nodeType details ports = none
  vlans : validateVLANs nodeType details = none

def canvasEnd (cableEnd : Wiring.CableEnd) : PortNode × String :=
  (⟨cableEnd.nodeType, .obj cableEnd.details⟩, cableEnd.handle)

theorem untaggedColor_eq {cableEnd : Wiring.CableEnd} {ports : Int}
    (valid : ValidDevice cableEnd.nodeType cableEnd.details ports) {vlans : List Int}
    (inRange : ∀ id ∈ vlans, isVLANID id = true) :
    untaggedColor vlans (canvasEnd cableEnd) = Wiring.untaggedColor vlans cableEnd := by
  unfold untaggedColor Wiring.untaggedColor canvasEnd
  dsimp only
  rw [lookup_canvasConfig, lookup_serverConfig]
  split
  · rfl
  · cases (portEntries cableEnd.details).lookup cableEnd.handle with
    | none =>
        have unset : (0 : Int) ∉ vlans := fun member => by
          have valid := inRange 0 member
          simp [isVLANID] at valid
        simp [unset]
    | some entry =>
        rw [Option.map_some, Option.bind_some, untaggedVlan_eq, Option.map_some, Option.getD_some]
        by_cases known : isVLANID (Wiring.readPortSettings entry).untaggedVLAN = true
        · simp only [Option.filter_some, known, if_true, colorOf_eq valid.vlans]
        · have absent : (Wiring.readPortSettings entry).untaggedVLAN ∉ vlans :=
            fun member => known (inRange _ member)
          simp only [Option.filter_some, known, Bool.false_eq_true, if_false, if_neg absent]

theorem findSome?_congr {α β : Type} {left right : α → Option β} : ∀ {items : List α},
    (∀ item ∈ items, left item = right item) → items.findSome? left = items.findSome? right
  | [], _ => rfl
  | head :: tail, same => by
      rw [List.findSome?_cons, List.findSome?_cons, same head List.mem_cons_self,
        findSome?_congr fun item member => same item (List.mem_cons_of_mem head member)]

theorem cableColor_eq {ends : List Wiring.CableEnd}
    (valid : ∀ cableEnd ∈ ends, ∃ ports,
      ValidDevice cableEnd.nodeType cableEnd.details ports) {vlans : List Int}
    (inRange : ∀ id ∈ vlans, isVLANID id = true) :
    (cableColor (ends.map canvasEnd) vlans).getD "" = Wiring.cableColor ends vlans := by
  have untagged : (ends.map canvasEnd).findSome? (untaggedColor vlans) =
      ends.findSome? (Wiring.untaggedColor vlans) := by
    rw [List.findSome?_map]
    apply findSome?_congr
    intro cableEnd member
    rcases valid cableEnd member with ⟨_, device⟩
    exact untaggedColor_eq device inRange
  have lowest (id : Int) : (ends.map canvasEnd).findSome? (fun cableEnd => colorOf cableEnd.1 id) =
      ends.findSome? fun cableEnd => shownColor (Wiring.vlanColor cableEnd.details id) := by
    rw [List.findSome?_map]
    apply findSome?_congr
    intro cableEnd member
    rcases valid cableEnd member with ⟨_, device⟩
    exact colorOf_eq device.vlans id
  simp only [cableColor, Wiring.cableColor, untagged, lowest]

theorem isVLANID_of_mem_vlanSet {handle : String} {id : Int}
    (member : id ∈ Wiring.vlanSet nodeType details handle) : isVLANID id = true := by
  unfold Wiring.vlanSet at member
  split at member
  · cases member
  · split at member
    · cases member
    · exact (Wiring.mem_portVLANs.mp ((List.mem_insertionSort _).mp member)).1

/-- The canvas and the server agree on every network cable between devices the
server accepts. -/
theorem cableVlan_agrees {srcType tgtType srcHandle tgtHandle : String}
    {srcDetails tgtDetails : List (String × Json)} {srcPorts tgtPorts : Int}
    (source : ValidDevice srcType srcDetails srcPorts)
    (target : ValidDevice tgtType tgtDetails tgtPorts)
    (sourcePlain : isPowerHandle srcHandle = false)
    (targetPlain : isPowerHandle tgtHandle = false) :
    SameReading (cableVlan ⟨srcType, .obj srcDetails⟩ srcHandle ⟨tgtType, .obj tgtDetails⟩ tgtHandle)
      (Wiring.cableVLAN srcType srcDetails srcHandle tgtType tgtDetails tgtHandle) := by
  unfold cableVlan Wiring.cableVLAN Wiring.defaultHandles
  simp only [sourcePlain, targetPlain, Bool.or_self, Bool.false_eq_true, if_false]
  generalize (if srcHandle = "" then "eth0" else srcHandle) = sourcePort
  generalize (if tgtHandle = "" then "target-0" else tgtHandle) = targetPort
  have colors (vlans : List Int) (inRange : ∀ id ∈ vlans, isVLANID id = true) :
      (cableColor [(⟨srcType, .obj srcDetails⟩, sourcePort),
          (⟨tgtType, .obj tgtDetails⟩, targetPort)] vlans).getD "" =
        Wiring.cableColor [⟨srcType, srcDetails, sourcePort⟩, ⟨tgtType, tgtDetails, targetPort⟩]
          vlans := by
    have devices : ∀ cableEnd ∈ [(⟨srcType, srcDetails, sourcePort⟩ : Wiring.CableEnd),
        ⟨tgtType, tgtDetails, targetPort⟩], ∃ ports,
          ValidDevice cableEnd.nodeType cableEnd.details ports := by
      intro cableEnd member
      rcases List.mem_cons.mp member with rfl | member
      · exact ⟨srcPorts, source⟩
      · rw [List.mem_singleton.mp member]
        exact ⟨tgtPorts, target⟩
    exact cableColor_eq devices inRange
  rw [vlanSet_eq source.portConfig, vlanSet_eq target.portConfig]
  have sourceRange : ∀ id ∈ Wiring.vlanSet srcType srcDetails sourcePort, isVLANID id = true :=
    fun _ => isVLANID_of_mem_vlanSet
  have targetRange : ∀ id ∈ Wiring.vlanSet tgtType tgtDetails targetPort, isVLANID id = true :=
    fun _ => isVLANID_of_mem_vlanSet
  generalize Wiring.vlanSet srcType srcDetails sourcePort = sourceSet at sourceRange
  generalize Wiring.vlanSet tgtType tgtDetails targetPort = targetSet at targetRange
  have filtered : ∀ id ∈ sourceSet.filter (· ∈ targetSet), isVLANID id = true :=
    fun id member => sourceRange id (List.mem_of_mem_filter member)
  by_cases noSource : sourceSet = []
  · by_cases noTarget : targetSet = []
    · simp only [noSource, noTarget, ne_eq, not_true_eq_false, and_self, if_true, if_false]
      exact ⟨rfl, rfl, rfl⟩
    · simp only [noSource, noTarget, ne_eq, not_true_eq_false, not_false_eq_true, false_and,
        if_true, if_false]
      exact ⟨rfl, colors _ targetRange, rfl⟩
  · by_cases noTarget : targetSet = []
    · simp only [noSource, noTarget, ne_eq, not_true_eq_false, not_false_eq_true, and_false,
        if_true, if_false]
      exact ⟨rfl, colors _ sourceRange, rfl⟩
    · simp only [noSource, noTarget, ne_eq, not_false_eq_true, and_self, if_true, if_false]
      split
      · rename_i apart
        exact ⟨apart, rfl, rfl⟩
      · exact ⟨rfl, colors _ filtered, rfl⟩

/-! ## Power cables -/

/-- A switch with one untagged VLAN on its first port. -/
def vlanSwitch : List (String × Json) :=
  [("vlans", .arr [.obj [("id", .num 10), ("name", .str "servers"), ("color", .str "#3b82f6")]]),
    ("port_config", .obj [("eth0", .obj [("untagged_vlan", .num 10)])])]

theorem validDevice_vlanSwitch : ValidDevice "switch" vlanSwitch 4 where
  portConfig := by decide
  vlans := by decide

theorem cableVlan_agrees_vlanSwitch :
    SameReading (cableVlan ⟨"switch", .obj vlanSwitch⟩ "" ⟨"server", .obj []⟩ "")
      (Wiring.cableVLAN "switch" vlanSwitch "" "server" [] "") :=
  cableVlan_agrees validDevice_vlanSwitch (⟨rfl, rfl⟩ : ValidDevice "server" [] 1)
    (by decide) (by decide)

/-- On a power handle the server reads the VLANs of the other end. -/
theorem cableVlan_ignores_power :
    ¬ ∀ (srcType tgtType srcHandle tgtHandle : String) (srcDetails tgtDetails : List (String × Json))
      (srcPorts tgtPorts : Int), ValidDevice srcType srcDetails srcPorts →
      ValidDevice tgtType tgtDetails tgtPorts →
      SameReading
        (cableVlan ⟨srcType, .obj srcDetails⟩ srcHandle ⟨tgtType, .obj tgtDetails⟩ tgtHandle)
        (Wiring.cableVLAN srcType srcDetails srcHandle tgtType tgtDetails tgtHandle) := by
  intro claim
  have reading := claim "ups" "switch" "pwr-out-0" "eth0" [] vlanSwitch 4 4 ⟨rfl, rfl⟩
    validDevice_vlanSwitch
  have canvas : (cableVlan ⟨"ups", .obj []⟩ "pwr-out-0" ⟨"switch", .obj vlanSwitch⟩ "eth0").vlans =
      [] := by decide
  have server : (Wiring.cableVLAN "ups" [] "pwr-out-0" "switch" vlanSwitch "eth0").vlans = [10] := by
    decide
  rw [reading.vlans, server] at canvas
  cases canvas

end HomelabBuilder.Canvas
