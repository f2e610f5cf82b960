import HomelabBuilder.Foundation.Rows
import HomelabBuilder.Gaming.PlanSettings

/-! # What a plan patch names

`MergePlan` on patches with exact key names overrides the settings they name.
-/

namespace HomelabBuilder.Gaming

open Json (decodeField decodeStruct decodeSlice)

/-! ## Merged objects -/

/-- What a merge leaves under a key: the patch's member decides. -/
def mergedValue (old : Option Json) : Json → Option Json
  | .null => none
  | .obj members => some (.obj (mergePatch ((old.bind Json.asObject).getD []) members))
  | value => some value

@[simp]
theorem lookup_mergeEntry (target : List (String × Json)) (key other : String) (value : Json) :
    (mergeEntry target key value).lookup other =
      if other = key then mergedValue (target.lookup key) value else target.lookup other := by
  cases value with
  | null =>
      rw [mergeEntry, Table.lookup_erase]
      split <;> rfl
  | _ =>
      rw [mergeEntry, Table.lookup_set]
      split <;> rfl

theorem lookup_mergePatch (key : String) : ∀ {patch target : List (String × Json)},
    (patch.map Prod.fst).Nodup →
      (mergePatch target patch).lookup key =
        match patch.lookup key with
        | none => target.lookup key
        | some value => mergedValue (target.lookup key) value
  | [], _, _ => by rw [mergePatch, List.lookup_nil]
  | (first, value) :: rest, target, distinct => by
      rw [List.map_cons, List.nodup_cons] at distinct
      rw [mergePatch, lookup_mergePatch key distinct.2, lookup_mergeEntry, Table.lookup_cons]
      by_cases here : key = first
      · subst here
        have absent : rest.lookup key = none := by
          rw [List.lookup_eq_none_iff]
          intro entry listed
          apply bne_iff_ne.mpr
          rintro rfl
          exact distinct.1 (List.mem_map.mpr ⟨entry, listed, rfl⟩)
        rw [absent, if_pos rfl, if_pos rfl]
      · rw [if_neg here, if_neg here]

theorem keys_mergeEntry {target : List (String × Json)} {key : String} {value : Json}
    (distinct : (target.map Prod.fst).Nodup) :
    ((mergeEntry target key value).map Prod.fst).Nodup := by
  cases value with
  | null => exact Table.nodup_erase distinct key
  | _ => exact Table.nodup_set distinct key _

theorem nodup_mergePatch : ∀ {patch target : List (String × Json)},
    (target.map Prod.fst).Nodup → ((mergePatch target patch).map Prod.fst).Nodup
  | [], _, distinct => distinct
  | (_, _) :: _, _, distinct => by
      rw [mergePatch]
      exact nodup_mergePatch (keys_mergeEntry distinct)

theorem mem_mergeEntry {target : List (String × Json)} {key : String} {value : Json}
    {entry : String × Json} (listed : entry ∈ mergeEntry target key value) :
    entry.1 = key ∨ ∃ old ∈ target, old.1 = entry.1 := by
  cases value with
  | null => exact Or.inr ⟨entry, List.mem_of_mem_filter listed, rfl⟩
  | _ =>
      rcases Table.mem_set listed with rfl | old
      · exact Or.inl rfl
      · exact Or.inr ⟨entry, old, rfl⟩

theorem mem_mergePatch {entry : String × Json} : ∀ {patch target : List (String × Json)},
    entry ∈ mergePatch target patch → (∃ old ∈ target, old.1 = entry.1) ∨
      ∃ new ∈ patch, new.1 = entry.1
  | [], _, listed => Or.inl ⟨entry, listed, rfl⟩
  | (key, value) :: rest, target, listed => by
      rw [mergePatch] at listed
      rcases mem_mergePatch listed with ⟨old, inMerged, same⟩ | ⟨new, inRest, same⟩
      · rcases mem_mergeEntry inMerged with here | ⟨before, inTarget, sameOld⟩
        · exact Or.inr ⟨(key, value), List.mem_cons_self, here.symm.trans same⟩
        · exact Or.inl ⟨before, inTarget, sameOld.trans same⟩
      · exact Or.inr ⟨new, List.mem_cons_of_mem _ inRest, same⟩

/-! ## Objects with exact keys -/

section Exact

variable {members : List (String × Json)} {name : String}

/-- No key differs from the name in case only. -/
def ExactAt (members : List (String × Json)) (name : String) : Prop :=
  ∀ member ∈ members, Json.foldCase member.1 = Json.foldCase name → member.1 = name

theorem decodeField_of_exact {α : Type} (decode : Json → Option α) (zero : α)
    (exact : ExactAt members name) :
    decodeField decode members name zero =
      match members.lookup name with
      | none => some zero
      | some .null => some zero
      | some value => decode value := by
  cases found : members.lookup name with
  | none =>
      have variants : members.filter
          (fun member => Json.foldCase member.1 = Json.foldCase name) = [] := by
        rw [List.filter_eq_nil_iff]
        intro member listed folded
        have same := exact member listed (of_decide_eq_true folded)
        rw [List.lookup_eq_none_iff] at found
        exact absurd same.symm (bne_iff_ne.mp (found member listed))
      rw [decodeField, Json.field, found, Option.bind_none]
      dsimp only
      rw [variants]
      rfl
  | some value =>
      rw [decodeField, Json.field, found]
      cases value <;> rfl

theorem flatMap_of_exact {α : Type} (items : Json → List α)
    (distinct : (members.map Prod.fst).Nodup) (exact : ExactAt members name) :
    (members.flatMap fun member =>
      if Json.foldCase member.1 = Json.foldCase name then items member.2 else []) =
      ((members.lookup name).map items).getD [] := by
  induction members with
  | nil => rfl
  | cons member rest induction =>
      rw [List.map_cons, List.nodup_cons] at distinct
      have later := induction distinct.2
        fun other listed => exact other (List.mem_cons_of_mem _ listed)
      rcases member with ⟨key, value⟩
      rw [List.flatMap_cons, later, Table.lookup_cons]
      by_cases here : name = key
      · subst here
        have absent : rest.lookup name = none := by
          rw [List.lookup_eq_none_iff]
          intro entry listed
          apply bne_iff_ne.mpr
          intro same
          exact distinct.1 (List.mem_map.mpr ⟨entry, listed, same.symm⟩)
        rw [if_pos rfl, if_pos rfl, absent]
        exact List.append_nil _
      · rw [if_neg here, if_neg fun folded => here (exact _ List.mem_cons_self folded).symm]
        rfl

end Exact

/-! ## Patches -/

namespace Setting

/-- What a patch says about a setting; nulling the object that holds it nulls it. -/
def named (patch : List (String × Json)) (setting : Setting) : Option Json :=
  match patch.lookup setting.part with
  | none => none
  | some .null => some .null
  | some (.obj members) => members.lookup setting.name
  | some _ => none

end Setting

/-- A patch names settings by their exact keys, each once. -/
structure IsExactPatch (patch : List (String × Json)) : Prop where
  keys : (patch.map Prod.fst).Nodup
  parts : ∀ member ∈ patch, ∃ setting : Setting, setting.part = member.1
  inner : ∀ member ∈ patch, ∀ members, member.2 = .obj members →
    (members.map Prod.fst).Nodup ∧
      ∀ entry ∈ members, ∃ setting : Setting, setting.part = member.1 ∧ setting.name = entry.1

/-- The parts a patch names are objects or null. -/
def IsPartwise (patch : List (String × Json)) : Prop :=
  ∀ setting : Setting, ∀ value, patch.lookup setting.part = some value →
    value = .null ∨ ∃ members, value = .obj members

/-- Circuits a patch gives have no members a circuit does not know. -/
def KnowsCircuits (patch : List (String × Json)) : Prop :=
  ∀ value, Setting.circuits.named patch = some value →
    ∀ circuit ∈ value.asArray.getD [],
      knownFields ["id", "label", "breaker_amps"] circuit.members = true

/-! ## Parts -/

def Setting.toJson (plan : Plan) : Setting → Json
  | .downMbps => .num plan.uplink.downMbps
  | .upMbps => .num plan.uplink.upMbps
  | .cgnat => .str plan.uplink.cgnat
  | .publicHost => .str plan.uplink.publicHost
  | .mainsVoltage => .num plan.power.mainsVoltage
  | .circuits => .arr (plan.power.circuits.map Circuit.toJson)
  | .date => .str plan.event.date
  | .hours => .num plan.event.hours

/-- The members of a part before the merge. -/
def oldMembers (plan : Plan) (part : String) : List (String × Json) :=
  ((plan.members.lookup part).bind Json.asObject).getD []

theorem lookup_oldMembers (plan : Plan) (setting : Setting) :
    (oldMembers plan setting.part).lookup setting.name = some (setting.toJson plan) := by
  cases setting <;> rfl

theorem lookup_members (plan : Plan) (setting : Setting) :
    plan.members.lookup setting.part = some (.obj (oldMembers plan setting.part)) := by
  cases setting <;> rfl

theorem nodup_oldMembers (plan : Plan) (setting : Setting) :
    ((oldMembers plan setting.part).map Prod.fst).Nodup := by
  cases setting <;> exact of_decide_eq_true rfl

theorem mem_oldMembers (plan : Plan) (setting : Setting) :
    ∀ entry ∈ oldMembers plan setting.part,
      ∃ other : Setting, other.part = setting.part ∧ other.name = entry.1 := by
  have known : ∀ key ∈ (oldMembers plan setting.part).map Prod.fst,
      ∃ other ∈ Setting.all, other.part = setting.part ∧ other.name = key := by
    cases setting <;> exact of_decide_eq_true rfl
  intro entry listed
  rcases known _ (List.mem_map_of_mem listed) with ⟨other, _, same⟩
  exact ⟨other, same⟩

def partMembers (plan : Plan) (patch : List (String × Json)) (part : String) :
    List (String × Json) :=
  match patch.lookup part with
  | some (.obj members) => mergePatch (oldMembers plan part) members
  | some _ => []
  | none => oldMembers plan part

section Parts

variable {plan : Plan} {patch : List (String × Json)}

theorem lookup_partMembers (exact : IsExactPatch patch) (partwise : IsPartwise patch)
    (setting : Setting) :
    (partMembers plan patch setting.part).lookup setting.name =
      match setting.named patch with
      | none => some (setting.toJson plan)
      | some value => mergedValue (some (setting.toJson plan)) value := by
  rw [partMembers, Setting.named]
  cases found : patch.lookup setting.part with
  | none => exact lookup_oldMembers plan setting
  | some value =>
      rcases partwise setting value found with rfl | ⟨members, rfl⟩
      · rfl
      · have inner := exact.inner _ (Table.mem_of_lookup found) members rfl
        dsimp only
        rw [lookup_mergePatch setting.name inner.1, lookup_oldMembers]

theorem nodup_partMembers (setting : Setting) :
    ((partMembers plan patch setting.part).map Prod.fst).Nodup := by
  rw [partMembers]
  split
  · exact nodup_mergePatch (nodup_oldMembers plan setting)
  · exact List.nodup_nil
  · exact nodup_oldMembers plan setting

theorem mem_partMembers (exact : IsExactPatch patch) (setting : Setting) :
    ∀ entry ∈ partMembers plan patch setting.part,
      ∃ other : Setting, other.part = setting.part ∧ other.name = entry.1 := by
  intro entry listed
  rw [partMembers] at listed
  split at listed
  · rename_i members found
    rcases mem_mergePatch listed with ⟨old, inOld, same⟩ | ⟨new, inNew, same⟩
    · rcases mem_oldMembers plan setting old inOld with ⟨other, inPart, named⟩
      exact ⟨other, inPart, named.trans same⟩
    · rcases (exact.inner _ (Table.mem_of_lookup found) members rfl).2 new inNew with
        ⟨other, inPart, named⟩
      exact ⟨other, inPart, named.trans same⟩
  · cases listed
  · exact mem_oldMembers plan setting entry listed

theorem foldCase_name : ∀ {left right : Setting}, left.part = right.part →
    Json.foldCase left.name = Json.foldCase right.name → left.name = right.name := by
  have all : ∀ left ∈ Setting.all, ∀ right ∈ Setting.all, left.part = right.part →
      Json.foldCase left.name = Json.foldCase right.name → left.name = right.name := by
    decide
  intro left right
  exact all left (Setting.mem_all left) right (Setting.mem_all right)

theorem exactAt_partMembers (exact : IsExactPatch patch) (setting : Setting) :
    ExactAt (partMembers plan patch setting.part) setting.name := by
  intro entry listed folded
  rcases mem_partMembers exact setting entry listed with ⟨other, inPart, named⟩
  rw [← named] at folded ⊢
  exact foldCase_name inPart folded

theorem mem_mergePatch_part (exact : IsExactPatch patch) :
    ∀ entry ∈ mergePatch plan.members patch, ∃ other : Setting, other.part = entry.1 := by
  intro entry merged
  rcases mem_mergePatch merged with ⟨old, inOld, sameKey⟩ | ⟨new, inNew, sameKey⟩
  · have first : old.1 ∈ plan.members.map Prod.fst := List.mem_map_of_mem inOld
    have parts : ∀ key ∈ plan.members.map Prod.fst, ∃ other ∈ Setting.all, other.part = key :=
      of_decide_eq_true rfl
    rcases parts _ first with ⟨other, _, named⟩
    exact ⟨other, named.trans sameKey⟩
  · rcases exact.parts new inNew with ⟨other, named⟩
    exact ⟨other, named.trans sameKey⟩

theorem exactAt_mergePatch (exact : IsExactPatch patch) (setting : Setting) :
    ExactAt (mergePatch plan.members patch) setting.part := by
  have folded : ∀ left ∈ Setting.all, ∀ right ∈ Setting.all,
      Json.foldCase left.part = Json.foldCase right.part → left.part = right.part := by
    decide
  intro entry merged same
  rcases mem_mergePatch_part exact entry merged with ⟨other, named⟩
  rw [← named] at same ⊢
  exact folded other other.mem_all setting setting.mem_all same

theorem lookup_merged (exact : IsExactPatch patch) (setting : Setting) :
    (mergePatch plan.members patch).lookup setting.part =
      match patch.lookup setting.part with
      | none => some (.obj (oldMembers plan setting.part))
      | some value => mergedValue (some (.obj (oldMembers plan setting.part))) value := by
  rw [lookup_mergePatch setting.part exact.keys, lookup_members]

/-! ## Decoding -/

/-- One setting as the decoder reads it from its part. -/
def Setting.decodeIn (members : List (String × Json)) (setting : Setting) :
    Option setting.Value :=
  decodeField setting.decode members setting.name setting.zero

theorem decode_toJson (normal : plan.IsNormal) (setting : Setting) :
    setting.decode (setting.toJson plan) = some (setting.of plan) := by
  cases setting with
  | mainsVoltage =>
      change asInt (.num plan.power.mainsVoltage) = some plan.power.mainsVoltage
      rw [asInt, Json.asNumber, Option.bind_some, Rat.den_intCast, Rat.num_intCast,
        if_pos ⟨rfl, normal.mainsVoltage⟩]
  | circuits =>
      change (decodeSlice decodeCircuit (.arr (plan.power.circuits.map Circuit.toJson))).map
        (·.getD []) = some plan.power.circuits
      rw [decodeCircuits_toJson]
      rfl
  | _ => rfl

theorem decode_obj (setting : Setting) (members : List (String × Json)) :
    setting.decode (.obj members) = none := by
  cases setting <;> rfl

theorem toJson_ne_null (plan : Plan) (setting : Setting) : setting.toJson plan ≠ .null := by
  cases setting <;> nofun

theorem decodeIn_partMembers (normal : plan.IsNormal) (exact : IsExactPatch patch)
    (partwise : IsPartwise patch) (setting : Setting) :
    setting.decodeIn (partMembers plan patch setting.part) =
      match setting.named patch with
      | none => some (setting.of plan)
      | some value => setting.read value := by
  rw [Setting.decodeIn, decodeField_of_exact _ _ (exactAt_partMembers exact setting),
    lookup_partMembers exact partwise]
  cases setting.named patch with
  | none =>
      dsimp only
      have written := decode_toJson normal setting
      have given := toJson_ne_null plan setting
      generalize setting.toJson plan = value at written given ⊢
      cases value with
      | null => exact absurd rfl given
      | _ => exact written
  | some value =>
      cases value with
      | obj members =>
          dsimp only [mergedValue]
          rw [decode_obj, Setting.read, decode_obj]
          nofun
      | _ => rfl

theorem decodeField_map {α β : Type} (f : α → β) (decode : Json → Option α)
    (members : List (String × Json)) (name : String) (zero : α) :
    decodeField (fun value => (decode value).map f) members name (f zero) =
      (decodeField decode members name zero).map f := by
  rw [decodeField, decodeField]
  split <;> rfl

theorem decodeUplink_eq_some {members : List (String × Json)} {uplink : Uplink} :
    decodeUplink members = some uplink ↔
      Setting.decodeIn members .downMbps = some uplink.downMbps ∧
        Setting.decodeIn members .upMbps = some uplink.upMbps ∧
        Setting.decodeIn members .cgnat = some uplink.cgnat ∧
        Setting.decodeIn members .publicHost = some uplink.publicHost := by
  rcases uplink with ⟨downMbps, upMbps, cgnat, publicHost⟩
  have whole : decodeUplink members =
      (Setting.decodeIn members .downMbps).bind fun downMbps =>
        (Setting.decodeIn members .upMbps).bind fun upMbps =>
          (Setting.decodeIn members .cgnat).bind fun cgnat =>
            (Setting.decodeIn members .publicHost).bind fun publicHost =>
              some ⟨downMbps, upMbps, cgnat, publicHost⟩ := rfl
  rw [whole]
  simp only [Option.bind_eq_some_iff, Option.some.injEq]
  constructor
  · rintro ⟨_, down, _, up, _, behind, _, host, same⟩
    cases same
    exact ⟨down, up, behind, host⟩
  · rintro ⟨down, up, behind, host⟩
    exact ⟨_, down, _, up, _, behind, _, host, rfl⟩

theorem decodePower_eq_some {members : List (String × Json)} {power : Power} :
    decodePower members = some power ↔
      Setting.decodeIn members .mainsVoltage = some power.mainsVoltage ∧
        Setting.decodeIn members .circuits = some power.circuits := by
  rcases power with ⟨mainsVoltage, circuits⟩
  have slices : Setting.decodeIn members .circuits =
      (decodeField (decodeSlice decodeCircuit) members "circuits" none).map (·.getD []) :=
    decodeField_map (fun circuits : Option (List Circuit) => circuits.getD [])
      (decodeSlice decodeCircuit) members "circuits" none
  have whole : decodePower members =
      (Setting.decodeIn members .mainsVoltage).bind fun mainsVoltage =>
        (decodeField (decodeSlice decodeCircuit) members "circuits" none).bind fun circuits =>
          some ⟨mainsVoltage, circuits.getD []⟩ := rfl
  rw [whole, slices]
  simp only [Option.bind_eq_some_iff, Option.some.injEq]
  constructor
  · rintro ⟨_, voltage, read, given, same⟩
    cases same
    exact ⟨voltage, Option.map_eq_some_iff.mpr ⟨read, given, rfl⟩⟩
  · rintro ⟨voltage, listed⟩
    rcases Option.map_eq_some_iff.mp listed with ⟨read, given, same⟩
    exact ⟨_, voltage, read, given, congrArg (Power.mk mainsVoltage) same⟩

theorem decodeEvent_eq_some {members : List (String × Json)} {event : Event} :
    decodeEvent members = some event ↔
      Setting.decodeIn members .date = some event.date ∧
        Setting.decodeIn members .hours = some event.hours := by
  rcases event with ⟨date, hours⟩
  have whole : decodeEvent members =
      (Setting.decodeIn members .date).bind fun date =>
        (Setting.decodeIn members .hours).bind fun hours => some ⟨date, hours⟩ := rfl
  rw [whole]
  simp only [Option.bind_eq_some_iff, Option.some.injEq]
  constructor
  · rintro ⟨_, day, _, long, same⟩
    cases same
    exact ⟨day, long⟩
  · rintro ⟨day, long⟩
    exact ⟨_, day, _, long, rfl⟩

theorem decodePart_eq_some {α : Type} {decode : List (String × Json) → Option α} {zero : α}
    (empty : decode [] = some zero) (exact : IsExactPatch patch) (setting : Setting) {part : α} :
    decodeField (decodeStruct decode) (mergePatch plan.members patch) setting.part zero =
        some part ↔
      (∀ value, patch.lookup setting.part = some value →
        value = .null ∨ ∃ members, value = .obj members) ∧
      decode (partMembers plan patch setting.part) = some part := by
  rw [decodeField_of_exact _ _ (exactAt_mergePatch exact setting), lookup_merged exact,
    partMembers]
  cases patch.lookup setting.part with
  | none => exact ⟨fun read => ⟨nofun, read⟩, And.right⟩
  | some value =>
      cases value with
      | null =>
          dsimp only [mergedValue]
          rw [empty]
          exact ⟨fun read => ⟨fun _ same => Or.inl (Option.some.inj same).symm, read⟩, And.right⟩
      | obj members =>
          exact ⟨fun read => ⟨fun _ same => Or.inr ⟨members, (Option.some.inj same).symm⟩, read⟩,
            And.right⟩
      | _ =>
          constructor
          · nofun
          · rintro ⟨partwise, _⟩
            rcases partwise _ rfl with same | ⟨_, same⟩ <;> cases same

end Parts

end HomelabBuilder.Gaming
