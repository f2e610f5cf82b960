import HomelabBuilder.Gaming.PlanPatches

/-! # Replaying plan patches

`MergePlan` overrides the settings a patch names, so that patches can be replayed
and put in any order where they name different settings.
-/

namespace HomelabBuilder.Gaming

open Json (decodeField decodeStruct decodeSlice)

section

variable {plan result : Plan} {patch : List (String × Json)}

/-! ## Strict decoding -/

theorem knownFields_of_mem {fields : List String} {members : List (String × Json)}
    (known : ∀ member ∈ members, member.1 ∈ fields) : knownFields fields members = true := by
  rw [knownFields, List.all_eq_true]
  intro member listed
  exact List.any_eq_true.mpr ⟨member.1, known member listed, decide_eq_true rfl⟩

theorem membersAt_mergePatch (exact : IsExactPatch patch) (partwise : IsPartwise patch)
    (setting : Setting) :
    membersAt (mergePatch plan.members patch) setting.part =
      partMembers plan patch setting.part := by
  have distinct : (plan.members.map Prod.fst).Nodup := of_decide_eq_true rfl
  rw [membersAt, flatMap_of_exact Json.members (nodup_mergePatch distinct)
    (exactAt_mergePatch exact setting), lookup_merged exact, partMembers]
  cases found : patch.lookup setting.part with
  | none => rfl
  | some value => rcases partwise setting value found with rfl | ⟨members, rfl⟩ <;> rfl

theorem circuitsOf_partMembers (exact : IsExactPatch patch) (partwise : IsPartwise patch) :
    circuitsOf (partMembers plan patch "power") =
      match Setting.circuits.named patch with
      | none => plan.power.circuits.map Circuit.toJson
      | some value => value.asArray.getD [] := by
  have distinct : ((partMembers plan patch (Setting.part .circuits)).map Prod.fst).Nodup :=
    nodup_partMembers .circuits
  have read := flatMap_of_exact (fun value => value.asArray.getD []) distinct
    (exactAt_partMembers exact .circuits)
  rw [lookup_partMembers exact partwise .circuits] at read
  refine Eq.trans read ?_
  cases Setting.circuits.named patch with
  | none => rfl
  | some value => cases value <;> rfl

theorem isStrictPlan_mergePatch (exact : IsExactPatch patch) (partwise : IsPartwise patch) :
    isStrictPlan (mergePatch plan.members patch) = true ↔ KnowsCircuits patch := by
  have parts : knownFields ["uplink", "power", "event"] (mergePatch plan.members patch) = true := by
    apply knownFields_of_mem
    intro entry listed
    rcases mem_mergePatch_part exact entry listed with ⟨other, named⟩
    rw [← named]
    cases other <;> decide
  have names : ∀ (setting : Setting) (fields : List String),
      (∀ other ∈ Setting.all, other.part = setting.part → other.name ∈ fields) →
        knownFields fields (membersAt (mergePatch plan.members patch) setting.part) = true := by
    intro setting fields all
    rw [membersAt_mergePatch exact partwise]
    apply knownFields_of_mem
    intro entry listed
    rcases mem_partMembers exact setting entry listed with ⟨other, inPart, named⟩
    exact named ▸ all other other.mem_all inPart
  have uplink := names .downMbps ["down_mbps", "up_mbps", "cgnat", "public_host"] (by decide)
  have power := names .circuits ["mains_voltage", "circuits"] (by decide)
  have event := names .date ["date", "hours"] (by decide)
  have circuits : circuitsOf (membersAt (mergePatch plan.members patch) "power") = _ :=
    (congrArg circuitsOf (membersAt_mergePatch exact partwise .circuits)).trans
      (circuitsOf_partMembers exact partwise)
  have written : ∀ circuit : Circuit,
      knownFields ["id", "label", "breaker_amps"] circuit.toJson.members = true :=
    fun circuit => knownFields_of_mem (by simp [Circuit.toJson, Json.members, Json.asObject])
  change (_ && knownFields _ (membersAt _ (Setting.part .downMbps)) &&
    knownFields _ (membersAt _ (Setting.part .circuits)) &&
    knownFields _ (membersAt _ (Setting.part .date)) && _) = true ↔ _
  rw [parts, uplink, power, event, circuits, KnowsCircuits]
  simp only [Bool.true_and, List.all_eq_true]
  cases Setting.circuits.named patch with
  | none =>
      constructor
      · intro _ value given
        cases given
      · intro _ circuit listed
        rcases List.mem_map.mp listed with ⟨read, _, rfl⟩
        exact written read
  | some value =>
      constructor
      · intro known given same
        cases same
        exact known
      · exact fun known => known value rfl

/-! ## Merging setting by setting -/

theorem decodePlan_eq_some (exact : IsExactPatch patch) :
    decodePlan (mergePatch plan.members patch) = some result ↔
      IsPartwise patch ∧ ∀ setting : Setting,
        setting.decodeIn (partMembers plan patch setting.part) = some (setting.of result) := by
  have whole : decodePlan (mergePatch plan.members patch) =
      (decodeField (decodeStruct decodeUplink) (mergePatch plan.members patch)
        (Setting.part .downMbps) {}).bind fun uplink =>
        (decodeField (decodeStruct decodePower) (mergePatch plan.members patch)
          (Setting.part .circuits) {}).bind fun power =>
          (decodeField (decodeStruct decodeEvent) (mergePatch plan.members patch)
            (Setting.part .date) {}).bind fun event => some ⟨uplink, power, event⟩ := rfl
  rw [whole]
  simp only [Option.bind_eq_some_iff, decodePart_eq_some (show decodeUplink [] = some {} from rfl)
    exact, decodePart_eq_some (show decodePower [] = some {} from rfl) exact,
    decodePart_eq_some (show decodeEvent [] = some {} from rfl) exact, decodeUplink_eq_some,
    decodePower_eq_some, decodeEvent_eq_some]
  constructor
  · rintro ⟨uplink, ⟨uplinkPart, down, up, cgnat, host⟩, power, ⟨powerPart, voltage, circuits⟩,
      event, ⟨eventPart, date, hours⟩, same⟩
    cases same
    constructor
    · intro setting
      cases setting <;> first | exact uplinkPart | exact powerPart | exact eventPart
    · intro setting
      cases setting <;> assumption
  · rintro ⟨partwise, each⟩
    exact ⟨_, ⟨partwise .downMbps, each .downMbps, each .upMbps, each .cgnat, each .publicHost⟩,
      _, ⟨partwise .circuits, each .mainsVoltage, each .circuits⟩,
      _, ⟨partwise .date, each .date, each .hours⟩, rfl⟩

theorem mergePlan_eq_ok :
    mergePlan plan patch = .ok result ↔
      isStrictPlan (mergePatch plan.members patch) = true ∧
        ∃ read, decodePlan (mergePatch plan.members patch) = some read ∧
          read.normalize = .ok result := by
  rw [mergePlan]
  cases isStrictPlan (mergePatch plan.members patch) with
  | false => simp
  | true =>
      cases decodePlan (mergePatch plan.members patch) with
      | none => simp
      | some read => cases normalized : read.normalize <;> simp [normalized]

/-- A patch is accepted where its parts and circuits can be read and each setting it
leaves is valid. -/
theorem mergePlan_ok_iff (normal : plan.IsNormal) (exact : IsExactPatch patch) :
    mergePlan plan patch = .ok result ↔
      (IsPartwise patch ∧ KnowsCircuits patch) ∧
        planOverrides.Gives (Setting.of plan) (fun setting => setting.named patch)
          (Setting.of result) := by
  rw [mergePlan_eq_ok]
  constructor
  · rintro ⟨strict, read, decoded, normalized⟩
    rcases (decodePlan_eq_some exact).mp decoded with ⟨partwise, each⟩
    refine ⟨⟨partwise, (isStrictPlan_mergePatch exact partwise).mp strict⟩, ?_⟩
    intro setting
    have given := each setting
    have cleaned := normalize_ok_iff.mp normalized setting
    rw [decodeIn_partMembers normal exact partwise] at given
    dsimp only
    cases named : setting.named patch with
    | none =>
        rw [named] at given
        rw [← Option.some.inj given] at cleaned
        exact cleaned
    | some value =>
        rw [named] at given
        exact Option.bind_eq_some_iff.mpr ⟨_, given, cleaned⟩
  · rintro ⟨⟨partwise, known⟩, gives⟩
    have each : ∀ setting : Setting, ∃ value,
        setting.decodeIn (partMembers plan patch setting.part) = some value ∧
          setting.clean value = some (setting.of result) := by
      intro setting
      have given := gives setting
      rw [decodeIn_partMembers normal exact partwise]
      dsimp only at given
      cases named : setting.named patch with
      | none =>
          rw [named] at given
          exact ⟨_, rfl, given⟩
      | some value =>
          rw [named] at given
          exact Option.bind_eq_some_iff.mp given
    choose value decoded cleaned using each
    have same := Setting.of_ofSettings value
    refine ⟨(isStrictPlan_mergePatch exact partwise).mpr known, Plan.ofSettings value,
      (decodePlan_eq_some exact).mpr ⟨partwise, ?_⟩, normalize_ok_iff.mpr ?_⟩
    · rw [same]
      exact decoded
    · rw [same]
      exact cleaned

theorem isNormal_of_mergePlan (merged : mergePlan plan patch = .ok result) : result.IsNormal := by
  rcases mergePlan_eq_ok.mp merged with ⟨_, _, _, normalized⟩
  exact Plan.isNormal_of_normalize normalized

end

/-! ## Given values -/

def Setting.trimmed : (setting : Setting) → setting.Value → setting.Value
  | .publicHost | .date => trimSpace
  | .circuits => List.map Circuit.trimmed
  | .downMbps | .upMbps | .hours | .cgnat | .mainsVoltage => id

theorem normalizeCircuits_eq_ok {seen : List String} {circuits kept : List Circuit}
    (done : normalizeCircuits seen circuits = .ok kept) : kept = circuits.map Circuit.trimmed := by
  induction circuits generalizing seen kept with
  | nil =>
      cases done
      rfl
  | cons circuit rest induction =>
      rw [normalizeCircuits] at done
      split at done
      · cases done
      · cases others : normalizeCircuits (circuit.trimmed.id :: seen) rest with
        | error issue =>
            rw [others] at done
            cases done
        | ok tail =>
            rw [others] at done
            cases done
            rw [induction others, List.map_cons]

theorem Setting.trimmed_of_clean {setting : Setting} {value kept : setting.Value}
    (done : setting.clean value = some kept) : kept = setting.trimmed value := by
  cases setting with
  | downMbps | upMbps => exact (cleanSpeed_eq_some.mp done).2.symm
  | cgnat => exact (cleanCgnat_eq_some.mp done).2.symm
  | publicHost => exact (cleanPublicHost_eq_some.mp done).2.symm
  | mainsVoltage => exact (cleanVoltage_eq_some.mp done).2.symm
  | circuits => exact normalizeCircuits_eq_ok (cleanCircuits_eq_some.mp done).2
  | date => exact (cleanDate_eq_some.mp done).2.symm
  | hours => exact (cleanHours_eq_some.mp done).2.symm

theorem Setting.trimmed_zero (setting : Setting) : setting.trimmed setting.zero = setting.zero := by
  cases setting with
  | publicHost | date => exact of_decide_eq_true rfl
  | _ => rfl

/-- Patches replay safely. -/
theorem mergePlan_replays {plan result : Plan} {patch : List (String × Json)}
    (normal : plan.IsNormal) (exact : IsExactPatch patch)
    (merged : mergePlan plan patch = .ok result) :
    (∀ setting : Setting, setting.named patch = none → setting.of result = setting.of plan) ∧
    (∀ (setting : Setting) (value : Json), setting.named patch = some value → value ≠ .null →
      ∃ given, setting.decode value = some given ∧ setting.of result = setting.trimmed given) ∧
    (∀ setting : Setting, setting.named patch = some .null → setting.of result = setting.zero) ∧
    mergePlan result patch = .ok result ∧
    (∀ change ∈ diffPlans plan result, change.setting.named patch ≠ none) ∧
    ∀ (other : List (String × Json)) (otherResult : Plan), IsExactPatch other →
      mergePlan plan other = .ok otherResult →
      (∀ setting : Setting, setting.named patch = none ∨ setting.named other = none) →
        ∃ both, mergePlan result other = .ok both ∧ mergePlan otherResult patch = .ok both := by
  rcases (mergePlan_ok_iff normal exact).mp merged with ⟨readable, gives⟩
  have resultNormal := isNormal_of_mergePlan merged
  have frame : ∀ setting : Setting, setting.named patch = none →
      setting.of result = setting.of plan :=
    fun setting unnamed => gives.frame normal.kept unnamed
  refine ⟨frame, ?_, ?_, ?_, ?_, ?_⟩
  · intro setting value named given
    have outcome := gives setting
    dsimp only at outcome
    rw [named] at outcome
    rcases Option.bind_eq_some_iff.mp outcome with ⟨read, decoded, cleaned⟩
    refine ⟨read, ?_, Setting.trimmed_of_clean cleaned⟩
    cases value with
    | null => exact absurd rfl given
    | _ => exact decoded
  · intro setting named
    have outcome := gives setting
    dsimp only at outcome
    rw [named] at outcome
    exact (Setting.trimmed_of_clean outcome).trans setting.trimmed_zero
  · exact (mergePlan_ok_iff resultNormal exact).mpr ⟨readable, gives.again⟩
  · intro change listed unnamed
    exact mem_diffPlans listed (frame change.setting unnamed).symm
  · intro other otherResult otherExact otherMerged disjoint
    rcases (mergePlan_ok_iff normal otherExact).mp otherMerged with ⟨otherReadable, otherGives⟩
    rcases gives.comm normal.kept otherGives disjoint with ⟨both, first, second⟩
    rw [← Setting.of_ofSettings both] at first second
    exact ⟨Plan.ofSettings both,
      (mergePlan_ok_iff resultNormal otherExact).mpr ⟨otherReadable, first⟩,
      (mergePlan_ok_iff (isNormal_of_mergePlan otherMerged) exact).mpr ⟨readable, second⟩⟩

def evening : Plan where
  uplink := { downMbps := 100, publicHost := "home.example" }
  event := { date := "2026-07-04", hours := 8 }

def eveningPatch : List (String × Json) :=
  [("uplink", .obj [("up_mbps", .num 40), ("public_host", .str " lan.example ")]), ("event", .null)]

def eveningPatched : Plan where
  uplink := { downMbps := 100, upMbps := 40, publicHost := "lan.example" }

theorem evening_replays :
    Setting.hours.of eveningPatched = Setting.hours.zero ∧
      mergePlan eveningPatched eveningPatch = .ok eveningPatched := by
  have normal : evening.IsNormal := by
    unfold Plan.IsNormal
    decide +kernel
  have keys : IsExactPatch eveningPatch := by
    refine ⟨by decide, ?_, ?_⟩
    · intro member listed
      rcases List.mem_cons.mp listed with rfl | listed
      · exact ⟨.upMbps, rfl⟩
      · rw [List.mem_singleton.mp listed]
        exact ⟨.date, rfl⟩
    · intro member listed members same
      rcases List.mem_cons.mp listed with rfl | listed
      · cases same
        refine ⟨by decide, ?_⟩
        intro entry inner
        rcases List.mem_cons.mp inner with rfl | inner
        · exact ⟨.upMbps, rfl, rfl⟩
        · rw [List.mem_singleton.mp inner]
          exact ⟨.publicHost, rfl, rfl⟩
      · rw [List.mem_singleton.mp listed] at same
        cases same
  have merged : mergePlan evening eveningPatch = .ok eveningPatched := by decide +kernel
  have replayed := mergePlan_replays normal keys merged
  exact ⟨replayed.2.2.1 .hours rfl, replayed.2.2.2.1⟩

end HomelabBuilder.Gaming
