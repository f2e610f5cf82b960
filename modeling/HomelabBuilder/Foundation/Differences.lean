import Mathlib.Data.List.Dedup
import Mathlib.Data.List.Sort
import HomelabBuilder.Foundation.Keyed

/-! # Differences of keyed lists

Two lists of items with keys, compared item by item: what the second one adds,
what it lacks, and what it has otherwise.
-/

namespace HomelabBuilder

structure Differences (β : Type) where
  added : List β := []
  removed : List β := []
  changed : List β := []

/-- The last item of a key. -/
def latest {α κ : Type} [DecidableEq κ] (key : α → κ) (items : List α) (wanted : κ) : Option α :=
  items.reverse.find? fun item => key item = wanted

/-- How items are compared and told about. Items are walked through in an order of
their own. -/
structure Comparison (α κ δ β : Type) where
  key : α → κ
  arrange : List α → List α
  changes : α → α → List δ
  describe : α → List δ → β

section

variable {α κ δ β : Type} [DecidableEq κ]

theorem latest_eq_none_iff {key : α → κ} {items : List α} {wanted : κ} :
    latest key items wanted = none ↔ wanted ∉ items.map key := by
  rw [latest, List.find?_eq_none, List.mem_map]
  constructor
  · rintro missing ⟨item, listed, rfl⟩
    exact missing item (List.mem_reverse.mpr listed) (decide_eq_true rfl)
  · intro missing item listed same
    exact missing ⟨item, List.mem_reverse.mp listed, of_decide_eq_true same⟩

theorem latest_eq_some {key : α → κ} {items : List α} {wanted : κ} {item : α}
    (found : latest key items wanted = some item) : item ∈ items ∧ key item = wanted := by
  rw [latest] at found
  have holds := List.find?_some found
  exact ⟨List.mem_reverse.mp (List.mem_of_find?_eq_some found), of_decide_eq_true holds⟩

theorem latest_of_mem {key : α → κ} {items : List α} (distinct : (items.map key).Nodup) {item : α}
    (listed : item ∈ items) : latest key items (key item) = some item :=
  Keyed.find?_reverse_key distinct listed

/-- The items of each key in the order of the keys, as a walk through the sorted keys of
a map finds them. -/
def sortedByKey (before : κ → κ → Bool) (key : α → κ) (items : List α) : List α :=
  ((items.map key).dedup.insertionSort fun left right => before left right).filterMap
    (latest key items)

theorem sortedByKey_perm (before : κ → κ → Bool) {key : α → κ} {items : List α}
    (distinct : (items.map key).Nodup) : (sortedByKey before key items).Perm items := by
  have sorted := List.perm_insertionSort (fun left right => before left right = true)
    (items.map key).dedup
  have looked : ((items.map key).filterMap (latest key items)) = items := by
    rw [List.filterMap_map]
    have each : ∀ item ∈ items, (latest key items ∘ key) item = some item := by
      intro item listed
      exact latest_of_mem distinct listed
    rw [List.filterMap_congr each, List.filterMap_some]
  rw [sortedByKey]
  rw [List.dedup_eq_self.mpr distinct] at sorted ⊢
  exact (sorted.filterMap _).trans (List.Perm.of_eq looked)

namespace Comparison

/-- What a list of items makes of an earlier one. -/
def differences (comparison : Comparison α κ δ β) (before after : List α) : Differences β where
  added := (comparison.arrange after).filterMap fun current =>
    match latest comparison.key before (comparison.key current) with
    | none => some (comparison.describe current [])
    | some _ => none
  removed := (comparison.arrange before).filterMap fun previous =>
    match latest comparison.key after (comparison.key previous) with
    | none => some (comparison.describe previous [])
    | some _ => none
  changed := (comparison.arrange after).filterMap fun current =>
    match latest comparison.key before (comparison.key current) with
    | none => none
    | some previous =>
        match comparison.changes previous current with
        | [] => none
        | changes => some (comparison.describe current changes)

variable {comparison : Comparison α κ δ β} {before after : List α}

theorem perm_lacking (arranged : (comparison.arrange after).Perm after) :
    ((comparison.arrange after).filterMap fun current =>
      match latest comparison.key before (comparison.key current) with
      | none => some (comparison.describe current [])
      | some _ => none).Perm
        ((after.filter fun item => comparison.key item ∉ before.map comparison.key).map
          fun item => comparison.describe item []) := by
  have lacking : (after.filterMap fun current =>
      match latest comparison.key before (comparison.key current) with
      | none => some (comparison.describe current [])
      | some _ => none) =
        (after.filter fun item => comparison.key item ∉ before.map comparison.key).map
          fun item => comparison.describe item [] := by
    rw [← List.filterMap_eq_map, List.filterMap_filter]
    apply List.filterMap_congr
    intro item listed
    cases found : latest comparison.key before (comparison.key item) with
    | none => simp [latest_eq_none_iff.mp found]
    | some previous =>
        have known : comparison.key item ∈ before.map comparison.key :=
          List.mem_map.mpr ⟨previous, latest_eq_some found⟩
        simp [known]
  exact (arranged.filterMap _).trans (List.Perm.of_eq lacking)

theorem perm_added (arranged : (comparison.arrange after).Perm after) :
    (comparison.differences before after).added.Perm
      ((after.filter fun item => comparison.key item ∉ before.map comparison.key).map
        fun item => comparison.describe item []) :=
  perm_lacking arranged

theorem perm_removed (arranged : (comparison.arrange before).Perm before) :
    (comparison.differences before after).removed.Perm
      ((before.filter fun item => comparison.key item ∉ after.map comparison.key).map
        fun item => comparison.describe item []) :=
  perm_lacking arranged

theorem mem_added (arranged : (comparison.arrange after).Perm after) {entry : β} :
    entry ∈ (comparison.differences before after).added ↔
      ∃ item ∈ after, comparison.key item ∉ before.map comparison.key ∧
        comparison.describe item [] = entry := by
  simp only [(perm_added arranged).mem_iff, List.mem_map, List.mem_filter, decide_eq_true_eq,
    and_assoc]

theorem mem_changed (arranged : (comparison.arrange after).Perm after)
    (distinct : (before.map comparison.key).Nodup) {entry : β} :
    entry ∈ (comparison.differences before after).changed ↔
      ∃ previous ∈ before, ∃ current ∈ after, comparison.key previous = comparison.key current ∧
        comparison.changes previous current ≠ [] ∧
        comparison.describe current (comparison.changes previous current) = entry := by
  rw [differences, List.mem_filterMap]
  constructor
  · rintro ⟨current, listed, told⟩
    split at told
    · cases told
    · rename_i previous found
      split at told
      · cases told
      · rename_i different
        cases told
        rcases latest_eq_some found with ⟨known, same⟩
        exact ⟨previous, known, current, arranged.mem_iff.mp listed, same, different, rfl⟩
  · rintro ⟨previous, known, current, listed, same, different, rfl⟩
    refine ⟨current, arranged.mem_iff.mpr listed, ?_⟩
    rw [← same, latest_of_mem distinct known]
    dsimp only
    split
    · exact absurd (by assumption) different
    · rfl

end Comparison

end

end HomelabBuilder
