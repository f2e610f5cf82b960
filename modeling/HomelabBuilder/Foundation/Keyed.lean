import Mathlib.Data.List.Nodup
import Mathlib.Init

/-! # Computations that may fail -/

namespace HomelabBuilder.Fallible

variable {ε δ α β : Type} {result : β}

theorem bind_eq_ok {first : Except ε α} {next : α → Except ε β} :
    (first >>= next) = .ok result ↔ ∃ value, first = .ok value ∧ next value = .ok result := by
  cases first with
  | error issue =>
      constructor
      · intro done
        cases done
      · rintro ⟨_, done, _⟩
        cases done
  | ok value =>
      constructor
      · intro done
        exact ⟨value, rfl, done⟩
      · rintro ⟨_, done, rest⟩
        cases done
        exact rest

end HomelabBuilder.Fallible

/-! # Lists with a key

Rows are searched by id. Where no id repeats, the direction of the search does
not matter.
-/

namespace HomelabBuilder.Keyed

section

variable {α κ : Type} {key : α → κ} {items : List α}

theorem eq_of_key_eq (distinct : (items.map key).Nodup) {left right : α} (leftMember : left ∈ items)
    (rightMember : right ∈ items) (same : key left = key right) : left = right :=
  List.inj_on_of_nodup_map distinct leftMember rightMember same

theorem find?_of_unique {wanted : α → Bool} {item : α} (member : item ∈ items)
    (fits : wanted item = true) (unique : ∀ other ∈ items, wanted other = true → other = item) :
    items.find? wanted = some item := by
  cases found : items.find? wanted with
  | none =>
      rw [List.find?_eq_none] at found
      exact absurd fits (found item member)
  | some other =>
      rw [unique other (List.mem_of_find?_eq_some found) (List.find?_some found)]

theorem find?_key [DecidableEq κ] (distinct : (items.map key).Nodup) {item : α}
    (member : item ∈ items) : items.find? (fun other => key other = key item) = some item := by
  apply find?_of_unique member
  · exact decide_eq_true rfl
  · intro other listed same
    exact eq_of_key_eq distinct listed member (of_decide_eq_true same)

theorem find?_reverse_key [DecidableEq κ] (distinct : (items.map key).Nodup) {item : α}
    (member : item ∈ items) :
    items.reverse.find? (fun other => key other = key item) = some item := by
  apply find?_key _ (List.mem_reverse.mpr member)
  rw [List.map_reverse]
  exact List.nodup_reverse.mpr distinct

end

theorem exists_of_forall₂ {α β : Type*} {R : α → β → Prop} {items : List α} {results : List β}
    (related : List.Forall₂ R items results) {item : α} (member : item ∈ items) :
    ∃ result ∈ results, R item result := by
  induction related with
  | nil => cases member
  | cons first _ induction =>
      rcases List.mem_cons.mp member with rfl | later
      · exact ⟨_, List.mem_cons_self, first⟩
      · rcases induction later with ⟨result, listed, holds⟩
        exact ⟨result, List.mem_cons_of_mem _ listed, holds⟩

theorem map_eq_of_forall₂ {α β κ : Type*} {key : α → κ} {other : β → κ} {items : List α}
    {results : List β} (same : List.Forall₂ (fun item result => other result = key item)
      items results) : results.map other = items.map key := by
  induction same with
  | nil => rfl
  | cons first _ induction => rw [List.map_cons, List.map_cons, first, induction]

theorem filterMap_eq_of_forall₂ {α β γ : Type*} {R : α → β → Prop} {f : α → Option γ}
    {g : β → Option γ} {items : List α} {results : List β} (related : List.Forall₂ R items results)
    (same : ∀ item result, R item result → f item = g result) :
    items.filterMap f = results.filterMap g := by
  induction related with
  | nil => rfl
  | cons first _ induction =>
      rw [List.filterMap_cons, List.filterMap_cons, same _ _ first, induction]

theorem forall₂_of_mapM {α β ε : Type} {f : α → Except ε β} : ∀ {items : List α} {results : List β},
    items.mapM f = .ok results → List.Forall₂ (fun item result => f item = .ok result) items results
  | [], results, done => by
      cases done
      exact .nil
  | item :: rest, results, done => by
      rw [List.mapM_cons] at done
      cases first : f item with
      | error message =>
          rw [first] at done
          cases done
      | ok result =>
          rw [first] at done
          cases others : rest.mapM f with
          | error message =>
              simp [others, bind, Except.bind] at done
          | ok more =>
              simp only [others, bind, Except.bind, pure, Except.pure] at done
              cases done
              exact .cons first (forall₂_of_mapM others)

theorem forall₂_of_mapM_option {α β : Type} {f : α → Option β} :
    ∀ {items : List α} {results : List β}, items.mapM f = some results →
      List.Forall₂ (fun item result => f item = some result) items results
  | [], results, done => by
      cases done
      exact .nil
  | item :: rest, results, done => by
      rw [List.mapM_cons] at done
      rcases Option.bind_eq_some_iff.mp done with ⟨result, first, done⟩
      rcases Option.bind_eq_some_iff.mp done with ⟨others, later, done⟩
      cases done
      exact .cons first (forall₂_of_mapM_option later)

theorem mapM_option_of_forall₂ {α β : Type} {f : α → Option β} {items : List α} {results : List β}
    (read : List.Forall₂ (fun item result => f item = some result) items results) :
    items.mapM f = some results := by
  induction read with
  | nil => rfl
  | cons first _ induction =>
      rw [List.mapM_cons, first, induction]
      rfl

theorem forall₂_imp_of_mem {α β : Type} {R S : α → β → Prop} :
    ∀ {items : List α} {results : List β}, List.Forall₂ R items results →
      (∀ item ∈ items, ∀ result, R item result → S item result) → List.Forall₂ S items results
  | _, _, .nil, _ => .nil
  | _, _, .cons first rest, implies =>
      .cons (implies _ List.mem_cons_self _ first)
        (forall₂_imp_of_mem rest fun item member => implies item (List.mem_cons_of_mem _ member))

theorem flatMap_filter_perm {α κ : Type} [DecidableEq κ] (key : α → κ) (rows : List α) :
    ∀ {keys : List κ}, keys.Nodup →
      (keys.flatMap fun wanted => rows.filter fun row => key row = wanted).Perm
        (rows.filter fun row => key row ∈ keys)
  | [], _ => by simp
  | wanted :: keys, distinct => by
      rcases List.nodup_cons.mp distinct with ⟨notLater, distinct⟩
      have first : (rows.filter fun row => key row ∈ wanted :: keys).filter
          (fun row => key row = wanted) = rows.filter fun row => key row = wanted := by
        rw [List.filter_filter]
        apply List.filter_congr
        intro row _
        by_cases same : key row = wanted <;> simp [same]
      have later : (rows.filter fun row => key row ∈ wanted :: keys).filter
          (fun row => !decide (key row = wanted)) = rows.filter fun row => key row ∈ keys := by
        rw [List.filter_filter]
        apply List.filter_congr
        intro row _
        by_cases same : key row = wanted
        · simp [same, notLater]
        · simp [same]
      have split := List.filter_append_perm (fun row => decide (key row = wanted))
        (rows.filter fun row => key row ∈ wanted :: keys)
      rw [first, later] at split
      rw [List.flatMap_cons]
      exact ((flatMap_filter_perm key rows distinct).append_left _).trans split

end HomelabBuilder.Keyed
