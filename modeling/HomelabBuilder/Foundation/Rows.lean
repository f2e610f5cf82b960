import HomelabBuilder.Foundation.Table
import Mathlib.Data.List.Nodup

/-! # Tables with one row for each key -/

namespace HomelabBuilder.Table

variable {κ ν : Type*} [DecidableEq κ] {rows : List (κ × ν)}

theorem keys_set (rows : List (κ × ν)) (key : κ) (row : ν) :
    (set rows key row).map Prod.fst =
      if key ∈ rows.map Prod.fst then rows.map Prod.fst else rows.map Prod.fst ++ [key] := by
  induction rows with
  | nil => rfl
  | cons head tail induction =>
      rcases head with ⟨first, old⟩
      unfold set
      by_cases same : first = key
      · subst same
        rw [if_pos rfl, if_pos (by rw [List.map_cons]; exact List.mem_cons_self)]
        rfl
      · rw [if_neg same, List.map_cons, List.map_cons, induction]
        by_cases listed : key ∈ tail.map Prod.fst
        · rw [if_pos listed, if_pos (List.mem_cons_of_mem _ listed)]
        · rw [if_neg listed, if_neg]
          · rfl
          · intro member
            rcases List.mem_cons.mp member with here | later
            · exact same here.symm
            · exact listed later

theorem nodup_set (distinct : (rows.map Prod.fst).Nodup) (key : κ) (row : ν) :
    ((set rows key row).map Prod.fst).Nodup := by
  rw [keys_set]
  split
  · exact distinct
  · rename_i missing
    rw [List.nodup_append]
    refine ⟨distinct, List.nodup_singleton key, ?_⟩
    rintro other listed _ member rfl
    exact missing (List.mem_singleton.mp member ▸ listed)

theorem set_of_fresh {key : κ} (row : ν) : ∀ {rows : List (κ × ν)},
    key ∉ rows.map Prod.fst → set rows key row = rows ++ [(key, row)]
  | [], _ => rfl
  | (first, old) :: rest, fresh => by
      rw [List.map_cons, List.mem_cons, not_or] at fresh
      rw [set, if_neg (Ne.symm fresh.1), set_of_fresh row fresh.2, List.cons_append]

theorem foldl_set_of_fresh : ∀ (more : List (κ × ν)) {rows : List (κ × ν)},
    ((rows ++ more).map Prod.fst).Nodup →
      more.foldl (fun rows entry => set rows entry.1 entry.2) rows = rows ++ more
  | [], _, _ => (List.append_nil _).symm
  | entry :: rest, rows, distinct => by
      have fresh : entry.1 ∉ rows.map Prod.fst := by
        rw [List.map_append, List.nodup_append] at distinct
        intro listed
        exact distinct.2.2 _ listed _ List.mem_cons_self rfl
      have shifted : rows ++ entry :: rest = rows ++ [entry] ++ rest := by simp
      rw [shifted] at distinct
      rw [List.foldl_cons, set_of_fresh entry.2 fresh, foldl_set_of_fresh rest distinct, shifted]

theorem mem_set {entry : κ × ν} {key : κ} {row : ν} : ∀ {rows : List (κ × ν)},
    entry ∈ set rows key row → entry = (key, row) ∨ entry ∈ rows
  | [], listed => Or.inl (List.mem_singleton.mp listed)
  | (first, old) :: rest, listed => by
      unfold set at listed
      split at listed
      · exact (List.mem_cons.mp listed).imp_right (List.mem_cons_of_mem _)
      · rcases List.mem_cons.mp listed with here | later
        · exact Or.inr (here ▸ List.mem_cons_self)
        · exact (mem_set later).imp_right (List.mem_cons_of_mem _)

theorem nodup_erase (distinct : (rows.map Prod.fst).Nodup) (key : κ) :
    ((erase rows key).map Prod.fst).Nodup :=
  distinct.sublist (List.filter_sublist.map _)

theorem lookup_of_lookup_erase {key other : κ} {row : ν}
    (found : (erase rows key).lookup other = some row) : rows.lookup other = some row := by
  rw [lookup_erase] at found
  split at found
  · cases found
  · exact found

theorem mem_iff_lookup (distinct : (rows.map Prod.fst).Nodup) {key : κ} {row : ν} :
    (key, row) ∈ rows ↔ rows.lookup key = some row :=
  ⟨lookup_of_mem distinct, mem_of_lookup⟩

theorem mem_set_iff (distinct : (rows.map Prod.fst).Nodup) (key : κ) (row : ν) (entry : κ × ν) :
    entry ∈ set rows key row ↔ entry = (key, row) ∨ entry.1 ≠ key ∧ entry ∈ rows := by
  rcases entry with ⟨other, value⟩
  rw [mem_iff_lookup (nodup_set distinct _ _), lookup_set, mem_iff_lookup distinct, Prod.mk.injEq]
  split
  · rename_i same
    simp [same, eq_comm]
  · rename_i different
    simp [different]

theorem lookup_filterRows (distinct : (rows.map Prod.fst).Nodup) (keep : κ × ν → Bool) (key : κ) :
    (rows.filter keep).lookup key = (rows.lookup key).filter fun row => keep (key, row) := by
  have kept : ((rows.filter keep).map Prod.fst).Nodup :=
    distinct.sublist (List.filter_sublist.map Prod.fst)
  refine Option.ext fun row => ?_
  rw [← mem_iff_lookup kept, List.mem_filter, mem_iff_lookup distinct, Option.filter_eq_some_iff]

theorem set_ne_nil (rows : List (κ × ν)) (key : κ) (row : ν) : set rows key row ≠ [] := by
  cases rows with
  | nil => exact List.cons_ne_nil _ _
  | cons head rest =>
      unfold set
      split <;> exact List.cons_ne_nil _ _

/-- Changes the row under a key, where there is one. -/
def modify (rows : List (κ × ν)) (key : κ) (change : ν → ν) : List (κ × ν) :=
  match rows.lookup key with
  | none => rows
  | some row => set rows key (change row)

theorem lookup_modify (rows : List (κ × ν)) (key other : κ) (change : ν → ν) :
    (modify rows key change).lookup other =
      if other = key then (rows.lookup key).map change else rows.lookup other := by
  unfold modify
  split
  · rename_i missing
    split
    · rename_i same
      rw [same, missing]
      rfl
    · rfl
  · rename_i row found
    rw [lookup_set, found]
    rfl

theorem lookup_mapRows (rows : List (κ × ν)) (change : κ → ν → ν) (key : κ) :
    (rows.map fun row => (row.1, change row.1 row.2)).lookup key =
      (rows.lookup key).map (change key) := by
  induction rows with
  | nil => rfl
  | cons head tail induction =>
      rw [List.map_cons, lookup_cons, lookup_cons, induction]
      split
      · rename_i same
        rw [same]
        rfl
      · rfl

theorem find?_of_lookup (distinct : (rows.map Prod.fst).Nodup) {wanted : κ × ν → Bool} {key : κ}
    {row : ν} (found : rows.lookup key = some row) (fits : wanted (key, row) = true)
    (unique : ∀ other row, rows.lookup other = some row → wanted (other, row) = true →
      other = key) : rows.find? wanted = some (key, row) := by
  cases search : rows.find? wanted with
  | none =>
      rw [List.find?_eq_none] at search
      exact absurd fits (search _ (mem_of_lookup found))
  | some entry =>
      rcases entry with ⟨other, value⟩
      have current := lookup_of_mem distinct (List.mem_of_find?_eq_some search)
      have same := unique other value current (List.find?_some search)
      subst same
      rw [found] at current
      cases current
      rfl

end HomelabBuilder.Table
