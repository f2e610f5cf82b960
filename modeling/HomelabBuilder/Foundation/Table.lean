import Mathlib.Data.List.Basic

/-! # Association lists as maps

A map is the list of its entries, read by `List.lookup`: the first entry for a
key is the current one.
-/

namespace HomelabBuilder.Table

variable {κ ν : Type*} [DecidableEq κ]

theorem lookup_cons (key other : κ) (value : ν) (table : List (κ × ν)) :
    ((other, value) :: table).lookup key =
      if key = other then some value else table.lookup key := by
  rw [List.lookup_cons]
  by_cases equal : key = other
  · simp [equal]
  · simp [equal, beq_false_of_ne equal]

theorem mem_of_lookup {key : κ} {value : ν} {table : List (κ × ν)}
    (found : table.lookup key = some value) : (key, value) ∈ table := by
  rcases List.lookup_eq_some_iff.mp found with ⟨before, after, split, _⟩
  rw [split]
  exact List.mem_append_right _ List.mem_cons_self

theorem lookup_of_mem {key : κ} {value : ν} : ∀ {table : List (κ × ν)},
    (table.map Prod.fst).Nodup → (key, value) ∈ table → table.lookup key = some value
  | (other, first) :: rest, nodup, member => by
      rw [List.map_cons, List.nodup_cons] at nodup
      rw [lookup_cons]
      rcases List.mem_cons.mp member with here | later
      · cases here
        rw [if_pos rfl]
      · have different : key ≠ other := by
          rintro rfl
          exact nodup.1 (List.mem_map.mpr ⟨(key, value), later, rfl⟩)
        rw [if_neg different]
        exact lookup_of_mem nodup.2 later

/-! ## Changing entries -/

/-- Writes a value in the place of the old one, or behind all others. -/
def set : List (κ × ν) → κ → ν → List (κ × ν)
  | [], key, value => [(key, value)]
  | (other, old) :: rest, key, value =>
      if other = key then (key, value) :: rest else (other, old) :: set rest key value

def erase (entries : List (κ × ν)) (key : κ) : List (κ × ν) :=
  entries.filter fun entry => entry.1 ≠ key

@[simp]
theorem lookup_set (entries : List (κ × ν)) (key other : κ) (value : ν) :
    (set entries key value).lookup other =
      if other = key then some value else entries.lookup other := by
  induction entries with
  | nil => simp [set, lookup_cons]
  | cons head tail induction =>
      rcases head with ⟨first, old⟩
      unfold set
      split
      · rename_i same
        subst same
        simp only [lookup_cons]
        split <;> rfl
      · rename_i different
        rw [lookup_cons, lookup_cons, induction]
        split
        · rename_i same
          rw [if_neg (same ▸ different)]
        · rfl

@[simp]
theorem lookup_erase (entries : List (κ × ν)) (key other : κ) :
    (erase entries key).lookup other = if other = key then none else entries.lookup other := by
  induction entries with
  | nil => simp [erase]
  | cons head tail induction =>
      rcases head with ⟨first, old⟩
      rw [erase, List.filter_cons]
      by_cases same : first = key
      · simp only [same, ne_eq, not_true_eq_false, decide_false, Bool.false_eq_true, if_false]
        rw [← erase, induction, lookup_cons]
        split <;> rfl
      · simp only [ne_eq, same, not_false_eq_true, decide_true, if_true]
        rw [← erase, lookup_cons, lookup_cons, induction]
        split
        · rename_i equal
          rw [if_neg (equal ▸ same)]
        · rfl

@[simp]
theorem lookup_mapValues {μ : Type*} (entries : List (κ × ν)) (f : ν → μ) (key : κ) :
    (entries.map fun entry => (entry.1, f entry.2)).lookup key = (entries.lookup key).map f := by
  induction entries with
  | nil => rfl
  | cons head tail induction =>
      rw [List.map_cons, lookup_cons, lookup_cons, induction]
      split <;> rfl

@[simp]
theorem lookup_append (entries more : List (κ × ν)) (key : κ) :
    (entries ++ more).lookup key = (entries.lookup key).or (more.lookup key) := by
  induction entries with
  | nil => rfl
  | cons head tail induction =>
      rw [List.cons_append, lookup_cons, lookup_cons, induction]
      split <;> rfl

theorem lookup_set_index {entries : List (κ × ν)} {index : Nat} {key : κ} {old : ν}
    (located : entries[index]? = some (key, old))
    (first : ∀ earlier < index, ∀ entry, entries[earlier]? = some entry → entry.1 ≠ key)
    (new : ν) (other : κ) :
    (entries.set index (key, new)).lookup other =
      if other = key then some new else entries.lookup other := by
  induction entries generalizing index with
  | nil => cases located
  | cons head tail induction =>
      cases index with
      | zero =>
          cases located
          rw [List.set_cons_zero, lookup_cons, lookup_cons]
          split <;> rfl
      | succ index =>
          have later : (tail.set index (key, new)).lookup other =
              if other = key then some new else tail.lookup other :=
            induction located fun earlier small => first (earlier + 1) (Nat.succ_lt_succ small)
          rw [List.set_cons_succ, lookup_cons, lookup_cons, later]
          have apart : head.1 ≠ key := first 0 (Nat.succ_pos index) head rfl
          by_cases here : other = head.1
          · rw [if_pos here, if_pos here, if_neg (here ▸ apart)]
          · rw [if_neg here, if_neg here]

theorem lookup_filter (entries : List (κ × ν)) (keep : κ → Bool) (key : κ) :
    (entries.filter fun entry => keep entry.1).lookup key =
      if keep key then entries.lookup key else none := by
  induction entries with
  | nil => simp
  | cons head tail induction =>
      rcases head with ⟨first, value⟩
      rw [List.filter_cons]
      split
      · rw [lookup_cons, lookup_cons, induction]
        split
        · rename_i kept same
          rw [if_pos (same ▸ kept)]
        · rfl
      · rename_i dropped
        rw [lookup_cons, induction]
        split
        · rename_i kept
          rw [if_neg]
          rintro rfl
          exact dropped kept
        · rfl

/-- The entries of both, those of the second in place of equal keys of the first. -/
def merge (entries more : List (κ × ν)) : List (κ × ν) :=
  (entries.map fun entry => (entry.1, (more.lookup entry.1).getD entry.2)) ++
    more.filter fun entry => (entries.lookup entry.1).isNone

theorem lookup_merge (entries more : List (κ × ν)) (key : κ) :
    (merge entries more).lookup key = (more.lookup key).or (entries.lookup key) := by
  have first : (entries.map fun entry => (entry.1, (more.lookup entry.1).getD entry.2)).lookup key =
      (entries.lookup key).map ((more.lookup key).getD ·) := by
    induction entries with
    | nil => rfl
    | cons head tail induction =>
        rw [List.map_cons, lookup_cons, lookup_cons, induction]
        split
        · rename_i same
          rw [same]
          rfl
        · rfl
  rw [merge, lookup_append, first, lookup_filter more fun key => (entries.lookup key).isNone]
  cases entries.lookup key with
  | none => simp
  | some value => cases more.lookup key <;> rfl

end HomelabBuilder.Table
