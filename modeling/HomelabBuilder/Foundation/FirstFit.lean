import Mathlib.Data.List.Range

/-! # First fit

Taking the first free candidate from a fixed list. Two searches over the same
candidates are compared by their free sets: shrinking the free set keeps the
choice as long as the chosen candidate stays free.
-/

namespace HomelabBuilder.FirstFit

variable {α : Type*} {candidates : List α} {free fewer : α → Bool}

/-- The first candidate that is free. -/
def pick (free : α → Bool) (candidates : List α) : Option α := candidates.find? free

theorem free_of_pick {choice : α} (picked : pick free candidates = some choice) :
    free choice = true :=
  List.find?_some picked

theorem mem_of_pick {choice : α} (picked : pick free candidates = some choice) :
    choice ∈ candidates :=
  List.mem_of_find?_eq_some picked

theorem pick_eq_none_iff :
    pick free candidates = none ↔ ∀ candidate ∈ candidates, free candidate = false := by
  simp [pick]

theorem pick_eq_none_of_imp (subset : ∀ candidate, fewer candidate = true → free candidate = true)
    (full : pick free candidates = none) : pick fewer candidates = none := by
  rw [pick_eq_none_iff] at full ⊢
  intro candidate member
  by_contra stillFree
  have wasFree := subset candidate (by simpa using stillFree)
  simp [full candidate member] at wasFree

theorem pick_eq_some_of_imp {choice : α}
    (subset : ∀ candidate, fewer candidate = true → free candidate = true)
    (picked : pick free candidates = some choice) (stillFree : fewer choice = true) :
    pick fewer candidates = some choice := by
  rw [pick, List.find?_eq_some_iff_append] at picked ⊢
  rcases picked with ⟨_, before, after, split, rejected⟩
  refine ⟨stillFree, before, after, split, ?_⟩
  intro candidate member
  have wasRejected := rejected candidate member
  cases isFree : fewer candidate with
  | false => rfl
  | true => simp [subset candidate isFree] at wasRejected

end HomelabBuilder.FirstFit
