import Mathlib.Data.List.Nodup
import HomelabBuilder.Foundation.Table

/-! # Greedy matching

The items on the left are gone through in order; one that nothing is decided
for takes the first free item on the right that fits it. Several passes with
other tests share the decisions, so an earlier pass has the say.
-/

namespace HomelabBuilder.Matching

/-- What was decided for a key: an item on the right or none, and by which pass. -/
structure Decision (ι μ : Type*) where
  target : Option ι
  reason : μ

variable {α β κ ι μ : Type*}

/-- The items on the right that are given away. -/
def taken (decisions : List (κ × Decision ι μ)) : List ι :=
  decisions.filterMap fun entry => entry.2.target

theorem mem_taken_iff {decisions : List (κ × Decision ι μ)} {id : ι} :
    id ∈ taken decisions ↔ ∃ entry ∈ decisions, entry.2.target = some id := List.mem_filterMap

theorem key_eq_of_target {decisions : List (κ × Decision ι μ)} (once : (taken decisions).Nodup)
    {left right : κ × Decision ι μ} (leftListed : left ∈ decisions)
    (rightListed : right ∈ decisions) {id : ι} (leftTarget : left.2.target = some id)
    (rightTarget : right.2.target = some id) : left.1 = right.1 := by
  have apart := List.pairwise_filterMap.mp once
  have same := List.Pairwise.forall_of_forall_of_flip
    (R := fun entry other : κ × Decision ι μ =>
      entry.2.target = some id → other.2.target = some id → entry.1 = other.1)
    (fun _ _ _ _ => rfl)
    (apart.imp fun apart entryTarget otherTarget =>
      absurd rfl (apart id entryTarget id otherTarget))
    (apart.imp fun apart otherTarget entryTarget =>
      absurd rfl (apart id entryTarget id otherTarget))
  exact same leftListed rightListed leftTarget rightTarget

section

variable [DecidableEq κ] [DecidableEq ι]
variable (fits : α → β → Bool) (keyOf : α → κ) (idOf : β → ι) (reason : μ) (rights : List β)

def step (decisions : List (κ × Decision ι μ)) (left : α) : List (κ × Decision ι μ) :=
  if (decisions.lookup (keyOf left)).isSome then decisions
  else
    match rights.find? fun right => idOf right ∉ taken decisions && fits left right with
    | some right => (keyOf left, ⟨some (idOf right), reason⟩) :: decisions
    | none => decisions

def pass (decisions : List (κ × Decision ι μ)) (lefts : List α) : List (κ × Decision ι μ) :=
  lefts.foldl (step fits keyOf idOf reason rights) decisions

variable {fits keyOf idOf reason rights}

theorem step_cases (decisions : List (κ × Decision ι μ)) (left : α) :
    (step fits keyOf idOf reason rights decisions left = decisions ∧
      ((decisions.lookup (keyOf left)).isSome ∨
        ∀ right ∈ rights, fits left right → idOf right ∈ taken decisions)) ∨
    ∃ right ∈ rights, fits left right ∧ idOf right ∉ taken decisions ∧
      decisions.lookup (keyOf left) = none ∧
      step fits keyOf idOf reason rights decisions left =
        (keyOf left, ⟨some (idOf right), reason⟩) :: decisions := by
  unfold step
  split
  · rename_i decided
    exact .inl ⟨rfl, .inl decided⟩
  · rename_i open_
    split
    · rename_i right found
      have good := List.find?_some found
      rw [Bool.and_eq_true, decide_eq_true_iff] at good
      exact .inr ⟨right, List.mem_of_find?_eq_some found, good.2, good.1,
        Option.not_isSome_iff_eq_none.mp open_, rfl⟩
    · rename_i nothing
      refine .inl ⟨rfl, .inr ?_⟩
      intro right listed fitting
      have rejected := List.find?_eq_none.mp nothing right listed
      by_contra free
      exact rejected (by rw [Bool.and_eq_true, decide_eq_true_iff]; exact ⟨free, fitting⟩)

theorem nodup_taken_step {decisions : List (κ × Decision ι μ)} (once : (taken decisions).Nodup)
    (left : α) : (taken (step fits keyOf idOf reason rights decisions left)).Nodup := by
  rcases step_cases decisions left with ⟨same, _⟩ | ⟨right, _, _, free, _, added⟩
  · rw [same]
    exact once
  · rw [added]
    exact List.nodup_cons.mpr ⟨free, once⟩

theorem lookup_step_of_some {decisions : List (κ × Decision ι μ)} {key : κ}
    {decision : Decision ι μ} (found : decisions.lookup key = some decision) (left : α) :
    (step fits keyOf idOf reason rights decisions left).lookup key = some decision := by
  rcases step_cases decisions left with ⟨same, _⟩ | ⟨right, _, _, _, fresh, added⟩
  · rw [same]
    exact found
  · rw [added, Table.lookup_cons, if_neg]
    · exact found
    · rintro rfl
      rw [fresh] at found
      cases found

theorem subset_step (decisions : List (κ × Decision ι μ)) (left : α) :
    decisions ⊆ step fits keyOf idOf reason rights decisions left := by
  rcases step_cases decisions left with ⟨same, _⟩ | ⟨right, _, _, _, _, added⟩
  · rw [same]
    exact List.Subset.refl _
  · rw [added]
    exact List.subset_cons_self _ _

theorem nodup_taken_pass : ∀ (lefts : List α) {decisions : List (κ × Decision ι μ)},
    (taken decisions).Nodup → (taken (pass fits keyOf idOf reason rights decisions lefts)).Nodup
  | [], _, once => once
  | left :: lefts, _, once => nodup_taken_pass lefts (nodup_taken_step once left)

theorem lookup_pass_of_some : ∀ (lefts : List α) {decisions : List (κ × Decision ι μ)} {key : κ}
    {decision : Decision ι μ}, decisions.lookup key = some decision →
      (pass fits keyOf idOf reason rights decisions lefts).lookup key = some decision
  | [], _, _, _, found => found
  | left :: lefts, _, _, _, found => lookup_pass_of_some lefts (lookup_step_of_some found left)

theorem subset_pass : ∀ (lefts : List α) (decisions : List (κ × Decision ι μ)),
    decisions ⊆ pass fits keyOf idOf reason rights decisions lefts
  | [], _ => List.Subset.refl _
  | left :: lefts, decisions =>
      List.Subset.trans (subset_step decisions left) (subset_pass lefts _)

theorem taken_subset_taken_pass (lefts : List α) (decisions : List (κ × Decision ι μ)) :
    taken decisions ⊆ taken (pass fits keyOf idOf reason rights decisions lefts) := by
  intro id isTaken
  rcases mem_taken_iff.mp isTaken with ⟨entry, listed, target⟩
  exact mem_taken_iff.mpr ⟨entry, subset_pass lefts decisions listed, target⟩

theorem mem_pass : ∀ (lefts : List α) {decisions : List (κ × Decision ι μ)}
    {entry : κ × Decision ι μ}, entry ∈ pass fits keyOf idOf reason rights decisions lefts →
      entry ∈ decisions ∨ ∃ left ∈ lefts, ∃ right ∈ rights, fits left right ∧
        idOf right ∉ taken decisions ∧ entry = (keyOf left, ⟨some (idOf right), reason⟩)
  | [], _, _, listed => .inl listed
  | left :: lefts, decisions, entry, listed => by
      rcases mem_pass lefts listed with earlier | ⟨later, laterListed, right, rightListed, fitting,
        free, split⟩
      · rcases step_cases decisions left with ⟨same, _⟩ | ⟨right, rightListed, fitting, free, _,
          added⟩
        · rw [same] at earlier
          exact .inl earlier
        · rw [added] at earlier
          rcases List.mem_cons.mp earlier with rfl | before
          · exact .inr ⟨left, List.mem_cons_self, right, rightListed, fitting, free, rfl⟩
          · exact .inl before
      · refine .inr ⟨later, List.mem_cons_of_mem _ laterListed, right, rightListed, fitting, ?_,
          split⟩
        intro isTaken
        rcases mem_taken_iff.mp isTaken with ⟨other, otherListed, target⟩
        exact free (mem_taken_iff.mpr ⟨other, subset_step decisions left otherListed, target⟩)

theorem taken_of_undecided : ∀ {lefts : List α} {decisions : List (κ × Decision ι μ)} {left : α},
    left ∈ lefts →
    (pass fits keyOf idOf reason rights decisions lefts).lookup (keyOf left) = none →
    ∀ right ∈ rights, fits left right →
      idOf right ∈ taken (pass fits keyOf idOf reason rights decisions lefts)
  | head :: lefts, decisions, left, listed, undecided => by
      intro right rightListed fitting
      rcases List.mem_cons.mp listed with rfl | later
      · have settled : (decisions.lookup (keyOf left)).isSome ∨
            (∀ right ∈ rights, fits left right → idOf right ∈ taken decisions) ∨
            ∃ decision, (step fits keyOf idOf reason rights decisions left).lookup (keyOf left) =
              some decision := by
          rcases step_cases decisions left with
            ⟨_, decided | full⟩ | ⟨other, _, _, _, _, added⟩
          · exact Or.inl decided
          · exact Or.inr (Or.inl full)
          · exact Or.inr (Or.inr ⟨_, by rw [added, Table.lookup_cons, if_pos rfl]⟩)
        rcases settled with decided | full | ⟨decision, found⟩
        · rcases Option.isSome_iff_exists.mp decided with ⟨decision, found⟩
          have kept : (pass fits keyOf idOf reason rights decisions (left :: lefts)).lookup
              (keyOf left) = some decision := lookup_pass_of_some (left :: lefts) found
          rw [undecided] at kept
          cases kept
        · exact taken_subset_taken_pass (left :: lefts) decisions (full right rightListed fitting)
        · have kept : (pass fits keyOf idOf reason rights
              (step fits keyOf idOf reason rights decisions left) lefts).lookup (keyOf left) =
                some decision := lookup_pass_of_some lefts found
          rw [pass, List.foldl_cons] at undecided
          rw [pass, undecided] at kept
          cases kept
      · exact taken_of_undecided later undecided right rightListed fitting

end

end HomelabBuilder.Matching
