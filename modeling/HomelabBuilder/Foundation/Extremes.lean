import Mathlib.Algebra.Order.BigOperators.Group.List
import Mathlib.Algebra.Order.Field.Basic
import Mathlib.Data.List.MinMax
import Mathlib.Tactic.FieldSimp
import Mathlib.Tactic.Linarith

/-! # Running extremes

A loop that keeps the largest value met so far, in steps that each take the values of
one item into account, ends with the largest value of all items. The same of the
smallest.
-/

namespace HomelabBuilder.Extremes

variable {α β : Type*} [LinearOrder β]

theorem foldl_max_le_iff (values : List β) (start bound : β) :
    values.foldl max start ≤ bound ↔ start ≤ bound ∧ ∀ value ∈ values, value ≤ bound := by
  induction values generalizing start with
  | nil => simp
  | cons head tail induction =>
      rw [List.foldl_cons, induction, max_le_iff, List.forall_mem_cons, and_assoc]

@[simp]
theorem maximum_append (left right : List β) :
    (left ++ right).maximum = max left.maximum right.maximum := by
  induction left with
  | nil => rw [List.nil_append, List.maximum_nil, bot_sup_eq]
  | cons head tail induction =>
      rw [List.cons_append, List.maximum_cons, List.maximum_cons, induction, max_assoc]

@[simp]
theorem minimum_append (left right : List β) :
    (left ++ right).minimum = min left.minimum right.minimum := by
  induction left with
  | nil => rw [List.nil_append, List.minimum_nil, top_inf_eq]
  | cons head tail induction =>
      rw [List.cons_append, List.minimum_cons, List.minimum_cons, induction, min_assoc]

section Largest

variable {step : WithBot β → α → WithBot β}

theorem foldl_eq_maximum (values : α → List β)
    (exact : ∀ best item, step best item = max best (values item).maximum)
    (start : WithBot β) (items : List α) :
    items.foldl step start = max start (items.flatMap values).maximum := by
  induction items generalizing start with
  | nil => rw [List.foldl_nil, List.flatMap_nil, List.maximum_nil, sup_bot_eq]
  | cons head tail induction =>
      rw [List.foldl_cons, induction, exact, List.flatMap_cons, maximum_append, max_assoc]

/-- An item may be skipped when none of its values exceeds what the loop has already. -/
theorem eq_max_of_forall_le {best : WithBot β} {candidates : List β}
    (below : ∀ candidate ∈ candidates, (candidate : WithBot β) ≤ best) :
    best = max best candidates.maximum :=
  (max_eq_left (List.maximum_le_of_forall_le below)).symm

theorem le_foldl_max (value : α → β) {items : List α} {item : α} (member : item ∈ items) :
    (value item : WithBot β) ≤ items.foldl (fun best item => max best ↑(value item)) ⊥ := by
  have largest : items.foldl (fun best item => max best ↑(value item)) ⊥ =
      max ⊥ (items.flatMap fun item => [value item]).maximum := by
    refine foldl_eq_maximum (fun item => [value item]) (fun best item => ?_) ⊥ items
    rw [List.maximum_singleton]
  rw [largest, bot_sup_eq]
  exact List.le_maximum_of_mem' (List.mem_flatMap.mpr ⟨item, member, List.mem_singleton_self _⟩)

end Largest

section Smallest

variable {step : WithTop β → α → WithTop β}

theorem foldl_eq_minimum (values : α → List β)
    (exact : ∀ best item, step best item = min best (values item).minimum)
    (start : WithTop β) (items : List α) :
    items.foldl step start = min start (items.flatMap values).minimum := by
  induction items generalizing start with
  | nil => rw [List.foldl_nil, List.flatMap_nil, List.minimum_nil, inf_top_eq]
  | cons head tail induction =>
      rw [List.foldl_cons, induction, exact, List.flatMap_cons, minimum_append, min_assoc]

theorem foldl_min_le (value : α → β) {items : List α} {item : α} (member : item ∈ items) :
    items.foldl (fun best item => min best ↑(value item)) ⊤ ≤ (value item : WithTop β) := by
  have smallest : items.foldl (fun best item => min best ↑(value item)) ⊤ =
      min ⊤ (items.flatMap fun item => [value item]).minimum := by
    refine foldl_eq_minimum (fun item => [value item]) (fun best item => ?_) ⊤ items
    rw [List.minimum_singleton]
  rw [smallest, top_inf_eq]
  exact List.minimum_le_of_mem' (List.mem_flatMap.mpr ⟨item, member, List.mem_singleton_self _⟩)

end Smallest

end HomelabBuilder.Extremes

/-! # Averages, peaks and spreads

A weighted average grows with its scores. The spread of a list is how far its largest
value stands above the mean: raising the largest value widens it, raising another one
may narrow it.
-/

namespace HomelabBuilder.Averages

variable {K : Type*} [Field K] [LinearOrder K]

/-! ## Weighted averages -/

structure WeightedScore (K : Type*) where
  score : K
  weight : K

namespace WeightedScore

def total (scores : List (WeightedScore K)) : K :=
  (scores.map fun item => item.score * item.weight).sum

def weights (scores : List (WeightedScore K)) : K := (scores.map weight).sum

/-- The same weight, and a score at most as high. -/
structure Below (item better : WeightedScore K) : Prop where
  weight : item.weight = better.weight
  nonneg : 0 ≤ item.weight
  score : item.score ≤ better.score

end WeightedScore

open WeightedScore

def weightedAverage (scores : List (WeightedScore K)) : K :=
  if weights scores = 0 then 0 else total scores / weights scores

theorem weights_eq {scores better : List (WeightedScore K)}
    (below : List.Forall₂ Below scores better) : weights scores = weights better := by
  induction below with
  | nil => rfl
  | cons item _ induction =>
      simp only [weights, List.map_cons, List.sum_cons] at induction ⊢
      rw [item.weight, induction]

section Ordered

variable [IsStrictOrderedRing K]

theorem weights_nonneg {scores better : List (WeightedScore K)}
    (below : List.Forall₂ Below scores better) : 0 ≤ weights scores := by
  induction below with
  | nil => exact le_rfl
  | cons item _ induction =>
      simp only [weights, List.map_cons, List.sum_cons] at induction ⊢
      exact add_nonneg item.nonneg induction

theorem total_le {scores better : List (WeightedScore K)}
    (below : List.Forall₂ Below scores better) : total scores ≤ total better := by
  induction below with
  | nil => exact le_rfl
  | cons item _ induction =>
      simp only [total, List.map_cons, List.sum_cons] at induction ⊢
      refine add_le_add ?_ induction
      rw [← item.weight]
      exact mul_le_mul_of_nonneg_right item.score item.nonneg

theorem weightedAverage_le {scores better : List (WeightedScore K)}
    (below : List.Forall₂ Below scores better) :
    weightedAverage scores ≤ weightedAverage better := by
  unfold weightedAverage
  rw [weights_eq below]
  split
  · exact le_rfl
  · refine div_le_div_of_nonneg_right (total_le below) ?_
    rw [← weights_eq below]
    exact weights_nonneg below

end Ordered

/-! ## Peaks and spreads -/

def peak (values : List K) : K := values.foldl max 0

def mean (values : List K) : K := values.sum / values.length

def spread (values : List K) : K := peak values - mean values

theorem peak_le_iff {values : List K} {bound : K} :
    peak values ≤ bound ↔ 0 ≤ bound ∧ ∀ value ∈ values, value ≤ bound :=
  Extremes.foldl_max_le_iff values 0 bound

theorem peak_nonneg (values : List K) : 0 ≤ peak values := (peak_le_iff.mp le_rfl).1

theorem le_peak {values : List K} {value : K} (member : value ∈ values) :
    value ≤ peak values :=
  (peak_le_iff.mp le_rfl).2 value member

theorem peak_mono {values raised : List K} (below : List.Forall₂ (· ≤ ·) values raised) :
    peak values ≤ peak raised := by
  refine peak_le_iff.mpr ⟨peak_nonneg raised, fun value member => ?_⟩
  rcases List.forall₂_iff_get.mp below with ⟨length, pointwise⟩
  rcases List.mem_iff_get.mp member with ⟨index, rfl⟩
  exact (pointwise index index.isLt (length ▸ index.isLt)).trans (le_peak (List.get_mem _ _))

theorem sum_filter_pos {values : List K} (nonneg : ∀ value ∈ values, 0 ≤ value) :
    (values.filter (0 < ·)).sum = values.sum := by
  induction values with
  | nil => rfl
  | cons head tail induction =>
      rw [List.forall_mem_cons] at nonneg
      by_cases positive : 0 < head
      · rw [List.filter_cons_of_pos (by simpa using positive), List.sum_cons, List.sum_cons,
          induction nonneg.2]
      · have zero : head = 0 := le_antisymm (not_lt.mp positive) nonneg.1
        rw [List.filter_cons_of_neg (by simpa using positive), induction nonneg.2, zero,
          List.sum_cons, zero_add]

/-- The largest value is raised and becomes the peak, the others stay: the mean follows by
a part of the distance only. -/
theorem spread_le_spread [IsStrictOrderedRing K] {values raised : List K} (length : raised.length = values.length)
    (same : peak raised - peak values = raised.sum - values.sum)
    (higher : peak values ≤ peak raised) : spread values ≤ spread raised := by
  unfold spread mean
  rw [length]
  rcases Nat.eq_zero_or_pos values.length with none | some
  · rw [none, Nat.cast_zero, div_zero, div_zero, sub_zero, sub_zero]
    exact higher
  · have many : (1 : K) ≤ values.length := by exact_mod_cast some
    have part : (peak raised - peak values) / values.length ≤ peak raised - peak values :=
      div_le_self (sub_nonneg.mpr higher) many
    rw [same, sub_div] at part
    linarith

end HomelabBuilder.Averages
