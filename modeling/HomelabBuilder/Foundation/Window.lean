import Mathlib.Algebra.Order.Group.Int
import Mathlib.Tactic.Linarith

/-! # Moments in a window

How many moments of a growing list fall into a window that is shorter than a span.
-/

namespace HomelabBuilder.Window

def after (moments : List Int) (start : Int) : Nat := moments.countP fun moment => start < moment

/-- No window shorter than the span holds more moments than the bound. -/
def Sparse (span : Int) (bound : Nat) (moments : List Int) : Prop :=
  ∀ start stop, stop - start < span →
    (moments.countP fun moment => start ≤ moment ∧ moment ≤ stop) ≤ bound

theorem Sparse.nil {span : Int} {bound : Nat} : Sparse span bound [] := fun _ _ _ => Nat.zero_le _

theorem after_anti {moments : List Int} {start later : Int} (order : start ≤ later) :
    after moments later ≤ after moments start := by
  apply List.countP_mono_left
  intro moment _ isLater
  simp only [decide_eq_true_eq] at isLater ⊢
  omega

theorem after_eq_zero {moments : List Int} {start : Int} (past : ∀ moment ∈ moments, moment ≤ start) :
    after moments start = 0 := by
  apply List.countP_eq_zero.mpr
  intro moment listed isLater
  have before := past moment listed
  simp only [decide_eq_true_eq] at isLater
  omega

theorem after_cons_of_lt {moments : List Int} {start now : Int} (order : start < now) :
    after (now :: moments) start = after moments start + 1 :=
  List.countP_cons_of_pos (decide_eq_true order)

theorem after_cons_of_le {moments : List Int} {start now : Int} (order : now ≤ start) :
    after (now :: moments) start = after moments start :=
  List.countP_cons_of_neg (by simpa using order)

theorem Sparse.cons {span now : Int} {bound : Nat} {moments : List Int}
    (sparse : Sparse span bound moments)
    (room : after moments (now - span) < bound) : Sparse span bound (now :: moments) := by
  intro start stop short
  by_cases within : start ≤ now ∧ now ≤ stop
  · have counted : (now :: moments).countP (fun moment => start ≤ moment ∧ moment ≤ stop) =
        (moments.countP fun moment => start ≤ moment ∧ moment ≤ stop) + 1 :=
      List.countP_cons_of_pos (decide_eq_true within)
    have fewer : (moments.countP fun moment => start ≤ moment ∧ moment ≤ stop) ≤
        after moments (now - span) := by
      apply List.countP_mono_left
      intro moment _ inside
      simp only [decide_eq_true_eq] at inside ⊢
      omega
    omega
  · have counted : (now :: moments).countP (fun moment => start ≤ moment ∧ moment ≤ stop) =
        moments.countP fun moment => start ≤ moment ∧ moment ≤ stop :=
      List.countP_cons_of_neg fun inside => within (of_decide_eq_true inside)
    rw [counted]
    exact sparse start stop short

end HomelabBuilder.Window
