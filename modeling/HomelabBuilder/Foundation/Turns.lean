import Mathlib.Data.List.Count
import Mathlib.Data.List.Nodup
import Mathlib.Data.Set.Pairwise.List

/-! # Turns

Things of several kinds come up one after the other, and each takes the next turn of its
kind. A kind has points, and a turn moves them along. Where two things of different turns
meet depends on the distances of the points and on how often a kind comes up.
-/

namespace HomelabBuilder.Turns

variable {α κ : Type*}

section Counting

variable [DecidableEq α]

/-- Each thing with the number of equal ones that came before. -/
def turnsFrom (before : List α) : List α → List (α × Nat)
  | [] => []
  | item :: rest => (item, before.count item) :: turnsFrom (item :: before) rest

def turns (items : List α) : List (α × Nat) := turnsFrom [] items

theorem mem_turnsFrom_iff (before items : List α) (item : α) (turn : Nat) :
    (item, turn) ∈ turnsFrom before items ↔
      before.count item ≤ turn ∧ turn < before.count item + items.count item := by
  induction items generalizing before with
  | nil =>
      simp only [turnsFrom, List.not_mem_nil, List.count_nil, false_iff]
      omega
  | cons head rest induction =>
      rw [turnsFrom, List.mem_cons, induction, List.count_cons, List.count_cons, Prod.mk.injEq]
      by_cases same : head = item
      · subst same
        simp only [beq_self_eq_true, if_true, true_and]
        omega
      · simp only [beq_iff_eq, same, if_false, eq_comm (a := item), false_and, false_or,
          Nat.add_zero]

theorem mem_turns_iff (items : List α) (item : α) (turn : Nat) :
    (item, turn) ∈ turns items ↔ turn < items.count item := by
  rw [turns, mem_turnsFrom_iff, List.count_nil, Nat.zero_add]
  exact and_iff_right (Nat.zero_le turn)

theorem nodup_turnsFrom (before items : List α) : (turnsFrom before items).Nodup := by
  induction items generalizing before with
  | nil => exact List.nodup_nil
  | cons head rest induction =>
      rw [turnsFrom, List.nodup_cons]
      refine ⟨fun listed => ?_, induction _⟩
      have later := ((mem_turnsFrom_iff _ _ _ _).mp listed).1
      rw [List.count_cons_self] at later
      omega

end Counting

/-! ## Points -/

section Points

variable (points : α → List (κ × Int))

def Apart (left right : α × Nat) : Prop :=
  ∀ point ∈ points left.1, ∀ other ∈ points right.1, point.1 = other.1 →
    point.2 + left.2 ≠ other.2 + right.2

theorem Apart.symm {left right : α × Nat} (apart : Apart points left right) :
    Apart points right left :=
  fun point member other listed same meet => apart other listed point member same.symm meet.symm

variable [DecidableEq α]

/-- Of two points of one sort the lower one does not reach the upper one, however often its
kind comes up. -/
def Spaced (items : List α) : Prop :=
  ∀ kind ∈ items, ∀ another ∈ items, ∀ point ∈ points kind, ∀ other ∈ points another,
    point.1 = other.1 → point.2 ≤ other.2 →
      (kind = another ∧ point.2 = other.2) ∨ (items.count kind : Int) ≤ other.2 - point.2

theorem pairwise_apart_iff (items : List α) :
    (turns items).Pairwise (Apart points) ↔ Spaced points items := by
  have symmetric : Std.Symm (Apart points) := ⟨fun _ _ => Apart.symm points⟩
  have distinct : (turns items).Nodup := nodup_turnsFrom [] items
  rw [← distinct.pairwise_coe]
  constructor
  · intro apart kind listed another listed' point member other member' sort below
    by_contra close
    rw [not_or] at close
    -- The lower point reaches the upper one at the turn that is their distance.
    have distance : ((other.2 - point.2).toNat : Int) = other.2 - point.2 :=
      Int.toNat_of_nonneg (by omega)
    have reached : (kind, (other.2 - point.2).toNat) ∈ turns items :=
      (mem_turns_iff _ _ _).mpr (by omega)
    have first : (another, 0) ∈ turns items :=
      (mem_turns_iff _ _ _).mpr (List.count_pos_iff.mpr listed')
    refine apart reached first ?_ point member other member' sort ?_
    · intro same
      rw [Prod.mk.injEq] at same
      exact close.1 ⟨same.1, by omega⟩
    · dsimp only
      omega
  · rintro spaced ⟨kind, turn⟩ listed ⟨another, turn'⟩ listed' different point member other member'
      sort meet
    have within := (mem_turns_iff _ _ _).mp listed
    have within' := (mem_turns_iff _ _ _).mp listed'
    have some := List.count_pos_iff.mp (Nat.zero_lt_of_lt within)
    have some' := List.count_pos_iff.mp (Nat.zero_lt_of_lt within')
    dsimp only at meet
    rcases le_total point.2 other.2 with below | above
    · rcases spaced kind some another some' point member other member' sort below with
        ⟨rfl, equal⟩ | far
      · exact different (by rw [Prod.mk.injEq]; exact ⟨rfl, by omega⟩)
      · omega
    · rcases spaced another some' kind some other member' point member sort.symm above with
        ⟨rfl, equal⟩ | far
      · exact different (by rw [Prod.mk.injEq]; exact ⟨rfl, by omega⟩)
      · omega

theorem forall_apart_iff (items : List α) (fixed : List (κ × Int)) :
    (∀ entry ∈ turns items, ∀ point ∈ points entry.1, ∀ other ∈ fixed, point.1 = other.1 →
        point.2 + entry.2 ≠ other.2) ↔
      ∀ kind ∈ items, ∀ point ∈ points kind, ∀ other ∈ fixed, point.1 = other.1 →
        point.2 ≤ other.2 → (items.count kind : Int) ≤ other.2 - point.2 := by
  constructor
  · intro apart kind listed point member other member' sort below
    by_contra close
    have reached : (kind, (other.2 - point.2).toNat) ∈ turns items :=
      (mem_turns_iff _ _ _).mpr (by omega)
    refine apart _ reached point member other member' sort ?_
    dsimp only
    omega
  · rintro far ⟨kind, turn⟩ listed point member other member' sort meet
    have within := (mem_turns_iff _ _ _).mp listed
    have some := List.count_pos_iff.mp (Nat.zero_lt_of_lt within)
    dsimp only at meet
    have distance := far kind some point member other member' sort (by omega)
    omega

/-! ### Kinds without points -/

variable {points} {keep : α → Bool} (empty : ∀ kind, keep kind = false → points kind = [])

include empty

omit [DecidableEq α] in
theorem kept_of_point {kind : α} {point : κ × Int} (member : point ∈ points kind) :
    keep kind = true := by
  by_contra dropped
  rw [empty kind (Bool.eq_false_of_not_eq_true dropped)] at member
  cases member

theorem spaced_filter_iff (items : List α) :
    Spaced points (items.filter keep) ↔ Spaced points items := by
  constructor
  · intro spaced kind listed another listed' point member other member' sort below
    have kept := kept_of_point empty member
    have far := spaced kind (List.mem_filter.mpr ⟨listed, kept⟩) another
      (List.mem_filter.mpr ⟨listed', kept_of_point empty member'⟩) point member other member' sort
      below
    rwa [List.count_filter kept] at far
  · intro spaced kind listed another listed' point member other member' sort below
    rw [List.count_filter (kept_of_point empty member)]
    exact spaced kind (List.mem_filter.mp listed).1 another (List.mem_filter.mp listed').1 point
      member other member' sort below

theorem forall_apart_filter_iff (items : List α) (fixed : List (κ × Int)) :
    (∀ entry ∈ turns (items.filter keep), ∀ point ∈ points entry.1, ∀ other ∈ fixed,
        point.1 = other.1 → point.2 + entry.2 ≠ other.2) ↔
      ∀ kind ∈ items, ∀ point ∈ points kind, ∀ other ∈ fixed, point.1 = other.1 →
        point.2 ≤ other.2 → (items.count kind : Int) ≤ other.2 - point.2 := by
  rw [forall_apart_iff]
  constructor
  · intro far kind listed point member other member' sort below
    have kept := kept_of_point empty member
    have distance := far kind (List.mem_filter.mpr ⟨listed, kept⟩) point member other member' sort
      below
    rwa [List.count_filter kept] at distance
  · intro far kind listed point member
    rw [List.count_filter (kept_of_point empty member)]
    exact far kind (List.mem_filter.mp listed).1 point member

end Points

end HomelabBuilder.Turns
