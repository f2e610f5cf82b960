import Mathlib.Data.List.Nodup
import Mathlib.Data.List.Perm.Basic

/-! # Reports on what was decided

A history of decisions and of reports that list them. Each report that lists what was
decided since the one before is the only one to name it.
-/

namespace HomelabBuilder.Reports

variable {α κ : Type*}

/-- What happened, one after the other; a history lists it with the last first. -/
inductive Entry (α : Type*)
  | decided (item : α)
  | report (items : List α)
  deriving DecidableEq

def decided : List (Entry α) → List α
  | [] => []
  | .decided item :: earlier => item :: decided earlier
  | .report _ :: earlier => decided earlier

def reports : List (Entry α) → List (List α)
  | [] => []
  | .decided _ :: earlier => reports earlier
  | .report items :: earlier => items :: reports earlier

/-- What was decided since the last report. -/
def open_ : List (Entry α) → List α
  | .decided item :: earlier => item :: open_ earlier
  | _ => []

def Complete : List (Entry α) → Prop
  | [] => True
  | .decided _ :: earlier => Complete earlier
  | .report items :: earlier => items.Perm (open_ earlier) ∧ Complete earlier

theorem open_subset_decided : ∀ history : List (Entry α), open_ history ⊆ decided history
  | [] => List.Subset.refl _
  | .decided item :: earlier => List.cons_subset_cons item (open_subset_decided earlier)
  | .report _ :: _ => List.nil_subset _

theorem mem_decided_of_report {history : List (Entry α)} {items : List α} {item : α}
    (complete : Complete history) (listed : items ∈ reports history) (member : item ∈ items) :
    item ∈ decided history := by
  induction history with
  | nil => cases listed
  | cons entry earlier induction =>
      cases entry with
      | decided other => exact List.mem_cons_of_mem _ (induction complete listed)
      | report last =>
          rcases List.mem_cons.mp listed with rfl | before
          · exact open_subset_decided earlier (complete.1.subset member)
          · exact induction complete.2 before

theorem decided_append (later earlier : List (Entry α)) :
    decided (later ++ earlier) = decided later ++ decided earlier := by
  induction later with
  | nil => rfl
  | cons entry later induction =>
      cases entry with
      | decided item => exact congrArg (item :: ·) induction
      | report items => exact induction

theorem open_append_of_reports_eq_nil {later earlier : List (Entry α)} (none : reports later = []) :
    open_ (later ++ earlier) = decided later ++ open_ earlier := by
  induction later with
  | nil => rfl
  | cons entry later induction =>
      cases entry with
      | decided item => exact congrArg (item :: ·) (induction none)
      | report items => cases none

theorem open_append_subset {later earlier : List (Entry α)} (some : reports later ≠ []) :
    open_ (later ++ earlier) ⊆ decided later := by
  induction later with
  | nil => exact absurd rfl some
  | cons entry later induction =>
      cases entry with
      | decided item => exact List.cons_subset_cons item (induction some)
      | report items => exact List.nil_subset _

theorem complete_of_append {later earlier : List (Entry α)} (complete : Complete (later ++ earlier)) :
    Complete earlier := by
  induction later with
  | nil => exact complete
  | cons entry later induction =>
      cases entry with
      | decided item => exact induction complete
      | report items => exact induction complete.2

/-! ## Several decisions at once -/

theorem open_decisions (items : List α) (history : List (Entry α)) :
    open_ (items.map .decided ++ history) = items ++ open_ history := by
  induction items with
  | nil => rfl
  | cons item items induction => exact congrArg (item :: ·) induction

theorem decided_decisions (items : List α) (history : List (Entry α)) :
    decided (items.map .decided ++ history) = items ++ decided history := by
  induction items with
  | nil => rfl
  | cons item items induction => exact congrArg (item :: ·) induction

theorem reports_decisions (items : List α) (history : List (Entry α)) :
    reports (items.map .decided ++ history) = reports history := by
  induction items with
  | nil => rfl
  | cons item items induction => exact induction

theorem complete_decisions {items : List α} {history : List (Entry α)}
    (complete : Complete history) : Complete (items.map .decided ++ history) := by
  induction items with
  | nil => exact complete
  | cons item items induction => exact induction

/-! ## Told once -/

section

variable {key : α → κ} {later earlier : List (Entry α)} {item : α}

theorem untold_before (complete : Complete (later ++ .decided item :: earlier))
    (distinct : ((decided (later ++ .decided item :: earlier)).map key).Nodup) :
    ∀ items ∈ reports earlier, ∀ other ∈ items, key other ≠ key item := by
  intro items listed other member same
  have complete : Complete earlier := by
    apply @complete_of_append _ (later ++ [.decided item])
    rw [List.append_assoc]
    exact complete
  have before := mem_decided_of_report complete listed member
  rw [decided_append, List.map_append, List.nodup_append] at distinct
  have fresh := (List.nodup_cons.mp distinct.2.1).1
  exact fresh (List.mem_map.mpr ⟨other, before, same⟩)

variable [DecidableEq κ]

/-- A decision is told in the first report behind it, once, and in no other. -/
def ToldOnce (key : α → κ) (later : List (Entry α)) (item : α) : Prop :=
  match (reports later).reverse with
  | [] => True
  | first :: rest => first.filter (key · = key item) = [item] ∧
      ∀ items ∈ rest, ∀ other ∈ items, key other ≠ key item

theorem filter_key (distinct : ((decided later ++ item :: decided earlier).map key).Nodup)
    {some : List α} (part : some ⊆ decided earlier) :
    (decided later ++ item :: some).filter (key · = key item) = [item] := by
  rw [List.map_append, List.nodup_append] at distinct
  rcases distinct with ⟨_, behind, apart⟩
  have noneLater : (decided later).filter (key · = key item) = [] := by
    rw [List.filter_eq_nil_iff]
    intro other member same
    exact apart (key other) (List.mem_map_of_mem member) (key item) List.mem_cons_self
      (of_decide_eq_true same)
  have noneEarlier : some.filter (key · = key item) = [] := by
    rw [List.filter_eq_nil_iff]
    intro other member same
    apply (List.nodup_cons.mp behind).1
    exact List.mem_map.mpr ⟨other, part member, of_decide_eq_true same⟩
  rw [List.filter_append, noneLater, List.nil_append, List.filter_cons, noneEarlier]
  exact if_pos (decide_eq_true rfl)

theorem told_once (complete : Complete (later ++ .decided item :: earlier))
    (distinct : ((decided (later ++ .decided item :: earlier)).map key).Nodup) :
    ToldOnce key later item := by
  induction later with
  | nil => trivial
  | cons entry later induction =>
      cases entry with
      | decided other => exact induction complete (List.nodup_cons.mp distinct).2
      | report items =>
          have lists : items.Perm (open_ (later ++ .decided item :: earlier)) := complete.1
          have complete : Complete (later ++ .decided item :: earlier) := complete.2
          have before := induction complete distinct
          rw [List.cons_append, decided, decided_append] at distinct
          unfold ToldOnce at before ⊢
          rw [reports, List.reverse_cons]
          cases reported : (reports later).reverse with
          | nil =>
              have none := List.reverse_eq_nil_iff.mp reported
              rw [open_append_of_reports_eq_nil none] at lists
              refine ⟨?_, nofun⟩
              have single := lists.filter (key · = key item)
              rw [open_, filter_key distinct (open_subset_decided earlier)] at single
              exact List.perm_singleton.mp single
          | cons first rest =>
              rw [reported] at before
              refine ⟨before.1, fun listed member other inside same => ?_⟩
              rcases List.mem_append.mp member with earlierReport | last
              · exact before.2 listed earlierReport other inside same
              · rw [List.mem_singleton.mp last] at inside
                have some : reports later ≠ [] := by
                  intro none
                  rw [none] at reported
                  cases reported
                have here := open_append_subset some (lists.subset inside)
                rw [List.map_append, List.nodup_append] at distinct
                exact distinct.2.2 (key other) (List.mem_map_of_mem here) (key item)
                  List.mem_cons_self same

end

end HomelabBuilder.Reports
