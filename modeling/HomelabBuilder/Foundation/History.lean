import Mathlib.Logic.Function.Iterate

/-! # Undo and redo

A state with the steps that lead back from it and forth to what was undone. A
step does not know its own inverse: it is made from the state that is left.
-/

namespace HomelabBuilder

/-- Steps that can be taken back. `back state step` leads from where `step` leads to
`state` again, and is taken back by `step`. -/
structure Reversible (σ π : Type*) where
  apply : σ → π → σ
  back : σ → π → π
  apply_back : ∀ state step, apply (apply state step) (back state step) = state
  back_back : ∀ state step, back (apply state step) (back state step) = step

/-- The newest step of the past is the last, that of the future the first. -/
structure History (σ π : Type*) where
  present : σ
  past : List π
  future : List π

namespace History

variable {σ π : Type*} (steps : Reversible σ π) (limit : Nat)

def size (history : History σ π) : Nat := history.past.length + history.future.length

/-- The last steps there is room for. -/
def recent (past : List π) : List π := past.drop (past.length - limit)

def undo (history : History σ π) : History σ π :=
  match history.past.getLast? with
  | none => history
  | some step =>
      { present := steps.apply history.present step
        past := history.past.dropLast
        future := (steps.back history.present step :: history.future).take limit }

def redo (history : History σ π) : History σ π :=
  match history.future with
  | [] => history
  | step :: future =>
      { present := steps.apply history.present step
        past := recent limit (history.past ++ [steps.back history.present step])
        future := future }

theorem recent_of_length_le {past : List π} (short : past.length ≤ limit) :
    recent limit past = past := by
  rw [recent, Nat.sub_eq_zero_of_le short, List.drop_zero]

theorem length_recent_le (past : List π) : (recent limit past).length ≤ limit := by
  rw [recent, List.length_drop]
  omega

/-! ## Room for the steps -/

theorem size_undo_le (history : History σ π) : (history.undo steps limit).size ≤ history.size := by
  unfold undo size
  split
  · exact Nat.le_refl _
  · rename_i step last
    have nonempty : history.past ≠ [] := by
      rintro none
      rw [none] at last
      cases last
    have positive := List.length_pos_iff.mpr nonempty
    rw [List.length_dropLast, List.length_take, List.length_cons]
    omega

theorem size_redo_le (history : History σ π) : (history.redo steps limit).size ≤ history.size := by
  unfold redo size
  cases future : history.future with
  | nil =>
      exact Nat.le_of_eq (by rw [future])
  | cons step rest =>
      dsimp only
      rw [recent, List.length_drop, List.length_append, List.length_singleton, List.length_cons]
      omega

/-! ## There and back -/

theorem length_past_undo (history : History σ π) :
    (history.undo steps limit).past.length = history.past.length - 1 := by
  unfold undo
  split
  · rename_i none
    rw [List.getLast?_eq_none_iff.mp none]
    rfl
  · exact List.length_dropLast

theorem redo_undo {history : History σ π} (room : history.size ≤ limit)
    (something : history.past ≠ []) : (history.undo steps limit).redo steps limit = history := by
  rcases history with ⟨present, past, future⟩
  dsimp only at something
  have last := List.getLast?_eq_some_getLast something
  have positive := List.length_pos_iff.mpr something
  have split := List.dropLast_concat_getLast something
  generalize past.getLast something = step at last split
  unfold size at room
  dsimp only at room
  have kept : (steps.back present step :: future).take limit = steps.back present step :: future := by
    apply List.take_of_length_le
    rw [List.length_cons]
    omega
  unfold undo
  dsimp only
  rw [last]
  dsimp only
  rw [kept]
  unfold redo
  dsimp only
  rw [steps.apply_back, steps.back_back, split, recent_of_length_le limit (by omega)]

theorem iterate_redo_undo : ∀ (count : Nat) {history : History σ π}, history.size ≤ limit →
    count ≤ history.past.length →
      (redo steps limit)^[count] ((undo steps limit)^[count] history) = history
  | 0, _, _, _ => rfl
  | count + 1, history, room, enough => by
      have shorter := length_past_undo steps limit history
      have inner := iterate_redo_undo count
        (Nat.le_trans (size_undo_le steps limit history) room) (by rw [shorter]; omega)
      rw [Function.iterate_succ_apply (undo steps limit), Function.iterate_succ_apply', inner]
      apply redo_undo steps limit room
      rintro none
      rw [none] at enough
      cases enough

end History

end HomelabBuilder
