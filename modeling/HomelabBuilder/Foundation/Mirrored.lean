import Mathlib.Data.List.Forall2
import Mathlib.Data.List.Perm.Basic
import HomelabBuilder.Foundation.Keyed

/-! # Mirrored lists

Two lists that hold the same things in two forms, each thing under its key: the
keys of both are the same, none repeats, and the two forms of one thing agree.
-/

namespace HomelabBuilder

structure Mirrored {α β κ : Type*} (leftKey : α → κ) (rightKey : β → κ) (Agree : α → β → Prop)
    (left : List α) (right : List β) : Prop where
  nodup : (right.map rightKey).Nodup
  keys : (left.map leftKey).Perm (right.map rightKey)
  agree : ∀ here ∈ left, ∀ there ∈ right, leftKey here = rightKey there → Agree here there

namespace Mirrored

variable {α β κ : Type*} {leftKey : α → κ} {rightKey : β → κ} {Agree Later : α → β → Prop}
  {left : List α} {right : List β}

theorem mem_keys (mirrored : Mirrored leftKey rightKey Agree left right) {key : κ} :
    key ∈ left.map leftKey ↔ key ∈ right.map rightKey := mirrored.keys.mem_iff

theorem exists_right (mirrored : Mirrored leftKey rightKey Agree left right) {here : α}
    (member : here ∈ left) : ∃ there ∈ right, rightKey there = leftKey here ∧ Agree here there := by
  have listed := mirrored.mem_keys.mp (List.mem_map_of_mem member)
  rcases List.mem_map.mp listed with ⟨there, known, same⟩
  exact ⟨there, known, same, mirrored.agree here member there known same.symm⟩

theorem nil : Mirrored leftKey rightKey Agree [] [] where
  nodup := List.nodup_nil
  keys := List.Perm.nil
  agree := nofun

theorem map (mirrored : Mirrored leftKey rightKey Agree left right) {f : α → α} {g : β → β}
    (leftKept : ∀ here ∈ left, leftKey (f here) = leftKey here)
    (rightKept : ∀ there ∈ right, rightKey (g there) = rightKey there)
    (agree : ∀ here ∈ left, ∀ there ∈ right, leftKey here = rightKey there → Agree here there →
      Later (f here) (g there)) :
    Mirrored leftKey rightKey Later (left.map f) (right.map g) where
  nodup := by
    have keys : (right.map g).map rightKey = right.map rightKey := by
      rw [List.map_map]
      exact List.map_congr_left rightKept
    rw [keys]
    exact mirrored.nodup
  keys := by
    have leftKeys : (left.map f).map leftKey = left.map leftKey := by
      rw [List.map_map]
      exact List.map_congr_left leftKept
    have rightKeys : (right.map g).map rightKey = right.map rightKey := by
      rw [List.map_map]
      exact List.map_congr_left rightKept
    rw [leftKeys, rightKeys]
    exact mirrored.keys
  agree := by
    intro here listed there known same
    rcases List.mem_map.mp listed with ⟨old, member, rfl⟩
    rcases List.mem_map.mp known with ⟨other, otherMember, rfl⟩
    rw [leftKept old member, rightKept other otherMember] at same
    exact agree old member other otherMember same
      (mirrored.agree old member other otherMember same)

theorem filter (mirrored : Mirrored leftKey rightKey Agree left right) (keep : κ → Bool) :
    Mirrored leftKey rightKey Agree (left.filter fun here => keep (leftKey here))
      (right.filter fun there => keep (rightKey there)) where
  nodup := mirrored.nodup.sublist (List.filter_sublist.map rightKey)
  keys := by
    have leftKeys : (left.filter fun here => keep (leftKey here)).map leftKey =
        (left.map leftKey).filter keep := by
      rw [List.filter_map]
      rfl
    have rightKeys : (right.filter fun there => keep (rightKey there)).map rightKey =
        (right.map rightKey).filter keep := by
      rw [List.filter_map]
      rfl
    rw [leftKeys, rightKeys]
    exact mirrored.keys.filter keep
  agree here listed there known :=
    mirrored.agree here (List.mem_filter.mp listed).1 there (List.mem_filter.mp known).1

theorem concat (mirrored : Mirrored leftKey rightKey Agree left right) {here : α} {there : β}
    (same : leftKey here = rightKey there) (fresh : rightKey there ∉ right.map rightKey)
    (agree : Agree here there) :
    Mirrored leftKey rightKey Agree (left ++ [here]) (right ++ [there]) where
  nodup := by
    rw [List.map_append]
    refine List.nodup_append.mpr ⟨mirrored.nodup, List.nodup_singleton _, ?_⟩
    rintro key listed _ isNew rfl
    exact fresh (List.mem_singleton.mp isNew ▸ listed)
  keys := by
    rw [List.map_append, List.map_append, List.map_singleton, List.map_singleton, same]
    exact mirrored.keys.append_right _
  agree := by
    intro one listed other known keys
    rcases List.mem_append.mp listed with old | isNew
    · rcases List.mem_append.mp known with oldToo | isNewToo
      · exact mirrored.agree one old other oldToo keys
      · rw [List.mem_singleton.mp isNewToo] at keys
        exact absurd (keys ▸ mirrored.mem_keys.mp (List.mem_map_of_mem old)) fresh
    · rw [List.mem_singleton.mp isNew] at keys ⊢
      rcases List.mem_append.mp known with oldToo | isNewToo
      · rw [same] at keys
        exact absurd (keys ▸ List.mem_map_of_mem oldToo) fresh
      · rw [List.mem_singleton.mp isNewToo]
        exact agree

theorem forall₂_left (mirrored : Mirrored leftKey rightKey Agree left right) {other : List α}
    (same : List.Forall₂ (fun before after => leftKey after = leftKey before ∧
      ∀ there, Agree before there → Later after there) left other) :
    Mirrored leftKey rightKey Later other right := by
  have keys : other.map leftKey = left.map leftKey :=
    Keyed.map_eq_of_forall₂ (same.imp fun _ _ => And.left)
  refine ⟨mirrored.nodup, keys ▸ mirrored.keys, ?_⟩
  intro here listed there known key
  rcases Keyed.exists_of_forall₂ same.flip listed with ⟨before, member, sameKey, later⟩
  exact later there (mirrored.agree before member there known (sameKey.symm.trans key))

theorem perm (mirrored : Mirrored leftKey rightKey Agree left right) {other : List α}
    (reordered : other.Perm left) : Mirrored leftKey rightKey Agree other right where
  nodup := mirrored.nodup
  keys := (reordered.map leftKey).trans mirrored.keys
  agree here listed := mirrored.agree here (reordered.mem_iff.mp listed)

end Mirrored

end HomelabBuilder
