import Mathlib.Data.List.Sort

/-! # What the order of a list does not change

Sorting by a key forgets the order when elements with one key are equal; the first and the
last element play no role when the elements agree.
-/

namespace HomelabBuilder.Orderless

variable {α β γ : Type*}

theorem insertionSort_eq_of_perm {relation : α → α → Prop} [DecidableRel relation]
    {left right : List α} (perm : left.Perm right) (total : ∀ a b, relation a b ∨ relation b a)
    (trans : ∀ a b c, relation a b → relation b c → relation a c)
    (antisymm : ∀ a ∈ left, ∀ b ∈ left, relation a b → relation b a → a = b) :
    left.insertionSort relation = right.insertionSort relation := by
  have : Std.Total relation := ⟨total⟩
  have : IsTrans α relation := ⟨trans⟩
  refine List.Perm.eq_of_pairwise ?_ (List.pairwise_insertionSort relation left)
    (List.pairwise_insertionSort relation right)
    ((List.perm_insertionSort relation left).trans
      (perm.trans (List.perm_insertionSort relation right).symm))
  intro a b memberA memberB
  exact antisymm a ((List.mem_insertionSort _).mp memberA) b
    (perm.mem_iff.mpr ((List.mem_insertionSort _).mp memberB))

theorem insertionSort_key_eq_of_perm [LinearOrder γ] (key : α → γ)
    [DecidableRel fun a b => key a ≤ key b] {left right : List α} (perm : left.Perm right)
    (apart : ∀ a ∈ left, ∀ b ∈ left, key a = key b → a = b) :
    left.insertionSort (fun a b => key a ≤ key b) =
      right.insertionSort fun a b => key a ≤ key b :=
  insertionSort_eq_of_perm perm (fun a b => le_total (key a) (key b)) (fun _ _ _ => le_trans)
    fun a memberA b memberB le ge => apart a memberA b memberB (le_antisymm le ge)

theorem apart_of_nodup_map {key : α → γ} {items : List α} (distinct : (items.map key).Nodup) :
    ∀ a ∈ items, ∀ b ∈ items, key a = key b → a = b :=
  fun _ memberA _ memberB same => List.inj_on_of_nodup_map distinct memberA memberB same

def Agree (value : α → γ) (items : List α) : Prop :=
  ∀ item ∈ items, ∀ other ∈ items, value item = value other

theorem Agree.perm {value : α → γ} {left right : List α} (agree : Agree value left)
    (perm : left.Perm right) : Agree value right :=
  fun item member other member' =>
    agree item (perm.mem_iff.mpr member) other (perm.mem_iff.mpr member')

theorem Agree.getLast? {value : α → γ} {left right : List α} (agree : Agree value left)
    (perm : left.Perm right) : left.getLast?.map value = right.getLast?.map value := by
  cases ends : left.getLast? with
  | none =>
      rw [List.getLast?_eq_none_iff.mp ends] at perm
      rw [List.nil_perm.mp perm, List.getLast?_nil]
  | some item =>
      cases ends' : right.getLast? with
      | none =>
          rw [List.getLast?_eq_none_iff.mp ends'] at perm
          rw [List.perm_nil.mp perm] at ends
          cases ends
      | some other =>
          exact congrArg some (agree item (List.mem_of_getLast? ends) other
            (perm.mem_iff.mpr (List.mem_of_getLast? ends')))

theorem Agree.head? {value : α → γ} {left right : List α} (agree : Agree value left)
    (perm : left.Perm right) : left.head?.map value = right.head?.map value := by
  rw [← List.getLast?_reverse, ← List.getLast?_reverse]
  refine Agree.getLast? (agree.perm (List.reverse_perm left).symm) ?_
  exact (List.reverse_perm left).trans (perm.trans (List.reverse_perm right).symm)

end HomelabBuilder.Orderless
