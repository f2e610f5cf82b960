import HomelabBuilder.Foundation.Table

/-! # Keys and their owners

Keys are booked one after the other in a table of the last owner of each. A
clash is noticed when a key has another owner already. A booking that goes on
after a clash, or skips what follows it, notices the same lists.
-/

namespace HomelabBuilder.Booking

variable {κ ν : Type*}

def Agree (entries : List (κ × ν)) : Prop :=
  ∀ left ∈ entries, ∀ right ∈ entries, left.1 = right.1 → left.2 = right.2

theorem Agree.of_subset {entries more : List (κ × ν)} (subset : entries ⊆ more)
    (agree : Agree more) : Agree entries :=
  fun left leftListed right rightListed =>
    agree left (subset leftListed) right (subset rightListed)

theorem not_agree_flatMap_iff {ι : Type*} {items : List ι} {entries : ι → List (κ × ν)} :
    ¬Agree (items.flatMap entries) ↔ ∃ left ∈ items, ∃ right ∈ items, ∃ entry ∈ entries left,
      ∃ other ∈ entries right, entry.1 = other.1 ∧ entry.2 ≠ other.2 := by
  constructor
  · intro disagree
    by_contra none
    apply disagree
    intro entry entryListed other otherListed same
    rcases List.mem_flatMap.mp entryListed with ⟨left, leftListed, entryOf⟩
    rcases List.mem_flatMap.mp otherListed with ⟨right, rightListed, otherOf⟩
    by_contra different
    exact none ⟨left, leftListed, right, rightListed, entry, entryOf, other, otherOf, same,
      different⟩
  · rintro ⟨left, leftListed, right, rightListed, entry, entryOf, other, otherOf, same, different⟩
      agree
    exact different (agree entry (List.mem_flatMap.mpr ⟨left, leftListed, entryOf⟩) other
      (List.mem_flatMap.mpr ⟨right, rightListed, otherOf⟩) same)

/-- The table after some bookings, and whether a clash has been noticed. -/
structure Booked [DecidableEq κ] (table : List (κ × ν)) (clashed : Prop)
    (entries : List (κ × ν)) : Prop where
  clashed_iff : clashed ↔ ¬Agree entries
  known : ¬clashed → ∀ entry ∈ entries, (table.lookup entry.1).isSome
  current : ¬clashed → ∀ key owner, table.lookup key = some owner → (key, owner) ∈ entries

variable [DecidableEq κ]

theorem Booked.nil : Booked ([] : List (κ × ν)) False [] where
  clashed_iff := by
    constructor
    · exact False.elim
    · exact fun disagree => disagree nofun
  known _ := nofun
  current _ _ _ found := nomatch found

variable {table later : List (κ × ν)} {clashed : Prop} {entries : List (κ × ν)}

theorem Booked.congr (booked : Booked table clashed entries) {noticed : Prop}
    (same : noticed ↔ clashed) : Booked table noticed entries where
  clashed_iff := same.trans booked.clashed_iff
  known quiet := booked.known fun happened => quiet (same.mpr happened)
  current quiet := booked.current fun happened => quiet (same.mpr happened)

theorem Booked.clashed_append (booked : Booked table clashed entries) (happened : clashed)
    (more : List (κ × ν)) : Booked later True (entries ++ more) where
  clashed_iff := by
    refine ⟨fun _ agree => ?_, fun _ => trivial⟩
    exact booked.clashed_iff.mp happened (agree.of_subset (List.subset_append_left _ _))
  known quiet := absurd trivial quiet
  current quiet := absurd trivial quiet

theorem Booked.clash (booked : Booked table clashed entries) {key : κ} {owner other : ν}
    (taken : table.lookup key = some other) (different : other ≠ owner) (more : List (κ × ν)) :
    Booked later True (entries ++ (key, owner) :: more) := by
  by_cases happened : clashed
  · exact booked.clashed_append happened _
  · refine ⟨⟨fun _ agree => ?_, fun _ => trivial⟩, fun quiet => absurd trivial quiet,
      fun quiet => absurd trivial quiet⟩
    have before := booked.current happened key other taken
    exact different (agree (key, other) (List.mem_append_left _ before) (key, owner)
      (List.mem_append_right _ List.mem_cons_self) rfl)

theorem Booked.set (booked : Booked table clashed entries) {key : κ} {owner : ν}
    (free : ∀ other, table.lookup key = some other → other = owner) :
    Booked (Table.set table key owner) clashed (entries ++ [(key, owner)]) := by
  by_cases happened : clashed
  · have after : Booked (Table.set table key owner) True (entries ++ [(key, owner)]) :=
      booked.clashed_append happened _
    rwa [eq_true happened]
  · have agree : Agree entries := Classical.not_not.mp fun disagree =>
      happened (booked.clashed_iff.mpr disagree)
    -- An entry of the key has the owner the table names.
    have owned : ∀ entry ∈ entries, entry.1 = key → entry.2 = owner := by
      rintro ⟨_, other⟩ listed rfl
      rcases Option.isSome_iff_exists.mp (booked.known happened _ listed) with ⟨last, found⟩
      rw [← free last found]
      exact agree _ listed _ (booked.current happened _ last found) rfl
    refine ⟨⟨fun clash => absurd clash happened, fun disagree => (disagree ?_).elim⟩, ?_, ?_⟩
    · intro left leftListed right rightListed same
      rcases List.mem_append.mp leftListed with leftOld | leftNew
      · rcases List.mem_append.mp rightListed with rightOld | rightNew
        · exact agree left leftOld right rightOld same
        · rw [List.mem_singleton.mp rightNew] at same ⊢
          exact owned left leftOld same
      · rw [List.mem_singleton.mp leftNew] at same ⊢
        rcases List.mem_append.mp rightListed with rightOld | rightNew
        · exact (owned right rightOld same.symm).symm
        · rw [List.mem_singleton.mp rightNew]
    · intro _ entry listed
      rw [Table.lookup_set]
      split
      · rfl
      · rename_i different
        rcases List.mem_append.mp listed with old | isNew
        · exact booked.known happened entry old
        · exact absurd (by rw [List.mem_singleton.mp isNew]) different
    · intro _ other last found
      rw [Table.lookup_set] at found
      split at found
      · rename_i same
        cases found
        rw [same]
        exact List.mem_append_right _ (List.mem_singleton_self _)
      · exact List.mem_append_left _ (booked.current happened other last found)

end HomelabBuilder.Booking
