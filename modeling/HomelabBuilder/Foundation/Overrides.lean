import Mathlib.Tactic.Choose

/-! # Overriding records field by field

A record has a value for each field, and a change gives some of them anew. Given
values are read and then cleaned like all others.
-/

namespace HomelabBuilder

/-- How the fields of a record take new values. -/
structure Overrides (Field : Type*) (Value : Field → Type*) (Given : Type*) where
  read : (field : Field) → Given → Option (Value field)
  clean : (field : Field) → Value field → Option (Value field)
  clean_clean : ∀ {field : Field} {value kept : Value field},
    clean field value = some kept → clean field kept = some kept

namespace Overrides

variable {Field : Type*} {Value : Field → Type*} {Given : Type*}
  (overrides : Overrides Field Value Given)

def next (field : Field) (old : Value field) : Option Given → Option (Value field)
  | none => overrides.clean field old
  | some given => (overrides.read field given).bind (overrides.clean field)

def Kept (record : (field : Field) → Value field) : Prop :=
  ∀ field, overrides.clean field (record field) = some (record field)

/-- The change is accepted and leaves the second record. -/
def Gives (record : (field : Field) → Value field) (change : Field → Option Given)
    (result : (field : Field) → Value field) : Prop :=
  ∀ field, overrides.next field (record field) (change field) = some (result field)

variable {overrides} {record result : (field : Field) → Value field}
  {change : Field → Option Given}

theorem Gives.kept (gives : overrides.Gives record change result) : overrides.Kept result := by
  intro field
  have given := gives field
  cases named : change field with
  | none =>
      rw [named] at given
      exact overrides.clean_clean given
  | some value =>
      rw [named] at given
      rcases Option.bind_eq_some_iff.mp given with ⟨read, _, cleaned⟩
      exact overrides.clean_clean cleaned

theorem Gives.frame (gives : overrides.Gives record change result) (kept : overrides.Kept record)
    {field : Field} (unnamed : change field = none) : result field = record field := by
  have given := gives field
  rw [unnamed] at given
  exact Option.some.inj (given.symm.trans (kept field))

theorem Gives.again (gives : overrides.Gives record change result) :
    overrides.Gives result change result := by
  intro field
  have given := gives field
  cases named : change field with
  | none => exact gives.kept field
  | some value =>
      rw [named] at given
      exact given

theorem Gives.comm {other : Field → Option Given}
    {otherResult : (field : Field) → Value field} (kept : overrides.Kept record)
    (gives : overrides.Gives record change result)
    (otherGives : overrides.Gives record other otherResult)
    (disjoint : ∀ field, change field = none ∨ other field = none) :
    ∃ both, overrides.Gives result other both ∧ overrides.Gives otherResult change both := by
  have each : ∀ field, ∃ value, overrides.next field (result field) (other field) = some value ∧
      overrides.next field (otherResult field) (change field) = some value := by
    intro field
    rcases disjoint field with unnamed | unnamed
    · refine ⟨otherResult field, ?_, ?_⟩
      · rw [gives.frame kept unnamed]
        exact otherGives field
      · rw [unnamed]
        exact otherGives.kept field
    · refine ⟨result field, ?_, ?_⟩
      · rw [unnamed]
        exact gives.kept field
      · rw [otherGives.frame kept unnamed]
        exact gives field
  choose both first second using each
  exact ⟨both, first, second⟩

end Overrides

end HomelabBuilder
