import Mathlib.Data.Set.Insert
import Mathlib.Logic.Function.Basic
import Mathlib.Logic.Relation

/-! # Reservation ledgers

Keys are given values out of a pool. A value may be promised to a key first and
granted later, or granted at once; values may also be blocked for everybody.
Whatever the order of these steps, no value is granted to two keys.
-/

namespace HomelabBuilder

structure Ledger (κ α : Type*) where
  taken : Set α
  promised : κ → Option α
  granted : κ → Option α

namespace Ledger

variable {κ α : Type*} [DecidableEq κ] {pool : Set α}

inductive Step (pool : Set α) : Ledger κ α → Ledger κ α → Prop
  | promise {ledger : Ledger κ α} (key : κ) {value : α} : value ∈ pool → value ∉ ledger.taken →
      Step pool ledger
        { ledger with
          taken := insert value ledger.taken
          promised := Function.update ledger.promised key (some value) }
  | keep {ledger : Ledger κ α} {key : κ} {value : α} : ledger.promised key = some value →
      Step pool ledger
        { ledger with granted := Function.update ledger.granted key (some value) }
  | place {ledger : Ledger κ α} (key : κ) {value : α} : value ∈ pool → value ∉ ledger.taken →
      Step pool ledger
        { ledger with
          taken := insert value ledger.taken
          granted := Function.update ledger.granted key (some value) }
  | block {ledger : Ledger κ α} {taken : Set α} : ledger.taken ⊆ taken →
      Step pool ledger { ledger with taken := taken }

abbrev Run (pool : Set α) : Ledger κ α → Ledger κ α → Prop :=
  Relation.ReflTransGen (Step pool)

/-- What holds of a ledger that started out with the values of `barred` taken
and nothing promised or granted. -/
structure Sound (pool barred : Set α) (ledger : Ledger κ α) : Prop where
  kept : barred ⊆ ledger.taken
  promised : ∀ {key value}, ledger.promised key = some value →
    value ∈ pool ∧ value ∉ barred ∧ value ∈ ledger.taken
  granted : ∀ {key value}, ledger.granted key = some value →
    value ∈ pool ∧ value ∉ barred ∧ value ∈ ledger.taken
  promisedOnce : ∀ {left right value}, ledger.promised left = some value →
    ledger.promised right = some value → left = right
  /-- A granted value is promised to nobody else. -/
  apart : ∀ {key other value}, ledger.granted key = some value →
    ledger.promised other = some value → other = key
  grantedOnce : ∀ {left right value}, ledger.granted left = some value →
    ledger.granted right = some value → left = right

omit [DecidableEq κ] in
theorem Sound.initial {ledger : Ledger κ α} (unpromised : ∀ key, ledger.promised key = none)
    (ungranted : ∀ key, ledger.granted key = none) : Sound pool ledger.taken ledger where
  kept := subset_rfl
  promised := by simp [unpromised]
  granted := by simp [ungranted]
  promisedOnce := by simp [unpromised]
  apart := by simp [ungranted]
  grantedOnce := by simp [ungranted]

private theorem update_eq_some {table : κ → Option α} {key other : κ} {value result : α} :
    Function.update table key (some value) other = some result ↔
      (other = key ∧ value = result) ∨ (other ≠ key ∧ table other = some result) := by
  by_cases equal : other = key
  · subst equal
    simp
  · simp [equal]

theorem Step.sound {barred : Set α} {before after : Ledger κ α}
    (step : Step pool before after) (sound : Sound pool barred before) :
    Sound pool barred after := by
  cases step with
  | promise key inPool fresh =>
      refine
        { kept := sound.kept.trans (Set.subset_insert _ _)
          promised := ?_, granted := ?_, promisedOnce := ?_, apart := ?_
          grantedOnce := sound.grantedOnce }
      · intro other result promised
        rcases update_eq_some.mp promised with ⟨rfl, rfl⟩ | ⟨_, old⟩
        · exact ⟨inPool, fun isBarred => fresh (sound.kept isBarred), Set.mem_insert _ _⟩
        · have facts := sound.promised old
          exact ⟨facts.1, facts.2.1, Set.mem_insert_of_mem _ facts.2.2⟩
      · intro other result granted
        have facts := sound.granted granted
        exact ⟨facts.1, facts.2.1, Set.mem_insert_of_mem _ facts.2.2⟩
      · intro left right result leftPromised rightPromised
        rcases update_eq_some.mp leftPromised with ⟨rfl, rfl⟩ | ⟨_, leftOld⟩ <;>
          rcases update_eq_some.mp rightPromised with ⟨rfl, same⟩ | ⟨_, rightOld⟩
        · rfl
        · exact absurd (sound.promised rightOld).2.2 fresh
        · exact absurd (sound.promised (same ▸ leftOld)).2.2 fresh
        · exact sound.promisedOnce leftOld rightOld
      · intro holder other result granted promised
        rcases update_eq_some.mp promised with ⟨_, rfl⟩ | ⟨_, old⟩
        · exact absurd (sound.granted granted).2.2 fresh
        · exact sound.apart granted old
  | keep promised =>
      refine
        { kept := sound.kept
          promised := sound.promised, granted := ?_, promisedOnce := sound.promisedOnce
          apart := ?_, grantedOnce := ?_ }
      · intro other result granted
        rcases update_eq_some.mp granted with ⟨_, rfl⟩ | ⟨_, old⟩
        · exact sound.promised promised
        · exact sound.granted old
      · intro holder other result granted alsoPromised
        rcases update_eq_some.mp granted with ⟨rfl, rfl⟩ | ⟨_, old⟩
        · exact sound.promisedOnce alsoPromised promised
        · exact sound.apart old alsoPromised
      · intro left right result leftGranted rightGranted
        rcases update_eq_some.mp leftGranted with ⟨rfl, rfl⟩ | ⟨_, leftOld⟩ <;>
          rcases update_eq_some.mp rightGranted with ⟨rfl, same⟩ | ⟨_, rightOld⟩
        · rfl
        · exact sound.apart rightOld promised
        · exact (sound.apart leftOld (same ▸ promised)).symm
        · exact sound.grantedOnce leftOld rightOld
  | place key inPool fresh =>
      refine
        { kept := sound.kept.trans (Set.subset_insert _ _)
          promised := ?_, granted := ?_, promisedOnce := sound.promisedOnce
          apart := ?_, grantedOnce := ?_ }
      · intro other result promised
        have facts := sound.promised promised
        exact ⟨facts.1, facts.2.1, Set.mem_insert_of_mem _ facts.2.2⟩
      · intro other result granted
        rcases update_eq_some.mp granted with ⟨_, rfl⟩ | ⟨_, old⟩
        · exact ⟨inPool, fun isBarred => fresh (sound.kept isBarred), Set.mem_insert _ _⟩
        · have facts := sound.granted old
          exact ⟨facts.1, facts.2.1, Set.mem_insert_of_mem _ facts.2.2⟩
      · intro holder other result granted promised
        rcases update_eq_some.mp granted with ⟨_, rfl⟩ | ⟨_, old⟩
        · exact absurd (sound.promised promised).2.2 fresh
        · exact sound.apart old promised
      · intro left right result leftGranted rightGranted
        rcases update_eq_some.mp leftGranted with ⟨rfl, rfl⟩ | ⟨_, leftOld⟩ <;>
          rcases update_eq_some.mp rightGranted with ⟨rfl, same⟩ | ⟨_, rightOld⟩
        · rfl
        · exact absurd (sound.granted rightOld).2.2 fresh
        · exact absurd (sound.granted (same ▸ leftOld)).2.2 fresh
        · exact sound.grantedOnce leftOld rightOld
  | block grows =>
      refine
        { kept := sound.kept.trans grows
          promised := ?_, granted := ?_, promisedOnce := sound.promisedOnce
          apart := sound.apart, grantedOnce := sound.grantedOnce }
      · intro other result promised
        have facts := sound.promised promised
        exact ⟨facts.1, facts.2.1, grows facts.2.2⟩
      · intro other result granted
        have facts := sound.granted granted
        exact ⟨facts.1, facts.2.1, grows facts.2.2⟩

theorem Run.sound {barred : Set α} {before after : Ledger κ α} (run : Run pool before after)
    (sound : Sound pool barred before) : Sound pool barred after := by
  induction run with
  | refl => exact sound
  | tail _ step induction => exact step.sound induction

end Ledger

end HomelabBuilder
