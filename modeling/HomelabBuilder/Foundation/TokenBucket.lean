import Mathlib.Algebra.Order.Ring.Rat
import Mathlib.Tactic.Linarith

/-! # Token buckets

A bucket is full at first and is filled at a fixed rate; each unit that is spent takes a
token. What a bucket answers depends on its tokens alone.
-/

namespace HomelabBuilder.TokenBucket

structure Limiter (β : Type*) (rate burst : ℚ) where
  fresh : β
  tokens : β → ℚ → ℚ
  allow : β → ℚ → Bool × β
  /-- The bucket was not used after this time. -/
  Settled : β → ℚ → Prop
  settled_fresh : ∀ now, Settled fresh now
  settled_later : ∀ {bucket now later}, Settled bucket now → now ≤ later → Settled bucket later
  settled_allow : ∀ {bucket now}, Settled bucket now → Settled (allow bucket now).2 now
  tokens_fresh : ∀ now, tokens fresh now = burst
  tokens_later : ∀ {bucket now later}, Settled bucket now → now ≤ later →
    tokens bucket later = min burst (tokens bucket now + rate * (later - now))
  allow_fst : ∀ bucket now, (allow bucket now).1 = decide (1 ≤ tokens bucket now)
  tokens_allow : ∀ {bucket now later}, Settled bucket now → now ≤ later →
    tokens (allow bucket now).2 later =
      min burst (tokens bucket now - (if 1 ≤ tokens bucket now then 1 else 0) + rate * (later - now))

namespace Limiter

variable {β : Type*} {rate burst : ℚ} (limiter : Limiter β rate burst)

/-- Two buckets that answer alike from a time on. -/
def Alike (left right : β) (now : ℚ) : Prop :=
  ∀ later, now ≤ later → limiter.tokens left later = limiter.tokens right later

variable {limiter} {left right bucket : β} {now later : ℚ}

theorem Alike.mono (alike : limiter.Alike left right now) (passed : now ≤ later) :
    limiter.Alike left right later := fun after behind => alike after (passed.trans behind)

theorem Alike.allow_fst (alike : limiter.Alike left right now) :
    (limiter.allow left now).1 = (limiter.allow right now).1 := by
  rw [limiter.allow_fst, limiter.allow_fst, alike now le_rfl]

theorem Alike.allow (alike : limiter.Alike left right now) (leftSettled : limiter.Settled left now)
    (rightSettled : limiter.Settled right now) :
    limiter.Alike (limiter.allow left now).2 (limiter.allow right now).2 now := by
  intro later passed
  rw [limiter.tokens_allow leftSettled passed, limiter.tokens_allow rightSettled passed,
    alike now le_rfl]

theorem alike_fresh (settled : limiter.Settled bucket now)
    (solvent : 0 ≤ limiter.tokens bucket now) (rated : 0 ≤ rate) {idle : ℚ}
    (fills : burst ≤ rate * idle) (passed : now + idle ≤ later) (forward : now ≤ later) :
    limiter.Alike limiter.fresh bucket later := by
  intro after behind
  have gained : rate * idle ≤ rate * (after - now) := mul_le_mul_of_nonneg_left (by linarith) rated
  rw [limiter.tokens_fresh, limiter.tokens_later settled (forward.trans behind), min_eq_left]
  linarith

theorem tokens_le (settled : limiter.Settled bucket now) : limiter.tokens bucket now ≤ burst := by
  rw [limiter.tokens_later settled le_rfl]
  exact min_le_left _ _

theorem tokens_nonneg_later (settled : limiter.Settled bucket now)
    (solvent : 0 ≤ limiter.tokens bucket now) (rated : 0 ≤ rate) (room : 0 ≤ burst)
    (passed : now ≤ later) : 0 ≤ limiter.tokens bucket later := by
  have gained : 0 ≤ rate * (later - now) := mul_nonneg rated (by linarith)
  rw [limiter.tokens_later settled passed]
  exact le_min room (by linarith)

theorem tokens_allow_nonneg (settled : limiter.Settled bucket now)
    (solvent : 0 ≤ limiter.tokens bucket now) (room : 0 ≤ burst) :
    0 ≤ limiter.tokens (limiter.allow bucket now).2 now := by
  rw [limiter.tokens_allow settled le_rfl, sub_self, mul_zero, add_zero]
  refine le_min room ?_
  split <;> linarith

theorem tokens_allow_le (settled : limiter.Settled bucket now) (passed : now ≤ later) :
    limiter.tokens (limiter.allow bucket now).2 later +
        (if (limiter.allow bucket now).1 then 1 else 0) ≤
      limiter.tokens bucket now + rate * (later - now) := by
  have bound := min_le_right burst (limiter.tokens bucket now -
    (if 1 ≤ limiter.tokens bucket now then 1 else 0) + rate * (later - now))
  rw [← limiter.tokens_allow settled passed] at bound
  rw [limiter.allow_fst]
  simp only [decide_eq_true_eq]
  linarith

theorem tokens_later_le (settled : limiter.Settled bucket now) (passed : now ≤ later) :
    limiter.tokens bucket later ≤ limiter.tokens bucket now + rate * (later - now) := by
  rw [limiter.tokens_later settled passed]
  exact min_le_right _ _

end Limiter

/-! ## A bucket that counts -/

/-- The tokens there were at the last time the bucket was used. -/
structure Bucket where
  tokens : ℚ
  last : Option ℚ := none

def Bucket.advance (rate burst : ℚ) (bucket : Bucket) (now : ℚ) : ℚ :=
  match bucket.last with
  | none => burst
  | some last => min burst (bucket.tokens + rate * max 0 (now - last))

theorem min_min_add {burst tokens gained : ℚ} (nonneg : 0 ≤ gained) :
    min burst (min burst tokens + gained) = min burst (tokens + gained) := by
  rw [min_add, ← min_assoc, min_eq_left (le_add_of_nonneg_right nonneg)]

theorem advance_later {rate burst : ℚ} (rated : 0 ≤ rate) {bucket : Bucket} {now later : ℚ}
    (settled : ∀ last ∈ bucket.last, last ≤ now) (passed : now ≤ later) :
    bucket.advance rate burst later =
      min burst (bucket.advance rate burst now + rate * (later - now)) := by
  have gained : 0 ≤ rate * (later - now) := mul_nonneg rated (by linarith)
  unfold Bucket.advance
  cases used : bucket.last with
  | none => exact (min_eq_left (le_add_of_nonneg_right gained)).symm
  | some last =>
      have before := settled last used
      dsimp only
      rw [max_eq_right (by linarith), max_eq_right (by linarith), min_min_add gained, add_assoc,
        ← mul_add, add_comm (now - last), sub_add_sub_cancel]

theorem advance_used (rate burst : ℚ) {tokens now later : ℚ} (passed : now ≤ later) :
    Bucket.advance rate burst ⟨tokens, some now⟩ later =
      min burst (tokens + rate * (later - now)) := by
  unfold Bucket.advance
  dsimp only
  rw [max_eq_right (by linarith)]

def Bucket.allow (rate burst : ℚ) (bucket : Bucket) (now : ℚ) : Bool × Bucket :=
  if 1 ≤ bucket.advance rate burst now then (true, ⟨bucket.advance rate burst now - 1, some now⟩)
  else (false, ⟨bucket.advance rate burst now, some now⟩)

@[simp]
theorem allow_last (rate burst : ℚ) (bucket : Bucket) (now : ℚ) :
    (bucket.allow rate burst now).2.last = some now := by
  unfold Bucket.allow
  split <;> rfl

def counting (rate burst : ℚ) (rated : 0 ≤ rate) : Limiter Bucket rate burst where
  fresh := ⟨burst, none⟩
  tokens := Bucket.advance rate burst
  allow := Bucket.allow rate burst
  Settled bucket now := ∀ last ∈ bucket.last, last ≤ now
  settled_fresh _ _ used := absurd used (Option.not_mem_none _)
  settled_later settled passed last used := (settled last used).trans passed
  settled_allow {bucket now} _ last used := by
    rw [allow_last, Option.mem_some_iff] at used
    exact used.ge
  tokens_fresh _ := rfl
  tokens_later settled passed := advance_later rated settled passed
  allow_fst bucket now := by
    unfold Bucket.allow
    split
    case isTrue enough => exact (decide_eq_true enough).symm
    case isFalse few => exact (decide_eq_false few).symm
  tokens_allow {bucket now later} _ passed := by
    unfold Bucket.allow
    split
    · exact advance_used _ _ passed
    · rw [advance_used _ _ passed, sub_zero]

end HomelabBuilder.TokenBucket
