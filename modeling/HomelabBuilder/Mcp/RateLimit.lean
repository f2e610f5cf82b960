import Mathlib.Tactic.NormNum
import Mathlib.Tactic.Ring
import HomelabBuilder.Foundation.Rows
import HomelabBuilder.Foundation.TokenBucket
import HomelabBuilder.Net.Address

/-! # Rate limits

`ratelimit.go`: a bucket for each key, and buckets that were idle for a while are swept.
The buckets themselves are a parameter. Times are seconds.
-/

namespace HomelabBuilder.Mcp

open TokenBucket

def limiterIdleAfter : ℚ := 10 * 60
def limiterSweepAbove : Nat := 2048

/-- What the endpoint limits: requests and proposals of a token, failed attempts of an address. -/
inductive Budget
  | requests
  | proposals
  | failures
  deriving DecidableEq

def Budget.perMinute : Budget → Nat
  | .requests => 120
  | .proposals => 20
  | .failures => 20

def Budget.burst : Budget → Nat
  | .requests => 30
  | .proposals => 10
  | .failures => 20

def Budget.limit (budget : Budget) : ℚ := budget.perMinute / 60

structure LimiterEntry (β : Type) where
  limiter : β
  seen : ℚ

abbrev KeyedLimiter (β : Type) := List (String × LimiterEntry β)

/-- A call of `allow` or of `exhausted`. -/
inductive Call
  | allow
  | exhausted
  deriving DecidableEq

structure Request where
  call : Call
  key : String
  now : ℚ

variable {β : Type} {rate burst : ℚ} (limiter : Limiter β rate burst)

/-- What a call answers and what becomes of the bucket. -/
def Call.run (bucket : β) (now : ℚ) : Call → Bool × β
  | .allow => limiter.allow bucket now
  | .exhausted => (decide (limiter.tokens bucket now < 1), bucket)

namespace KeyedLimiter

def sweep (entries : KeyedLimiter β) (now : ℚ) : KeyedLimiter β :=
  if limiterSweepAbove < entries.length then
    entries.filter fun entry => !decide (limiterIdleAfter < now - entry.2.seen)
  else entries

/-- The bucket of a key, a new one if there is none. -/
def bucket (entries : KeyedLimiter β) (key : String) : β :=
  match entries.lookup key with
  | some entry => entry.limiter
  | none => limiter.fresh

def run (entries : KeyedLimiter β) (request : Request) : Bool × KeyedLimiter β :=
  let swept := entries.sweep request.now
  let (answer, after) := request.call.run limiter (bucket limiter swept request.key) request.now
  (answer, Table.set swept request.key ⟨after, request.now⟩)

def runs (entries : KeyedLimiter β) : List Request → List Bool
  | [] => []
  | request :: rest => (run limiter entries request).1 :: runs (run limiter entries request).2 rest

end KeyedLimiter

/-! ## Buckets that are kept -/

/-- A limiter that never forgets a bucket. -/
abbrev Buckets (β : Type) := String → β

namespace Buckets

def run (buckets : Buckets β) (request : Request) : Bool × Buckets β :=
  let (answer, after) := request.call.run limiter (buckets request.key) request.now
  (answer, Function.update buckets request.key after)

def runs (buckets : Buckets β) : List Request → List Bool
  | [] => []
  | request :: rest => (run limiter buckets request).1 :: runs (run limiter buckets request).2 rest

end Buckets

/-! ## Sweeping -/

/-- The entries answer like the buckets that are kept. -/
structure Follows (entries : KeyedLimiter β) (buckets : Buckets β) (now : ℚ) : Prop where
  distinct : (entries.map Prod.fst).Nodup
  settled : ∀ key entry, entries.lookup key = some entry →
    limiter.Settled entry.limiter entry.seen ∧ 0 ≤ limiter.tokens entry.limiter entry.seen ∧
      entry.seen ≤ now
  kept : ∀ key, limiter.Settled (buckets key) now
  alike : ∀ key, limiter.Alike (entries.bucket limiter key) (buckets key) now

variable {limiter} {entries : KeyedLimiter β} {buckets : Buckets β} {now later : ℚ}

theorem follows_fresh (now : ℚ) : Follows limiter [] (fun _ => limiter.fresh) now where
  distinct := List.nodup_nil
  settled _ _ found := nomatch found
  kept _ := limiter.settled_fresh now
  alike _ _ _ := rfl

theorem Follows.wait (follows : Follows limiter entries buckets now) (passed : now ≤ later) :
    Follows limiter entries buckets later where
  distinct := follows.distinct
  settled key entry found :=
    have known := follows.settled key entry found
    ⟨known.1, known.2.1, known.2.2.trans passed⟩
  kept key := limiter.settled_later (follows.kept key) passed
  alike key := (follows.alike key).mono passed

theorem Follows.sweep (follows : Follows limiter entries buckets now) (rated : 0 ≤ rate)
    (fills : burst ≤ rate * limiterIdleAfter) :
    Follows limiter (entries.sweep now) buckets now := by
  unfold KeyedLimiter.sweep
  split
  case isFalse few => exact follows
  case isTrue many =>
    have found := Table.lookup_filterRows follows.distinct
      (fun entry => !decide (limiterIdleAfter < now - entry.2.seen))
    refine ⟨follows.distinct.sublist (List.filter_sublist.map Prod.fst), ?_, follows.kept, ?_⟩
    · intro key entry kept
      rw [found] at kept
      exact follows.settled key entry (Option.filter_eq_some_iff.mp kept).1
    · intro key
      have before := follows.alike key
      unfold KeyedLimiter.bucket at before ⊢
      rw [found]
      cases known : entries.lookup key with
      | none =>
          rw [known] at before
          exact before
      | some entry =>
          rw [known] at before
          rcases follows.settled key entry known with ⟨settled, solvent, seen⟩
          by_cases idle : limiterIdleAfter < now - entry.seen
          · have dropped : Option.filter
                (fun row => !decide (limiterIdleAfter < now - row.seen)) (some entry) = none := by
              rw [Option.filter_some, decide_eq_true idle]
              rfl
            rw [dropped]
            have full := TokenBucket.Limiter.alike_fresh settled solvent rated fills
              (by linarith) seen
            exact fun after behind => (full after behind).trans (before after behind)
          · have stays : Option.filter
                (fun row => !decide (limiterIdleAfter < now - row.seen)) (some entry) =
                  some entry := by
              rw [Option.filter_some, decide_eq_false idle]
              rfl
            rw [stays]
            exact before

/-! ## Runs -/

theorem Call.run_fst (call : Call) {left right : β} (alike : limiter.Alike left right now) :
    (call.run limiter left now).1 = (call.run limiter right now).1 := by
  cases call with
  | allow => exact alike.allow_fst
  | exhausted =>
      unfold run
      rw [alike now le_rfl]

theorem Call.run_alike (call : Call) {left right : β} (alike : limiter.Alike left right now)
    (leftSettled : limiter.Settled left now) (rightSettled : limiter.Settled right now) :
    limiter.Alike (call.run limiter left now).2 (call.run limiter right now).2 now := by
  cases call with
  | allow => exact alike.allow leftSettled rightSettled
  | exhausted => exact alike

theorem Call.run_settled (call : Call) {bucket : β} (settled : limiter.Settled bucket now) :
    limiter.Settled (call.run limiter bucket now).2 now := by
  cases call with
  | allow => exact limiter.settled_allow settled
  | exhausted => exact settled

theorem Call.run_solvent (call : Call) {bucket : β} (settled : limiter.Settled bucket now)
    (solvent : 0 ≤ limiter.tokens bucket now) (room : 0 ≤ burst) :
    0 ≤ limiter.tokens (call.run limiter bucket now).2 now := by
  cases call with
  | allow => exact TokenBucket.Limiter.tokens_allow_nonneg settled solvent room
  | exhausted => exact solvent

theorem Follows.bucket_settled (follows : Follows limiter entries buckets now) (rated : 0 ≤ rate)
    (room : 0 ≤ burst) (key : String) :
    limiter.Settled (entries.bucket limiter key) now ∧
      0 ≤ limiter.tokens (entries.bucket limiter key) now := by
  unfold KeyedLimiter.bucket
  cases known : entries.lookup key with
  | none => exact ⟨limiter.settled_fresh now, (limiter.tokens_fresh now).ge.trans' room⟩
  | some entry =>
      rcases follows.settled key entry known with ⟨settled, solvent, seen⟩
      exact ⟨limiter.settled_later settled seen,
        TokenBucket.Limiter.tokens_nonneg_later settled solvent rated room seen⟩

theorem Follows.run {request : Request} (follows : Follows limiter entries buckets request.now)
    (rated : 0 ≤ rate) (room : 0 ≤ burst) (fills : burst ≤ rate * limiterIdleAfter) :
    (entries.run limiter request).1 = (buckets.run limiter request).1 ∧
      Follows limiter (entries.run limiter request).2 (buckets.run limiter request).2
        request.now := by
  have swept := follows.sweep rated fills
  have own := swept.bucket_settled rated room request.key
  refine ⟨request.call.run_fst (swept.alike request.key), ?_, ?_, ?_, ?_⟩
  · exact Table.nodup_set swept.distinct _ _
  · intro key entry found
    unfold KeyedLimiter.run at found
    dsimp only at found
    rw [Table.lookup_set] at found
    split at found
    · cases found
      exact ⟨request.call.run_settled own.1, request.call.run_solvent own.1 own.2 room, le_rfl⟩
    · exact swept.settled key entry found
  · intro key
    unfold Buckets.run
    dsimp only
    by_cases same : key = request.key
    · subst same
      rw [Function.update_self]
      exact request.call.run_settled (swept.kept _)
    · rw [Function.update_of_ne same]
      exact swept.kept key
  · intro key
    unfold KeyedLimiter.run Buckets.run KeyedLimiter.bucket
    dsimp only
    rw [Table.lookup_set]
    by_cases same : key = request.key
    · subst same
      rw [if_pos rfl, Function.update_self]
      exact request.call.run_alike (swept.alike _) own.1 (swept.kept _)
    · rw [if_neg same, Function.update_of_ne same]
      exact swept.alike key

theorem Follows.runs (rated : 0 ≤ rate) (room : 0 ≤ burst)
    (fills : burst ≤ rate * limiterIdleAfter) {requests : List Request}
    (follows : Follows limiter entries buckets now) (behind : ∀ request ∈ requests, now ≤ request.now)
    (ordered : requests.Pairwise fun first second => first.now ≤ second.now) :
    entries.runs limiter requests = buckets.runs limiter requests := by
  induction requests generalizing entries buckets now with
  | nil => rfl
  | cons request rest induction =>
      have parts := List.pairwise_cons.mp ordered
      have step := (follows.wait (behind request List.mem_cons_self)).run rated room fills
      unfold KeyedLimiter.runs Buckets.runs
      rw [step.1, induction step.2 parts.1 parts.2]

theorem Budget.fills (budget : Budget) :
    0 ≤ budget.limit ∧ (0 : ℚ) ≤ budget.burst ∧ budget.burst ≤ budget.limit * limiterIdleAfter := by
  unfold Budget.limit limiterIdleAfter
  cases budget <;> norm_num [Budget.perMinute, Budget.burst]

theorem start_le {request : Request} {rest : List Request}
    (ordered : (request :: rest).Pairwise fun first second => first.now ≤ second.now) :
    ∀ other ∈ request :: rest, request.now ≤ other.now := by
  intro other listed
  cases List.mem_cons.mp listed with
  | inl same => exact same ▸ le_rfl
  | inr later => exact (List.pairwise_cons.mp ordered).1 other later

/-! ## What a key may spend -/

/-- Whether a request spent a unit of the key within a stretch of time. -/
def spends (key : String) (start stop : ℚ) (entry : Request × Bool) : Bool :=
  entry.2 && decide (entry.1.call = .allow) && decide (entry.1.key = key) &&
    decide (start ≤ entry.1.now) && decide (entry.1.now ≤ stop)

def spent (key : String) (start stop : ℚ) (requests : List Request) (answers : List Bool) : Nat :=
  (requests.zip answers).countP (spends key start stop)

section Spending

variable (limiter : Limiter β rate burst) (buckets : Buckets β) (key : String) (start stop : ℚ)
  (request : Request) (requests : List Request)

theorem spent_cons :
    spent key start stop (request :: requests) (Buckets.runs limiter buckets (request :: requests)) =
      spent key start stop requests (Buckets.runs limiter (buckets.run limiter request).2 requests) +
        if spends key start stop (request, (buckets.run limiter request).1) then 1 else 0 :=
  List.countP_cons ..

theorem spent_over {answers : List Bool} (past : ∀ request ∈ requests, stop < request.now) :
    spent key start stop requests answers = 0 := by
  refine List.countP_eq_zero.mpr fun entry listed counted => ?_
  have late := past entry.1 (List.of_mem_zip listed).1
  unfold spends at counted
  simp only [Bool.and_eq_true, decide_eq_true_eq] at counted
  exact absurd late (not_lt.mpr counted.2)

end Spending

/-- The buckets are in use up to a time, and none of them is overdrawn. -/
def Buckets.Sound (limiter : Limiter β rate burst) (buckets : Buckets β) (now : ℚ) : Prop :=
  ∀ key, limiter.Settled (buckets key) now ∧ 0 ≤ limiter.tokens (buckets key) now

namespace Buckets

theorem Sound.wait (sound : buckets.Sound limiter now) (rated : 0 ≤ rate) (room : 0 ≤ burst)
    (passed : now ≤ later) : buckets.Sound limiter later := fun key =>
  ⟨limiter.settled_later (sound key).1 passed,
    TokenBucket.Limiter.tokens_nonneg_later (sound key).1 (sound key).2 rated room passed⟩

theorem Sound.run {request : Request} (sound : buckets.Sound limiter request.now)
    (room : 0 ≤ burst) : (buckets.run limiter request).2.Sound limiter request.now := by
  intro key
  unfold Buckets.run
  dsimp only
  by_cases same : key = request.key
  · subst same
    rw [Function.update_self]
    exact ⟨request.call.run_settled (sound _).1,
      request.call.run_solvent (sound _).1 (sound _).2 room⟩
  · rw [Function.update_of_ne same]
    exact sound key

theorem Sound.run_spends {request : Request} (sound : buckets.Sound limiter request.now)
    (key : String) (start stop : ℚ) :
    limiter.tokens ((buckets.run limiter request).2 key) request.now +
        (if spends key start stop (request, (buckets.run limiter request).1) then 1 else 0) ≤
      limiter.tokens (buckets key) request.now := by
  rcases request with ⟨call, other, time⟩
  unfold Buckets.run spends
  dsimp only
  by_cases same : key = other
  · subst same
    rw [Function.update_self]
    cases call with
    | exhausted => simp [Call.run]
    | allow =>
        have bound := TokenBucket.Limiter.tokens_allow_le (sound key).1 le_rfl
        rw [sub_self, mul_zero, add_zero] at bound
        refine le_trans (add_le_add_right ?_ _) bound
        unfold Call.run
        cases (limiter.allow (buckets key) time).1 with
        | false => simp
        | true => split <;> simp
  · rw [Function.update_of_ne same]
    simp [Ne.symm same]

theorem Sound.spent_within (sound : buckets.Sound limiter now) (rated : 0 ≤ rate)
    (room : 0 ≤ burst) (key : String) (start : ℚ) {stop : ℚ} (within : now ≤ stop)
    {requests : List Request} (behind : ∀ request ∈ requests, now ≤ request.now)
    (ordered : requests.Pairwise fun first second => first.now ≤ second.now) :
    (spent key start stop requests (buckets.runs limiter requests) : ℚ) ≤
      limiter.tokens (buckets key) now + rate * (stop - now) := by
  have gained : 0 ≤ rate * (stop - now) := mul_nonneg rated (by linarith)
  have solvent := (sound key).2
  induction requests generalizing buckets now with
  | nil =>
      have none : spent key start stop [] (buckets.runs limiter []) = 0 := rfl
      rw [none, Nat.cast_zero]
      linarith
  | cons request rest induction =>
      have parts := List.pairwise_cons.mp ordered
      have passed := behind request List.mem_cons_self
      by_cases late : stop < request.now
      · have past : ∀ other ∈ request :: rest, stop < other.now := by
          intro other listed
          cases List.mem_cons.mp listed with
          | inl same => exact same ▸ late
          | inr later => exact late.trans_le (parts.1 other later)
        rw [spent_over _ _ _ _ past, Nat.cast_zero]
        linarith
      · have inside := not_lt.mp late
        have there := sound.wait rated room passed
        have after := there.run room
        have more := induction after inside parts.1 parts.2
          (mul_nonneg rated (by linarith)) (after key).2
        have paid := there.run_spends key start stop
        have filled := TokenBucket.Limiter.tokens_later_le (sound key).1 passed
        have total : rate * (stop - now) =
            rate * (request.now - now) + rate * (stop - request.now) := by ring
        rw [spent_cons, Nat.cast_add, Nat.cast_ite, Nat.cast_one, Nat.cast_zero]
        linarith

theorem Sound.spent_le (sound : buckets.Sound limiter now) (rated : 0 ≤ rate) (room : 0 ≤ burst)
    (key : String) {start stop : ℚ} (forward : start ≤ stop) {requests : List Request}
    (behind : ∀ request ∈ requests, now ≤ request.now)
    (ordered : requests.Pairwise fun first second => first.now ≤ second.now) :
    (spent key start stop requests (buckets.runs limiter requests) : ℚ) ≤
      burst + rate * (stop - start) := by
  have gained : 0 ≤ rate * (stop - start) := mul_nonneg rated (by linarith)
  induction requests generalizing buckets now with
  | nil =>
      have none : spent key start stop [] (buckets.runs limiter []) = 0 := rfl
      rw [none, Nat.cast_zero]
      linarith
  | cons request rest induction =>
      have parts := List.pairwise_cons.mp ordered
      have there := sound.wait rated room (behind request List.mem_cons_self)
      by_cases early : request.now < start
      · have uncounted :
            spends key start stop (request, (buckets.run limiter request).1) = false := by
          unfold spends
          simp [not_le.mpr early]
        rw [spent_cons, uncounted, if_neg Bool.false_ne_true, Nat.add_zero]
        exact induction (there.run room) parts.1 parts.2
      · -- The stretch has begun: from here on the tokens pay for what is spent.
        have begun := not_lt.mp early
        by_cases late : stop < request.now
        · have past : ∀ other ∈ request :: rest, stop < other.now := by
            intro other listed
            cases List.mem_cons.mp listed with
            | inl same => exact same ▸ late
            | inr later => exact late.trans_le (parts.1 other later)
          rw [spent_over _ _ _ _ past, Nat.cast_zero]
          linarith
        · have self : ∀ other ∈ request :: rest, request.now ≤ other.now := by
            intro other listed
            cases List.mem_cons.mp listed with
            | inl same => exact same ▸ le_rfl
            | inr later => exact parts.1 other later
          have bound := there.spent_within rated room key start (not_lt.mp late)
            (start_le ordered) ordered
          have most := TokenBucket.Limiter.tokens_le (there key).1
          have less : rate * (stop - request.now) ≤ rate * (stop - start) :=
            mul_le_mul_of_nonneg_left (by linarith) rated
          linarith

end Buckets

/-- Sweeping is not seen from outside: every request, to any key, is answered as if each bucket
had been kept from its first use on. So no key gets more in a stretch of time than its burst and
what the rate gives. -/
theorem runs_eq_kept (budget : Budget) (limiter : Limiter β budget.limit budget.burst)
    {requests : List Request}
    (ordered : requests.Pairwise fun first second => first.now ≤ second.now) :
    KeyedLimiter.runs limiter [] requests =
        Buckets.runs limiter (fun _ => limiter.fresh) requests ∧
      ∀ key start stop, start ≤ stop →
        (spent key start stop requests (KeyedLimiter.runs limiter [] requests) : ℚ) ≤
          budget.burst + budget.limit * (stop - start) := by
  have known := budget.fills
  have same : KeyedLimiter.runs limiter [] requests =
      Buckets.runs limiter (fun _ => limiter.fresh) requests := by
    cases requests with
    | nil => rfl
    | cons request rest =>
        exact Follows.runs known.1 known.2.1 known.2.2 (follows_fresh request.now)
          (start_le ordered) ordered
  refine ⟨same, fun key start stop forward => ?_⟩
  rw [same]
  cases requests with
  | nil =>
      have gained : 0 ≤ budget.limit * (stop - start) := mul_nonneg known.1 (by linarith)
      have nothing : spent key start stop [] (Buckets.runs limiter (fun _ => limiter.fresh) []) = 0 :=
        rfl
      rw [nothing, Nat.cast_zero]
      linarith
  | cons request rest =>
      have sound : Buckets.Sound limiter (fun _ => limiter.fresh) request.now := fun _ =>
        ⟨limiter.settled_fresh _, (limiter.tokens_fresh _).ge.trans' known.2.1⟩
      exact sound.spent_le known.1 known.2.1 key forward (start_le ordered) ordered

/-! ### Addresses that crowd a limiter -/

namespace KeyedLimiter

variable (limiter)

def after (entries : KeyedLimiter β) (requests : List Request) : KeyedLimiter β :=
  requests.foldl (fun entries request => (run limiter entries request).2) entries

theorem after_replicate (key : String) : ∀ (count : Nat) (bucket : β),
    ∃ left, after limiter [(key, ⟨bucket, now⟩)] (List.replicate count ⟨.allow, key, now⟩) =
      [(key, ⟨left, now⟩)]
  | 0, bucket => ⟨bucket, rfl⟩
  | count + 1, bucket => by
      have step : (run limiter [(key, ⟨bucket, now⟩)] ⟨.allow, key, now⟩).2 =
          [(key, ⟨(limiter.allow bucket now).2, now⟩)] := by
        have few : sweep [(key, LimiterEntry.mk bucket now)] now = [(key, ⟨bucket, now⟩)] := rfl
        simp [run, few, KeyedLimiter.bucket, Call.run, Table.set]
      rw [List.replicate_succ, after, List.foldl_cons, step]
      exact after_replicate key count _

theorem sweep_of_seen {entries : KeyedLimiter β} (seen : ∀ entry ∈ entries, entry.2.seen = now) :
    entries.sweep now = entries := by
  unfold sweep
  split
  · apply List.filter_eq_self.mpr
    intro entry listed
    have recent : ¬limiterIdleAfter < 0 := by
      unfold limiterIdleAfter
      norm_num
    rw [seen entry listed, sub_self, decide_eq_false recent]
    rfl
  · rfl

theorem run_of_fresh {entries : KeyedLimiter β} (seen : ∀ entry ∈ entries, entry.2.seen = now)
    {key : String} (fresh : key ∉ entries.map Prod.fst) :
    ∃ bucket, (run limiter entries ⟨.allow, key, now⟩).2 = entries ++ [(key, ⟨bucket, now⟩)] := by
  unfold run
  dsimp only
  rw [sweep_of_seen seen, Table.set_of_fresh _ fresh]
  exact ⟨_, rfl⟩

theorem after_crowd : ∀ {keys : List String} {entries : KeyedLimiter β}, keys.Nodup →
    (∀ key ∈ keys, key ∉ entries.map Prod.fst) → (∀ entry ∈ entries, entry.2.seen = now) →
      (after limiter entries (keys.map fun key => ⟨.allow, key, now⟩)).length =
          entries.length + keys.length ∧
        ∀ entry ∈ after limiter entries (keys.map fun key => ⟨.allow, key, now⟩),
          entry.2.seen = now
  | [], _, _, _, seen => ⟨rfl, seen⟩
  | key :: rest, entries, distinct, others, seen => by
      rcases run_of_fresh limiter seen (others key List.mem_cons_self) with ⟨bucket, added⟩
      have apart := List.nodup_cons.mp distinct
      have stillOthers : ∀ other ∈ rest,
          other ∉ (entries ++ [(key, LimiterEntry.mk bucket now)]).map Prod.fst := by
        intro other listed
        rw [List.map_append, List.mem_append, not_or]
        refine ⟨others other (List.mem_cons_of_mem key listed), fun same => ?_⟩
        have equal : other = key := List.mem_singleton.mp same
        exact apart.1 (equal ▸ listed)
      have stillSeen : ∀ entry ∈ entries ++ [(key, ⟨bucket, now⟩)], entry.2.seen = now := by
        intro entry listed
        rcases List.mem_append.mp listed with old | new
        · exact seen entry old
        · rw [List.mem_singleton.mp new]
      have step : after limiter entries ((key :: rest).map fun key => ⟨.allow, key, now⟩) =
          after limiter (entries ++ [(key, ⟨bucket, now⟩)])
            (rest.map fun key => ⟨.allow, key, now⟩) := by
        rw [List.map_cons, after, List.foldl_cons, added]
        rfl
      have later := after_crowd apart.2 stillOthers stillSeen
      rw [step]
      refine ⟨?_, later.2⟩
      rw [later.1, List.length_append, List.length_singleton, List.length_cons]
      omega

end KeyedLimiter

def crowd : List String := (List.range 2048).map fun index => Net.formatIPv4 (167772160 + index)

def knocking : String := "198.51.100.7"

/-- Twenty failures exhaust an address and as many others as the limiter keeps fail once. -/
def crowdedAttempts : List Request :=
  List.replicate 20 ⟨.allow, knocking, 0⟩ ++ crowd.map fun key => ⟨.allow, key, 0⟩

/-- After eleven minutes the address knocks again, which sweeps all entries. -/
def lateAttempts : List Request := [⟨.exhausted, knocking, 660⟩, ⟨.allow, knocking, 660⟩]

theorem ordered_crowdedAttempts :
    (crowdedAttempts ++ lateAttempts).Pairwise fun first second => first.now ≤ second.now := by
  have early : ∀ request ∈ crowdedAttempts, request.now = 0 := by
    intro request listed
    rcases List.mem_append.mp listed with first | other
    · rw [List.eq_of_mem_replicate first]
    · rcases List.mem_map.mp other with ⟨key, _, rfl⟩
      rfl
  have late : ∀ request ∈ lateAttempts, request.now = 660 := by simp [lateAttempts]
  refine List.pairwise_append.mpr ⟨?_, ?_, ?_⟩
  · apply List.pairwise_of_forall_mem_list
    intro first firstListed second secondListed
    rw [early first firstListed, early second secondListed]
  · apply List.pairwise_of_forall_mem_list
    intro first firstListed second secondListed
    rw [late first firstListed, late second secondListed]
  · intro first firstListed second secondListed
    rw [early first firstListed, late second secondListed]
    norm_num

theorem crowd_apart : crowd.Nodup ∧ knocking ∉ crowd := by
  have home : knocking = Net.formatIPv4 3325256711 := by decide
  constructor
  · refine List.Nodup.map_on ?_ List.nodup_range
    intro left leftListed right rightListed same
    rw [List.mem_range] at leftListed rightListed
    have equal := Net.formatIPv4_injective (by omega) (by omega) same
    omega
  · intro listed
    rcases List.mem_map.mp listed with ⟨index, indexListed, same⟩
    rw [List.mem_range] at indexListed
    have equal := Net.formatIPv4_injective (by omega) (by decide) (same.trans home)
    omega

def failureLimiter : Limiter Bucket (Budget.limit .failures) (Budget.burst .failures) :=
  counting _ _ (Budget.fills .failures).1

theorem runs_eq_kept_crowdedAttempts :
    limiterSweepAbove < (KeyedLimiter.after failureLimiter [] crowdedAttempts).length ∧
      (KeyedLimiter.after failureLimiter [] crowdedAttempts).sweep 660 = [] ∧
      KeyedLimiter.runs failureLimiter [] (crowdedAttempts ++ lateAttempts) =
        Buckets.runs failureLimiter (fun _ => failureLimiter.fresh)
          (crowdedAttempts ++ lateAttempts) := by
  have first : ∃ bucket, KeyedLimiter.after failureLimiter []
      (List.replicate 20 ⟨.allow, knocking, 0⟩) = [(knocking, ⟨bucket, 0⟩)] := by
    rw [List.replicate_succ, KeyedLimiter.after, List.foldl_cons]
    exact KeyedLimiter.after_replicate failureLimiter knocking 19 _
  rcases first with ⟨bucket, first⟩
  have others : ∀ key ∈ crowd, key ∉ [(knocking, LimiterEntry.mk bucket 0)].map Prod.fst := by
    intro key listed same
    have equal : key = knocking := List.mem_singleton.mp same
    exact crowd_apart.2 (equal ▸ listed)
  have seen : ∀ entry ∈ [(knocking, LimiterEntry.mk bucket 0)], entry.2.seen = 0 := by simp
  have grown := KeyedLimiter.after_crowd failureLimiter crowd_apart.1 others seen
  have all : KeyedLimiter.after failureLimiter [] crowdedAttempts =
      KeyedLimiter.after failureLimiter [(knocking, ⟨bucket, 0⟩)]
        (crowd.map fun key => ⟨.allow, key, 0⟩) := by
    rw [← first]
    exact List.foldl_append
  have many : (KeyedLimiter.after failureLimiter [] crowdedAttempts).length = 2049 := by
    rw [all, grown.1, crowd, List.length_map, List.length_range]
    rfl
  have crowded :
      limiterSweepAbove < (KeyedLimiter.after failureLimiter [] crowdedAttempts).length := by
    rw [many]
    decide
  have kept := (runs_eq_kept .failures failureLimiter ordered_crowdedAttempts).1
  refine ⟨crowded, ?_, kept⟩
  unfold KeyedLimiter.sweep
  rw [if_pos crowded, List.filter_eq_nil_iff]
  intro entry listed
  rw [all] at listed
  have idle : limiterIdleAfter < 660 - 0 := by
    unfold limiterIdleAfter
    norm_num
  rw [grown.2 entry listed, decide_eq_true idle]
  exact Bool.false_ne_true

end HomelabBuilder.Mcp
