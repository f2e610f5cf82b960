import Mathlib.Logic.Function.Basic
import HomelabBuilder.Foundation.Window

/-! # Login attempts

`rate_limiter.go` and the login handler of `auth.go`: what the limiter keeps of an
address, and the steps of the requests that consult it. Times are nanoseconds.
-/

namespace HomelabBuilder.Login

def maxLoginAttempts : Nat := 6
def lockoutDuration : Int := 15 * 60 * 1000000000

structure AttemptRecord where
  count : Nat
  firstFail : Int
  lockedAt : Option Int := none

abbrev Attempts := String → Option AttemptRecord

namespace AttemptRecord

variable (record : AttemptRecord) (now : Int)

/-- Whether a lock is set and has not run out. -/
def isLocked : Bool := record.lockedAt.any fun lockedAt => now - lockedAt < lockoutDuration

def lockExpired : Bool := record.lockedAt.any fun lockedAt => lockoutDuration ≤ now - lockedAt

def isStale : Bool :=
  match record.lockedAt with
  | some lockedAt => lockoutDuration * 2 < now - lockedAt
  | none => lockoutDuration < now - record.firstFail

end AttemptRecord

namespace Attempts

variable (attempts : Attempts) (now : Int)

def isBlocked (ip : String) : Bool := (attempts ip).any fun record => record.isLocked now

def recordFailure (ip : String) : Attempts :=
  Function.update attempts ip (some
    (match attempts ip with
    | none => { count := 1, firstFail := now }
    | some record =>
        if record.lockExpired now then { count := 1, firstFail := now }
        else
          { record with
            count := record.count + 1
            lockedAt := if maxLoginAttempts ≤ record.count + 1 then some now
              else record.lockedAt }))

def clearAttempts (ip : String) : Attempts := Function.update attempts ip none

def cleanup : Attempts := fun ip => (attempts ip).filter fun record => !record.isStale now

end Attempts

/-! ## Requests -/

/-- How far a login request is that the middleware has let through. -/
inductive Stage
  | admitted
  | wrong
  | right
  deriving DecidableEq

structure Request where
  ip : String
  stage : Stage
  deriving DecidableEq

structure Server where
  now : Int := 0
  attempts : Attempts := fun _ => none
  requests : List Request := []
  -- For the record: the credential checks and the counted failures.
  checks : List (String × Int) := []
  failures : List (String × Int) := []

inductive Event
  | arrive (ip : String)
  /-- The payload is malformed; that counts as a failure. -/
  | refusePayload (ip : String)
  | checkCredential (ip : String) (isRight : Bool)
  | recordFailure (ip : String)
  | clearAttempts (ip : String)
  | cleanup
  deriving DecidableEq

namespace Server

variable (server : Server)

/-- `RecordFailure`, the last thing a request does. -/
def fail (request : Request) : Server :=
  { server with
    attempts := server.attempts.recordFailure server.now request.ip
    requests := server.requests.erase request
    failures := (request.ip, server.now) :: server.failures }

def act : Event → Option Server
  | .arrive ip =>
      if server.attempts.isBlocked server.now ip then some server
      else some { server with requests := ⟨ip, .admitted⟩ :: server.requests }
  | .refusePayload ip =>
      if ⟨ip, .admitted⟩ ∈ server.requests then some (server.fail ⟨ip, .admitted⟩) else none
  | .checkCredential ip isRight =>
      if ⟨ip, .admitted⟩ ∈ server.requests then
        some { server with
          requests := ⟨ip, if isRight then .right else .wrong⟩ ::
            server.requests.erase ⟨ip, .admitted⟩
          checks := (ip, server.now) :: server.checks }
      else none
  | .recordFailure ip =>
      if ⟨ip, .wrong⟩ ∈ server.requests then some (server.fail ⟨ip, .wrong⟩) else none
  | .clearAttempts ip =>
      if ⟨ip, .right⟩ ∈ server.requests then
        some { server with
          attempts := server.attempts.clearAttempts ip
          requests := server.requests.erase ⟨ip, .right⟩ }
      else none
  | .cleanup => some { server with attempts := server.attempts.cleanup server.now }

/-- A step at a time that is not before the last one. -/
def next (time : Int) (event : Event) : Option Server :=
  if server.now ≤ time then { server with now := time }.act event else none

/-- When the credentials of an address were checked. -/
def checksOf (ip : String) : List Int :=
  (server.checks.filter fun check => check.1 = ip).map Prod.snd

def failuresOf (ip : String) : List Int :=
  (server.failures.filter fun failure => failure.1 = ip).map Prod.snd

end Server

end HomelabBuilder.Login

/-! # The login lockout

How many credential checks an address gets within one lockout time.
-/

namespace HomelabBuilder.Login

open Window (Sparse after)

namespace Server

variable (server : Server) (ip : String)

/-- Requests before their credential check, and behind one that failed. -/
def waiting : Nat := server.requests.count ⟨ip, .admitted⟩

def wrong : Nat := server.requests.count ⟨ip, .wrong⟩

end Server

/-- The failures the limiter holds against an address. A lock that has run out holds
none. -/
def counted (attempts : Attempts) (now : Int) (ip : String) : Nat :=
  match attempts ip with
  | none => 0
  | some record => if record.lockExpired now then 0 else record.count

/-- A step that leaves the count right for an address: the middleware lets through no
more requests at once than failures are left, and the cleanup forgets an address only
when its last failure is a lockout time ago. -/
def Orderly (ip : String) (server : Server) (time : Int) : Event → Prop
  | .arrive other => other = ip → server.attempts.isBlocked time ip = false →
      counted server.attempts time ip + (server.waiting ip + server.wrong ip) < maxLoginAttempts
  | .cleanup => ∀ record, server.attempts ip = some record → record.lockedAt = none →
      record.isStale time = true → ∀ failure ∈ server.failuresOf ip, failure + lockoutDuration ≤ time
  | _ => True

instance (ip : String) (server : Server) (time : Int) :
    (event : Event) → Decidable (Orderly ip server time event)
  | .arrive _ => inferInstanceAs (Decidable (_ → _ → _ < _))
  | .cleanup => inferInstanceAs (Decidable (∀ record ∈ server.attempts ip, _ → _ → _))
  | .refusePayload _ | .checkCredential _ _ | .recordFailure _ | .clearAttempts _ => .isTrue trivial

/-- Steps at times that do not decrease, from a limiter that knows nobody. -/
inductive Run (meets : Server → Int → Event → Prop) (origin : Int) : Server → Prop where
  | start : Run meets origin { now := origin }
  | step {server later : Server} {time : Int} {event : Event} : Run meets origin server →
      meets server time event → server.next time event = some later → Run meets origin later

/-! ## The invariant -/

structure Sound (ip : String) (server : Server) : Prop where
  sparse : Sparse lockoutDuration maxLoginAttempts (server.checksOf ip)
  checksPast : ∀ check ∈ server.checksOf ip, check ≤ server.now
  failuresPast : ∀ failure ∈ server.failuresOf ip, failure ≤ server.now
  unspoiled : server.requests.count ⟨ip, .right⟩ = 0
  room : counted server.attempts server.now ip + (server.waiting ip + server.wrong ip) ≤
    maxLoginAttempts
  recent : after (server.checksOf ip) (server.now - lockoutDuration) ≤
    counted server.attempts server.now ip + server.wrong ip
  -- A check behind the last failure has not been counted yet.
  settled : ∀ moment, (∀ failure ∈ server.failuresOf ip, failure ≤ moment) →
    after (server.checksOf ip) moment ≤ server.wrong ip
  locked : ∀ record, server.attempts ip = some record → ∀ lockedAt, record.lockedAt = some lockedAt →
    maxLoginAttempts ≤ record.count ∧ ∀ failure ∈ server.failuresOf ip, failure ≤ lockedAt

section Counting

variable {attempts : Attempts} {now : Int} {ip : String}

theorem counted_congr {other : Attempts} (same : other ip = attempts ip) :
    counted other now ip = counted attempts now ip := by
  unfold counted
  rw [same]

theorem counted_recordFailure :
    counted (attempts.recordFailure now ip) now ip = counted attempts now ip + 1 := by
  unfold counted Attempts.recordFailure
  rw [Function.update_self]
  have fresh : AttemptRecord.lockExpired { count := 1, firstFail := now } now = false := rfl
  cases attempts ip with
  | none => rfl
  | some record =>
      dsimp only
      by_cases expired : record.lockExpired now = true
      · rw [if_pos expired, if_pos expired]
        rfl
      · rw [if_neg expired, if_neg expired]
        have open_ : AttemptRecord.lockExpired { record with
            count := record.count + 1
            lockedAt := if maxLoginAttempts ≤ record.count + 1 then some now
              else record.lockedAt } now = false := by
          unfold AttemptRecord.lockExpired
          dsimp only
          split
          · have still : ¬lockoutDuration ≤ now - now := by
              unfold lockoutDuration
              omega
            exact decide_eq_false still
          · exact Bool.eq_false_iff.mpr expired
        rw [if_neg (Bool.eq_false_iff.mp open_)]

theorem times_cons (log : List (String × Int)) (other : String) :
    (((other, now) :: log).filter fun entry => entry.1 = ip).map Prod.snd =
      if other = ip then now :: (log.filter fun entry => entry.1 = ip).map Prod.snd
      else (log.filter fun entry => entry.1 = ip).map Prod.snd := by
  rw [List.filter_cons]
  by_cases same : other = ip
  · rw [if_pos (decide_eq_true same), if_pos same, List.map_cons]
  · rw [if_neg (by simpa using same), if_neg same]

theorem lockExpired_iff {record : AttemptRecord} :
    record.lockExpired now = true ↔
      ∃ lockedAt, record.lockedAt = some lockedAt ∧ lockoutDuration ≤ now - lockedAt := by
  unfold AttemptRecord.lockExpired
  rw [Option.any_eq_true]
  simp only [decide_eq_true_eq]

theorem lockExpired_mono {record : AttemptRecord} {later : Int} (order : now ≤ later)
    (expired : record.lockExpired now = true) : record.lockExpired later = true := by
  rcases lockExpired_iff.mp expired with ⟨lockedAt, lock, passed⟩
  exact lockExpired_iff.mpr ⟨lockedAt, lock, by omega⟩

end Counting

section Steps

variable {ip : String} {server : Server} (sound : Sound ip server)

include sound

theorem Sound.tick {time : Int} (order : server.now ≤ time) : Sound ip { server with now := time } := by
  have longer : after (server.checksOf ip) (time - lockoutDuration) ≤
      after (server.checksOf ip) (server.now - lockoutDuration) := Window.after_anti (by omega)
  have counting : counted server.attempts time ip ≤ counted server.attempts server.now ip ∧
      after (server.checksOf ip) (time - lockoutDuration) ≤
        counted server.attempts time ip + server.wrong ip := by
    have room := sound.room
    have recent := sound.recent
    unfold counted at *
    cases known : server.attempts ip with
    | none =>
        rw [known] at room recent
        exact ⟨Nat.le_refl _, longer.trans recent⟩
    | some record =>
        rw [known] at room recent
        dsimp only at room recent ⊢
        by_cases expired : record.lockExpired time = true
        · -- The lock runs out: all counted checks are older than it.
          rw [if_pos expired]
          refine ⟨Nat.zero_le _, ?_⟩
          rcases lockExpired_iff.mp expired with ⟨lockedAt, lock, passed⟩
          have failed := (sound.locked record known lockedAt lock).2
          have settled := sound.settled (time - lockoutDuration) fun failure listed => by
            have before := failed failure listed
            omega
          omega
        · have before : ¬record.lockExpired server.now = true := fun early =>
            expired (lockExpired_mono order early)
          rw [if_neg before] at recent
          rw [if_neg expired, if_neg before]
          exact ⟨Nat.le_refl _, longer.trans recent⟩
  have room := sound.room
  exact
    { sparse := sound.sparse
      checksPast := fun check listed => (sound.checksPast check listed).trans order
      failuresPast := fun failure listed => (sound.failuresPast failure listed).trans order
      unspoiled := sound.unspoiled
      room := (Nat.add_le_add_right counting.1 _).trans room
      recent := counting.2
      settled := sound.settled
      locked := sound.locked }

theorem Sound.elsewhere {later : Server} (now : later.now = server.now)
    (attempts : later.attempts ip = server.attempts ip)
    (requests : ∀ stage, later.requests.count ⟨ip, stage⟩ = server.requests.count ⟨ip, stage⟩)
    (checks : later.checksOf ip = server.checksOf ip)
    (failures : later.failuresOf ip = server.failuresOf ip) : Sound ip later := by
  have waiting : later.waiting ip = server.waiting ip := requests .admitted
  have wrong : later.wrong ip = server.wrong ip := requests .wrong
  have counting : counted later.attempts later.now ip = counted server.attempts server.now ip := by
    rw [now]
    exact counted_congr attempts
  constructor
  · rw [checks]
    exact sound.sparse
  · rw [checks, now]
    exact sound.checksPast
  · rw [failures, now]
    exact sound.failuresPast
  · rw [requests]
    exact sound.unspoiled
  · rw [counting, waiting, wrong]
    exact sound.room
  · rw [counting, wrong, checks, now]
    exact sound.recent
  · rw [failures, checks, wrong]
    exact sound.settled
  · rw [attempts, failures]
    exact sound.locked

theorem Sound.letIn
    (room : counted server.attempts server.now ip + (server.waiting ip + server.wrong ip) <
      maxLoginAttempts) :
    Sound ip { server with requests := ⟨ip, .admitted⟩ :: server.requests } := by
  have waiting : Server.waiting { server with requests := ⟨ip, .admitted⟩ :: server.requests } ip =
      server.waiting ip + 1 := List.count_cons_self
  have wrong : Server.wrong { server with requests := ⟨ip, .admitted⟩ :: server.requests } ip =
      server.wrong ip := List.count_cons_of_ne (by simp)
  refine
    { sparse := sound.sparse
      checksPast := sound.checksPast
      failuresPast := sound.failuresPast
      unspoiled := (List.count_cons_of_ne (by simp)).trans sound.unspoiled
      room := ?_
      recent := ?_
      settled := ?_
      locked := sound.locked }
  · rw [waiting, wrong]
    show counted server.attempts server.now ip + _ ≤ _
    omega
  · rw [wrong]
    exact sound.recent
  · rw [wrong]
    exact sound.settled

theorem Sound.check (listed : (⟨ip, .admitted⟩ : Request) ∈ server.requests) :
    Sound ip { server with
      requests := ⟨ip, .wrong⟩ :: server.requests.erase ⟨ip, .admitted⟩
      checks := (ip, server.now) :: server.checks } := by
  have present : 0 < server.waiting ip := List.count_pos_iff.mpr listed
  have waiting : Server.waiting { server with
      requests := ⟨ip, .wrong⟩ :: server.requests.erase ⟨ip, .admitted⟩
      checks := (ip, server.now) :: server.checks } ip = server.waiting ip - 1 :=
    (List.count_cons_of_ne (by simp)).trans List.count_erase_self
  have wrong : Server.wrong { server with
      requests := ⟨ip, .wrong⟩ :: server.requests.erase ⟨ip, .admitted⟩
      checks := (ip, server.now) :: server.checks } ip = server.wrong ip + 1 :=
    List.count_cons_self.trans (congrArg (· + 1) (List.count_erase_of_ne (by simp)))
  have checks : Server.checksOf { server with
      requests := ⟨ip, .wrong⟩ :: server.requests.erase ⟨ip, .admitted⟩
      checks := (ip, server.now) :: server.checks } ip = server.now :: server.checksOf ip :=
    (times_cons server.checks ip).trans (if_pos rfl)
  have positive : 0 < lockoutDuration := by decide
  have room := sound.room
  have recent := sound.recent
  refine
    { sparse := ?_
      checksPast := ?_
      failuresPast := sound.failuresPast
      unspoiled := ?_
      room := ?_
      recent := ?_
      settled := ?_
      locked := sound.locked }
  · rw [checks]
    exact sound.sparse.cons (by omega)
  · rw [checks]
    exact List.forall_mem_cons.mpr ⟨Int.le_refl _, sound.checksPast⟩
  · show (_ :: server.requests.erase _).count _ = 0
    rw [List.count_cons_of_ne (by simp), List.count_erase_of_ne (by simp)]
    exact sound.unspoiled
  · rw [waiting, wrong]
    show counted server.attempts server.now ip + _ ≤ _
    omega
  · rw [checks, wrong]
    show after _ (server.now - lockoutDuration) ≤ counted server.attempts server.now ip + _
    rw [Window.after_cons_of_lt (by omega)]
    omega
  · intro moment past
    have settled := sound.settled moment past
    rw [checks, wrong]
    by_cases order : moment < server.now
    · rw [Window.after_cons_of_lt order]
      omega
    · rw [Window.after_cons_of_le (by omega)]
      omega

theorem Sound.fail {stage : Stage} (listed : (⟨ip, stage⟩ : Request) ∈ server.requests) :
    Sound ip (server.fail ⟨ip, stage⟩) := by
  have fewer : (server.fail ⟨ip, stage⟩).waiting ip + (server.fail ⟨ip, stage⟩).wrong ip + 1 =
      server.waiting ip + server.wrong ip ∧
        server.wrong ip ≤ (server.fail ⟨ip, stage⟩).wrong ip + 1 := by
    have present := List.count_pos_iff.mpr listed
    unfold Server.waiting Server.wrong Server.fail
    dsimp only
    cases stage with
    | admitted =>
        rw [List.count_erase_self, List.count_erase_of_ne (by simp)]
        omega
    | wrong =>
        rw [List.count_erase_self, List.count_erase_of_ne (by simp)]
        omega
    | right =>
        have none := sound.unspoiled
        omega
  have counting : counted (server.fail ⟨ip, stage⟩).attempts (server.fail ⟨ip, stage⟩).now ip =
      counted server.attempts server.now ip + 1 := counted_recordFailure
  have failures : (server.fail ⟨ip, stage⟩).failuresOf ip = server.now :: server.failuresOf ip :=
    (times_cons server.failures ip).trans (if_pos rfl)
  have room := sound.room
  have recent := sound.recent
  refine
    { sparse := sound.sparse
      checksPast := sound.checksPast
      failuresPast := ?_
      unspoiled := ?_
      room := ?_
      recent := ?_
      settled := ?_
      locked := ?_ }
  · rw [failures]
    exact List.forall_mem_cons.mpr ⟨Int.le_refl _, sound.failuresPast⟩
  · have before := sound.unspoiled
    have fewer : (server.requests.erase ⟨ip, stage⟩).count ⟨ip, .right⟩ ≤ _ :=
      List.erase_sublist.count_le _
    show (server.requests.erase ⟨ip, stage⟩).count _ = 0
    omega
  · rw [counting]
    omega
  · rw [counting]
    show after (server.checksOf ip) (server.now - lockoutDuration) ≤ _
    omega
  · intro moment past
    rw [failures] at past
    have reached := past server.now List.mem_cons_self
    have none := Window.after_eq_zero fun check checked =>
      (sound.checksPast check checked).trans reached
    show after (server.checksOf ip) moment ≤ _
    omega
  · intro record known lockedAt lock
    rw [failures]
    have before := sound.locked
    unfold Server.fail Attempts.recordFailure at known
    dsimp only at known
    rw [Function.update_self] at known
    cases old : server.attempts ip with
    | none =>
        rw [old] at known
        cases known
        cases lock
    | some earlier =>
        rw [old] at known
        dsimp only at known
        split at known
        · cases known
          cases lock
        · cases known
          dsimp only at lock
          split at lock
          · rename_i enough
            cases lock
            exact ⟨enough, List.forall_mem_cons.mpr ⟨Int.le_refl _, sound.failuresPast⟩⟩
          · rename_i short
            have enough := (before earlier old lockedAt lock).1
            omega

theorem Sound.cleanup
    (forgets : ∀ record, server.attempts ip = some record → record.lockedAt = none →
      record.isStale server.now = true →
        ∀ failure ∈ server.failuresOf ip, failure + lockoutDuration ≤ server.now) :
    Sound ip { server with attempts := server.attempts.cleanup server.now } := by
  have room := sound.room
  have recent := sound.recent
  have counting : counted (server.attempts.cleanup server.now) server.now ip ≤
        counted server.attempts server.now ip ∧
      after (server.checksOf ip) (server.now - lockoutDuration) ≤
        counted (server.attempts.cleanup server.now) server.now ip + server.wrong ip := by
    cases known : server.attempts ip with
    | none =>
        have same : server.attempts.cleanup server.now ip = server.attempts ip := by
          unfold Attempts.cleanup
          rw [known]
          rfl
        rw [counted_congr same]
        exact ⟨Nat.le_refl _, recent⟩
    | some record =>
        by_cases stale : record.isStale server.now = true
        · have dropped : counted (server.attempts.cleanup server.now) server.now ip = 0 := by
            unfold counted Attempts.cleanup
            rw [known, Option.filter_some, stale]
            rfl
          rw [dropped]
          refine ⟨Nat.zero_le _, ?_⟩
          cases lock : record.lockedAt with
          | none =>
              -- No failure is younger than the lockout time.
              have settled := sound.settled (server.now - lockoutDuration) fun failure listed => by
                have forgotten := forgets record known lock stale failure listed
                omega
              omega
          | some lockedAt =>
              unfold AttemptRecord.isStale at stale
              rw [lock] at stale
              have passed := of_decide_eq_true stale
              have positive : 0 < lockoutDuration := by decide
              have expired : record.lockExpired server.now = true :=
                lockExpired_iff.mpr ⟨lockedAt, lock, by omega⟩
              unfold counted at recent
              rw [known] at recent
              dsimp only at recent
              rw [if_pos expired] at recent
              exact recent
        · have same : server.attempts.cleanup server.now ip = server.attempts ip := by
            unfold Attempts.cleanup
            rw [known, Option.filter_some, Bool.eq_false_iff.mpr stale]
            rfl
          rw [counted_congr same]
          exact ⟨Nat.le_refl _, recent⟩
  refine
    { sparse := sound.sparse
      checksPast := sound.checksPast
      failuresPast := sound.failuresPast
      unspoiled := sound.unspoiled
      room := (Nat.add_le_add_right counting.1 _).trans room
      recent := counting.2
      settled := sound.settled
      locked := ?_ }
  intro record known
  exact sound.locked record (Option.filter_eq_some_iff.mp known).1

end Steps

/-! ## Runs -/

/-- A step without a successful login of the address. -/
def Unsuccessful (ip : String) (event : Event) : Prop := event ≠ .checkCredential ip true

instance (ip : String) (event : Event) : Decidable (Unsuccessful ip event) :=
  inferInstanceAs (Decidable (event ≠ _))

theorem Sound.next {ip : String} {server later : Server} {time : Int} {event : Event}
    (sound : Sound ip server) (unsuccessful : Unsuccessful ip event)
    (orderly : Orderly ip server time event) (step : server.next time event = some later) :
    Sound ip later := by
  unfold Server.next at step
  split at step
  swap
  · cases step
  rename_i order
  have ticked := sound.tick order
  -- A request of another address is none of this one.
  have apart : ∀ {other : String}, other ≠ ip → ∀ (requests : List Request) (stage old : Stage),
      (requests.erase ⟨other, old⟩).count ⟨ip, stage⟩ = requests.count ⟨ip, stage⟩ := by
    intro other different requests stage old
    exact List.count_erase_of_ne fun same => different (congrArg Request.ip same).symm
  have addition : ∀ {other : String}, other ≠ ip → ∀ (requests : List Request) (stage new : Stage),
      ((⟨other, new⟩ : Request) :: requests).count ⟨ip, stage⟩ = requests.count ⟨ip, stage⟩ := by
    intro other different requests stage new
    exact List.count_cons_of_ne fun same => different (congrArg Request.ip same)
  have failElsewhere : ∀ {other : String}, other ≠ ip → ∀ stage,
      Sound ip (Server.fail { server with now := time } ⟨other, stage⟩) := by
    intro other different stage
    apply ticked.elsewhere
    · rfl
    · exact Function.update_of_ne (Ne.symm different) _ _
    · exact fun _ => apart different _ _ _
    · rfl
    · exact (times_cons server.failures other).trans (if_neg different)
  unfold Server.act at step
  cases event with
  | arrive other =>
      dsimp only at step
      split at step
      · cases step
        exact ticked
      · rename_i open_
        cases step
        by_cases same : other = ip
        · subst same
          exact ticked.letIn (orderly rfl (Bool.eq_false_iff.mpr open_))
        · exact ticked.elsewhere rfl rfl (fun _ => addition same _ _ _) rfl rfl
  | refusePayload other =>
      dsimp only at step
      split at step
      swap
      · cases step
      rename_i listed
      cases step
      by_cases same : other = ip
      · subst same
        exact ticked.fail listed
      · exact failElsewhere same _
  | checkCredential other isRight =>
      dsimp only at step
      split at step
      swap
      · cases step
      rename_i listed
      cases step
      by_cases same : other = ip
      · subst same
        cases isRight with
        | false => exact ticked.check listed
        | true => exact absurd rfl unsuccessful
      · apply ticked.elsewhere
        · rfl
        · rfl
        · exact fun _ => (addition same _ _ _).trans (apart same _ _ _)
        · exact (times_cons server.checks other).trans (if_neg same)
        · rfl
  | recordFailure other =>
      dsimp only at step
      split at step
      swap
      · cases step
      rename_i listed
      cases step
      by_cases same : other = ip
      · subst same
        exact ticked.fail listed
      · exact failElsewhere same _
  | clearAttempts other =>
      dsimp only at step
      split at step
      swap
      · cases step
      rename_i listed
      cases step
      by_cases same : other = ip
      · subst same
        have present := List.count_pos_iff.mpr listed
        have none := sound.unspoiled
        omega
      · apply ticked.elsewhere
        · rfl
        · exact Function.update_of_ne (Ne.symm same) _ _
        · exact fun _ => apart same _ _ _
        · rfl
        · rfl
  | cleanup =>
      cases step
      exact ticked.cleanup orderly

theorem sound_start (ip : String) (origin : Int) : Sound ip { now := origin } where
  sparse := Sparse.nil
  checksPast := nofun
  failuresPast := nofun
  unspoiled := rfl
  room := Nat.zero_le _
  recent := Nat.zero_le _
  settled _ _ := Nat.zero_le _
  locked := nofun

/-- In every run whose steps are orderly the lockout holds. -/
theorem lockout_holds {ip : String} {origin : Int} {server : Server}
    (run : Run (fun server time event => Unsuccessful ip event ∧ Orderly ip server time event)
      origin server) :
    Sparse lockoutDuration maxLoginAttempts (server.checksOf ip) := by
  have sound : Sound ip server := by
    induction run with
    | start => exact sound_start ip origin
    | step _ meets step induction => exact induction.next meets.1 meets.2 step
  exact sound.sparse

/-! ### Requests of one address -/

/-- Steps one after the other, as long as they meet a condition. -/
def Server.play (meets : Server → Int → Event → Prop)
    [∀ server time event, Decidable (meets server time event)] (server : Server)
    (steps : List (Int × Event)) : Option Server :=
  steps.foldlM (fun server step =>
    if meets server step.1 step.2 then server.next step.1 step.2 else none) server

theorem Run.play {meets : Server → Int → Event → Prop}
    [∀ server time event, Decidable (meets server time event)] {origin : Int} :
    ∀ {steps : List (Int × Event)} {server final : Server}, Run meets origin server →
      server.play meets steps = some final → Run meets origin final
  | [], _, _, run, played => by
      cases played
      exact run
  | head :: rest, server, final, run, played => by
      rw [Server.play, List.foldlM_cons] at played
      rcases Option.bind_eq_some_iff.mp played with ⟨after, first, played⟩
      split at first
      · rename_i met
        exact Run.play (.step run met first) played
      · cases first

def second : Int := 1000000000

def wrongLogin (ip : String) (time : Int) : List (Int × Event) :=
  [(time, .arrive ip), (time, .checkCredential ip false), (time, .recordFailure ip)]

/-- Six wrong logins lock the address, the next one is blocked, and after the lock has run out
and the cleanup has come by, it is checked again. -/
def lockedAndBack (ip : String) : List (Int × Event) :=
  (List.range 6).flatMap (fun (step : Nat) => wrongLogin ip (step * second)) ++
    [(60 * second, .arrive ip), (1860 * second, .cleanup)] ++ wrongLogin ip (1861 * second)

theorem lockout_holds_lockedAndBack :
    ∃ server : Server, server.checksOf "203.0.113.7" =
        [1861 * second, 5 * second, 4 * second, 3 * second, 2 * second, second, 0] ∧
      Sparse lockoutDuration maxLoginAttempts (server.checksOf "203.0.113.7") := by
  have idle : Run (fun server time event => Unsuccessful "203.0.113.7" event ∧
      Orderly "203.0.113.7" server time event) 0 {} := .start
  have played : ((Server.play (fun server time event => Unsuccessful "203.0.113.7" event ∧
      Orderly "203.0.113.7" server time event) {} (lockedAndBack "203.0.113.7")).map
        fun server => server.checksOf "203.0.113.7") =
          some [1861 * second, 5 * second, 4 * second, 3 * second, 2 * second, second, 0] := by
    decide
  rcases Option.map_eq_some_iff.mp played with ⟨server, steps, checks⟩
  exact ⟨server, checks, lockout_holds (idle.play steps)⟩

/-- Seven requests that arrive before the first of them has failed are all checked. -/
theorem lockout_overrun :
    ¬ ∀ (ip : String) (origin : Int) (server : Server),
      Run (fun _ _ event => Unsuccessful ip event) origin server →
        Sparse lockoutDuration maxLoginAttempts (server.checksOf ip) := by
  intro claim
  have played : ((Server.play (fun _ _ event => Unsuccessful "203.0.113.7" event) {}
      (List.replicate 7 (0, .arrive "203.0.113.7") ++
        List.replicate 7 (0, .checkCredential "203.0.113.7" false))).map
          fun server => server.checksOf "203.0.113.7") = some [0, 0, 0, 0, 0, 0, 0] := by
    decide
  rcases Option.map_eq_some_iff.mp played with ⟨server, steps, checks⟩
  have idle : Run (fun _ _ event => Unsuccessful "203.0.113.7" event) 0 {} := .start
  have sparse := claim _ _ _ (idle.play steps)
  rw [checks] at sparse
  exact absurd (sparse 0 0 (by decide)) (by decide)

end HomelabBuilder.Login
