import HomelabBuilder.Proposals.Locks

/-! # Revisions

Every committed write of the build is the next revision of the one it was made
for, and a proposal that has been settled stays as it is.
-/

namespace HomelabBuilder.Proposals

/-! ## The history of the build -/

/-- The writes follow each other from the first revision to the current one,
and none of them was made without knowing the one before. -/
structure World.Chained (start : Nat) (world : World) : Prop where
  replaced : world.history.map (·.replaced) = List.range' start world.history.length
  produced : ∀ write ∈ world.history, write.produced = write.replaced + 1
  current : world.revision = start + world.history.length
  known : ∀ write ∈ world.history, ∀ revision, write.call.known = some revision →
    revision = write.replaced

section Chained

variable {world : World} {client : Nat} {txn : Transaction} {start : Nat}

theorem World.Sound.commit_history (sound : world.Sound)
    (opened : world.clients.lookup client = some txn) :
    (txn.revision = none ∧ (world.commit client txn).history = world.history ∧
        (world.commit client txn).revision = world.revision) ∨
      (txn.revision = some (world.revision + 1) ∧
        (world.commit client txn).history =
          world.history ++ [⟨txn.call, world.revision, world.revision + 1⟩] ∧
        (world.commit client txn).revision = world.revision + 1 ∧
        ∀ known, txn.call.known = some known → known = world.revision) := by
  cases written : txn.revision with
  | none => exact .inl ⟨rfl, by simp [World.commit, written], by simp [World.commit, written]⟩
  | some produced =>
      rcases (sound.holds opened).revision produced written with ⟨read, rfl, known⟩
      exact .inr ⟨rfl, by simp [World.commit, written, read], by simp [World.commit, written], known⟩

theorem Steps.chained {result : World} (step : Steps world client result) (sound : world.Sound)
    (chained : world.Chained start) : result.Chained start := by
  cases step with
  | start | run | rollback =>
      exact ⟨chained.replaced, chained.produced, chained.current, chained.known⟩
  | @commit txn opened =>
      rcases sound.commit_history opened with ⟨_, history, revision⟩ | ⟨_, history, revision, known⟩
      · refine ⟨?_, ?_, ?_, ?_⟩
        · rw [history]
          exact chained.replaced
        · rw [history]
          exact chained.produced
        · rw [history, revision]
          exact chained.current
        · rw [history]
          exact chained.known
      · refine ⟨?_, ?_, ?_, ?_⟩
        · rw [history, List.map_append, chained.replaced, List.length_append, List.length_singleton,
            List.range'_1_concat, chained.current]
          rfl
        · intro write member
          rw [history] at member
          rcases List.mem_append.mp member with old | new
          · exact chained.produced write old
          · rw [List.mem_singleton.mp new]
        · rw [history, revision, chained.current, List.length_append, List.length_singleton]
          omega
        · intro write member seen isSeen
          rw [history] at member
          rcases List.mem_append.mp member with old | new
          · exact chained.known write old seen isSeen
          · rw [List.mem_singleton.mp new] at isSeen ⊢
            exact known seen isSeen

theorem Run.chained {start final : World} {visits : List Visit} (run : Run start visits final)
    (idle : start.Idle) : final.Chained start.revision := by
  induction run with
  | nil =>
      refine ⟨?_, ?_, ?_, ?_⟩
      · rw [idle.history]
        rfl
      · rw [idle.history]
        exact nofun
      · rw [idle.history]
        rfl
      · rw [idle.history]
        exact nofun
  | step earlier stepped induction =>
      exact (World.steps stepped).chained (earlier.sound idle) induction

end Chained

/-! ## Settled proposals -/

/-- The proposal is or was committed, and is no longer pending. -/
structure World.Retired (world : World) (id : Nat) : Prop where
  issued : id ∈ world.issued
  settled : ¬world.Pending id
  committed : ∀ {client txn row}, world.clients.lookup client = some txn →
    txn.created = some row → row.id ≠ id

section Settled

variable {world : World} {client : Nat}

theorem World.Sound.retired (sound : world.Sound) {row : Proposal} (listed : row ∈ world.proposals)
    (settled : ¬world.Pending row.id) : world.Retired row.id where
  issued := sound.issued row listed
  settled := settled
  committed := by
    intro client txn created opened inserted same
    apply ((sound.holds opened).created created inserted).2.2
    rw [same]
    exact List.mem_map_of_mem listed

theorem World.Sound.not_pending (sound : world.Sound) {row : Proposal}
    (listed : row ∈ world.proposals) (settled : row.isPending = false) : ¬world.Pending row.id := by
  intro pending
  rcases pending with ⟨other, otherListed, same, waiting⟩
  rw [List.inj_on_of_nodup_map sound.ids otherListed listed same, settled] at waiting
  cases waiting

theorem Steps.retired {result : World} (step : Steps world client result) (sound : world.Sound)
    {id : Nat} (retired : world.Retired id) : result.Retired id := by
  cases step with
  | start call =>
      refine ⟨retired.issued, retired.settled, ?_⟩
      intro other txn row opened inserted
      rw [Table.lookup_set] at opened
      split at opened
      · cases opened
        cases inserted
      · exact retired.committed opened inserted
  | run opened ran =>
      refine ⟨List.mem_append_right _ retired.issued, retired.settled, ?_⟩
      intro other txn row isOpen inserted
      rw [Table.lookup_set] at isOpen
      split at isOpen
      · cases isOpen
        rcases ran.created with kept | ⟨fresh, isFresh, _, new⟩
        · exact retired.committed opened (kept ▸ inserted)
        · rw [isFresh] at inserted
          cases inserted
          intro same
          exact new (same ▸ retired.issued)
      · exact retired.committed isOpen inserted
  | commit opened =>
      refine ⟨retired.issued, ?_, ?_⟩
      · intro pending
        rcases sound.pending_of_commit opened pending with old | ⟨row, created, same⟩
        · exact retired.settled old
        · exact retired.committed opened created same
      · intro other txn row isOpen inserted
        rcases lookup_commit isOpen with ⟨_, before, wasOpen, rfl⟩
        exact retired.committed wasOpen inserted
  | rollback =>
      refine ⟨retired.issued, retired.settled, ?_⟩
      intro other txn row opened inserted
      rw [Table.lookup_erase] at opened
      split at opened
      · cases opened
      · exact retired.committed opened inserted

theorem Steps.pending_or_retired {result : World} (step : Steps world client result)
    (sound : world.Sound) {id : Nat} (before : world.Pending id) :
    result.Pending id ∨ result.Retired id := by
  by_cases after : result.Pending id
  · exact .inl after
  · apply Or.inr
    rcases before with ⟨row, listed, rfl, waiting⟩
    have fresh {other : Nat} {txn : Transaction} {created : Proposal}
        (opened : world.clients.lookup other = some txn) (inserted : txn.created = some created) :
        created.id ≠ row.id := by
      intro same
      apply ((sound.holds opened).created created inserted).2.2
      rw [same]
      exact List.mem_map_of_mem listed
    cases step with
    | start | run | rollback => exact absurd ⟨row, listed, rfl, waiting⟩ after
    | commit opened =>
        refine ⟨sound.issued row listed, after, ?_⟩
        intro other txn created isOpen inserted
        rcases lookup_commit isOpen with ⟨_, earlier, wasOpen, rfl⟩
        exact fresh wasOpen inserted

theorem Steps.origin {result : World} (step : Steps world client result) {later : Proposal}
    (isLater : later ∈ result.proposals) :
    (∃ old ∈ world.proposals, old.id = later.id) ∨
      ∃ txn, world.clients.lookup client = some txn ∧ txn.created = some later := by
  cases step with
  | start | run | rollback => exact .inl ⟨later, isLater, rfl⟩
  | @commit txn opened =>
      rcases Transaction.mem_view.mp isLater with ⟨old, oldListed, _, rfl⟩ | created
      · exact .inl ⟨old, oldListed, (txn.latest_id old).symm⟩
      · exact .inr ⟨txn, opened, created⟩

theorem Steps.frozen {result : World} (step : Steps world client result) (sound : world.Sound)
    {row : Proposal} (listed : row ∈ world.proposals) (settled : row.isPending = false)
    {later : Proposal} (isLater : later ∈ result.proposals) (same : later.id = row.id) :
    later = row := by
  have unique {other : Proposal} (otherListed : other ∈ world.proposals) (equal : other.id = row.id) :
      other = row := List.inj_on_of_nodup_map sound.ids otherListed listed equal
  cases step with
  | start | run | rollback => exact unique isLater same
  | @commit txn opened =>
      rcases Transaction.mem_view.mp isLater with ⟨old, oldListed, _, rfl⟩ | created
      · rw [txn.latest_id] at same
        have equal := unique oldListed same
        subst equal
        unfold Transaction.latest
        cases found : txn.updated.find? (·.id = old.id) with
        | none => rfl
        | some changed =>
            have named : changed.id = old.id := by simpa using List.find?_some found
            have pending := ((sound.holds opened).updated changed
              (List.mem_of_find?_eq_some found)).2
            exact absurd (named ▸ pending) (sound.not_pending listed settled)
      · exact absurd (same ▸ List.mem_map_of_mem listed)
          ((sound.holds opened).created later created).2.2

end Settled

section Runs

variable {start middle final : World} {visits : List Visit}

theorem Run.sound_of_sound (run : Run start visits final) (sound : start.Sound) : final.Sound := by
  induction run with
  | nil => exact sound
  | step _ stepped induction => exact (World.steps stepped).sound induction

theorem Run.retired (run : Run start visits final) (sound : start.Sound) {id : Nat}
    (retired : start.Retired id) : final.Retired id := by
  induction run with
  | nil => exact retired
  | step earlier stepped induction =>
      exact (World.steps stepped).retired (earlier.sound_of_sound sound) induction

theorem Run.pending_or_retired (run : Run start visits final) (sound : start.Sound)
    {row : Proposal} (listed : row ∈ start.proposals) :
    final.Pending row.id ∨ final.Retired row.id := by
  induction run with
  | nil =>
      by_cases pending : start.Pending row.id
      · exact .inl pending
      · exact .inr (sound.retired listed pending)
  | step earlier stepped induction =>
      rcases induction with pending | retired
      · exact (World.steps stepped).pending_or_retired (earlier.sound_of_sound sound) pending
      · exact .inr ((World.steps stepped).retired (earlier.sound_of_sound sound) retired)

theorem Run.frozen (run : Run start visits final) (sound : start.Sound) {row : Proposal}
    (listed : row ∈ start.proposals) (settled : row.isPending = false) :
    ∀ later ∈ final.proposals, later.id = row.id → later = row := by
  induction run with
  | nil =>
      intro later isLater same
      exact List.inj_on_of_nodup_map sound.ids isLater listed same
  | @step visits world result client action earlier stepped induction =>
      intro later isLater same
      have step := World.steps stepped
      have stillSound := earlier.sound_of_sound sound
      -- The row is there before the step as well: no new one can have its id.
      have retired := earlier.retired sound
        (sound.retired listed (sound.not_pending listed settled))
      rcases step.origin isLater with ⟨old, oldListed, named⟩ | ⟨txn, opened, created⟩
      · have kept := induction old oldListed (named.trans same)
        rw [kept] at oldListed
        exact step.frozen stillSound oldListed settled isLater same
      · exact absurd same (retired.committed opened created)

end Runs

/-! ## Decided proposals -/

def Call.decides : Call → Option Nat
  | .reject id | .apply id => some id
  | _ => none

/-- What a decision leaves, given the revision it wrote: a rejection leaves a
rejected proposal, an application one that is applied with that revision, or a
conflict when it wrote none. -/
inductive Call.Leaves : Call → Option Nat → Proposal → Prop where
  | rejected {row : Proposal} : row.status = .rejected → Leaves (.reject row.id) none row
  | applied {row : Proposal} {revision : Nat} : row.status = .applied →
      row.appliedRevision = some revision → Leaves (.apply row.id) (some revision) row
  | conflict {row : Proposal} : row.status = .conflict → Leaves (.apply row.id) none row

theorem Call.Leaves.id_eq {call : Call} {revision : Option Nat} {row : Proposal}
    (leaves : call.Leaves revision row) {id : Nat} (decides : call.decides = some id) :
    row.id = id := by
  cases leaves <;> exact Option.some.inj decides

theorem Call.Leaves.settled {call : Call} {revision : Option Nat} {row : Proposal}
    (leaves : call.Leaves revision row) : row.isPending = false := by
  cases leaves <;> simp [Proposal.isPending, *]

theorem Call.decides_of_startsWithBuild {call : Call} (first : call.startsWithBuild = true) :
    call.decides = none := by
  cases call <;> first | rfl | cases first

structure Transaction.Decides (txn : Transaction) : Prop where
  /-- Nothing is settled before the end. -/
  unsettled : ∀ id, txn.call.decides = some id → txn.phase ≠ .done → txn.updated = []
  written : txn.phase = .written → txn.revision = txn.build.map (· + 1)
  /-- Nothing is written on the way to a rejection or a conflict. -/
  unwritten : ∀ id, txn.call.decides = some id → txn.phase ≠ .written → txn.phase ≠ .done →
    txn.revision = none
  /-- A proposal marked as applied carries the revision that was written. -/
  marked : ∀ row ∈ txn.updated, row.status = .applied →
    txn.call = .apply row.id ∧ ∃ revision, txn.revision = some revision ∧
      row.appliedRevision = some revision
  /-- A decision ends with its proposal settled. -/
  finished : ∀ id, txn.call.decides = some id → txn.phase = .done →
    ∃ row, txn.updated = [row] ∧ txn.call.Leaves txn.revision row
  kept : ∀ id, txn.call.decides = some id → txn.deleted = []
  inserted : ∀ row, txn.created = some row → row.isPending = true
  phases : ∀ id, txn.call.decides = some id →
    txn.phase ≠ .superseded ∧ txn.phase ≠ .created ∧ txn.phase ≠ .plucked

section Decided

variable {world : World} {client : Nat} {txn after : Transaction}

theorem Transaction.Decides.of_other (other : txn.call.decides = none)
    (phase : txn.phase ≠ .written) (marked : ∀ row ∈ txn.updated, row.status ≠ .applied)
    (inserted : ∀ row, txn.created = some row → row.isPending = true) : txn.Decides where
  unsettled := fun _ call => absurd (other.symm.trans call) nofun
  written := fun isWritten => absurd isWritten phase
  unwritten := fun _ call => absurd (other.symm.trans call) nofun
  marked := fun row member status => absurd status (marked row member)
  finished := fun _ call => absurd (other.symm.trans call) nofun
  kept := fun _ call => absurd (other.symm.trans call) nofun
  inserted := inserted
  phases := fun _ call => absurd (other.symm.trans call) nofun

theorem Transaction.Decides.of_unsettled (empty : txn.updated = []) (notDone : txn.phase ≠ .done)
    (written : txn.phase = .written → txn.revision = txn.build.map (· + 1))
    (unwritten : txn.phase ≠ .written → txn.revision = none) (kept : txn.deleted = [])
    (inserted : ∀ row, txn.created = some row → row.isPending = true)
    (phases : txn.phase ≠ .superseded ∧ txn.phase ≠ .created ∧ txn.phase ≠ .plucked) :
    txn.Decides where
  unsettled := fun _ _ _ => empty
  written := written
  unwritten := fun _ _ begun _ => unwritten begun
  marked := by
    intro row member
    rw [empty] at member
    cases member
  finished := fun _ _ done => absurd done notDone
  kept := fun _ _ => kept
  inserted := inserted
  phases := fun _ _ => phases

theorem Transaction.Decides.of_settled {row : Proposal} (updated : txn.updated = [row])
    (done : txn.phase = .done) (leaves : txn.call.Leaves txn.revision row)
    (kept : txn.deleted = [])
    (inserted : ∀ row, txn.created = some row → row.isPending = true) : txn.Decides where
  unsettled := fun _ _ notDone => absurd done notDone
  written := by
    intro isWritten
    rw [done] at isWritten
    cases isWritten
  unwritten := fun _ _ _ notDone => absurd done notDone
  marked := by
    intro changed member status
    rw [updated] at member
    rw [List.mem_singleton.mp member] at status ⊢
    generalize named : txn.call = call at leaves ⊢
    generalize produced : txn.revision = revision at leaves ⊢
    cases leaves with
    | rejected rejected => exact absurd (rejected.symm.trans status) nofun
    | applied _ shown => exact ⟨rfl, _, rfl, shown⟩
    | conflict refused => exact absurd (refused.symm.trans status) nofun
  finished := fun _ _ _ => ⟨row, updated, leaves⟩
  kept := fun _ _ => kept
  inserted := inserted
  phases := by
    intro _ _
    rw [done]
    exact ⟨nofun, nofun, nofun⟩

theorem Transaction.Decides.unmarked (decides : txn.Decides) (other : txn.call.decides = none) :
    ∀ row ∈ txn.updated, row.status ≠ .applied := by
  intro row member status
  rw [(decides.marked row member status).1] at other
  cases other

theorem Transaction.Decides.none_of_phase (decides : txn.Decides)
    (reached : txn.phase = .created ∨ txn.phase = .plucked) : txn.call.decides = none := by
  cases decided : txn.call.decides with
  | none => rfl
  | some id =>
      have phases := decides.phases id decided
      exact (reached.elim phases.2.1 phases.2.2).elim

/-- A deciding call goes on without writing. -/
theorem Transaction.Decides.advance (decides : txn.Decides) {id : Nat}
    (decided : txn.call.decides = some id) (unwritten : txn.phase ≠ .written)
    (unfinished : txn.phase ≠ .done) {phase : Phase}
    (between : phase = .locked ∨ phase = .buildLocked ∨ phase = .refused) (locked : List Nat)
    (build : Option Nat) :
    Transaction.Decides { txn with phase := phase, locked := locked, build := build } := by
  have notDone : phase ≠ .done := by rcases between with rfl | rfl | rfl <;> exact nofun
  have notWritten : phase ≠ .written := by rcases between with rfl | rfl | rfl <;> exact nofun
  refine .of_unsettled (decides.unsettled id decided unfinished) notDone
    (fun isWritten => absurd isWritten notWritten)
    (fun _ => decides.unwritten id decided unwritten unfinished) (decides.kept id decided)
    decides.inserted ?_
  rcases between with rfl | rfl | rfl <;> exact ⟨nofun, nofun, nofun⟩

/-- A deciding call ends. -/
theorem Transaction.Decides.settle (decides : txn.Decides) {id : Nat}
    (decided : txn.call.decides = some id) (unfinished : txn.phase ≠ .done) {row : Proposal}
    (leaves : txn.call.Leaves txn.revision row) :
    Transaction.Decides { txn with phase := .done, updated := row :: txn.updated } := by
  have empty := decides.unsettled id decided unfinished
  exact .of_settled (by rw [empty]) rfl leaves (decides.kept id decided) decides.inserted

theorem Executes.decides (decides : txn.Decides) (ran : Executes world client txn after) :
    after.Decides := by
  cases ran with
  | supersede call =>
      have other : txn.call.decides = none := by rw [call]; rfl
      refine .of_other other nofun ?_ decides.inserted
      intro row member
      rcases List.mem_append.mp member with fresh | old
      · rcases List.mem_map.mp fresh with ⟨old, _, rfl⟩
        exact nofun
      · exact decides.unmarked other row old
  | create call =>
      have other : txn.call.decides = none := by rw [call]; rfl
      refine .of_other other nofun (decides.unmarked other) ?_
      intro row built
      cases built
      rfl
  | pluck phase =>
      have other := decides.none_of_phase (.inl phase)
      exact .of_other other nofun (decides.unmarked other) decides.inserted
  | prune phase =>
      have other := decides.none_of_phase (.inr phase)
      exact .of_other other nofun (decides.unmarked other) decides.inserted
  | @lockPending id row call phase =>
      have decided : txn.call.decides = some id := by
        rcases call with call | call <;> rw [call] <;> rfl
      exact decides.advance decided (by rw [phase]; exact nofun) (by rw [phase]; exact nofun)
        (.inl rfl) (id :: txn.locked) txn.build
  | lockBuild order =>
      rcases order with ⟨first, phase⟩ | ⟨id, call, phase⟩
      · have other := Call.decides_of_startsWithBuild first
        exact .of_other other nofun (decides.unmarked other) decides.inserted
      · have decided : txn.call.decides = some id := by rw [call]; rfl
        exact decides.advance decided (by rw [phase]; exact nofun) (by rw [phase]; exact nofun)
          (.inr (.inl rfl)) txn.locked (some world.revision)
  | save first =>
      have other := Call.decides_of_startsWithBuild first
      exact .of_other other nofun (decides.unmarked other) decides.inserted
  | @replay id stored call phase build =>
      have decided : txn.call.decides = some id := by rw [call]; rfl
      refine .of_unsettled (decides.unsettled id decided (by rw [phase]; exact nofun)) nofun ?_
        (fun begun => absurd rfl begun) (decides.kept id decided) decides.inserted
        ⟨nofun, nofun, nofun⟩
      intro _
      rw [build]
      rfl
  | keep call =>
      have other : txn.call.decides = none := by rw [call]; rfl
      exact .of_other other nofun (decides.unmarked other) decides.inserted
  | @refuse id call phase =>
      have decided : txn.call.decides = some id := by rw [call]; rfl
      exact decides.advance decided (by rw [phase]; exact nofun) (by rw [phase]; exact nofun)
        (.inr (.inr rfl)) txn.locked txn.build
  | @reject id row call phase found =>
      have decided : txn.call.decides = some id := by rw [call]; rfl
      have nothing := decides.unwritten id decided (by rw [phase]; exact nofun)
        (by rw [phase]; exact nofun)
      have named : row.reject.id = id := (World.mem_of_proposal found).2
      have leaves : txn.call.Leaves txn.revision row.reject := by
        rw [call, nothing, ← named]
        exact .rejected rfl
      exact decides.settle decided (by rw [phase]; exact nofun) leaves
  | @apply id stored row call phase build found =>
      have decided : txn.call.decides = some id := by rw [call]; rfl
      have revision : txn.revision = some (stored + 1) := by
        rw [decides.written phase, build]
        rfl
      have named : (row.markApplied (stored + 1)).id = id := (World.mem_of_proposal found).2
      have leaves : txn.call.Leaves txn.revision (row.markApplied (stored + 1)) := by
        rw [call, revision, ← named]
        exact .applied rfl rfl
      exact decides.settle decided (by rw [phase]; exact nofun) leaves
  | @conflict id row call phase found =>
      have decided : txn.call.decides = some id := by rw [call]; rfl
      have nothing := decides.unwritten id decided (by rw [phase]; exact nofun)
        (by rw [phase]; exact nofun)
      have named : row.markConflict.id = id := (World.mem_of_proposal found).2
      have leaves : txn.call.Leaves txn.revision row.markConflict := by
        rw [call, nothing, ← named]
        exact .conflict rfl
      exact decides.settle decided (by rw [phase]; exact nofun) leaves
  | refreshSettled call =>
      have other : txn.call.decides = none := by rw [call]; rfl
      exact .of_other other nofun (decides.unmarked other) decides.inserted
  | @refresh id baseRevision row call phase free found waiting =>
      have other : txn.call.decides = none := by rw [call]; rfl
      refine .of_other other nofun ?_ decides.inserted
      intro changed member
      rcases List.mem_cons.mp member with rfl | old
      · have pending : row.status = .pending := by simpa [Proposal.isPending] using waiting
        cases baseRevision with
        | none => exact nofun
        | some revision =>
            show row.status ≠ .applied
            rw [pending]
            exact nofun
      · exact decides.unmarked other changed old

end Decided

/-- Every open transaction keeps to what a decision does. -/
def World.Deciding (world : World) : Prop :=
  ∀ {client txn}, world.clients.lookup client = some txn → txn.Decides

theorem Steps.deciding {world result : World} {client : Nat} (step : Steps world client result)
    (deciding : world.Deciding) : result.Deciding := by
  intro other before opened
  cases step with
  | start call =>
      rw [Table.lookup_set] at opened
      split at opened
      · cases opened
        exact .of_unsettled rfl nofun nofun (fun _ => rfl) rfl nofun ⟨nofun, nofun, nofun⟩
      · exact deciding opened
  | run wasOpen ran =>
      rw [Table.lookup_set] at opened
      split at opened
      · cases opened
        exact ran.decides (deciding wasOpen)
      · exact deciding opened
  | commit =>
      rcases lookup_commit opened with ⟨_, earlier, isOpen, rfl⟩
      have facts := deciding isOpen
      exact ⟨facts.unsettled, facts.written, facts.unwritten, facts.marked, facts.finished,
        facts.kept, facts.inserted, facts.phases⟩
  | rollback =>
      rw [Table.lookup_erase] at opened
      split at opened
      · cases opened
      · exact deciding opened

theorem Run.deciding {start final : World} {visits : List Visit} (run : Run start visits final)
    (idle : start.Idle) : final.Deciding := by
  induction run with
  | nil =>
      intro client txn opened
      rw [idle.clients] at opened
      cases opened
  | step _ stepped induction => exact (World.steps stepped).deciding induction

/-- The write a proposal was applied with, and that there is only one. -/
structure World.AppliedOnce (world start : World) : Prop where
  /-- An applied proposal shows the revision its own write produced. -/
  shown : ∀ row ∈ world.proposals, row.status = .applied →
    row ∈ start.proposals ∨ ∃ write ∈ world.history, write.call = .apply row.id ∧
      row.appliedRevision = some write.produced
  retired : ∀ write ∈ world.history, ∀ id, write.call = .apply id → world.Retired id
  once : ∀ id, world.history.countP (·.call = .apply id) ≤ 1
  /-- A proposal whose write is committed is applied with it. -/
  applied : ∀ write ∈ world.history, ∀ row ∈ world.proposals, write.call = .apply row.id →
    row.status = .applied ∧ row.appliedRevision = some write.produced

section Commit

variable {start world : World} {client : Nat} {txn : Transaction}

theorem World.Sound.decided (sound : world.Sound) (decides : txn.Decides)
    (opened : world.clients.lookup client = some txn) (done : txn.phase = .done) {id : Nat}
    (call : txn.call.decides = some id) :
    world.Pending id ∧ ∃ row ∈ (world.commit client txn).proposals, row.id = id ∧
      txn.call.Leaves txn.revision row := by
  have named : txn.call = .reject id ∨ txn.call = .apply id := by
    cases asked : txn.call <;> rw [asked] at call <;> cases call
    · exact .inl rfl
    · exact .inr rfl
  have target := ((sound.holds opened).target id named (by rw [done]; exact nofun)).2
  rcases decides.finished id call done with ⟨row, updated, leaves⟩
  refine ⟨target, row, ?_, leaves.id_eq call, leaves⟩
  rcases target with ⟨old, oldListed, same, _⟩
  have latest : txn.latest old = row := by
    simp [Transaction.latest, updated, leaves.id_eq call, same]
  rw [← latest]
  exact Transaction.mem_view.mpr (.inl ⟨old, oldListed, by simp [decides.kept id call], rfl⟩)

theorem World.Sound.not_pending_of_decided (sound : world.Sound) (decides : txn.Decides)
    (opened : world.clients.lookup client = some txn) (done : txn.phase = .done) {id : Nat}
    (call : txn.call.decides = some id) : ¬(world.commit client txn).Pending id := by
  have step : Steps world client (world.commit client txn) := .commit opened done
  rcases sound.decided decides opened done call with ⟨_, row, listed, named, leaves⟩
  rw [← named]
  exact (step.sound sound).not_pending listed leaves.settled

theorem World.AppliedOnce.shown_commit (applied : world.AppliedOnce start) (sound : world.Sound)
    (decides : txn.Decides) (opened : world.clients.lookup client = some txn) :
    ∀ row ∈ (world.commit client txn).proposals, row.status = .applied →
      row ∈ start.proposals ∨ ∃ write ∈ (world.commit client txn).history,
        write.call = .apply row.id ∧ row.appliedRevision = some write.produced := by
  intro row listed status
  have grown : ∀ write ∈ world.history, write ∈ (world.commit client txn).history :=
    fun write member => List.mem_append_left _ member
  rcases Transaction.mem_view.mp listed with ⟨old, oldListed, _, latest⟩ | created
  · unfold Transaction.latest at latest
    cases found : txn.updated.find? (·.id = old.id) with
    | none =>
        rw [found, Option.getD_none] at latest
        subst latest
        rcases applied.shown old oldListed status with before | ⟨write, member, facts⟩
        · exact .inl before
        · exact .inr ⟨write, grown write member, facts⟩
    | some changed =>
        rw [found, Option.getD_some] at latest
        subst latest
        rcases decides.marked changed (List.mem_of_find?_eq_some found) status with
          ⟨call, revision, written, shown⟩
        rcases sound.commit_history opened with ⟨nothing, _⟩ | ⟨produced, history, _⟩
        · rw [written] at nothing
          cases nothing
        · rw [written] at produced
          cases produced
          refine .inr ⟨⟨txn.call, world.revision, world.revision + 1⟩, ?_, call, shown⟩
          rw [history]
          exact List.mem_append_right _ List.mem_cons_self
  · have waiting := decides.inserted row created
    rw [Proposal.isPending, status] at waiting
    cases waiting

theorem World.AppliedOnce.applied_step {result : World} (applied : world.AppliedOnce start)
    (step : Steps world client result) (sound : world.Sound) {write : Write}
    (member : write ∈ world.history) {row : Proposal} (listed : row ∈ result.proposals)
    (call : write.call = .apply row.id) :
    row.status = .applied ∧ row.appliedRevision = some write.produced := by
  rcases step.origin listed with ⟨old, oldListed, same⟩ | ⟨txn, opened, created⟩
  · have before := applied.applied write member old oldListed (same ▸ call)
    have settled : old.isPending = false := by simp [Proposal.isPending, before.1]
    rw [step.frozen sound oldListed settled listed same.symm]
    exact before
  · exact absurd rfl ((applied.retired write member row.id call).committed opened created)

theorem World.Sound.applied_commit (sound : world.Sound) (decides : txn.Decides)
    (opened : world.clients.lookup client = some txn) (done : txn.phase = .done)
    (written : txn.revision = some (world.revision + 1)) {row : Proposal}
    (listed : row ∈ (world.commit client txn).proposals) (call : txn.call = .apply row.id) :
    row.status = .applied ∧ row.appliedRevision = some (world.revision + 1) := by
  have step : Steps world client (world.commit client txn) := .commit opened done
  have decided : txn.call.decides = some row.id := by rw [call]; rfl
  rcases sound.decided decides opened done decided with ⟨_, left, leftListed, named, leaves⟩
  have same := List.inj_on_of_nodup_map (step.sound sound).ids leftListed listed named
  subst same
  rw [call, written] at leaves
  generalize asked : Call.apply left.id = call at leaves
  cases leaves with
  | applied status shown => exact ⟨status, shown⟩

theorem World.AppliedOnce.retired_commit (applied : world.AppliedOnce start) (sound : world.Sound)
    (decides : txn.Decides) (opened : world.clients.lookup client = some txn)
    (done : txn.phase = .done) : ∀ write ∈ (world.commit client txn).history, ∀ id,
      write.call = .apply id → (world.commit client txn).Retired id := by
  have step : Steps world client (world.commit client txn) := .commit opened done
  intro write member id call
  rcases sound.commit_history opened with ⟨_, history, _⟩ | ⟨_, history, _⟩
  · rw [history] at member
    exact step.retired sound (applied.retired write member id call)
  · rw [history] at member
    rcases List.mem_append.mp member with old | new
    · exact step.retired sound (applied.retired write old id call)
    · rw [List.mem_singleton.mp new] at call
      have decided : txn.call.decides = some id := congrArg Call.decides call
      exact (step.pending_or_retired sound (sound.decided decides opened done decided).1).resolve_left
        (sound.not_pending_of_decided decides opened done decided)

theorem World.AppliedOnce.once_commit (applied : world.AppliedOnce start) (sound : world.Sound)
    (decides : txn.Decides) (opened : world.clients.lookup client = some txn)
    (done : txn.phase = .done) (id : Nat) :
    (world.commit client txn).history.countP (·.call = .apply id) ≤ 1 := by
  rcases sound.commit_history opened with ⟨_, history, _⟩ | ⟨_, history, _⟩
  · rw [history]
    exact applied.once id
  · rw [history, List.countP_append]
    by_cases call : txn.call = .apply id
    · -- The proposal was pending until now, so it has not been applied before.
      have pending := (sound.decided decides opened done (congrArg Call.decides call)).1
      have none : world.history.countP (·.call = .apply id) = 0 := by
        rw [List.countP_eq_zero]
        intro write member applies
        exact (applied.retired write member id (of_decide_eq_true applies)).settled pending
      rw [none, Nat.zero_add]
      exact List.countP_le_length
    · have other : List.countP (fun write : Write => decide (write.call = .apply id))
          [⟨txn.call, world.revision, world.revision + 1⟩] = 0 := by
        simp [call]
      rw [other]
      exact applied.once id

theorem World.AppliedOnce.commit (applied : world.AppliedOnce start) (sound : world.Sound)
    (decides : txn.Decides) (opened : world.clients.lookup client = some txn)
    (done : txn.phase = .done) : (world.commit client txn).AppliedOnce start where
  shown := applied.shown_commit sound decides opened
  retired := applied.retired_commit sound decides opened done
  once := applied.once_commit sound decides opened done
  applied := by
    have step : Steps world client (world.commit client txn) := .commit opened done
    intro write member row listed call
    rcases sound.commit_history opened with ⟨_, history, _⟩ | ⟨written, history, _⟩
    · rw [history] at member
      exact applied.applied_step step sound member listed call
    · rw [history] at member
      rcases List.mem_append.mp member with old | new
      · exact applied.applied_step step sound old listed call
      · rw [List.mem_singleton.mp new] at call ⊢
        exact sound.applied_commit decides opened done written listed call

end Commit

theorem Steps.appliedOnce {start world result : World} {client : Nat}
    (step : Steps world client result) (sound : world.Sound) (deciding : world.Deciding)
    (applied : world.AppliedOnce start) : result.AppliedOnce start := by
  have retired := fun write member id call =>
    step.retired sound (applied.retired write member id call)
  cases step with
  | start | run | rollback => exact ⟨applied.shown, retired, applied.once, applied.applied⟩
  | commit opened done => exact applied.commit sound (deciding opened) opened done

theorem Run.appliedOnce {start final : World} {visits : List Visit} (run : Run start visits final)
    (idle : start.Idle) : final.AppliedOnce start := by
  induction run with
  | nil =>
      refine ⟨fun row listed _ => .inl listed, ?_, ?_, ?_⟩
      · rw [idle.history]
        exact nofun
      · rw [idle.history]
        exact fun _ => Nat.zero_le _
      · rw [idle.history]
        exact nofun
  | step earlier stepped induction =>
      exact (World.steps stepped).appliedOnce (earlier.sound idle) (earlier.deciding idle) induction

/-! ## The protocol -/

/-- A committed decision about a proposal finds it pending and leaves it as it
decided; from then on it stays so, or is dropped. -/
structure Visit.Decided (visit : Visit) (final : World) (txn : Transaction) (id : Nat) :
    Prop where
  pending : visit.world.Pending id
  left : ∃ row ∈ (visit.world.commit visit.client txn).proposals, row.id = id ∧
    txn.call.Leaves txn.revision row ∧ ∀ kept ∈ final.proposals, kept.id = id → kept = row
  settled : ¬final.Pending id

theorem Run.at_visit {start final : World} {visits : List Visit} (run : Run start visits final)
    {visit : Visit} (visited : visit ∈ visits) :
    ∃ before between after, Run start before visit.world ∧
      visit.world.next visit.client visit.action = some after ∧ Run after between final := by
  induction run with
  | nil => cases visited
  | step earlier stepped induction =>
      rcases List.mem_cons.mp visited with rfl | older
      · exact ⟨_, [], _, earlier, stepped, .nil⟩
      · rcases induction older with ⟨before, between, after, began, acted, continued⟩
        exact ⟨before, _, after, began, acted, continued.step stepped⟩

theorem Run.decided {start final : World} {visits : List Visit} (run : Run start visits final)
    (idle : start.Idle) {visit : Visit} (visited : visit ∈ visits)
    (committed : visit.action = .commit) {txn : Transaction}
    (opened : visit.world.clients.lookup visit.client = some txn) {id : Nat}
    (call : txn.call.decides = some id) : visit.Decided final txn id := by
  rcases run.at_visit visited with ⟨before, between, after, began, acted, continued⟩
  simp only [committed, World.next, opened, Option.bind_eq_bind, Option.bind_some] at acted
  split at acted
  case isFalse => cases acted
  case isTrue done =>
    cases acted
    have sound := began.sound idle
    have later := ((Steps.commit opened done).sound sound)
    rcases sound.decided (began.deciding idle opened) opened done call with
      ⟨pending, row, listed, named, leaves⟩
    have retired := later.retired listed (later.not_pending listed leaves.settled)
    have frozen := continued.frozen later listed leaves.settled
    rw [named] at retired frozen
    exact ⟨pending, ⟨row, listed, named, leaves, frozen⟩, (continued.retired later retired).settled⟩

/-- A save, a proposal that is made before it and applied after it, and one that
is rejected. -/
def savedAndApplied : List (Nat × World.Action) :=
  proposing 0 7 ++
    [ (1, .start (.save 1)), (1, .run .lockBuild), (1, .run .write), (1, .commit),
      (0, .start (.apply 7)), (0, .run .lockPending), (0, .run .lockBuild), (0, .run .write),
      (0, .run .settle), (0, .commit) ] ++
    proposing 1 8 ++
    [(0, .start (.reject 8)), (0, .run .lockPending), (0, .run .settle), (0, .commit)]

end HomelabBuilder.Proposals
