import HomelabBuilder.Proposals.Statements

/-! # Locks

What each statement does to its transaction, and what the locks of the open
transactions keep from changing until they commit.
-/

namespace HomelabBuilder.Proposals

/-! ## Statements, one by one -/

/-- The build is the first thing these transactions lock. -/
def Call.startsWithBuild : Call → Bool
  | .save _ | .sharedSave _ | .rename _ | .convert => true
  | _ => false

def Call.known : Call → Option Nat
  | .save revision | .sharedSave revision | .rename revision => some revision
  | _ => none

inductive Executes (world : World) (client : Nat) (txn : Transaction) : Transaction → Prop where
  | supersede {baseRevision : Nat} : txn.call = .propose baseRevision → txn.phase = .begun →
      (∀ row ∈ world.proposals, row.isPending = true → world.rowFree client row.id = true) →
      Executes world client txn
        { txn with
          phase := .superseded
          updated := (world.proposals.filter (·.isPending)).map
            ({ · with status := .superseded }) ++ txn.updated
          locked := (world.proposals.filter (·.isPending)).map (·.id) ++ txn.locked
          missed := [] }
  | create {baseRevision id createdAt : Nat} : txn.call = .propose baseRevision →
      txn.phase = .superseded → id ∉ world.issued →
      Executes world client txn
        { txn with
          phase := .created
          created := some { id := id, baseRevision := baseRevision, createdAt := createdAt } }
  | pluck : txn.phase = .created →
      Executes world client txn
        { txn with phase := .plucked, stale := World.staleOf (txn.view world.proposals) }
  | prune : txn.phase = .plucked → (∀ id ∈ txn.stale, world.rowFree client id = true) →
      Executes world client txn
        { txn with phase := .done, deleted := txn.stale, locked := txn.locked ++ txn.stale }
  | lockPending {id : Nat} {row : Proposal} : txn.call = .reject id ∨ txn.call = .apply id →
      txn.phase = .begun → world.rowFree client id = true → world.proposal id = some row →
      row.isPending = true →
      Executes world client txn { txn with phase := .locked, locked := id :: txn.locked }
  | lockBuild : (txn.call.startsWithBuild = true ∧ txn.phase = .begun) ∨
        (∃ id, txn.call = .apply id ∧ txn.phase = .locked) →
      world.buildFree client = true →
      Executes world client txn { txn with phase := .buildLocked, build := some world.revision }
  | save {stored : Nat} : txn.call.startsWithBuild = true → txn.phase = .buildLocked →
      txn.build = some stored → (∀ known, txn.call.known = some known → known = stored) →
      Executes world client txn { txn with phase := .done, revision := some (stored + 1) }
  | replay {id stored : Nat} : txn.call = .apply id → txn.phase = .buildLocked →
      txn.build = some stored →
      Executes world client txn { txn with phase := .written, revision := some (stored + 1) }
  | keep : txn.call = .convert → txn.phase = .buildLocked →
      Executes world client txn { txn with phase := .done }
  | refuse {id : Nat} : txn.call = .apply id → txn.phase = .buildLocked →
      Executes world client txn { txn with phase := .refused }
  | reject {id : Nat} {row : Proposal} : txn.call = .reject id → txn.phase = .locked →
      world.proposal id = some row →
      Executes world client txn { txn with phase := .done, updated := row.reject :: txn.updated }
  | apply {id stored : Nat} {row : Proposal} : txn.call = .apply id → txn.phase = .written →
      txn.build = some stored → world.proposal id = some row →
      Executes world client txn
        { txn with phase := .done, updated := row.markApplied (stored + 1) :: txn.updated }
  | conflict {id : Nat} {row : Proposal} : txn.call = .apply id → txn.phase = .refused →
      world.proposal id = some row →
      Executes world client txn
        { txn with phase := .done, updated := row.markConflict :: txn.updated }
  | refreshSettled {id : Nat} {baseRevision : Option Nat} : txn.call = .refresh id baseRevision →
      txn.phase = .begun → Executes world client txn { txn with phase := .done }
  | refresh {id : Nat} {baseRevision : Option Nat} {row : Proposal} :
      txn.call = .refresh id baseRevision → txn.phase = .begun →
      world.rowFree client id = true → world.proposal id = some row → row.isPending = true →
      Executes world client txn
        { txn with
          phase := .done
          locked := id :: txn.locked
          updated := row.refreshed baseRevision :: txn.updated }

private theorem executes_of_lockPending {world : World} {client id : Nat} {txn after : Transaction}
    (call : txn.call = .reject id ∨ txn.call = .apply id) (phase : txn.phase = .begun)
    (ran : world.lockPending client txn id = some after) : Executes world client txn after := by
  unfold World.lockPending at ran
  split at ran
  · rename_i pending
    cases found : world.proposal id with
    | none => simp [found] at pending
    | some row =>
        rw [found] at pending
        cases ran
        exact .lockPending call phase pending.1 found pending.2
  · cases ran

private theorem executes_of_write {world : World} {client stored : Nat} {txn after : Transaction}
    (phase : txn.phase = .buildLocked) (build : txn.build = some stored)
    (ran : World.write txn stored = some after) : Executes world client txn after := by
  have sameRevision {known next : Nat} (checked : World.nextRevision known stored = some next) :
      known = stored ∧ next = stored + 1 := by
    unfold World.nextRevision at checked
    split at checked
    · cases checked
    · rename_i same
      cases checked
      exact ⟨Decidable.not_not.mp same, rfl⟩
  unfold World.write at ran
  split at ran
  case h_4 call =>
    cases ran
    exact .save (by rw [call]; rfl) phase build (by rw [call]; intro known impossible; cases impossible)
  case h_5 call =>
    rcases Option.map_eq_some_iff.mp ran with ⟨next, checked, rfl⟩
    rw [(sameRevision checked).2]
    exact .replay call phase build
  case h_6 => cases ran
  all_goals
    rename_i known call
    rcases Option.map_eq_some_iff.mp ran with ⟨next, checked, rfl⟩
    rw [(sameRevision checked).2]
    refine .save (by rw [call]; rfl) phase build ?_
    intro seen same
    rw [call] at same
    cases same
    exact (sameRevision checked).1

theorem World.executes {world : World} {client : Nat} {txn after : Transaction}
    {statement : World.Statement} (ran : world.execute client txn statement = some after) :
    Executes world client txn after := by
  cases statement with
  | supersede =>
      simp only [execute] at ran
      split at ran
      · rename_i call phase
        simp only [World.supersede, List.all_eq_true, List.mem_filter, and_imp] at ran
        split at ran
        · rename_i free
          cases ran
          exact .supersede call phase free
        · cases ran
      · cases ran
  | create id createdAt =>
      simp only [execute] at ran
      split at ran
      · rename_i call phase
        unfold World.create at ran
        split at ran
        · cases ran
        · rename_i fresh
          cases ran
          exact .create call phase fresh
      · cases ran
  | pluck =>
      simp only [execute] at ran
      split at ran
      · rename_i phase
        cases ran
        exact .pluck phase
      · cases ran
  | prune =>
      simp only [execute] at ran
      split at ran
      · rename_i phase
        unfold World.prune at ran
        split at ran
        · rename_i free
          cases ran
          exact .prune phase (List.all_eq_true.mp free)
        · cases ran
      · cases ran
  | lockPending =>
      simp only [execute] at ran
      split at ran
      · rename_i id call phase
        exact executes_of_lockPending (.inl call) phase ran
      · rename_i id call phase
        exact executes_of_lockPending (.inr call) phase ran
      · cases ran
  | lockBuild =>
      simp only [execute, World.lockBuild] at ran
      split at ran
      case h_6 => cases ran
      all_goals
        rename_i call phase
        split at ran
        · rename_i free
          cases ran
          first
            | exact .lockBuild (.inl ⟨by rw [call]; rfl, phase⟩) free
            | exact .lockBuild (.inr ⟨_, call, phase⟩) free
        · cases ran
  | write =>
      simp only [execute] at ran
      split at ran
      · rename_i phase build
        exact executes_of_write phase build ran
      · cases ran
  | skip =>
      simp only [execute] at ran
      split at ran
      · rename_i call phase
        cases ran
        exact .keep call phase
      · rename_i call phase
        cases ran
        exact .refuse call phase
      · cases ran
  | settle =>
      simp only [execute, World.settle] at ran
      split at ran
      · rename_i call phase
        rcases Option.map_eq_some_iff.mp ran with ⟨row, found, rfl⟩
        exact .reject call phase found
      · rename_i call phase build
        rcases Option.map_eq_some_iff.mp ran with ⟨row, found, rfl⟩
        exact .apply call phase build found
      · rename_i call phase
        rcases Option.map_eq_some_iff.mp ran with ⟨row, found, rfl⟩
        exact .conflict call phase found
      · cases ran
  | refresh =>
      simp only [execute] at ran
      split at ran
      · rename_i call phase
        unfold World.refresh at ran
        split at ran
        · cases ran
          exact .refreshSettled call phase
        · rename_i row search
          rw [Option.filter_eq_some_iff] at search
          split at ran
          · rename_i free
            cases ran
            exact .refresh call phase free search.1 search.2
          · cases ran
      · cases ran

/-! ## What a transaction relies on -/

def World.Pending (world : World) (id : Nat) : Prop :=
  ∃ row ∈ world.proposals, row.id = id ∧ row.isPending = true

theorem World.mem_of_proposal {world : World} {id : Nat} {row : Proposal}
    (found : world.proposal id = some row) : row ∈ world.proposals ∧ row.id = id :=
  ⟨List.mem_of_find?_eq_some found, by simpa using List.find?_some found⟩

/-- What holds of an open transaction until it ends. -/
structure Transaction.Holds (world : World) (txn : Transaction) : Prop where
  updated : ∀ row ∈ txn.updated, row.id ∈ txn.locked ∧ world.Pending row.id
  deleted : ∀ id ∈ txn.deleted, id ∈ txn.locked
  target : ∀ id, txn.call = .reject id ∨ txn.call = .apply id → txn.phase ≠ .begun →
    id ∈ txn.locked ∧ world.Pending id
  build : ∀ stored, txn.build = some stored → stored = world.revision
  revision : ∀ produced, txn.revision = some produced →
    txn.build = some world.revision ∧ produced = world.revision + 1 ∧
      ∀ known, txn.call.known = some known → known = world.revision
  created : ∀ row, txn.created = some row →
    row.isPending = true ∧ row.id ∈ world.issued ∧ row.id ∉ world.proposals.map (·.id)

/-- Two transactions share no lock and insert different proposals. -/
structure Transaction.Apart (first second : Transaction) : Prop where
  rows : ∀ id ∈ first.locked, id ∉ second.locked
  builds : first.build.isSome = true → second.build = none
  created : ∀ {row other}, first.created = some row → second.created = some other →
    row.id ≠ other.id

theorem Transaction.Apart.symm {first second : Transaction} (apart : first.Apart second) :
    second.Apart first where
  rows := fun id right left => apart.rows id left right
  builds := by
    intro right
    cases left : first.build with
    | none => rfl
    | some stored =>
        rw [apart.builds (by rw [left]; rfl)] at right
        cases right
  created := fun right left same => apart.created left right same.symm

/-- What the locks keep true of the committed rows and the open transactions. -/
structure World.Sound (world : World) : Prop where
  ids : (world.proposals.map (·.id)).Nodup
  issued : ∀ row ∈ world.proposals, row.id ∈ world.issued
  holds : ∀ {client txn}, world.clients.lookup client = some txn → txn.Holds world
  apart : ∀ {left right first second}, left ≠ right →
    world.clients.lookup left = some first → world.clients.lookup right = some second →
    first.Apart second

theorem World.Idle.sound {world : World} (idle : world.Idle) : world.Sound where
  ids := idle.ids
  issued := idle.issued
  holds := by
    intro client txn opened
    rw [idle.clients] at opened
    cases opened
  apart := by
    intro left right first second _ opened
    rw [idle.clients] at opened
    cases opened

theorem World.rowFree_iff {world : World} {client id : Nat} (free : world.rowFree client id = true)
    {other : Nat} {txn : Transaction} (different : other ≠ client)
    (opened : world.clients.lookup other = some txn) : id ∉ txn.locked := by
  have entry := List.all_eq_true.mp free _ (Table.mem_of_lookup opened)
  simpa [different] using entry

theorem World.buildFree_iff {world : World} {client : Nat} (free : world.buildFree client = true)
    {other : Nat} {txn : Transaction} (different : other ≠ client)
    (opened : world.clients.lookup other = some txn) : txn.build = none := by
  have entry := List.all_eq_true.mp free _ (Table.mem_of_lookup opened)
  simpa [different] using entry

/-! ## A statement keeps them -/

section Executes

variable {world : World} {client : Nat} {txn after : Transaction}

theorem Executes.locked (ran : Executes world client txn after) :
    ∀ id ∈ after.locked, id ∈ txn.locked ∨ world.rowFree client id = true := by
  intro id member
  cases ran with
  | supersede _ _ free =>
      rcases List.mem_append.mp member with fresh | old
      · rcases List.mem_map.mp fresh with ⟨row, listed, rfl⟩
        exact .inr (free row (List.mem_filter.mp listed).1 (List.mem_filter.mp listed).2)
      · exact .inl old
  | prune _ free => exact (List.mem_append.mp member).imp_right (free id)
  | lockPending _ _ free | refresh _ _ free =>
      rcases List.mem_cons.mp member with rfl | old
      · exact .inr free
      · exact .inl old
  | create | pluck | lockBuild | save | replay | keep | refuse | reject | apply | conflict
  | refreshSettled => exact .inl member

theorem Executes.build (ran : Executes world client txn after) :
    after.build = txn.build ∨ world.buildFree client = true := by
  cases ran with
  | lockBuild _ free => exact .inr free
  | _ => exact .inl rfl

theorem Executes.created (ran : Executes world client txn after) :
    after.created = txn.created ∨
      ∃ row, after.created = some row ∧ row.isPending = true ∧ row.id ∉ world.issued := by
  cases ran with
  | create _ _ fresh => exact .inr ⟨_, rfl, rfl, fresh⟩
  | _ => exact .inl rfl

theorem Transaction.Holds.advance (holds : txn.Holds world) {phase : Phase}
    (started : txn.phase ≠ .begun ∨ ∀ id, txn.call ≠ .reject id ∧ txn.call ≠ .apply id) :
    Transaction.Holds world { txn with phase := phase } where
  updated := holds.updated
  deleted := holds.deleted
  target := by
    intro id call _
    rcases started with begun | other
    · exact holds.target id call begun
    · rcases call with reject | apply
      · exact absurd reject (other id).1
      · exact absurd apply (other id).2
  build := holds.build
  revision := holds.revision
  created := holds.created

theorem Transaction.Holds.update (holds : txn.Holds world) {id : Nat} (row : Proposal)
    (changed : row.id = id) (locked : id ∈ txn.locked) (pending : world.Pending id) :
    Transaction.Holds world { txn with updated := row :: txn.updated } where
  updated := by
    intro other member
    rcases List.mem_cons.mp member with rfl | old
    · exact changed ▸ ⟨locked, pending⟩
    · exact holds.updated other old
  deleted := holds.deleted
  target := holds.target
  build := holds.build
  revision := holds.revision
  created := holds.created

theorem Transaction.Holds.lock (holds : txn.Holds world) (ids : List Nat) :
    Transaction.Holds world { txn with locked := ids ++ txn.locked } where
  updated := fun row member =>
    ⟨List.mem_append_right _ (holds.updated row member).1, (holds.updated row member).2⟩
  deleted := fun id member => List.mem_append_right _ (holds.deleted id member)
  target := fun id call begun =>
    ⟨List.mem_append_right _ (holds.target id call begun).1, (holds.target id call begun).2⟩
  build := holds.build
  revision := holds.revision
  created := holds.created

theorem Transaction.Holds.issue (holds : txn.Holds world) (ids : List Nat) :
    txn.Holds { world with issued := ids ++ world.issued } where
  updated := holds.updated
  deleted := holds.deleted
  target := holds.target
  build := holds.build
  revision := holds.revision
  created := fun row built =>
    ⟨(holds.created row built).1, List.mem_append_right _ (holds.created row built).2.1,
      (holds.created row built).2.2⟩

theorem World.pending_of_proposal {id : Nat} {row : Proposal}
    (found : world.proposal id = some row) (waiting : row.isPending = true) : world.Pending id :=
  ⟨row, (World.mem_of_proposal found).1, (World.mem_of_proposal found).2, waiting⟩

@[simp]
theorem Proposal.refreshed_id (row : Proposal) (baseRevision : Option Nat) :
    (row.refreshed baseRevision).id = row.id := by
  cases baseRevision <;> rfl

theorem Executes.holds (sound : world.Sound) (holds : txn.Holds world)
    (ran : Executes world client txn after) :
    after.Holds
      { world with issued := after.created.toList.map (·.id) ++ world.issued } := by
  cases ran with
  | supersede call phase free =>
      apply Transaction.Holds.issue
      refine ⟨?_, ?_, ?_, holds.build, holds.revision, holds.created⟩
      · intro row member
        rcases List.mem_append.mp member with fresh | old
        · rcases List.mem_map.mp fresh with ⟨old, listed, rfl⟩
          have waiting := List.mem_filter.mp listed
          exact ⟨List.mem_append_left _ (List.mem_map.mpr ⟨old, listed, rfl⟩), old, waiting.1, rfl,
            waiting.2⟩
        · exact ⟨List.mem_append_right _ (holds.updated row old).1, (holds.updated row old).2⟩
      · exact fun id member => List.mem_append_right _ (holds.deleted id member)
      · intro id target _
        rw [call] at target
        rcases target with impossible | impossible <;> cases impossible
  | @create baseRevision id createdAt call phase fresh =>
      refine ⟨holds.updated, holds.deleted, ?_, holds.build, holds.revision, ?_⟩
      · intro other target begun
        rw [call] at target
        rcases target with impossible | impossible <;> cases impossible
      · intro row built
        cases built
        refine ⟨rfl, List.mem_cons_self, ?_⟩
        intro member
        rcases List.mem_map.mp member with ⟨row, listed, same⟩
        have issued := sound.issued row listed
        rw [same] at issued
        exact fresh issued
  | pluck phase =>
      apply Transaction.Holds.issue
      refine ⟨holds.updated, holds.deleted, ?_, holds.build, holds.revision, holds.created⟩
      exact fun id call _ => holds.target id call (by rw [phase]; intro impossible; cases impossible)
  | prune phase free =>
      apply Transaction.Holds.issue
      refine ⟨?_, ?_, ?_, holds.build, holds.revision, holds.created⟩
      · exact fun row member =>
          ⟨List.mem_append_left _ (holds.updated row member).1, (holds.updated row member).2⟩
      · exact fun id member => List.mem_append_right _ member
      · intro id call _
        have target := holds.target id call (by rw [phase]; intro impossible; cases impossible)
        exact ⟨List.mem_append_left _ target.1, target.2⟩
  | @lockPending id row call phase free found waiting =>
      apply Transaction.Holds.issue
      refine ⟨(holds.lock [id]).updated, (holds.lock [id]).deleted, ?_, holds.build,
        holds.revision, holds.created⟩
      intro other target _
      have same : other = id := by
        rcases call with call | call <;> rw [call] at target <;>
          rcases target with equal | equal <;> cases equal <;> rfl
      subst same
      exact ⟨List.mem_cons_self, World.pending_of_proposal found waiting⟩
  | lockBuild order free =>
      apply Transaction.Holds.issue
      refine ⟨holds.updated, holds.deleted, ?_, ?_, ?_, holds.created⟩
      · intro id target _
        rcases order with ⟨first, _⟩ | ⟨other, call, phase⟩
        · rcases target with call | call <;> rw [call] at first <;> cases first
        · exact holds.target id target (by rw [phase]; intro impossible; cases impossible)
      · intro stored read
        cases read
        rfl
      · intro produced written
        have facts := holds.revision produced written
        exact ⟨rfl, facts.2⟩
  | @save stored first phase build known =>
      apply Transaction.Holds.issue
      have current := holds.build stored build
      subst current
      refine ⟨holds.updated, holds.deleted, ?_, holds.build, ?_, holds.created⟩
      · exact fun id call _ =>
          holds.target id call (by rw [phase]; intro impossible; cases impossible)
      · intro produced written
        cases written
        exact ⟨build, rfl, known⟩
  | @replay id stored call phase build =>
      apply Transaction.Holds.issue
      have current := holds.build stored build
      subst current
      refine ⟨holds.updated, holds.deleted, ?_, holds.build, ?_, holds.created⟩
      · exact fun id call _ =>
          holds.target id call (by rw [phase]; intro impossible; cases impossible)
      · intro produced written
        cases written
        refine ⟨build, rfl, ?_⟩
        intro known seen
        rw [call] at seen
        cases seen
  | keep call phase =>
      apply Transaction.Holds.issue
      exact holds.advance (.inl (by rw [phase]; intro impossible; cases impossible))
  | refuse call phase =>
      apply Transaction.Holds.issue
      exact holds.advance (.inl (by rw [phase]; intro impossible; cases impossible))
  | @reject id row call phase found =>
      apply Transaction.Holds.issue
      have started : txn.phase ≠ .begun := by
        rw [phase]
        intro impossible
        cases impossible
      have target := holds.target id (.inl call) started
      exact (holds.update row.reject (World.mem_of_proposal found).2 target.1
        target.2).advance (.inl started)
  | @apply id stored row call phase build found =>
      apply Transaction.Holds.issue
      have started : txn.phase ≠ .begun := by
        rw [phase]
        intro impossible
        cases impossible
      have target := holds.target id (.inr call) started
      exact (holds.update (row.markApplied (stored + 1)) (World.mem_of_proposal found).2
        target.1 target.2).advance (.inl started)
  | @conflict id row call phase found =>
      apply Transaction.Holds.issue
      have started : txn.phase ≠ .begun := by
        rw [phase]
        intro impossible
        cases impossible
      have target := holds.target id (.inr call) started
      exact (holds.update row.markConflict (World.mem_of_proposal found).2
        target.1 target.2).advance (.inl started)
  | refreshSettled call phase =>
      apply Transaction.Holds.issue
      exact holds.advance (.inr fun id => by simp [call])
  | @refresh id baseRevision row call phase free found waiting =>
      apply Transaction.Holds.issue
      have identified : (row.refreshed baseRevision).id = id := by
        rw [Proposal.refreshed_id]
        exact (World.mem_of_proposal found).2
      exact ((holds.lock [id]).update _ identified List.mem_cons_self
        (World.pending_of_proposal found waiting)).advance (.inr fun other => by simp [call])

end Executes

/-! ## A commit keeps them -/

@[simp]
theorem Transaction.latest_id (txn : Transaction) (row : Proposal) :
    (txn.latest row).id = row.id := by
  unfold Transaction.latest
  cases found : txn.updated.find? (·.id = row.id) with
  | none => rfl
  | some changed => simpa using List.find?_some found

theorem Transaction.mem_view {txn : Transaction} {proposals : List Proposal} {row : Proposal} :
    row ∈ txn.view proposals ↔
      (∃ old ∈ proposals, old.id ∉ txn.deleted ∧ txn.latest old = row) ∨
        txn.created = some row := by
  simp [Transaction.view, and_assoc]

section Commit

variable {world : World} {client : Nat} {txn : Transaction}

theorem Transaction.Holds.latest_of_unlocked (holds : txn.Holds world) {row : Proposal}
    (unlocked : row.id ∉ txn.locked) : txn.latest row = row := by
  unfold Transaction.latest
  cases found : txn.updated.find? (·.id = row.id) with
  | none => rfl
  | some changed =>
      have same : changed.id = row.id := by simpa using List.find?_some found
      have locked := (holds.updated changed (List.mem_of_find?_eq_some found)).1
      exact absurd (same ▸ locked) unlocked

theorem Transaction.Holds.mem_view_of_unlocked (holds : txn.Holds world) {row : Proposal}
    (unlocked : row.id ∉ txn.locked) (listed : row ∈ world.proposals) :
    row ∈ txn.view world.proposals :=
  Transaction.mem_view.mpr (.inl ⟨row, listed, fun deleted => unlocked (holds.deleted _ deleted),
    holds.latest_of_unlocked unlocked⟩)

theorem lookup_commit {other : Nat} {later : Transaction}
    (opened : (world.commit client txn).clients.lookup other = some later) :
    other ≠ client ∧ ∃ before, world.clients.lookup other = some before ∧
      later = World.note txn.created before := by
  rw [World.commit, Table.lookup_mapValues, Table.lookup_erase, Option.map_eq_some_iff] at opened
  rcases opened with ⟨before, found, rfl⟩
  split at found
  · cases found
  · rename_i different
    exact ⟨different, before, found, rfl⟩

theorem World.Sound.holds_commit (sound : world.Sound) (holds : txn.Holds world)
    (opened : world.clients.lookup client = some txn) {other : Nat} {before : Transaction}
    (different : other ≠ client) (wasOpen : world.clients.lookup other = some before) :
    (World.note txn.created before).Holds (world.commit client txn) := by
  have theirs := sound.holds wasOpen
  have pending {id : Nat} (locked : id ∈ before.locked) (waiting : world.Pending id) :
      (world.commit client txn).Pending id := by
    rcases waiting with ⟨row, listed, rfl, pending⟩
    have unlocked := (sound.apart different wasOpen opened).rows _ locked
    exact ⟨row, holds.mem_view_of_unlocked unlocked listed, rfl, pending⟩
  have revision (isBuild : before.build.isSome = true) :
      (world.commit client txn).revision = world.revision := by
    have none := (sound.apart different wasOpen opened).builds isBuild
    rw [World.commit]
    cases written : txn.revision with
    | none => rfl
    | some produced =>
        have read := (holds.revision produced written).1
        rw [none] at read
        cases read
  refine ⟨?_, theirs.deleted, ?_, ?_, ?_, ?_⟩
  · intro row member
    have facts := theirs.updated row member
    exact ⟨facts.1, pending facts.1 facts.2⟩
  · intro id call begun
    have facts := theirs.target id call begun
    exact ⟨facts.1, pending facts.1 facts.2⟩
  · intro stored read
    have read : before.build = some stored := read
    rw [revision (by rw [read]; rfl)]
    exact theirs.build stored read
  · intro produced written
    have facts := theirs.revision produced written
    rw [revision (by rw [facts.1]; rfl)]
    exact facts
  · intro row built
    have facts := theirs.created row built
    refine ⟨facts.1, facts.2.1, ?_⟩
    intro member
    rcases List.mem_map.mp member with ⟨shown, listed, same⟩
    rcases Transaction.mem_view.mp listed with ⟨old, oldListed, _, rfl⟩ | ours
    · rw [txn.latest_id] at same
      exact facts.2.2 (same ▸ List.mem_map_of_mem oldListed)
    · exact (sound.apart different wasOpen opened).created built ours same.symm

theorem World.Sound.commit (sound : world.Sound)
    (opened : world.clients.lookup client = some txn) : (world.commit client txn).Sound := by
  have holds := sound.holds opened
  have viewIDs : (txn.view world.proposals).map (·.id) =
      (world.proposals.filter (·.id ∉ txn.deleted)).map (·.id) ++
        txn.created.toList.map (·.id) := by
    rw [Transaction.view, List.map_append, List.map_map]
    congr 1
    exact List.map_congr_left fun row _ => txn.latest_id row
  have kept : ((world.proposals.filter (·.id ∉ txn.deleted)).map (·.id)).Sublist
      (world.proposals.map (·.id)) := List.Sublist.map _ List.filter_sublist
  refine ⟨?_, ?_, ?_, ?_⟩
  · show ((txn.view world.proposals).map (·.id)).Nodup
    rw [viewIDs]
    cases built : txn.created with
    | none => simpa using kept.nodup sound.ids
    | some row =>
        have fresh := (holds.created row built).2.2
        rw [Option.toList_some, List.map_singleton, List.nodup_append]
        refine ⟨kept.nodup sound.ids, List.nodup_singleton _, ?_⟩
        intro id member other single same
        rw [List.mem_singleton.mp single] at same
        exact fresh (same ▸ kept.subset member)
  · intro row member
    rcases Transaction.mem_view.mp member with ⟨old, listed, _, rfl⟩ | built
    · rw [txn.latest_id]
      exact sound.issued old listed
    · exact (holds.created row built).2.1
  · intro other later found
    rcases lookup_commit found with ⟨different, before, wasOpen, rfl⟩
    exact sound.holds_commit holds opened different wasOpen
  · intro left right first second different foundLeft foundRight
    rcases lookup_commit foundLeft with ⟨_, before, wasOpen, rfl⟩
    rcases lookup_commit foundRight with ⟨_, other, otherOpen, rfl⟩
    have apart := sound.apart different wasOpen otherOpen
    exact ⟨apart.rows, apart.builds, apart.created⟩

theorem World.Sound.pending_of_commit (sound : world.Sound)
    (opened : world.clients.lookup client = some txn) {id : Nat}
    (pending : (world.commit client txn).Pending id) :
    world.Pending id ∨ ∃ row, txn.created = some row ∧ row.id = id := by
  rcases pending with ⟨row, listed, identified, waiting⟩
  rcases Transaction.mem_view.mp listed with ⟨old, oldListed, _, latest⟩ | created
  · apply Or.inl
    unfold Transaction.latest at latest
    cases found : txn.updated.find? (·.id = old.id) with
    | none =>
        rw [found, Option.getD_none] at latest
        exact ⟨old, oldListed, latest ▸ identified, latest ▸ waiting⟩
    | some changed =>
        rw [found, Option.getD_some] at latest
        rw [← identified, ← latest]
        exact ((sound.holds opened).updated changed (List.mem_of_find?_eq_some found)).2
  · exact .inr ⟨row, created, identified⟩

end Commit

/-! ## Every step keeps them -/

section Step

variable {world : World} {client : Nat} {txn after : Transaction}

theorem World.Sound.withTxn (sound : world.Sound) (ids : List Nat)
    (holds : after.Holds { world with issued := ids ++ world.issued })
    (apart : ∀ {other before}, other ≠ client → world.clients.lookup other = some before →
      after.Apart before) :
    World.Sound { world with
      clients := Table.set world.clients client after
      issued := ids ++ world.issued } where
  ids := sound.ids
  issued := fun row listed => List.mem_append_right _ (sound.issued row listed)
  holds := by
    intro other before opened
    rw [Table.lookup_set] at opened
    split at opened
    · cases opened
      exact ⟨holds.updated, holds.deleted, holds.target, holds.build, holds.revision, holds.created⟩
    · have theirs := (sound.holds opened).issue ids
      exact ⟨theirs.updated, theirs.deleted, theirs.target, theirs.build, theirs.revision,
        theirs.created⟩
  apart := by
    intro left right first second different leftOpen rightOpen
    rw [Table.lookup_set] at leftOpen rightOpen
    split at leftOpen
    · rename_i leftIs
      cases leftOpen
      have rightIs : right ≠ client := fun same => different (leftIs.trans same.symm)
      rw [if_neg rightIs] at rightOpen
      exact apart rightIs rightOpen
    · rename_i leftIs
      split at rightOpen
      · cases rightOpen
        exact (apart leftIs leftOpen).symm
      · exact sound.apart different leftOpen rightOpen

theorem World.Sound.start (sound : world.Sound) (call : Call) :
    World.Sound { world with clients := Table.set world.clients client { call := call } } := by
  have fresh : Transaction.Holds { world with issued := [] ++ world.issued } { call := call } := by
    refine ⟨?_, ?_, ?_, ?_, ?_, ?_⟩
    · exact fun row member => absurd member List.not_mem_nil
    · exact fun id member => absurd member List.not_mem_nil
    · exact fun id _ begun => absurd rfl begun
    · exact fun stored read => by cases read
    · exact fun produced written => by cases written
    · exact fun row built => by cases built
  apply sound.withTxn [] fresh
  intro other before _ _
  refine ⟨?_, ?_, ?_⟩
  · exact fun id member => absurd member List.not_mem_nil
  · exact fun read => by cases read
  · exact fun built => by cases built

theorem World.Sound.run (sound : world.Sound) (opened : world.clients.lookup client = some txn)
    (ran : Executes world client txn after) :
    World.Sound { world with
      clients := Table.set world.clients client after
      issued := after.created.toList.map (·.id) ++ world.issued } := by
  apply sound.withTxn _ (ran.holds sound (sound.holds opened))
  intro other before different theirs
  have apart := sound.apart different.symm opened theirs
  refine ⟨?_, ?_, ?_⟩
  · intro id member
    rcases ran.locked id member with old | free
    · exact apart.rows id old
    · exact World.rowFree_iff free different theirs
  · intro read
    rcases ran.build with same | free
    · exact apart.builds (same ▸ read)
    · exact World.buildFree_iff free different theirs
  · intro row created built otherBuilt same
    rcases ran.created with kept | ⟨inserted, isInserted, _, fresh⟩
    · exact apart.created (kept ▸ built) otherBuilt same
    · rw [isInserted] at built
      cases built
      exact fresh (same ▸ ((sound.holds theirs).created created otherBuilt).2.1)

theorem World.Sound.rollback (sound : world.Sound) (client : Nat) :
    World.Sound { world with clients := Table.erase world.clients client } where
  ids := sound.ids
  issued := sound.issued
  holds := by
    intro other before opened
    rw [Table.lookup_erase] at opened
    split at opened
    · cases opened
    · have theirs := sound.holds opened
      exact ⟨theirs.updated, theirs.deleted, theirs.target, theirs.build, theirs.revision,
        theirs.created⟩
  apart := by
    intro left right first second different leftOpen rightOpen
    rw [Table.lookup_erase] at leftOpen rightOpen
    split at leftOpen
    · cases leftOpen
    · split at rightOpen
      · cases rightOpen
      · exact sound.apart different leftOpen rightOpen

/-- A step starts, moves on, commits or drops a transaction. -/
inductive Steps (world : World) (client : Nat) : World → Prop where
  | start (call : Call) : world.clients.lookup client = none →
      Steps world client { world with clients := Table.set world.clients client { call := call } }
  | run {txn after : Transaction} : world.clients.lookup client = some txn →
      Executes world client txn after →
      Steps world client { world with
        clients := Table.set world.clients client after
        issued := after.created.toList.map (·.id) ++ world.issued }
  | commit {txn : Transaction} : world.clients.lookup client = some txn → txn.phase = .done →
      Steps world client (world.commit client txn)
  | rollback : Steps world client { world with clients := Table.erase world.clients client }

theorem World.steps {action : World.Action} {result : World}
    (stepped : world.next client action = some result) : Steps world client result := by
  cases action with
  | start call =>
      simp only [next] at stepped
      split at stepped
      · rename_i none
        cases stepped
        exact .start call (Option.isNone_iff_eq_none.mp none)
      · cases stepped
  | run statement =>
      simp only [next, Option.bind_eq_bind, Option.bind_eq_some_iff] at stepped
      rcases stepped with ⟨txn, opened, after, ran, equal⟩
      cases equal
      exact .run opened (World.executes ran)
  | commit =>
      simp only [next, Option.bind_eq_bind, Option.bind_eq_some_iff] at stepped
      rcases stepped with ⟨txn, opened, finished⟩
      split at finished
      · rename_i done
        cases finished
        exact .commit opened done
      · cases finished
  | rollback =>
      cases stepped
      exact .rollback

theorem Steps.sound {result : World} (step : Steps world client result) (sound : world.Sound) :
    result.Sound := by
  cases step with
  | start call => exact sound.start call
  | run opened ran => exact sound.run opened ran
  | commit opened => exact sound.commit opened
  | rollback => exact sound.rollback client

theorem Run.sound {start final : World} {visits : List Visit} (run : Run start visits final)
    (idle : start.Idle) : final.Sound := by
  induction run with
  | nil => exact idle.sound
  | step _ stepped induction => exact (World.steps stepped).sound induction

end Step

end HomelabBuilder.Proposals
