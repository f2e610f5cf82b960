import HomelabBuilder.Foundation.Table
import Mathlib.Data.List.Sort

/-! # Transactions on one build

The database work of `proposal_service.go` and `build_service.go` on one build
and its proposals, statement by statement. PostgreSQL runs it READ COMMITTED: a
statement sees what is committed when it runs and what its own transaction
wrote, and it runs once no other transaction holds a row it locks.
-/

namespace HomelabBuilder.Proposals

/-! ## Rows -/

inductive Status where
  | pending
  | applied
  | rejected
  | superseded
  | conflict
  deriving DecidableEq

/-- A row of `build_proposals`. -/
structure Proposal where
  id : Nat
  status : Status := .pending
  baseRevision : Nat := 0
  appliedRevision : Option Nat := none
  createdAt : Nat := 0
  deriving DecidableEq

def Proposal.isPending (proposal : Proposal) : Bool := proposal.status = .pending

/-- The row after `Refresh`: rebased, or marked as a conflict. -/
def Proposal.refreshed (proposal : Proposal) : Option Nat → Proposal
  | some revision => { proposal with baseRevision := revision }
  | none => { proposal with status := .conflict }

def Proposal.reject (proposal : Proposal) : Proposal := { proposal with status := .rejected }

def Proposal.markConflict (proposal : Proposal) : Proposal := { proposal with status := .conflict }

def Proposal.markApplied (appliedRevision : Nat) (proposal : Proposal) : Proposal :=
  { proposal with status := .applied, appliedRevision := some appliedRevision }

def keptResolvedProposals : Nat := 20

/-! ## Transactions -/

/-- What a client asks for, with the revision it knows. -/
inductive Call where
  /-- `UpdateAndCalculate`. -/
  | save (revision : Nat)
  /-- `UpdateByShareToken`. -/
  | sharedSave (revision : Nat)
  | rename (revision : Nat)
  /-- `convertLegacyPowerCablesTx`. -/
  | convert
  | propose (baseRevision : Nat)
  | reject (id : Nat)
  | apply (id : Nat)
  /-- The update that ends `Refresh`: the revision the preview now belongs to,
  none when the proposal no longer fits. -/
  | refresh (id : Nat) (baseRevision : Option Nat)
  deriving DecidableEq

inductive Phase where
  | begun
  /-- The older proposals are superseded. -/
  | superseded
  /-- The new proposal is inserted. -/
  | created
  /-- The proposals to drop are known. -/
  | plucked
  /-- The proposal is locked and was pending. -/
  | locked
  /-- The build is locked and read. -/
  | buildLocked
  /-- The operations were refused. -/
  | refused
  /-- The next revision is written. -/
  | written
  /-- Nothing is left but to commit. -/
  | done
  deriving DecidableEq

structure Transaction where
  call : Call
  phase : Phase := .begun
  /-- Proposals as this transaction has changed them. -/
  updated : List Proposal := []
  created : Option Proposal := none
  stale : List Nat := []
  deleted : List Nat := []
  /-- Proposals locked by this transaction. -/
  locked : List Nat := []
  /-- The revision of the build as read under its lock. -/
  build : Option Nat := none
  /-- The revision this transaction has written. -/
  revision : Option Nat := none
  /-- Bookkeeping: proposals others have committed since the older ones were
  superseded. -/
  missed : List Nat := []
  deriving DecidableEq

/-- Bookkeeping: a committed write of the build. -/
structure Write where
  call : Call
  replaced : Nat
  produced : Nat
  deriving DecidableEq

def Transaction.latest (txn : Transaction) (row : Proposal) : Proposal :=
  (txn.updated.find? (·.id = row.id)).getD row

/-- The committed rows with what the transaction did to them. -/
def Transaction.view (txn : Transaction) (proposals : List Proposal) : List Proposal :=
  (proposals.filter (·.id ∉ txn.deleted)).map txn.latest ++ txn.created.toList

structure World where
  revision : Nat
  proposals : List Proposal
  /-- The open transaction of each client that has one. -/
  clients : List (Nat × Transaction) := []
  /-- Ids given out so far; none is given out twice. -/
  issued : List Nat
  history : List Write := []
  deriving DecidableEq

namespace World

variable (world : World)

/-- No other transaction has locked the proposal. -/
def rowFree (client id : Nat) : Bool :=
  world.clients.all fun entry => entry.1 = client || id ∉ entry.2.locked

def buildFree (client : Nat) : Bool :=
  world.clients.all fun entry => entry.1 = client || entry.2.build.isNone

/-! ## Statements -/

/-- `pruneResolved` looks up the settled proposals beyond the newest. -/
def staleOf (view : List Proposal) : List Nat :=
  let settled := (view.filter (!·.isPending)).insertionSort
    fun left right => right.createdAt ≤ left.createdAt
  ((settled.drop keptResolvedProposals).take 500).map (·.id)

/-- `Propose` updates the proposals that are pending. -/
def supersede (client : Nat) (txn : Transaction) : Option Transaction :=
  let pending := world.proposals.filter (·.isPending)
  if pending.all (world.rowFree client ·.id) then
    some { txn with
      phase := .superseded
      updated := pending.map ({ · with status := .superseded }) ++ txn.updated
      locked := pending.map (·.id) ++ txn.locked
      missed := [] }
  else none

/-- `tx.Create(proposal)`, under a new id. -/
def create (txn : Transaction) (baseRevision id createdAt : Nat) : Option Transaction :=
  if id ∈ world.issued then none
  else some { txn with
    phase := .created
    created := some { id := id, baseRevision := baseRevision, createdAt := createdAt } }

def prune (client : Nat) (txn : Transaction) : Option Transaction :=
  if txn.stale.all (world.rowFree client ·) then
    some { txn with
      phase := .done
      deleted := txn.stale
      locked := txn.locked ++ txn.stale }
  else none

def proposal (id : Nat) : Option Proposal := world.proposals.find? (·.id = id)

/-- `lockPending`. A transaction that finds the proposal settled goes no further. -/
def lockPending (client : Nat) (txn : Transaction) (id : Nat) : Option Transaction :=
  if world.rowFree client id ∧ (world.proposal id).any (·.isPending) then
    some { txn with phase := .locked, locked := id :: txn.locked }
  else none

def lockBuild (client : Nat) (txn : Transaction) : Option Transaction :=
  if world.buildFree client then
    some { txn with phase := .buildLocked, build := some world.revision }
  else none

/-- `saveRevisionTx` and `Rename`: the next revision, given the one the client
knows and the one that is stored. -/
def nextRevision (known stored : Nat) : Option Nat :=
  if known ≠ stored then none else some (stored + 1)

/-- The build is written. A proposal is replayed on the revision that was read. -/
def write (txn : Transaction) (stored : Nat) : Option Transaction :=
  match txn.call with
  | .save revision | .sharedSave revision | .rename revision =>
      (nextRevision revision stored).map fun next =>
        { txn with phase := .done, revision := some next }
  | .convert => some { txn with phase := .done, revision := some (stored + 1) }
  | .apply _ =>
      (nextRevision stored stored).map fun next =>
        { txn with phase := .written, revision := some next }
  | _ => none

def settle (txn : Transaction) (id : Nat) (change : Proposal → Proposal) : Option Transaction :=
  (world.proposal id).map fun row =>
    { txn with phase := .done, updated := change row :: txn.updated }

/-- `Refresh` updates the proposal if it is still pending. -/
def refresh (client : Nat) (txn : Transaction) (id : Nat) (baseRevision : Option Nat) :
    Option Transaction :=
  match (world.proposal id).filter (·.isPending) with
  | none => some { txn with phase := .done }
  | some row =>
      if world.rowFree client id then
        some { txn with
          phase := .done
          locked := id :: txn.locked
          updated := row.refreshed baseRevision :: txn.updated }
      else none

/-! ## Steps -/

/-- The statements a transaction runs through. -/
inductive Statement where
  | supersede
  | create (id createdAt : Nat)
  | pluck
  | prune
  | lockPending
  | lockBuild
  | write
  /-- The save is refused, or there is nothing to write. -/
  | skip
  | settle
  | refresh
  deriving DecidableEq

/-- The next statement of a transaction, none when it has to wait or fails. -/
def execute (client : Nat) (txn : Transaction) : Statement → Option Transaction
  | .supersede =>
      match txn.call, txn.phase with
      | .propose _, .begun => world.supersede client txn
      | _, _ => none
  | .create id createdAt =>
      match txn.call, txn.phase with
      | .propose baseRevision, .superseded => world.create txn baseRevision id createdAt
      | _, _ => none
  | .pluck =>
      if txn.phase = .created then
        some { txn with phase := .plucked, stale := staleOf (txn.view world.proposals) }
      else none
  | .prune => if txn.phase = .plucked then world.prune client txn else none
  | .lockPending =>
      match txn.call, txn.phase with
      | .reject id, .begun | .apply id, .begun => world.lockPending client txn id
      | _, _ => none
  | .lockBuild =>
      match txn.call, txn.phase with
      | .save _, .begun | .sharedSave _, .begun | .rename _, .begun | .convert, .begun
      | .apply _, .locked => world.lockBuild client txn
      | _, _ => none
  | .write =>
      match txn.phase, txn.build with
      | .buildLocked, some stored => write txn stored
      | _, _ => none
  | .skip =>
      match txn.call, txn.phase with
      | .convert, .buildLocked => some { txn with phase := .done }
      | .apply _, .buildLocked => some { txn with phase := .refused }
      | _, _ => none
  | .settle =>
      match txn.call, txn.phase, txn.build with
      | .reject id, .locked, _ => world.settle txn id Proposal.reject
      | .apply id, .written, some stored => world.settle txn id (Proposal.markApplied (stored + 1))
      | .apply id, .refused, _ => world.settle txn id Proposal.markConflict
      | _, _, _ => none
  | .refresh =>
      match txn.call, txn.phase with
      | .refresh id baseRevision, .begun => world.refresh client txn id baseRevision
      | _, _ => none

/-- Others note the proposal a transaction commits. -/
def note (created : Option Proposal) (txn : Transaction) : Transaction :=
  { txn with missed := created.toList.map (·.id) ++ txn.missed }

/-- What a transaction wrote becomes visible to all, and its locks are gone. -/
def commit (client : Nat) (txn : Transaction) : World where
  revision := txn.revision.getD world.revision
  proposals := txn.view world.proposals
  clients := (Table.erase world.clients client).map fun entry =>
    (entry.1, note txn.created entry.2)
  issued := world.issued
  history := world.history ++
    (txn.revision.map fun produced => ⟨txn.call, txn.build.getD 0, produced⟩).toList

inductive Action where
  | start (call : Call)
  | run (statement : Statement)
  | commit
  | rollback
  deriving DecidableEq

def next (client : Nat) : Action → Option World
  | .start call =>
      if (world.clients.lookup client).isNone then
        some { world with clients := Table.set world.clients client { call := call } }
      else none
  | .run statement => do
      let txn ← world.clients.lookup client
      let after ← world.execute client txn statement
      some { world with
        clients := Table.set world.clients client after
        issued := after.created.toList.map (·.id) ++ world.issued }
  | .commit => do
      let txn ← world.clients.lookup client
      if txn.phase = .done then some (world.commit client txn) else none
  | .rollback =>
      some { world with clients := Table.erase world.clients client }

end World

/-! ## Runs -/

/-- Where a run came by, and what was done there. -/
structure Visit where
  world : World
  client : Nat
  action : World.Action

/-- Any interleaving of the clients' steps, newest first. -/
inductive Run (start : World) : List Visit → World → Prop where
  | nil : Run start [] start
  | step {visits : List Visit} {world after : World} {client : Nat} {action : World.Action} :
      Run start visits world → world.next client action = some after →
      Run start (⟨world, client, action⟩ :: visits) after

/-- The run of a schedule, none when a step of it has to wait or fails. -/
def World.replay (world : World) : List (Nat × World.Action) → Option (List Visit × World)
  | [] => some ([], world)
  | (client, action) :: rest => do
      let after ← world.next client action
      let (visits, final) ← after.replay rest
      some (visits ++ [⟨world, client, action⟩], final)

theorem Run.trans {start middle final : World} {first second : List Visit}
    (before : Run start first middle) (after : Run middle second final) :
    Run start (second ++ first) final := by
  induction after with
  | nil => exact before
  | step _ stepped induction => exact .step induction stepped

theorem World.run_of_replay : ∀ {schedule : List (Nat × World.Action)} {world final : World}
    {visits : List Visit}, world.replay schedule = some (visits, final) → Run world visits final
  | [], world, final, visits, done => by
      cases done
      exact .nil
  | (client, action) :: rest, world, final, visits, done => by
      simp only [replay, Option.bind_eq_bind, Option.bind_eq_some_iff] at done
      rcases done with ⟨after, stepped, ⟨later, last⟩, replayed, equal⟩
      cases equal
      exact (Run.step .nil stepped).trans (run_of_replay replayed)

/-- Nothing is going on, and every proposal has an id of its own. -/
structure World.Idle (world : World) : Prop where
  clients : world.clients = []
  ids : (world.proposals.map (·.id)).Nodup
  issued : ∀ row ∈ world.proposals, row.id ∈ world.issued
  history : world.history = []

theorem exists_run_of_replay (start : World) (schedule : List (Nat × World.Action))
    (check : List Visit × World → Bool)
    (checked : (start.replay schedule).any check = true) :
    ∃ visits final, Run start visits final ∧ check (visits, final) = true := by
  cases replayed : start.replay schedule with
  | none => simp [replayed] at checked
  | some result =>
      rw [replayed] at checked
      exact ⟨result.1, result.2, World.run_of_replay replayed, checked⟩

/-! ## Schedules -/

def emptyTable : World where
  revision := 1
  proposals := []
  issued := []

theorem emptyTable_idle : emptyTable.Idle := ⟨rfl, List.nodup_nil, nofun, rfl⟩

/-- The steps of a `Propose`. -/
def proposing (client id : Nat) : List (Nat × World.Action) :=
  [ (client, .start (.propose 1)), (client, .run .supersede), (client, .run (.create id id)),
    (client, .run .pluck), (client, .run .prune), (client, .commit) ]

end HomelabBuilder.Proposals
