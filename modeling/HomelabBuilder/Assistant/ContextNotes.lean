import HomelabBuilder.Foundation.Reports
import HomelabBuilder.Foundation.Rows
import HomelabBuilder.Foundation.Runs
import HomelabBuilder.Foundation.Text
import HomelabBuilder.Proposals.Statements

/-! # Context notes

One thread of the assistant, the proposals of its build and the clients that decide
on them. Times are microseconds, as the database keeps them; a transaction stamps its
rows before it commits.
-/

namespace HomelabBuilder.Assistant

open Proposals (Status keptResolvedProposals)

/-! ## Proposals -/

/-- A row of `build_proposals`. -/
structure Proposal where
  id : Nat
  /-- The thread has made it. -/
  ours : Bool
  summary : String
  status : Status := .pending
  statusReason : String := ""
  createdAt : Int
  resolvedAt : Option Int := none
  deriving DecidableEq

structure Settlement where
  status : Status
  statusReason : String
  resolvedAt : Int
  deriving DecidableEq

def Proposal.settle (proposal : Proposal) (settlement : Settlement) : Proposal :=
  { proposal with
    status := settlement.status
    statusReason := settlement.statusReason
    resolvedAt := some settlement.resolvedAt }

inductive Outcome
  | applied
  | rejected (reason : String)
  | conflict
  deriving DecidableEq

structure Told where
  id : Nat
  summary : String
  outcome : Outcome
  deriving DecidableEq

/-- Notes name what was applied, rejected or closed as a conflict. -/
def Proposal.told (proposal : Proposal) : Option Told :=
  match proposal.status with
  | .applied => some ⟨proposal.id, proposal.summary, .applied⟩
  | .rejected => some ⟨proposal.id, proposal.summary, .rejected proposal.statusReason⟩
  | .conflict => some ⟨proposal.id, proposal.summary, .conflict⟩
  | .pending | .superseded => none

inductive Decision
  | apply
  | reject (reason : String)
  deriving DecidableEq

def maxProposalSummaryLength : Nat := 500

/-- `Apply` and `Reject` at the end of their transactions. A refused `Apply` closes the
proposal as a conflict. -/
def Decision.settlement (decision : Decision) (refused : Option String) (now : Int) : Settlement :=
  match decision, refused with
  | .apply, none => ⟨.applied, "", now⟩
  | .apply, some reason => ⟨.conflict, reason, now⟩
  | .reject reason, _ =>
      ⟨.rejected, String.ofList ((trimSpace reason).toList.take maxProposalSummaryLength), now⟩

/-- What `Propose` does to the proposals that are pending. -/
def supersession (now : Int) : Settlement := ⟨.superseded, "Replaced by a newer proposal", now⟩

/-- The proposals that `pruneResolved` drops. -/
def pruneResolved (proposals : List Proposal) : List Nat :=
  let settled := (proposals.filter (·.status ≠ .pending)).insertionSort
    fun left right => right.createdAt ≤ left.createdAt
  ((settled.drop keptResolvedProposals).take 500).map (·.id)

/-! ## Notes -/

structure OpenBuild where
  name : String
  id : String
  revision : Nat
  nodes : Nat
  kind : String

structure SelectedNode where
  name : String
  type : String
  id : String

/-- A proposal in a note. `quote` stands for the verb `%q`. -/
def Told.sentence (quote : String → String) (told : Told) : String :=
  match told.outcome with
  | .applied => " The user applied your proposal " ++ quote told.summary ++ "."
  | .rejected reason =>
      " The user rejected your proposal " ++ quote told.summary ++
        (if reason ≠ "" then " with the reason: " ++ quote reason else "") ++ "."
  | .conflict =>
      " Your proposal " ++ quote told.summary ++ " no longer fits the build and was closed."

/-- What `contextNote` reads. -/
structure Note where
  build : OpenBuild
  told : List Told
  selected : List SelectedNode

def Note.opening (quote : String → String) (note : Note) : String :=
  "[Context: the open build is " ++ quote note.build.name ++ ", build_id " ++ note.build.id ++
    ", revision " ++ toString note.build.revision ++ ", " ++ toString note.build.nodes ++
    " nodes." ++
    if note.build.kind = "lan_party" ∨ note.build.kind = "game_server" then
      " It is a " ++ note.build.kind.map (fun letter => if letter = '_' then ' ' else letter) ++
        " plan."
    else ""

def Note.closing (quote : String → String) (note : Note) : String :=
  (if note.selected.isEmpty then "" else
    " The user has selected on the canvas: " ++ ", ".intercalate (note.selected.map fun node =>
      quote node.name ++ " (" ++ node.type ++ ", id " ++ node.id ++ ")") ++ ".") ++
    " Call get_build for the current state before proposing changes.]"

/-- `contextNote`. -/
def Note.text (quote : String → String) (note : Note) : String :=
  note.opening quote ++ String.join (note.told.map (·.sentence quote)) ++ note.closing quote

/-- A stored message; those of the user have a note. -/
structure Message where
  createdAt : Int
  note : Option Note := none

/-! ## Turns and transactions -/

inductive Phase
  /-- The history is read. -/
  | prepared
  /-- The note is composed. -/
  | noted (note : Note)
  /-- The message of the user is stored. -/
  | running

structure Turn where
  build : OpenBuild
  selected : List SelectedNode
  /-- When the last message of the history was created. -/
  since : Option Int
  phase : Phase := .prepared
  /-- Bookkeeping: decisions since the note was composed. -/
  missed : List Told := []

inductive Work
  /-- `lockPending` has found it pending. -/
  | deciding (id : Nat) (decision : Decision)
  | settling (id : Nat) (settlement : Settlement)
  /-- The update of `Refresh`, which has locked nothing before. -/
  | refreshing (id : Nat) (settlement : Settlement)
  /-- `Propose` supersedes what is pending. -/
  | proposing (superseded : List Nat) (now : Int) (ours : Bool) (summary : String)

def Work.locks : Work → List Nat
  | .deciding id _ | .settling id _ => [id]
  | .refreshing _ _ => []
  | .proposing superseded _ _ _ => superseded

def Work.settlement : Work → Option Settlement
  | .deciding _ _ => none
  | .settling _ settlement | .refreshing _ settlement => some settlement
  | .proposing _ now _ _ => some (supersession now)

structure World where
  now : Int
  proposals : List Proposal
  /-- Ids given out so far; none is given out twice. -/
  issued : List Nat
  clients : List (Nat × Work) := []
  /-- The messages of the thread, the last one first. -/
  messages : List Message := []
  turn : Option Turn := none
  -- For the record: decisions on proposals of the thread, and what its notes told.
  history : List (Reports.Entry Told) := []

inductive Event
  | prepare (build : OpenBuild) (selected : List SelectedNode)
  /-- `contextNote`, whose query may fail. -/
  | compose (failed : Bool)
  /-- The message of the user is stored, with its note. -/
  | send (now : Int)
  /-- A reply, tool results or a notice is stored. -/
  | append (now : Int)
  /-- The turn ends, in whatever way. -/
  | finish
  | lockPending (client id : Nat) (decision : Decision)
  | settle (client : Nat) (refused : Option String) (now : Int)
  | refresh (client id : Nat) (reason : String) (now : Int)
  | supersede (client : Nat) (ours : Bool) (summary : String) (now : Int)
  | create (client id : Nat) (now : Int)
  | commit (client : Nat)
  | abort (client : Nat)

def maxThreadMessages : Nat := 160

namespace World

variable (world : World)

/-- When the last message was created. -/
def last : Option Int := world.messages.head?.map (·.createdAt)

def proposal (id : Nat) : Option Proposal := world.proposals.find? (·.id = id)

/-- No other transaction has locked the proposal. -/
def rowFree (client id : Nat) : Bool :=
  world.clients.all fun entry => entry.1 = client || id ∉ entry.2.locks

/-- The proposals of the thread that were settled after a time. -/
def settledAfter (since : Int) : List Proposal :=
  (world.proposals.filter fun row =>
    row.ours ∧ row.status ≠ .pending ∧ row.resolvedAt.any (since < ·)).insertionSort
      fun left right => left.resolvedAt.getD 0 ≤ right.resolvedAt.getD 0

def resolvedForThread (since : Int) : List Proposal := (world.settledAfter since).take 10

def tick (now : Int) : World := { world with now := now }

def continueWith (client : Nat) (work : Work) : World :=
  { world with clients := Table.set world.clients client work }

/-! ## Turns -/

def compose (turn : Turn) (failed : Bool) : World :=
  let told := match turn.since with
    | none => []
    | some since => if failed then [] else (world.resolvedForThread since).filterMap (·.told)
  { world with
    turn := some { turn with phase := .noted ⟨turn.build, told, turn.selected⟩, missed := [] } }

def send (turn : Turn) (note : Note) : World :=
  { world with
    messages := { createdAt := world.now, note := some note } :: world.messages
    turn := some { turn with phase := .running }
    history := .report note.told :: world.history }

def append : World := { world with messages := { createdAt := world.now } :: world.messages }

/-! ## Transactions -/

/-- A proposal is settled and the transaction over. -/
def resolve (client : Nat) (row : Proposal) (settlement : Settlement) : World :=
  let decided := if row.ours then (row.settle settlement).told.toList else []
  { world with
    proposals := world.proposals.map fun other =>
      if other.id = row.id then other.settle settlement else other
    clients := Table.erase world.clients client
    turn := world.turn.map fun turn => { turn with missed := decided ++ turn.missed }
    history := decided.map .decided ++ world.history }

def commit (client : Nat) : Work → Option World
  | .settling id settlement => (world.proposal id).map (world.resolve client · settlement)
  | .refreshing id settlement =>
      match (world.proposal id).filter (·.status = .pending) with
      | none => some { world with clients := Table.erase world.clients client }
      | some row =>
          if world.rowFree client id then some (world.resolve client row settlement) else none
  | _ => none

/-- The rows behind the two updates of `Propose`. -/
def proposed (superseded : List Nat) (now : Int) (created : Proposal) :
    List Proposal :=
  (world.proposals.map fun row =>
    if row.id ∈ superseded then row.settle (supersession now) else row) ++ [created]

def create (client : Nat) (superseded : List Nat) (now : Int) (created : Proposal) : World :=
  let rows := world.proposed superseded now created
  { world with
    proposals := rows.filter (·.id ∉ pruneResolved rows)
    issued := created.id :: world.issued
    clients := Table.erase world.clients client }

def supersede (client : Nat) (ours : Bool) (summary : String) : Option World :=
  let pending := (world.proposals.filter (·.status = .pending)).map (·.id)
  if pending.all (world.rowFree client) then
    some (world.continueWith client (.proposing pending world.now ours summary))
  else none

def running : Bool := world.turn.any fun turn => match turn.phase with
  | .running => true
  | _ => false

/-! ## Steps -/

def nextTurn : Event → Option World
  | .prepare build selected =>
      if world.turn.isNone ∧ world.messages.length < maxThreadMessages then
        some { world with
          turn := some { build := build, selected := selected, since := world.last } }
      else none
  | .compose failed =>
      match world.turn with
      | some turn =>
          match turn.phase with
          | .prepared => some (world.compose turn failed)
          | _ => none
      | none => none
  | .send now =>
      match world.turn with
      | some turn =>
          match turn.phase with
          | .noted note => if world.now ≤ now then some ((world.tick now).send turn note) else none
          | _ => none
      | none => none
  | .append now => if world.running ∧ world.now ≤ now then some (world.tick now).append else none
  | .finish => some { world with turn := none }
  | _ => none

def nextWork : Event → Option World
  | .lockPending client id decision =>
      if (world.clients.lookup client).isNone ∧ world.rowFree client id ∧
          (world.proposal id).any (·.status = .pending) then
        some (world.continueWith client (.deciding id decision))
      else none
  | .settle client refused now =>
      match world.clients.lookup client with
      | some (.deciding id decision) =>
          if world.now ≤ now then
            some ((world.tick now).continueWith client
              (.settling id (decision.settlement refused now)))
          else none
      | _ => none
  | .refresh client id reason now =>
      if (world.clients.lookup client).isNone ∧ world.now ≤ now then
        some ((world.tick now).continueWith client (.refreshing id ⟨.conflict, reason, now⟩))
      else none
  | .supersede client ours summary now =>
      if (world.clients.lookup client).isNone ∧ world.now ≤ now ∧ (ours → world.running) then
        (world.tick now).supersede client ours summary
      else none
  | .create client id now =>
      match world.clients.lookup client with
      | some (.proposing superseded since ours summary) =>
          if world.now ≤ now ∧ id ∉ world.issued then
            some ((world.tick now).create client superseded since
              { id := id, ours := ours, summary := summary, createdAt := now })
          else none
      | _ => none
  | .commit client => (world.clients.lookup client).bind (world.commit client)
  | .abort client => some { world with clients := Table.erase world.clients client }
  | _ => none

def next (event : Event) : Option World :=
  (world.nextTurn event).orElse fun _ => world.nextWork event

end World

end HomelabBuilder.Assistant
