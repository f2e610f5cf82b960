import HomelabBuilder.Canvas.Actions

/-! # Sessions that save one build

`reassignAllIPs` with its conflict path on one side, `UpdateAndCalculate` on the
other. A session has one request under way at a time; requests and answers can
be late or lost, and the server reads a build for an answer after it has written it.
-/

namespace HomelabBuilder.Sessions

open Canvas (BuildData SavedNode BuildNode BuildEdge Build BuilderState Edit FlowLibrary Guest
  Component getBuildData hasUnsavedChanges loadBuild mergeAnswer takeOver startOpening orElse)
open Services (EdgeDTO)

/-! ## What a build looks like -/

structure SignedNode where
  id : String
  type : String
  name : String
  x : Int
  y : Int
  parent : String
  vms : List String
  components : List String
  deriving DecidableEq

structure Signature where
  kind : String
  nodes : List SignedNode
  edges : List String
  deriving DecidableEq

def round (value : Rat) : Int := (value + 1 / 2).floor

def sortTexts (texts : List String) : List String := texts.insertionSort (· ≤ ·)

def signedVMs (vms : List Guest) : List String := sortTexts (vms.map fun vm => vm.id ++ ":" ++ vm.name)

def signedComponents (components : List Component) : List String :=
  sortTexts (components.map (·.id))

def signedPayload (node : SavedNode) : SignedNode where
  id := node.id
  type := node.type
  name := node.name
  x := round node.x
  y := round node.y
  parent := node.parentID.getD ""
  vms := signedVMs node.vms
  components := signedComponents node.internalComponents

def signedNode (node : BuildNode) : SignedNode where
  id := node.id
  type := node.type
  name := node.name
  x := round node.x
  y := round node.y
  parent := node.parentID.getD ""
  vms := signedVMs node.virtualMachines
  components := signedComponents node.internalComponents

def signedEdge (source sourceHandle target targetHandle type : String) : String :=
  String.intercalate "|" [source, sourceHandle, target, targetHandle, orElse type "ethernet"]

section Signing

variable (localeLE : String → String → Bool)

def graphSignature (kind : String) (nodes : List SignedNode) (edges : List String) :
    Signature where
  kind := orElse kind "homelab"
  nodes := nodes.insertionSort fun left right => localeLE left.id right.id = true
  edges := sortTexts edges

def payloadSignature (data : BuildData) : Signature :=
  graphSignature localeLE data.kind (data.nodes.map signedPayload)
    (data.edges.map fun edge =>
      signedEdge edge.source edge.sourceHandle edge.target edge.targetHandle edge.type)

def buildSignature (build : Build) : Signature :=
  graphSignature localeLE build.kind (build.nodes.map signedNode)
    (build.edges.map fun edge =>
      signedEdge edge.sourceNodeID edge.sourceHandle edge.targetNodeID edge.targetHandle edge.type)

end Signing

/-! ## Sessions -/

/-- A save whose answer never arrived. -/
structure UnconfirmedSave where
  buildID : String
  revision : Nat
  signature : Signature

/-- A save that was sent. `loaded` is for the record: what its session had loaded
by then. -/
structure Request where
  buildID : String
  revision : Nat
  data : BuildData
  retried : Bool
  loaded : List Nat

inductive Answer
  | saved (build : Build)
  | refused (latest : Option Build)
  | failed

inductive Stage
  | sent
  | committed
  | refused
  | answered (answer : Answer)

inductive Purpose
  | opening
  | syncing

/-- What the mutation queue of a session waits for. -/
inductive Phase
  | idle
  | saving (request : Request) (stage : Stage)
  /-- The refusal came without the build. -/
  | fetching (request : Request) (latest : Option Build)
  | loading (purpose : Purpose) (build : Option Build)

/-- A session. Which revisions it loaded and where it reported a conflict is for the
record. -/
structure Session where
  store : BuilderState := {}
  unconfirmedSave : Option UnconfirmedSave := none
  phase : Phase := .idle
  loaded : List Nat := []
  conflicts : List Nat := []

namespace Session

variable (localeLE : String → String → Bool) (parseJSON : String → Option Json) (session : Session)

def request (buildID : String) (retried : Bool) : Request where
  buildID := buildID
  revision := session.store.currentRevision
  data := getBuildData session.store
  retried := retried
  loaded := session.loaded

/-- Whether a session takes the latest build for its own save. -/
def ours (request : Request) (latest : Build) : Bool :=
  session.unconfirmedSave.any fun unconfirmed =>
    unconfirmed.buildID = request.buildID && latest.revision = unconfirmed.revision + 1 &&
      buildSignature localeLE latest = unconfirmed.signature

/-- Goes on from its own save with the edits made since. -/
def goOn (request : Request) (latest : Build) : Session :=
  let next := { session with
    store := { session.store with currentRevision := latest.revision }
    unconfirmedSave := none }
  { next with
    phase :=
      if next.store.holds request.buildID then .saving (next.request request.buildID true) .sent
      else .idle }

/-- The `BuildConflictError`: a change from elsewhere wins. -/
def giveWay (latest : Build) : Session where
  store := takeOver parseJSON session.store latest
  unconfirmedSave := none
  phase := .idle
  loaded := latest.revision :: session.loaded
  conflicts := latest.revision :: session.conflicts

/-- What a session makes of the latest build when its save was refused. -/
def settle (request : Request) (latest : Build) : Session :=
  if session.ours localeLE request latest ∧ ¬ request.retried then session.goOn request latest
  else session.giveWay parseJSON latest

/-- Whether the build of a request is still open. -/
def isOpen (request : Request) : Bool := session.store.currentBuildID = some request.buildID

def takeAnswer (request : Request) : Answer → Session
  | .saved build =>
      { session with
        store := mergeAnswer parseJSON request.buildID request.data build session.store
        unconfirmedSave := none
        phase := .idle }
  | .refused (some latest) =>
      if session.isOpen request then session.settle localeLE parseJSON request latest
      else { session with phase := .idle }
  | .refused none =>
      { session with phase := if session.isOpen request then .fetching request none else .idle }
  | .failed => { session with phase := .idle }

/-- No answer at all: the save may or may not have reached the server. -/
def lose (request : Request) : Session :=
  { session with
    unconfirmedSave :=
      if session.isOpen request then
        some
          { buildID := request.buildID
            revision := request.revision
            signature := payloadSignature localeLE request.data }
      else session.unconfirmedSave
    phase := .idle }

def clearCurrentBuild : Session :=
  { session with store := Canvas.clearCurrentBuild session.store, unconfirmedSave := none }

def openBuild (id : String) : Session :=
  { session with
    store := startOpening session.store id
    unconfirmedSave := if session.store.holds id then session.unconfirmedSave else none
    phase := .loading .opening none }

def takeBuild (id : String) (purpose : Purpose) (build : Build) : Session :=
  let fresh : Bool :=
    match purpose with
    | .opening => true
    | .syncing => session.store.currentRevision < build.revision && !hasUnsavedChanges session.store
  if session.store.currentBuildID = some id && fresh then
    { session with
      store := loadBuild parseJSON session.store build.id build.name build
      phase := .idle
      loaded := build.revision :: session.loaded }
  else { session with phase := .idle }

end Session

/-! ## The server and its sessions -/

/-- A write of the build: who made it, on which revision, and what its session had
loaded when it sent it. Whoever is no session of the builder has no number. -/
structure Commit where
  writer : Option Nat
  base : Nat
  loaded : List Nat
  deriving DecidableEq

structure World where
  build : Build
  sessions : Nat → Session
  -- Saves on their way that nobody waits for.
  orphans : List (Nat × Request) := []
  history : List Commit := []

inductive Event
  | edit (made : Edit)
  | clearCurrentBuild
  | openBuild
  | syncWithServer (serverRevision : Nat)
  | reassignAllIPs
  | commit (build : Build)
  | refuse
  | fail
  | answer (carried : Bool)
  | takeAnswer
  | lose
  | read
  | takeRead
  | failRead
  | commitLate (index : Nat) (build : Build)
  | elsewhere (build : Build)

namespace World

variable (localeLE : String → String → Bool) (library : FlowLibrary)
  (parseJSON : String → Option Json) (world : World)

def setSession (id : Nat) (session : Session) : World :=
  { world with sessions := fun other => if other = id then session else world.sessions other }

def setPhase (id : Nat) (phase : Phase) : World :=
  world.setSession id { world.sessions id with phase := phase }

/-- `saveRevisionTx`: a save of the current revision becomes the next one. -/
def saveRevision (writer : Option Nat) (base : Nat) (loaded : List Nat) (build : Build) :
    Option World :=
  if base = world.build.revision ∧ build.revision = world.build.revision + 1 ∧
      build.id = world.build.id then
    some { world with build := build, history := world.history ++ [⟨writer, base, loaded⟩] }
  else none

/-- One step of one session, or of the server with its request. -/
def next (id : Nat) : Event → Option World
  | .edit made =>
      let session := world.sessions id
      some (world.setSession id { session with store := session.store.edit library made })
  | .clearCurrentBuild => some (world.setSession id (world.sessions id).clearCurrentBuild)
  | .openBuild =>
      match (world.sessions id).phase with
      | .idle => some (world.setSession id ((world.sessions id).openBuild world.build.id))
      | _ => none
  | .syncWithServer serverRevision =>
      let session := world.sessions id
      match session.phase with
      | .idle =>
          if session.store.holds world.build.id ∧ session.store.currentRevision < serverRevision ∧
              ¬ hasUnsavedChanges session.store then
            some (world.setPhase id (.loading .syncing none))
          else none
      | _ => none
  | .reassignAllIPs =>
      let session := world.sessions id
      match session.phase with
      | .idle =>
          if session.store.holds world.build.id then
            some (world.setPhase id (.saving (session.request world.build.id false) .sent))
          else none
      | _ => none
  | .commit build =>
      match (world.sessions id).phase with
      | .saving request .sent =>
          (world.saveRevision (some id) request.revision request.loaded build).map fun after =>
            after.setPhase id (.saving request .committed)
      | _ => none
  | .refuse =>
      match (world.sessions id).phase with
      | .saving request .sent =>
          if request.revision = world.build.revision then none
          else some (world.setPhase id (.saving request .refused))
      | _ => none
  | .fail =>
      match (world.sessions id).phase with
      | .saving request .sent | .saving request .committed =>
          some (world.setPhase id (.saving request (.answered .failed)))
      | _ => none
  -- The build is read when the answer is made, not when the save was.
  | .answer carried =>
      match (world.sessions id).phase with
      | .saving request .committed =>
          some (world.setPhase id (.saving request (.answered (.saved world.build))))
      | .saving request .refused =>
          some (world.setPhase id (.saving request (.answered (.refused
            (if carried then some world.build else none)))))
      | _ => none
  | .takeAnswer =>
      match (world.sessions id).phase with
      | .saving request (.answered answer) =>
          some (world.setSession id
            ((world.sessions id).takeAnswer localeLE parseJSON request answer))
      | _ => none
  | .lose =>
      match (world.sessions id).phase with
      | .saving request stage =>
          let after := world.setSession id ((world.sessions id).lose localeLE request)
          match stage with
          | .sent => some { after with orphans := world.orphans ++ [(id, request)] }
          | _ => some after
      | _ => none
  | .read =>
      match (world.sessions id).phase with
      | .fetching request none => some (world.setPhase id (.fetching request (some world.build)))
      | .loading purpose none => some (world.setPhase id (.loading purpose (some world.build)))
      | _ => none
  | .takeRead =>
      let session := world.sessions id
      match session.phase with
      | .fetching request (some latest) =>
          some (world.setSession id
            (if session.isOpen request then session.settle localeLE parseJSON request latest
              else { session with phase := .idle }))
      | .loading purpose (some build) =>
          some (world.setSession id (session.takeBuild parseJSON world.build.id purpose build))
      | _ => none
  | .failRead =>
      match (world.sessions id).phase with
      | .fetching _ _ | .loading _ _ => some (world.setPhase id .idle)
      | _ => none
  | .commitLate index build => do
      let (writer, request) ← world.orphans[index]?
      world.saveRevision (some writer) request.revision request.loaded build
  | .elsewhere build => world.saveRevision none world.build.revision [] build

end World

end HomelabBuilder.Sessions
