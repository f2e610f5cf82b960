import HomelabBuilder.Canvas.OpenedBuild
import HomelabBuilder.Services.TopologyDiff

/-! # Reviewing a proposal

`proposal-preview.ts`: the build as it would look, with what a proposal adds and changes
marked, and ghosts of what it removes. Sizes and what can be dragged or selected are left
out.
-/

namespace HomelabBuilder.Canvas

open Services (ProposalDiff ConnectionDiff StoredBuild NodeRow EdgeRow Runtime NodeDTO)

/-! ## The review -/

inductive DiffStatus
  | added
  | changed
  | removed
  deriving DecidableEq

def DiffStatus.text : DiffStatus → String
  | added => "added"
  | changed => "changed"
  | removed => "removed"

structure PreviewNode where
  card : FlowNode
  className : Option String
  proposalDiff : Option DiffStatus
  revealIndex : Option Nat := none

structure PreviewEdge where
  cable : FlowEdge
  proposalDiff : Option DiffStatus
  revealIndex : Option Nat := none

structure ValidationIssue where
  nodeID : Option String
  message : String

structure ValidationReport where
  errors : List ValidationIssue := []
  warnings : List ValidationIssue := []

structure NodeIssue where
  nodeID : String
  message : String
  type : String

structure Proposal where
  build : Option Build
  diff : ProposalDiff
  validation : Option ValidationReport := none

structure ProposalPreviewGraph where
  hardwareNodes : List HardwareNode
  nodes : List PreviewNode
  edges : List PreviewEdge
  validationIssues : List NodeIssue
  changedNodeIDs : List String

def validationToIssues : Option ValidationReport → List NodeIssue
  | none => []
  | some report =>
      let withType (type : String) (issue : ValidationIssue) : NodeIssue :=
        ⟨issue.nodeID.getD "", issue.message, type⟩
      report.errors.map (withType "error") ++ report.warnings.map (withType "warning")

/-- Cables are told apart by their pair of nodes, power cables by the input they feed too. -/
def connectionKey (source target type targetHandle : String) : String :=
  let pair := if source < target then source ++ "|" ++ target else target ++ "|" ++ source
  if type = "power" then pair ++ "|power|" ++ target ++ ":" ++ targetHandle else pair

def linkKey (link : ConnectionDiff) : String :=
  connectionKey link.source link.target link.type link.targetHandle

def edgeKey (edge : FlowEdge) : String :=
  connectionKey edge.ends.source edge.ends.target edge.data.connectionType edge.ends.targetHandle

/-! ## Marks -/

section

variable (diff : ProposalDiff)

/-- The hosts of guests and components the difference lists. -/
def touchedHosts : List String :=
  (diff.vms.added ++ diff.vms.changed ++ diff.vms.removed).map (·.hostID) ++
    (diff.components.added ++ diff.components.removed).map (·.hostID)

/-- The statuses in the order they are set; the last one of an id counts. -/
def nodeStatuses : List (String × DiffStatus) :=
  diff.nodes.changed.map (fun node => (node.id, .changed)) ++
    (touchedHosts diff).map (fun host => (host, .changed)) ++
    diff.nodes.added.map fun node => (node.id, .added)

def nodeStatus (id : String) : Option DiffStatus := (nodeStatuses diff).reverse.lookup id

def edgeStatuses : List (String × DiffStatus) :=
  diff.connections.added.map (fun link => (linkKey link, .added)) ++
    diff.connections.changed.map fun link => (linkKey link, .changed)

def edgeStatus (key : String) : Option DiffStatus := (edgeStatuses diff).reverse.lookup key

end

def mark (card : FlowNode) (status : Option DiffStatus) : PreviewNode where
  card := card
  className := status.map fun status => "proposal-diff proposal-diff-" ++ status.text
  proposalDiff := status

/-! ## Drawing -/

section

variable (diff : ProposalDiff) (proposed live : Canvas)

def proposedIDs : List String := proposed.nodes.map (·.id)

/-- The cards of the canvas that the proposal removes. -/
def ghostCards : List FlowNode :=
  live.nodes.filter fun card =>
    card.id ∈ diff.nodes.removed.map (·.id) && card.id ∉ proposedIDs proposed

def ghostIDs : List String := (ghostCards diff proposed live).map (·.id)

/-- A ghost whose rack is not there floats at its old spot. -/
def ghost (card : FlowNode) : PreviewNode :=
  match card.parentID.filter (· ≠ "") with
  | none => mark card (some .removed)
  | some parent =>
      if parent ∈ proposedIDs proposed ∨ parent ∈ ghostIDs diff proposed live then
        mark card (some .removed)
      else
        let rack := latest FlowNode.id live.nodes parent
        mark
          { card with
            x := (rack.elim 0 (·.x)) + card.x
            y := (rack.elim 0 (·.y)) + card.y
            parentID := none }
          (some .removed)

def racksFirst (nodes : List PreviewNode) : List PreviewNode :=
  (nodes.filter fun node => node.card.type = "rack") ++
    nodes.filter fun node => node.card.type ≠ "rack"

def drawnNodes : List PreviewNode :=
  racksFirst ((proposed.nodes.map fun card => mark card (nodeStatus diff card.id)) ++
    (ghostCards diff proposed live).map (ghost diff proposed live))

def joins (nodes : List PreviewNode) (edge : FlowEdge) : Bool :=
  edge.ends.source ∈ nodes.map (·.card.id) && edge.ends.target ∈ nodes.map (·.card.id)

def keptEdges (nodes : List PreviewNode) : List PreviewEdge :=
  (proposed.edges.filter (joins nodes)).map fun edge =>
    { cable := edge, proposalDiff := edgeStatus diff (edgeKey edge) }

/-- The cables the proposal removes, under ids of their own. -/
def ghostEdges (nodes : List PreviewNode) : List PreviewEdge :=
  (live.edges.filter fun edge =>
      edgeKey edge ∈ diff.connections.removed.map linkKey && joins nodes edge).map fun edge =>
    { cable := { edge with id := "removed-" ++ edge.id }, proposalDiff := some .removed }

def drawnEdges (nodes : List PreviewNode) : List PreviewEdge :=
  keptEdges diff proposed nodes ++ ghostEdges diff live nodes

end

/-! ## The order changes are revealed in -/

def revealRank : Option DiffStatus → Rat
  | some .removed => 0
  | some .changed => 1
  | _ => 2

section

variable (collate : String → String → Int) (nodes : List PreviewNode)

def placeX (node : PreviewNode) : Rat :=
  node.card.x + ((node.card.parentID.filter (· ≠ "")).bind fun parent =>
    nodes.find? fun entry => entry.card.id = parent).elim 0 (·.card.x)

def placeY (node : PreviewNode) : Rat :=
  node.card.y + ((node.card.parentID.filter (· ≠ "")).bind fun parent =>
    nodes.find? fun entry => entry.card.id = parent).elim 0 (·.card.y)

/-- What is removed goes first, then what changes, then what is new; within each from top
to bottom and from left to right. -/
def revealOrder (left right : PreviewNode) : Rat :=
  let order := revealRank left.proposalDiff - revealRank right.proposalDiff
  let down := placeY nodes left - placeY nodes right
  let across := placeX nodes left - placeX nodes right
  if order ≠ 0 then order
  else if down ≠ 0 then down
  else if across ≠ 0 then across
  else collate left.card.id right.card.id

def changedNodes : List PreviewNode :=
  (nodes.filter fun node => node.proposalDiff.isSome).insertionSort fun left right =>
    revealOrder collate nodes left right ≤ 0

def revealIndex (id : String) : Option Nat :=
  (((changedNodes collate nodes).map (·.card.id)).zipIdx.reverse).lookup id

/-- A cable appears with the later of its two ends. -/
def revealEdge (edge : PreviewEdge) : PreviewEdge :=
  if edge.proposalDiff.isSome then
    { edge with
      revealIndex := some
        (max ((revealIndex collate nodes edge.cable.ends.source).getD 0)
          ((revealIndex collate nodes edge.cable.ends.target).getD 0) + 1) }
  else edge

/-- A changed cable brings both of its ends into view. -/
def withEnds (ids : List String) (edge : PreviewEdge) : List String :=
  if edge.proposalDiff.isSome then
    [edge.cable.ends.source, edge.cable.ends.target].foldl
      (fun ids id => if id ∈ ids then ids else ids ++ [id]) ids
  else ids

end

/-- The review of a difference between the canvas and a proposed one. -/
def previewGraph (collate : String → String → Int) (diff : ProposalDiff) (proposed live : Canvas)
    (issues : List NodeIssue) : ProposalPreviewGraph :=
  let nodes := drawnNodes diff proposed live
  let edges := drawnEdges diff proposed live nodes
  { hardwareNodes := proposed.hardwareNodes ++
      live.hardwareNodes.filter fun node => node.id ∈ ghostIDs diff proposed live
    nodes := nodes.map fun node =>
      { node with revealIndex := revealIndex collate nodes node.card.id }
    edges := edges.map (revealEdge collate nodes)
    validationIssues := issues
    changedNodeIDs := edges.foldl withEnds ((changedNodes collate nodes).map (·.card.id)) }

/-- `buildProposalPreview`, with the order of `localeCompare`. -/
def buildProposalPreview (parseJSON : String → Option Json) (collate : String → String → Int)
    (proposal : Proposal) (live : Canvas) : ProposalPreviewGraph :=
  previewGraph collate proposal.diff (proposal.build.elim {} (mapBuildToFlow parseJSON)) live
    (validationToIssues proposal.validation)

end HomelabBuilder.Canvas
