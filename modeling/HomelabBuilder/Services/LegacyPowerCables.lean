import HomelabBuilder.Foundation.FirstFit
import HomelabBuilder.Services.EdgeEndpoints

/-! # Conversion of old power cables

`legacy_power_cables.go`: a cable between a power source and another device
that is not a power cable becomes one, or is dropped. The loads written to the
rows afterwards and the revision are left out.
-/

namespace HomelabBuilder.Services

open Wiring

/-- Why an old cable was removed instead of converted. -/
inductive DropReason
  | noPowerInput
  | inputsInUse
  | alreadyJoined
  | loop
  | noSocket
  deriving DecidableEq

def DropReason.text : DropReason → String
  | .noPowerInput => "no_power_input"
  | .inputsInUse => "inputs_in_use"
  | .alreadyJoined => "already_connected"
  | .loop => "loop"
  | .noSocket => "no_socket"

structure NoticeCable where
  sourceID : String
  source : String
  targetID : String
  target : String
  reason : String := ""

structure PowerCablesNotice where
  converted : List NoticeCable := []
  dropped : List NoticeCable := []

structure LegacyPowerPlan where
  converted : List EdgeRow := []
  dropped : List UUID := []
  outlets : List (UUID × Int) := []
  notice : PowerCablesNotice := {}

def LegacyPowerPlan.isEmpty (plan : LegacyPowerPlan) : Bool :=
  plan.converted.isEmpty && plan.dropped.isEmpty

/-- The plan so far and what is plugged in so far. -/
structure Planning where
  plan : LegacyPowerPlan := {}
  usedOut : List (UUID × Int) := []
  usedIn : List (UUID × Int) := []
  feeds : List (UUID × UUID) := []

namespace Planning

def plug (planning : Planning) (feeder : UUID) (socket : Int) (fed : UUID) (input : Int) :
    Planning :=
  { planning with
    usedOut := planning.usedOut ++ [(feeder, socket)]
    usedIn := planning.usedIn ++ [(fed, input)]
    feeds := planning.feeds ++ [(feeder, fed)] }

def drop (planning : Planning) (edge : EdgeRow) (cable : NoticeCable) (reason : DropReason) :
    Planning :=
  { planning with plan := { planning.plan with
      dropped := planning.plan.dropped ++ [edge.id]
      notice := { planning.plan.notice with
        dropped := planning.plan.notice.dropped ++ [{ cable with reason := reason.text }] } } }

end Planning

/-- How power flows when both ends are power sources. -/
def feedOrder : List String := ["power_outlet", "ups", "pdu"]

/-- Whether the drawn target of an old cable is the one that feeds. -/
def feedsInstead (targetType sourceType : String) : Bool :=
  if !isPowerSource targetType then false
  else if !isPowerSource sourceType then true
  else feedOrder.idxOf targetType < feedOrder.idxOf sourceType

/-- The lowest index below the limit that is not used. -/
def firstFree (used : List (UUID × Int)) (id : UUID) (limit : Int) : Option Nat :=
  FirstFit.pick (fun index => (id, (index : Int)) ∉ used) (List.range limit.toNat)

def byID (nodes : List NodeRow) (id : UUID) : Option NodeRow :=
  nodes.reverse.find? fun node => node.id = id

/-- Details that cannot be read count as empty. -/
def NodeRow.knownDetails (node : NodeRow) : List (String × Json) :=
  (detailsMap node.details).getD []

def NodeRow.outlets (floats : Floats) (node : NodeRow) : Int :=
  powerOutputCount floats node.type node.knownDetails

def NodeRow.inputs (floats : Floats) (node : NodeRow) : Int :=
  powerInputCount floats node.type node.knownDetails

def EdgeRow.asPowerCable (edge : EdgeRow) (feeder : UUID) (socket : Nat) (fed : UUID)
    (input : Nat) : EdgeRow :=
  { edge with
    type := edgeTypePower
    sourceNodeID := feeder
    sourceHandle := powerOutPrefix ++ toString socket
    targetNodeID := fed
    targetHandle := powerInPrefix ++ toString input }

/-- The cable goes into a socket, which the source may have to grow. -/
def Planning.convert (floats : Floats) (planning : Planning) (edge : EdgeRow)
    (feeder fed : NodeRow) (cable : NoticeCable) (socket input : Nat) : Planning :=
  let sockets := (planning.plan.outlets.lookup feeder.id).getD (feeder.outlets floats)
  let plugged := planning.plug feeder.id socket fed.id input
  { plugged with plan := { planning.plan with
      outlets :=
        if sockets ≤ socket then Table.set planning.plan.outlets feeder.id (socket + 1)
        else planning.plan.outlets
      converted := planning.plan.converted ++ [edge.asPowerCable feeder.id socket fed.id input]
      notice := { planning.plan.notice with
        converted := planning.plan.notice.converted ++ [cable] } } }

/-- What becomes of one old cable between the device that feeds and the one
that is fed. -/
def planCable (floats : Floats) (planning : Planning) (edge : EdgeRow) (feeder fed : NodeRow) :
    Planning :=
  let cable : NoticeCable :=
    { sourceID := feeder.id.text, source := feeder.name, targetID := fed.id.text, target := fed.name }
  let inputs := fed.inputs floats
  let input := firstFree planning.usedIn fed.id inputs
  let socket := firstFree planning.usedOut feeder.id maxPowerOutputs
  if inputs = 0 then planning.drop edge cable .noPowerInput
  else if (feeder.id, fed.id) ∈ planning.feeds then planning.drop edge cable .alreadyJoined
  else
    match input with
    | none => planning.drop edge cable .inputsInUse
    | some input =>
        if Arcs.reaches planning.feeds fed.id feeder.id then planning.drop edge cable .loop
        else
          match socket with
          | none => planning.drop edge cable .noSocket
          | some socket => planning.convert floats edge feeder fed cable socket input

def planEdge (floats : Floats) (nodes : List NodeRow) (planning : Planning) (edge : EdgeRow) :
    Planning :=
  if edge.type = edgeTypePower then planning
  else
    match byID nodes edge.sourceNodeID, byID nodes edge.targetNodeID with
    | some source, some target =>
        if !isPowerSource source.type && !isPowerSource target.type then planning
        else if feedsInstead target.type source.type then
          planCable floats planning edge target source
        else planCable floats planning edge source target
    | _, _ => planning

/-- Power cables already drawn keep their sockets and inputs. -/
def plugExisting (planning : Planning) (edge : EdgeRow) : Planning :=
  if edge.type = edgeTypePower then
    planning.plug edge.sourceNodeID (powerHandleIndex edge.sourceHandle powerOutPrefix)
      edge.targetNodeID (powerHandleIndex edge.targetHandle powerInPrefix)
  else planning

def planLegacyPowerCables (floats : Floats) (nodes : List NodeRow) (edges : List EdgeRow) :
    LegacyPowerPlan :=
  (edges.foldl (planEdge floats nodes) (edges.foldl plugExisting {})).plan

/-! ## Writing the plan -/

/-- The `UPDATE` for one converted cable. -/
def writeConverted (edges : List EdgeRow) (converted : EdgeRow) : List EdgeRow :=
  edges.map fun edge =>
    if edge.id = converted.id then
      { edge with
        type := converted.type
        sourceNodeID := converted.sourceNodeID
        sourceHandle := converted.sourceHandle
        targetNodeID := converted.targetNodeID
        targetHandle := converted.targetHandle }
    else edge

/-- The edges once converted ones are rewritten and dropped ones are deleted. -/
def writeEdges (plan : LegacyPowerPlan) (edges : List EdgeRow) : List EdgeRow :=
  (plan.converted.foldl writeConverted edges).filter fun edge => edge.id ∉ plan.dropped

/-- The details of a source that grows; unreadable details fail the conversion. -/
def writeOutlets (plan : LegacyPowerPlan) (node : NodeRow) : Option NodeRow :=
  match plan.outlets.lookup node.id with
  | none => some node
  | some outlets => do
      let details ← detailsMap node.details
      some { node with details := .obj (Table.set details "outlets" (.num outlets)) }

/-- The rows after `convertLegacyPowerCablesTx`. -/
def convertLegacyPowerCables (floats : Floats) (nodes : List NodeRow) (edges : List EdgeRow) :
    Option (List NodeRow × List EdgeRow) := do
  let plan := planLegacyPowerCables floats nodes edges
  if plan.isEmpty then some (nodes, edges)
  else
    let nodes ← nodes.mapM (writeOutlets plan)
    some (nodes, writeEdges plan edges)

end HomelabBuilder.Services
