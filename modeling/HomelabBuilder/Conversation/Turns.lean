import HomelabBuilder.Conversation.Messages

/-! # Turns

`Turn.Run` on one thread. A step of a turn goes from one `Append` to the next; a turn can
die between any two of them.
-/

namespace HomelabBuilder.Conversation

def maxAgentSteps : Nat := 12

def maxUserMessageChars : Nat := 8000

def maxThreadMessages : Nat := 160

/-- The provider and its model. The settings keep a trimmed model name. -/
structure Credentials where
  provider : String
  model : String
  trimmed : trimSpace model = model

/-- `Provider.ID`. -/
def Credentials.providerID (credentials : Credentials) : String :=
  credentials.provider ++ "/" ++ trimSpace credentials.model

inductive StopReason
  | ended
  | toolUse
  | maxTokens
  | refusal
  deriving DecidableEq

structure TurnResult where
  text : String
  toolCalls : List ToolCall := []
  stopReason : StopReason := .ended
  stopDetail : String := ""
  /-- The JSON text of the reply in the form of its provider. -/
  raw : Option String := none

/-- The native form of a reply holds its calls. -/
def TurnResult.native (result : TurnResult) : Option Native :=
  result.raw.map fun raw => { raw := raw, callIDs := result.toolCalls.map (·.id) }

structure ToolOutcome where
  content : String
  isError : Bool := false
  proposalID : Option String := none
  summary : String := ""
  durationMS : Int := 0

inductive Phase
  | prepared (history : List Row) (text : String)
  /-- The model is called. -/
  | calling (step : Nat) (conversation : List Message)
  /-- The tools run. -/
  | answering (step : Nat) (conversation : List Message) (calls : List ToolCall)
  /-- The steps are used up. -/
  | exhausted

structure Turn where
  credentials : Credentials
  phase : Phase

structure World where
  rows : List Row := []
  turn : Option Turn := none

inductive Event
  | prepare (credentials : Credentials) (text : String)
  | begin (contextNote : String) (visits : Visits)
  /-- The model has replied. -/
  | reply (result : TurnResult) (visits : Visits)
  /-- The call fails, or the user stops it, behind some written text. -/
  | fail (written : String) (visits : Visits)
  /-- The tools have run. The user may have stopped the turn meanwhile. -/
  | answer (outcomes : List ToolOutcome) (stopped : Bool) (visits : Visits)
  | notice (visits : Visits)
  /-- The process dies, or nothing can be stored. -/
  | die

/-! ## What a turn stores -/

def textParts (text : String) : List MessagePart :=
  if text ≠ "" then [{ type := .text, text := text }] else []

/-- Input that is no JSON is kept as an empty object. -/
def ToolCall.recorded (call : ToolCall) : ToolCall :=
  { call with input := some (call.input.getD (.obj [])) }

def ToolCall.part (call : ToolCall) : MessagePart :=
  { type := .toolCall, id := call.id, name := call.name, input := call.input }

def ToolCall.resultPart (call : ToolCall) (outcome : ToolOutcome) : MessagePart :=
  { type := .toolResult, id := call.id, name := call.name, content := outcome.content
    isError := outcome.isError, summary := outcome.summary, durationMS := outcome.durationMS }

def ToolOutcome.proposalPart (outcome : ToolOutcome) : List MessagePart :=
  (outcome.proposalID.map fun id =>
    ({ type := .proposal, proposalID := id } : MessagePart)).toList

def ToolCall.result (call : ToolCall) (outcome : ToolOutcome) : ToolResult :=
  { callID := call.id, name := call.name, content := outcome.content, isError := outcome.isError }

/-- What is said about a reply that was cut off or declined. -/
def TurnResult.notice (result : TurnResult) : String :=
  if result.stopReason = .refusal then
    "The model declined this request." ++
      (if result.stopDetail ≠ "" then " " ++ result.stopDetail else "")
  else "The reply was cut off before it finished. Ask again, perhaps for a smaller change."

def exhaustedNotice : String :=
  "I stopped after " ++ toString maxAgentSteps ++
    " steps without finishing. Tell me how to continue."

def userRow (contextNote text : String) : Row :=
  { role := .user
    parts := [{ type := .context, text := contextNote }, { type := .text, text := text }] }

def Credentials.row (credentials : Credentials) (parts : List MessagePart)
    (native : Option Native) (interrupted : Bool) : Row :=
  { role := .assistant, provider := credentials.provider, model := credentials.model
    parts := parts, native := native, interrupted := interrupted }

def Credentials.replyRow (credentials : Credentials) (result : TurnResult) : Row :=
  credentials.row
    (textParts result.text ++ result.toolCalls.map fun call => call.recorded.part)
    result.native false

def Credentials.message (credentials : Credentials) (result : TurnResult) : Message :=
  .assistant
    { text := result.text
      toolCalls := result.toolCalls.map (·.recorded)
      native := result.native
      nativeFor := credentials.providerID }

def toolRow (calls : List ToolCall) (outcomes : List ToolOutcome) : Row :=
  { role := .tool
    parts := (calls.zip outcomes).flatMap fun (call, outcome) =>
      call.resultPart outcome :: outcome.proposalPart }

def toolMessage (calls : List ToolCall) (outcomes : List ToolOutcome) : Message :=
  .tool ((calls.zip outcomes).map fun (call, outcome) => call.result outcome)

/-! ## Steps -/

namespace World

variable (world : World)

def append (visits : Visits) (row : Row) : World :=
  { world with rows := world.rows ++ [row.stored visits] }

def enter (turn : Turn) (phase : Phase) : World :=
  { world with turn := some { turn with phase := phase } }

def leave : World := { world with turn := none }

def begin (turn : Turn) (history : List Row) (text contextNote : String) (visits : Visits) :
    World :=
  let row := userRow contextNote text
  (world.append visits row).enter turn
    (.calling 0 (conversationFromMessages (history ++ [row.stored visits])))

def reply (turn : Turn) (step : Nat) (conversation : List Message) (result : TurnResult)
    (visits : Visits) : World :=
  if result.stopReason = .maxTokens ∨ result.stopReason = .refusal then
    (world.append visits (turn.credentials.row
      (textParts result.text ++ [{ type := .notice, text := result.notice }]) none true)).leave
  else
    let stored := world.append visits (turn.credentials.replyRow result)
    if result.toolCalls.isEmpty then stored.leave
    else stored.enter turn (.answering step (conversation ++ [turn.credentials.message result])
      result.toolCalls)

def fail (turn : Turn) (written : String) (visits : Visits) : World :=
  if trimSpace written ≠ "" then
    (world.append visits (turn.credentials.row [{ type := .text, text := written }] none
      true)).leave
  else world.leave

def answer (turn : Turn) (step : Nat) (conversation : List Message) (calls : List ToolCall)
    (outcomes : List ToolOutcome) (stopped : Bool) (visits : Visits) : World :=
  let stored := world.append visits (toolRow calls outcomes)
  if stopped then stored.leave
  else stored.enter turn
    (if step + 1 < maxAgentSteps then
      .calling (step + 1) (conversation ++ [toolMessage calls outcomes])
    else .exhausted)

def notice (turn : Turn) (visits : Visits) : World :=
  (world.append visits
    (turn.credentials.row [{ type := .notice, text := exhaustedNotice }] none true)).leave

def accepts (text : String) : Bool :=
  trimSpace text ≠ "" && (trimSpace text).length ≤ maxUserMessageChars &&
    world.rows.length < maxThreadMessages

def advance (turn : Turn) (event : Event) : Option World :=
  match turn.phase, event with
  | .prepared history text, .begin contextNote visits =>
      some (world.begin turn history text contextNote visits)
  | .calling step conversation, .reply result visits =>
      some (world.reply turn step conversation result visits)
  | .calling _ _, .fail written visits => some (world.fail turn written visits)
  | .answering step conversation calls, .answer outcomes stopped visits =>
      if outcomes.length = calls.length then
        some (world.answer turn step conversation calls outcomes stopped visits)
      else none
  | .exhausted, .notice visits => some (world.notice turn visits)
  | _, .die => some world.leave
  | _, _ => none

def next (event : Event) : Option World :=
  match world.turn with
  | some turn => world.advance turn event
  | none =>
      match event with
      | .prepare credentials text =>
          if world.accepts text then
            some { world with
              turn := some
                { credentials := credentials, phase := .prepared world.rows (trimSpace text) } }
          else none
      | _ => none

end World

end HomelabBuilder.Conversation
