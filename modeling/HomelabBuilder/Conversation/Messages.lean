import HomelabBuilder.Foundation.Json
import HomelabBuilder.Foundation.Text

/-! # Messages

What `assistant_messages` keeps of a conversation with a model, and the conversation
that is rebuilt from it. A text is what JSON writes for it.
-/

namespace HomelabBuilder.Conversation

/-! ## Conversations -/

/-- A call of a tool. Its input is none when it is no JSON document. -/
structure ToolCall where
  id : String
  name : String
  input : Option Json

structure ToolResult where
  callID : String
  name : String
  content : String
  isError : Bool

/-- A reply in the form of its provider: its JSON text, and the calls in it. -/
structure Native where
  raw : String
  callIDs : List String

structure Reply where
  text : String
  toolCalls : List ToolCall
  native : Option Native := none
  nativeFor : String := ""

inductive Message
  | user (text : String)
  | assistant (reply : Reply)
  | tool (results : List ToolResult)

def Message.toolCalls : Message → List ToolCall
  | .assistant reply => reply.toolCalls
  | _ => []

/-! ## Rows -/

inductive PartType
  | text
  | context
  | toolCall
  | toolResult
  | proposal
  | notice
  deriving DecidableEq

structure MessagePart where
  type : PartType
  text : String := ""
  id : String := ""
  name : String := ""
  input : Option Json := none
  content : String := ""
  isError : Bool := false
  summary : String := ""
  durationMS : Int := 0
  proposalID : String := ""

inductive Role
  | user
  | assistant
  | tool
  deriving DecidableEq

/-- A row of `assistant_messages`. -/
structure Row where
  role : Role
  provider : String := ""
  model : String := ""
  parts : List MessagePart
  native : Option Native := none
  interrupted : Bool := false

/-! ## NUL characters -/

def holdsNUL (text : String) : Bool := text.toList.contains '\x00'

/-- `strings.ReplaceAll(text, "\x00", "")`. -/
def withoutNUL (text : String) : String := String.ofList (text.toList.filter (· ≠ '\x00'))

theorem withoutNUL_eq_self {text : String} (clean : holdsNUL text = false) :
    withoutNUL text = text := by
  unfold withoutNUL
  rw [List.filter_eq_self.mpr, String.ofList_toList]
  intro char member
  rw [decide_eq_true_eq]
  rintro rfl
  rw [holdsNUL, List.contains_iff_mem.mpr member] at clean
  cases clean

mutual
def jsonHoldsNUL : Json → Bool
  | .str text => holdsNUL text
  | .arr items => itemsHoldNUL items
  | .obj members => membersHoldNUL members
  | _ => false

def itemsHoldNUL : List Json → Bool
  | [] => false
  | item :: rest => jsonHoldsNUL item || itemsHoldNUL rest

def membersHoldNUL : List (String × Json) → Bool
  | [] => false
  | (key, value) :: rest => holdsNUL key || jsonHoldsNUL value || membersHoldNUL rest
end

/-- The order in which a map is visited. -/
abbrev Visits := List (String × Json) → List (String × Json)

mutual
/-- `withoutNUL` on a document. Of keys that become equal the last visited one stays. -/
def jsonWithoutNUL (visits : Visits) : Json → Json
  | .str text => .str (withoutNUL text)
  | .arr items => .arr (itemsWithoutNUL visits items)
  | .obj members =>
      .obj ((visits (membersWithoutNUL visits members)).foldl
        (fun cleaned member => Table.set cleaned member.1 member.2) [])
  | value => value

def itemsWithoutNUL (visits : Visits) : List Json → List Json
  | [] => []
  | item :: rest => jsonWithoutNUL visits item :: itemsWithoutNUL visits rest

def membersWithoutNUL (visits : Visits) : List (String × Json) → List (String × Json)
  | [] => []
  | (key, value) :: rest =>
      (withoutNUL key, jsonWithoutNUL visits value) :: membersWithoutNUL visits rest
end

namespace MessagePart

def holdsNUL (part : MessagePart) : Bool :=
  Conversation.holdsNUL part.text || Conversation.holdsNUL part.id ||
    Conversation.holdsNUL part.name || part.input.any jsonHoldsNUL ||
    Conversation.holdsNUL part.content || Conversation.holdsNUL part.summary ||
    Conversation.holdsNUL part.proposalID

def withoutNUL (visits : Visits) (part : MessagePart) : MessagePart :=
  { part with
    text := Conversation.withoutNUL part.text
    id := Conversation.withoutNUL part.id
    name := Conversation.withoutNUL part.name
    input := part.input.map (jsonWithoutNUL visits)
    content := Conversation.withoutNUL part.content
    summary := Conversation.withoutNUL part.summary
    proposalID := Conversation.withoutNUL part.proposalID }

end MessagePart

/-- `storableJSON` of the parts of a message. -/
def storableParts (visits : Visits) (parts : List MessagePart) : List MessagePart :=
  if parts.any (·.holdsNUL) then parts.map (·.withoutNUL visits) else parts

def nulEscape : String := "\\u0000"

/-- A native form that cannot be stored as it is is left out. -/
def storableNative (native : Option Native) : Option Native :=
  native.filter fun form => !contains form.raw nulEscape

/-- The row that `Append` stores. -/
def Row.stored (visits : Visits) (row : Row) : Row :=
  { row with
    parts := storableParts visits row.parts
    native := storableNative row.native }

/-! ## Conversations from rows -/

def userText (parts : List MessagePart) : Option String :=
  let texts := (parts.filter fun part =>
    (part.type = .context ∨ part.type = .text) ∧ part.text ≠ "").map (·.text)
  if texts.isEmpty then none else some ("\n\n".intercalate texts)

def partsText (parts : List MessagePart) : String :=
  String.join ((parts.filter (·.type = .text)).map (·.text))

def partsCalls (parts : List MessagePart) : List ToolCall :=
  (parts.filter (·.type = .toolCall)).map fun part =>
    { id := part.id, name := part.name, input := part.input }

def partsResults (parts : List MessagePart) : List ToolResult :=
  (parts.filter (·.type = .toolResult)).map fun part =>
    { callID := part.id, name := part.name, content := part.content, isError := part.isError }

/-- Whether the row behind a reply answers its calls. -/
def answersAll (row : Row) (calls : List ToolCall) : Bool :=
  row.role = .tool && calls.all fun call => (partsResults row.parts).any (·.callID = call.id)

/-- The reply in a row, with the row behind it. -/
def Row.reply (row : Row) (next : Option Row) : Reply :=
  let calls := partsCalls row.parts
  if (calls.isEmpty || next.any (answersAll · calls)) && !row.interrupted then
    { text := partsText row.parts
      toolCalls := calls
      native := row.native
      nativeFor := row.provider ++ "/" ++ row.model }
  else { text := partsText row.parts, toolCalls := [] }

/-- What a row adds to the conversation so far. -/
def Row.addTo (conversation : List Message) (row : Row) (next : Option Row) : List Message :=
  match row.role with
  | .user => conversation ++ ((userText row.parts).map Message.user).toList
  | .assistant =>
      let reply := row.reply next
      if reply.text ≠ "" ∨ !reply.toolCalls.isEmpty then conversation ++ [.assistant reply]
      else conversation
  | .tool =>
      if conversation.getLast?.any fun message => !message.toolCalls.isEmpty then
        conversation ++ [.tool (partsResults row.parts)]
      else conversation

def rebuild (conversation : List Message) : List Row → List Message
  | [] => conversation
  | row :: rest => rebuild (row.addTo conversation rest.head?) rest

def conversationFromMessages (rows : List Row) : List Message := rebuild [] rows

end HomelabBuilder.Conversation
