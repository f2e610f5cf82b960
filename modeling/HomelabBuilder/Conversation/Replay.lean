import HomelabBuilder.Conversation.Turns
import HomelabBuilder.Foundation.Runs
import Mathlib.Data.List.Forall2

/-! # Replay

The stored rows give back the conversation that a turn holds, wherever earlier turns have
ended.
-/

namespace HomelabBuilder.Conversation

/-! ## Well-formed conversations -/

/-- A native form holds the calls of its reply, as they are stored. -/
def Reply.KeepsCalls (reply : Reply) : Prop :=
  ∀ native, reply.native = some native →
    native.callIDs.map withoutNUL = reply.toolCalls.map (·.id)

/-- Calls are answered by the message behind them, and nothing else is answered. -/
def WellFormed : List Message → Prop
  | [] => True
  | .user _ :: rest => WellFormed rest
  | .assistant reply :: .tool results :: rest =>
      reply.KeepsCalls ∧ reply.toolCalls ≠ [] ∧
        results.map (·.callID) = reply.toolCalls.map (·.id) ∧ WellFormed rest
  | .assistant reply :: rest => reply.KeepsCalls ∧ reply.toolCalls = [] ∧ WellFormed rest
  | .tool _ :: _ => False

theorem wellFormed_reply {reply : Reply} {rest : List Message} (keeps : reply.KeepsCalls)
    (silent : reply.toolCalls = []) (wellFormed : WellFormed rest) :
    WellFormed (.assistant reply :: rest) := by
  cases rest with
  | nil => exact ⟨keeps, silent, wellFormed⟩
  | cons head tail =>
      cases head with
      | user text => exact ⟨keeps, silent, wellFormed⟩
      | assistant other => exact ⟨keeps, silent, wellFormed⟩
      | tool results => exact wellFormed.elim

theorem WellFormed.append : ∀ {first second : List Message}, WellFormed first →
    WellFormed second → WellFormed (first ++ second)
  | [], _, _, after => after
  | .user _ :: rest, _, before, after => @WellFormed.append rest _ before after
  | .assistant _ :: .tool _ :: _, _, ⟨keeps, calls, answers, before⟩, after =>
      ⟨keeps, calls, answers, before.append after⟩
  | [.assistant _], _, ⟨keeps, silent, _⟩, after => wellFormed_reply keeps silent after
  | .assistant _ :: .user _ :: _, _, ⟨keeps, silent, before⟩, after =>
      wellFormed_reply keeps silent (WellFormed.append before after)
  | .assistant _ :: .assistant _ :: _, _, ⟨keeps, silent, before⟩, after =>
      wellFormed_reply keeps silent (WellFormed.append before after)

/-! ## Rebuilding row by row -/

theorem addTo_of_no_tool {conversation : List Message} {row : Row} {next : Option Row}
    (noTool : ∀ other ∈ next, other.role ≠ .tool) :
    row.addTo conversation next = row.addTo conversation none := by
  have same : row.reply next = row.reply none := by
    unfold Row.reply
    cases next with
    | none => rfl
    | some other =>
        have unanswered : ∀ calls, answersAll other calls = false := by
          intro calls
          rw [answersAll, decide_eq_false (noTool other rfl), Bool.false_and]
        simp only [Option.any_some, unanswered, Option.any_none]
  unfold Row.addTo
  rw [same]

theorem rebuild_append {rows more : List Row} (noTool : ∀ row ∈ more.head?, row.role ≠ .tool)
    (conversation : List Message) :
    rebuild conversation (rows ++ more) = rebuild (rebuild conversation rows) more := by
  induction rows generalizing conversation with
  | nil => rfl
  | cons row rest induction =>
      rw [List.cons_append, rebuild, rebuild, induction]
      cases rest with
      | nil =>
          rw [List.nil_append, addTo_of_no_tool noTool]
          rfl
      | cons other rest => rfl

theorem conversation_concat {rows : List Row} {row : Row} (noTool : row.role ≠ .tool) :
    conversationFromMessages (rows ++ [row]) =
      row.addTo (conversationFromMessages rows) none := by
  unfold conversationFromMessages
  rw [rebuild_append]
  · rfl
  · rintro other ⟨⟩
    exact noTool

/-! ## What storing keeps -/

/-- A message without a native form that cannot be stored. -/
def Message.kept : Message → Message
  | .assistant reply => .assistant { reply with native := storableNative reply.native }
  | message => message

def ToolCall.withoutNUL (visits : Visits) (call : ToolCall) : ToolCall :=
  { id := Conversation.withoutNUL call.id
    name := Conversation.withoutNUL call.name
    input := call.input.map (jsonWithoutNUL visits) }

def ToolResult.withoutNUL (result : ToolResult) : ToolResult :=
  { callID := Conversation.withoutNUL result.callID
    name := Conversation.withoutNUL result.name
    content := Conversation.withoutNUL result.content
    isError := result.isError }

def Message.withoutNUL (visits : Visits) : Message → Message
  | .user text => .user (Conversation.withoutNUL text)
  | .assistant reply =>
      .assistant { reply with
        text := Conversation.withoutNUL reply.text
        toolCalls := reply.toolCalls.map (·.withoutNUL visits) }
  | .tool results => .tool (results.map (·.withoutNUL))

/-- The same message up to removed NUL characters. -/
def SameUpToNUL (held rebuilt : Message) : Prop :=
  rebuilt = held ∨ ∃ visits, rebuilt = held.withoutNUL visits

/-- Up to removed NUL characters and a native form that cannot be stored. -/
def SameAsStored (held rebuilt : Message) : Prop :=
  SameUpToNUL held rebuilt ∨ SameUpToNUL held.kept rebuilt

theorem holdsNUL_of_storable {visits : Visits} {parts : List MessagePart} :
    (storableParts visits parts = parts ∧ ∀ part ∈ parts, part.holdsNUL = false) ∨
      storableParts visits parts = parts.map (·.withoutNUL visits) := by
  unfold storableParts
  split
  · exact .inr rfl
  · rename_i clean
    refine .inl ⟨rfl, fun part member => ?_⟩
    rw [Bool.not_eq_true, List.any_eq_false] at clean
    exact Bool.eq_false_iff.mpr (clean part member)

theorem withoutNUL_id {part : MessagePart} (clean : part.holdsNUL = false) :
    withoutNUL part.id = part.id := by
  simp only [MessagePart.holdsNUL, Bool.or_eq_false_iff] at clean
  exact withoutNUL_eq_self clean.1.1.1.1.1.2

theorem withoutNUL_append (first second : String) :
    withoutNUL (first ++ second) = withoutNUL first ++ withoutNUL second := by
  unfold withoutNUL
  rw [String.toList_append, List.filter_append, String.ofList_append]

theorem withoutNUL_join (texts : List String) :
    withoutNUL (String.join texts) = String.join (texts.map withoutNUL) := by
  induction texts with
  | nil => rfl
  | cons text texts induction =>
      rw [String.join_cons, withoutNUL_append, induction, List.map_cons, String.join_cons]

section Parts

variable (visits : Visits) (parts : List MessagePart)

theorem partsText_withoutNUL :
    partsText (parts.map (·.withoutNUL visits)) = withoutNUL (partsText parts) := by
  rw [partsText, partsText, withoutNUL_join, List.filter_map, List.map_map, List.map_map]
  rfl

theorem partsCalls_withoutNUL :
    partsCalls (parts.map (·.withoutNUL visits)) = (partsCalls parts).map (·.withoutNUL visits) := by
  rw [partsCalls, partsCalls, List.filter_map, List.map_map, List.map_map]
  rfl

theorem partsResults_withoutNUL :
    partsResults (parts.map (·.withoutNUL visits)) = (partsResults parts).map (·.withoutNUL) := by
  rw [partsResults, partsResults, List.filter_map, List.map_map, List.map_map]
  rfl

theorem partsCalls_ids : (partsCalls (storableParts visits parts)).map (·.id) =
    (partsCalls parts).map fun call => withoutNUL call.id := by
  rcases @holdsNUL_of_storable visits parts with ⟨same, clean⟩ | stripped
  · rw [same, partsCalls, List.map_map, List.map_map]
    apply List.map_congr_left
    exact fun part member => (withoutNUL_id (clean part (List.mem_filter.mp member).1)).symm
  · rw [stripped, partsCalls_withoutNUL, List.map_map]
    rfl

theorem partsResults_ids : (partsResults (storableParts visits parts)).map (·.callID) =
    (partsResults parts).map fun result => withoutNUL result.callID := by
  rcases @holdsNUL_of_storable visits parts with ⟨same, clean⟩ | stripped
  · rw [same, partsResults, List.map_map, List.map_map]
    apply List.map_congr_left
    exact fun part member => (withoutNUL_id (clean part (List.mem_filter.mp member).1)).symm
  · rw [stripped, partsResults_withoutNUL, List.map_map]
    rfl

end Parts

/-! ## Rows of a turn -/

section Rows

variable (credentials : Credentials) (result : TurnResult)

theorem filter_textParts (text : String) :
    (textParts text).filter (·.type = .toolCall) = [] ∧
      String.join (((textParts text).filter (·.type = .text)).map (·.text)) = text := by
  unfold textParts
  by_cases empty : text = ""
  · rw [if_neg (not_not.mpr empty), empty]
    exact ⟨rfl, rfl⟩
  · rw [if_pos empty]
    refine ⟨rfl, ?_⟩
    change String.join [text] = text
    rw [String.join_cons]
    exact String.append_empty

theorem partsCalls_reply : partsCalls (credentials.replyRow result).parts =
    result.toolCalls.map (·.recorded) := by
  change ((textParts result.text ++ result.toolCalls.map fun call => call.recorded.part).filter
    (·.type = .toolCall)).map _ = _
  rw [List.filter_append, (filter_textParts result.text).1, List.nil_append, List.filter_map,
    List.filter_eq_self.mpr, List.map_map]
  · rfl
  · exact fun _ _ => rfl

theorem partsText_reply : partsText (credentials.replyRow result).parts = result.text := by
  have silent : (result.toolCalls.map fun call => call.recorded.part).filter
      (·.type = .text) = [] := by
    rw [List.filter_eq_nil_iff]
    intro part member
    rcases List.mem_map.mp member with ⟨call, _, rfl⟩
    exact Bool.false_ne_true
  change String.join (((textParts result.text ++
    result.toolCalls.map fun call => call.recorded.part).filter (·.type = .text)).map (·.text)) = _
  rw [List.filter_append, silent, List.append_nil]
  exact (filter_textParts result.text).2

theorem partsResults_tool {calls : List ToolCall} {outcomes : List ToolOutcome} :
    partsResults (toolRow calls outcomes).parts =
      (calls.zip outcomes).map fun (call, outcome) => call.result outcome := by
  unfold toolRow partsResults
  induction calls.zip outcomes with
  | nil => rfl
  | cons pair rest induction =>
      rcases pair with ⟨call, outcome⟩
      have silent : outcome.proposalPart.filter (·.type = .toolResult) = [] := by
        unfold ToolOutcome.proposalPart
        cases outcome.proposalID <;> rfl
      dsimp only at induction ⊢
      rw [List.flatMap_cons, List.cons_append, List.filter_cons_of_pos rfl, List.filter_append,
        silent, List.nil_append, List.map_cons, induction]
      rfl

/-- The reply that is rebuilt from a row whose calls are answered. -/
def Credentials.rebuilt (credentials : Credentials) (result : TurnResult) (visits : Visits) :
    Reply :=
  let row := (credentials.replyRow result).stored visits
  { text := partsText row.parts
    toolCalls := partsCalls row.parts
    native := row.native
    nativeFor := credentials.provider ++ "/" ++ credentials.model }

variable (visits : Visits)

theorem same_reply :
    SameAsStored (credentials.message result) (.assistant (credentials.rebuilt result visits)) := by
  have providerID : credentials.providerID = credentials.provider ++ "/" ++ credentials.model := by
    rw [Credentials.providerID, credentials.trimmed]
  right
  unfold Credentials.rebuilt Credentials.message
  simp only [Message.kept, Row.stored, providerID]
  rcases @holdsNUL_of_storable visits (credentials.replyRow result).parts with ⟨same, _⟩ | stripped
  · left
    rw [same, partsText_reply, partsCalls_reply]
    rfl
  · right
    refine ⟨visits, ?_⟩
    rw [stripped, partsText_withoutNUL, partsCalls_withoutNUL, partsText_reply, partsCalls_reply]
    rfl

theorem keepsCalls_rebuilt : (credentials.rebuilt result visits).KeepsCalls := by
  intro native kept
  change storableNative result.native = some native at kept
  have holds : result.native = some native := (Option.filter_eq_some_iff.mp kept).1
  rcases Option.map_eq_some_iff.mp holds with ⟨raw, _, rfl⟩
  change List.map withoutNUL (result.toolCalls.map (·.id)) = (partsCalls _).map _
  unfold Row.stored
  rw [partsCalls_ids, partsCalls_reply, List.map_map, List.map_map]
  rfl

theorem same_tool {calls : List ToolCall} {outcomes : List ToolOutcome} :
    SameAsStored (toolMessage calls outcomes)
      (.tool (partsResults ((toolRow calls outcomes).stored visits).parts)) := by
  left
  unfold Row.stored
  rcases @holdsNUL_of_storable visits (toolRow calls outcomes).parts with ⟨same, _⟩ | stripped
  · left
    dsimp only
    rw [same, partsResults_tool]
    rfl
  · right
    refine ⟨visits, ?_⟩
    dsimp only
    rw [stripped, partsResults_withoutNUL, partsResults_tool]
    rfl

theorem ids_rebuilt : (credentials.rebuilt result visits).toolCalls.map (·.id) =
    result.toolCalls.map fun call => withoutNUL call.id := by
  change (partsCalls (storableParts visits (credentials.replyRow result).parts)).map _ = _
  rw [partsCalls_ids, partsCalls_reply, List.map_map]
  rfl

theorem ids_answered {calls : List ToolCall} {outcomes : List ToolOutcome}
    (all : outcomes.length = calls.length) :
    (partsResults ((toolRow calls outcomes).stored visits).parts).map (·.callID) =
      calls.map fun call => withoutNUL call.id := by
  change (partsResults (storableParts visits (toolRow calls outcomes).parts)).map _ = _
  rw [partsResults_ids, partsResults_tool, List.map_map]
  calc (calls.zip outcomes).map _
      = ((calls.zip outcomes).map Prod.fst).map fun call => withoutNUL call.id := by
        rw [List.map_map]
        rfl
    _ = calls.map fun call => withoutNUL call.id := by
        rw [List.map_fst_zip (by omega)]

theorem answersAll_of_ids {row : Row} {calls : List ToolCall} (role : row.role = .tool)
    (same : (partsResults row.parts).map (·.callID) = calls.map (·.id)) :
    answersAll row calls = true := by
  rw [answersAll, decide_eq_true role, Bool.true_and, List.all_eq_true]
  intro call member
  have named : call.id ∈ (partsResults row.parts).map (·.callID) := by
    rw [same]
    exact List.mem_map_of_mem member
  rcases List.mem_map.mp named with ⟨result, listed, equal⟩
  exact List.any_eq_true.mpr ⟨result, listed, decide_eq_true equal⟩

theorem addTo_unanswered {row : Row} (role : row.role = .assistant)
    (unanswered : row.interrupted = true ∨ partsCalls row.parts ≠ [])
    (conversation : List Message) :
    ∃ more, row.addTo conversation none = conversation ++ more ∧ WellFormed more := by
  have bare : row.reply none = { text := partsText row.parts, toolCalls := [] } := by
    unfold Row.reply
    rw [if_neg]
    rcases unanswered with interrupted | calls
    · rw [interrupted, Bool.not_true, Bool.and_false]
      exact Bool.false_ne_true
    · rw [List.isEmpty_eq_false_iff.mpr calls]
      exact Bool.false_ne_true
  unfold Row.addTo
  rw [role, bare]
  dsimp only
  split
  · exact ⟨_, rfl, wellFormed_reply nofun rfl trivial⟩
  · exact ⟨[], (List.append_nil _).symm, trivial⟩

theorem addTo_silent (silent : result.toolCalls = []) (conversation : List Message) :
    ∃ more, ((credentials.replyRow result).stored visits).addTo conversation none =
      conversation ++ more ∧ WellFormed more := by
  have ids := ids_rebuilt credentials result visits
  rw [silent] at ids
  have none : (credentials.rebuilt result visits).toolCalls = [] := List.map_eq_nil_iff.mp ids
  have whole : ((credentials.replyRow result).stored visits).reply Option.none =
      credentials.rebuilt result visits := by
    unfold Row.reply
    rw [if_pos]
    · rfl
    · have empty : (partsCalls ((credentials.replyRow result).stored visits).parts).isEmpty = true :=
        List.isEmpty_iff.mpr none
      rw [empty]
      rfl
  have role : ((credentials.replyRow result).stored visits).role = .assistant := rfl
  unfold Row.addTo
  rw [role, whole]
  dsimp only
  split
  · exact ⟨_, rfl, wellFormed_reply (keepsCalls_rebuilt credentials result visits) none trivial⟩
  · exact ⟨[], (List.append_nil _).symm, trivial⟩

theorem rebuild_answered {outcomes : List ToolOutcome} (later : Visits)
    (calls : result.toolCalls ≠ []) (all : outcomes.length = result.toolCalls.length)
    (conversation : List Message) :
    rebuild conversation [(credentials.replyRow result).stored visits,
        (toolRow result.toolCalls outcomes).stored later] =
      conversation ++ [.assistant (credentials.rebuilt result visits),
        .tool (partsResults ((toolRow result.toolCalls outcomes).stored later).parts)] ∧
    WellFormed [.assistant (credentials.rebuilt result visits),
      .tool (partsResults ((toolRow result.toolCalls outcomes).stored later).parts)] := by
  have same := (ids_answered later all).trans (ids_rebuilt credentials result visits).symm
  have some : (credentials.rebuilt result visits).toolCalls ≠ [] := by
    intro none
    have ids := ids_rebuilt credentials result visits
    rw [none] at ids
    exact calls (List.map_eq_nil_iff.mp ids.symm)
  have nonempty : (credentials.rebuilt result visits).toolCalls.isEmpty = false :=
    List.isEmpty_eq_false_iff.mpr some
  have whole : ((credentials.replyRow result).stored visits).reply
      ((toolRow result.toolCalls outcomes).stored later) = credentials.rebuilt result visits := by
    unfold Row.reply
    rw [if_pos]
    · rfl
    · have answered : answersAll ((toolRow result.toolCalls outcomes).stored later)
          (partsCalls ((credentials.replyRow result).stored visits).parts) = true :=
        answersAll_of_ids rfl same
      rw [Option.any_some, answered, Bool.or_true]
      rfl
  have asked : ((credentials.replyRow result).stored visits).addTo conversation
      ((toolRow result.toolCalls outcomes).stored later) =
      conversation ++ [.assistant (credentials.rebuilt result visits)] := by
    unfold Row.addTo
    rw [show ((credentials.replyRow result).stored visits).role = .assistant from rfl, whole]
    dsimp only
    rw [if_pos (.inr (by rw [nonempty]; rfl))]
  refine ⟨?_, keepsCalls_rebuilt credentials result visits, some, same, trivial⟩
  rw [rebuild, List.head?_cons, asked, rebuild, rebuild]
  unfold Row.addTo
  rw [show ((toolRow result.toolCalls outcomes).stored later).role = .tool from rfl]
  dsimp only
  rw [List.getLast?_append_of_ne_nil _ (by simp), List.getLast?_singleton, Option.any_some, if_pos]
  · rw [List.append_assoc]
    rfl
  · change (!(credentials.rebuilt result visits).toolCalls.isEmpty) = true
    rw [nonempty]
    rfl

end Rows

/-! ## The invariant -/

/-- The conversation is what the rows give back. -/
def Mirrors (conversation : List Message) (rows : List Row) : Prop :=
  List.Forall₂ SameAsStored conversation (conversationFromMessages rows)

/-- A reply is stored, and its calls are not answered yet. -/
def Answering (credentials : Credentials) (conversation : List Message) (calls : List ToolCall)
    (rows : List Row) : Prop :=
  ∃ earlier before result visits,
    rows = earlier ++ [(credentials.replyRow result).stored visits] ∧
      conversation = before ++ [credentials.message result] ∧
      calls = result.toolCalls ∧ calls ≠ [] ∧ Mirrors before earlier ∧
      WellFormed (conversationFromMessages earlier)

theorem Answering.answered {credentials : Credentials} {calls : List ToolCall}
    {outcomes : List ToolOutcome} {conversation : List Message} {rows : List Row}
    (holds : Answering credentials conversation calls rows)
    (all : outcomes.length = calls.length) (visits : Visits) :
    WellFormed (conversationFromMessages (rows ++ [(toolRow calls outcomes).stored visits])) ∧
      Mirrors (conversation ++ [toolMessage calls outcomes])
        (rows ++ [(toolRow calls outcomes).stored visits]) := by
  rcases holds with ⟨earlier, before, result, first, rfl, rfl, rfl, some, mirrors, wellFormed⟩
  rcases rebuild_answered credentials result first visits some all
    (conversationFromMessages earlier) with ⟨rebuilt, closed⟩
  have whole : conversationFromMessages
      (earlier ++ [(credentials.replyRow result).stored first] ++
        [(toolRow result.toolCalls outcomes).stored visits]) = conversationFromMessages earlier ++
      [.assistant (credentials.rebuilt result first),
        .tool (partsResults ((toolRow result.toolCalls outcomes).stored visits).parts)] := by
    rw [← rebuilt, List.append_assoc, conversationFromMessages, rebuild_append]
    · rfl
    · rintro row ⟨⟩
      exact nofun
  refine ⟨whole ▸ wellFormed.append closed, ?_⟩
  unfold Mirrors
  rw [whole, List.append_assoc]
  exact List.rel_append mirrors (.cons (same_reply credentials result first)
    (.cons (same_tool visits) .nil))

/-- What a turn holds, and what it has stored of it. -/
def Turn.Holds (turn : Turn) (rows : List Row) : Prop :=
  match turn.phase with
  | .prepared history _ => history = rows
  | .calling _ conversation => Mirrors conversation rows
  | .answering _ conversation calls => Answering turn.credentials conversation calls rows
  | .exhausted => True

structure World.Sound (world : World) : Prop where
  wellFormed : WellFormed (conversationFromMessages world.rows)
  turn : ∀ turn, world.turn = some turn → turn.Holds world.rows

namespace World

variable {world : World}

theorem Sound.leave (sound : world.Sound) : world.leave.Sound := ⟨sound.wellFormed, nofun⟩

theorem Sound.append (sound : world.Sound) {visits : Visits} {row : Row} (noTool : row.role ≠ .tool)
    (adds : ∀ conversation, ∃ more,
      (row.stored visits).addTo conversation none = conversation ++ more ∧ WellFormed more) :
    WellFormed (conversationFromMessages (world.append visits row).rows) := by
  change WellFormed (conversationFromMessages (world.rows ++ [row.stored visits]))
  have stored : (row.stored visits).role ≠ .tool := noTool
  rw [conversation_concat stored]
  rcases adds (conversationFromMessages world.rows) with ⟨more, same, wellFormed⟩
  rw [same]
  exact sound.wellFormed.append wellFormed

theorem Sound.enter_begin (sound : world.Sound) {turn : Turn} {history : List Row}
    {text contextNote : String} {visits : Visits} (same : history = world.rows) :
    (world.begin turn history text contextNote visits).Sound where
  wellFormed := by
    have role : (userRow contextNote text).role ≠ .tool := nofun
    apply sound.append role
    intro conversation
    refine ⟨_, rfl, ?_⟩
    cases userText ((userRow contextNote text).stored visits).parts <;> trivial
  turn := by
    rintro _ ⟨⟩
    change Mirrors (conversationFromMessages (history ++ _)) (world.rows ++ _)
    rw [same]
    exact List.forall₂_same.mpr fun _ _ => .inl (.inl rfl)

theorem Sound.append_interrupted (sound : world.Sound) {turn : Turn} {parts : List MessagePart}
    {visits : Visits} :
    (world.append visits (turn.credentials.row parts none true)).leave.Sound :=
  ⟨sound.append nofun fun conversation => addTo_unanswered rfl (.inl rfl) conversation, nofun⟩

theorem Sound.reply (sound : world.Sound) {turn : Turn} {step : Nat} {conversation : List Message}
    {result : TurnResult} {visits : Visits} (mirrors : Mirrors conversation world.rows) :
    (world.reply turn step conversation result visits).Sound := by
  unfold World.reply
  split
  · exact sound.append_interrupted
  · dsimp only
    by_cases silent : result.toolCalls = []
    · rw [List.isEmpty_iff.mpr silent, if_pos rfl]
      exact ⟨sound.append nofun fun conversation =>
        addTo_silent turn.credentials result visits silent conversation, nofun⟩
    · rw [List.isEmpty_eq_false_iff.mpr silent, if_neg Bool.false_ne_true]
      refine ⟨?_, ?_⟩
      · have role : (turn.credentials.replyRow result).role ≠ .tool := nofun
        apply sound.append role
        intro earlier
        apply addTo_unanswered rfl (.inr ?_) earlier
        intro none
        have ids := ids_rebuilt turn.credentials result visits
        have calls : (turn.credentials.rebuilt result visits).toolCalls = [] := none
        rw [calls] at ids
        exact silent (List.map_eq_nil_iff.mp ids.symm)
      · rintro _ ⟨⟩
        exact ⟨world.rows, conversation, result, visits, rfl, rfl, rfl, silent, mirrors,
          sound.wellFormed⟩

theorem Sound.answer {turn : Turn} {step : Nat} {conversation : List Message}
    {calls : List ToolCall} {outcomes : List ToolOutcome} {stopped : Bool} {visits : Visits}
    (all : outcomes.length = calls.length)
    (holds : Answering turn.credentials conversation calls world.rows) :
    (world.answer turn step conversation calls outcomes stopped visits).Sound := by
  have kept := holds.answered all visits
  unfold World.answer
  dsimp only
  split
  · exact ⟨kept.1, nofun⟩
  · refine ⟨kept.1, ?_⟩
    rintro _ ⟨⟩
    unfold Turn.Holds
    by_cases more : step + 1 < maxAgentSteps
    · rw [if_pos more]
      exact kept.2
    · rw [if_neg more]
      trivial

theorem Sound.advance (sound : world.Sound) {turn : Turn} {event : Event} {after : World}
    (isTurn : world.turn = some turn) (done : world.advance turn event = some after) :
    after.Sound := by
  have holds := sound.turn turn isTurn
  unfold Turn.Holds at holds
  unfold World.advance at done
  cases phase : turn.phase with
  | prepared history text =>
      rw [phase] at done holds
      cases event with
      | begin contextNote visits =>
          cases done
          exact sound.enter_begin holds
      | die =>
          cases done
          exact sound.leave
      | prepare | reply | fail | answer | notice => cases done
  | calling step conversation =>
      rw [phase] at done holds
      cases event with
      | reply result visits =>
          cases done
          exact sound.reply holds
      | fail written visits =>
          cases done
          unfold World.fail
          split
          · exact sound.append_interrupted
          · exact sound.leave
      | die =>
          cases done
          exact sound.leave
      | prepare | begin | answer | notice => cases done
  | answering step conversation calls =>
      rw [phase] at done holds
      cases event with
      | answer outcomes stopped visits =>
          dsimp only at done
          split at done
          · rename_i all
            cases done
            exact Sound.answer all holds
          · cases done
      | die =>
          cases done
          exact sound.leave
      | prepare | begin | reply | fail | notice => cases done
  | exhausted =>
      rw [phase] at done
      cases event with
      | notice visits =>
          cases done
          exact sound.append_interrupted
      | die =>
          cases done
          exact sound.leave
      | prepare | begin | reply | fail | answer => cases done

theorem Sound.next (sound : world.Sound) {event : Event} {after : World}
    (done : world.next event = some after) : after.Sound := by
  unfold World.next at done
  split at done
  · rename_i turn isTurn
    exact sound.advance isTurn done
  · split at done
    · split at done
      · cases done
        refine ⟨sound.wellFormed, ?_⟩
        rintro _ ⟨⟩
        rfl
      · cases done
    · cases done

theorem Sound.empty : Sound {} where
  wellFormed := trivial
  turn := nofun

/-- **Replay.** Behind any steps of any turns, wherever they ended, the rows give back a
well-formed conversation, and a turn that calls the model holds just that conversation. -/
theorem rows_replay {world : World}
    (run : Runs.Reaches World.next (fun _ _ => True) {} world) :
    WellFormed (conversationFromMessages world.rows) ∧
      ∀ turn step conversation, world.turn = some turn → turn.phase = .calling step conversation →
        List.Forall₂ SameAsStored conversation (conversationFromMessages world.rows) := by
  have sound : world.Sound := run.invariant .empty fun _ _ _ sound _ done => sound.next done
  refine ⟨sound.wellFormed, fun turn step conversation isTurn phase => ?_⟩
  have holds := sound.turn turn isTurn
  unfold Turn.Holds at holds
  rw [phase] at holds
  exact holds

end World

/-! ## Runs -/

/-- A turn up to its second model call. The first reply calls a tool. -/
def twoCalls (raw : String) : List Event :=
  let credentials : Credentials := { provider := "anthropic", model := "m", trimmed := rfl }
  let call : ToolCall := { id := "a", name := "get_build", input := none }
  [.prepare credentials "Hi", .begin "[Context]" id,
    .reply { text := "Let me look.", toolCalls := [call], raw := some raw } id,
    .answer [{ content := "ok" }] false id]

def Message.native : Message → Option Native
  | .assistant reply => reply.native
  | _ => none

/-- The conversation with which a turn calls the model. -/
def World.calling (world : World) : Option (List Message) :=
  world.turn.bind fun turn => match turn.phase with
    | .calling _ conversation => some conversation
    | _ => none

theorem World.exists_of_calling {world : World} {conversation : List Message}
    (calling : world.calling = some conversation) :
    ∃ turn step, world.turn = some turn ∧ turn.phase = .calling step conversation := by
  rcases Option.bind_eq_some_iff.mp calling with ⟨turn, isTurn, phase⟩
  split at phase
  · rename_i step held isPhase
    cases phase
    exact ⟨turn, step, isTurn, isPhase⟩
  · cases phase

def natives (conversation : List Message) : List Bool :=
  conversation.map fun message => message.native.isSome

theorem natives_eq_of_same {held rebuilt : List Message}
    (same : List.Forall₂ SameUpToNUL held rebuilt) : natives held = natives rebuilt := by
  induction same with
  | nil => rfl
  | @cons first second _ _ same _ induction =>
      have here : second.native = first.native := by
        rcases same with rfl | ⟨visits, rfl⟩
        · rfl
        · cases first <;> rfl
      unfold natives
      rw [List.map_cons, List.map_cons, here]
      exact congrArg (first.native.isSome :: ·) induction

theorem rows_replay_second_call : ∃ world conversation,
    Runs.Reaches World.next (fun _ _ => True) {} world ∧ world.calling = some conversation ∧
      natives conversation = [false, true, false] ∧
      List.Forall₂ SameAsStored conversation (conversationFromMessages world.rows) ∧
      WellFormed (conversationFromMessages world.rows) := by
  have done : ((Runs.follow World.next (fun _ _ => true) {} (twoCalls "[]")).any fun world =>
      world.calling.any fun conversation => natives conversation = [false, true, false]) = true := by
    decide
  rcases (Option.any_eq_true _ _).mp done with ⟨world, reached, holds⟩
  rcases (Option.any_eq_true _ _).mp holds with ⟨conversation, calling, kept⟩
  have run := (Runs.reaches_of_follow .nil reached).mono fun _ _ _ => trivial
  rcases World.exists_of_calling calling with ⟨turn, step, isTurn, phase⟩
  have replay := World.rows_replay run
  exact ⟨world, conversation, run, calling, of_decide_eq_true kept,
    replay.2 turn step conversation isTurn phase, replay.1⟩

/-- A turn still holds a native form that was not stored. -/
theorem native_not_stored : ∃ world conversation,
    Runs.Reaches World.next (fun _ _ => True) {} world ∧ world.calling = some conversation ∧
      ¬List.Forall₂ SameUpToNUL conversation (conversationFromMessages world.rows) := by
  have done : ((Runs.follow World.next (fun _ _ => true) {} (twoCalls "[\"\\u0000\"]")).any
      fun world => world.calling.any fun conversation =>
        natives conversation ≠ natives (conversationFromMessages world.rows)) = true := by
    decide
  rcases (Option.any_eq_true _ _).mp done with ⟨world, reached, holds⟩
  rcases (Option.any_eq_true _ _).mp holds with ⟨conversation, calling, lost⟩
  refine ⟨world, conversation,
    (Runs.reaches_of_follow .nil reached).mono fun _ _ _ => trivial, calling, fun same => ?_⟩
  exact of_decide_eq_true lost (natives_eq_of_same same)

end HomelabBuilder.Conversation
