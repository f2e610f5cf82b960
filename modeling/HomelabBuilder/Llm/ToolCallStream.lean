import HomelabBuilder.Foundation.Table
import HomelabBuilder.Foundation.Text
import HomelabBuilder.Gaming.Compose

/-! # Streamed tool calls

`openAIProvider.Stream`: a reply comes in chunks, and the tool calls in it are put
together from fragments. What the endpoint meant to send is written down beside the
fragments, as the call each of them belongs to.
-/

namespace HomelabBuilder.Llm

/-! ## What arrives -/

structure ToolCallDelta where
  index : Int
  id : String := ""
  name : String := ""
  arguments : String := ""

structure Choice where
  index : Int := 0
  content : String := ""
  toolCalls : List ToolCallDelta := []
  finishReason : String := ""

structure Usage where
  promptTokens : Int := 0
  completionTokens : Int := 0
  totalTokens : Int := 0

structure Chunk where
  usage : Usage := {}
  choices : List Choice := []

/-! ## What is made of it -/

structure PendingToolCall where
  id : String := ""
  name : String := ""
  arguments : String := ""
  announced : Bool := false
  deriving DecidableEq

inductive Event
  | text (delta : String)
  | toolStart (index : Nat) (name : String)
  | toolProgress (index : Nat) (bytes : Nat)

inductive StopReason
  | endTurn
  | toolUse
  | maxTokens
  | refusal
  deriving DecidableEq

structure ToolCall where
  id : String
  name : String
  input : String
  deriving DecidableEq

structure TurnResult where
  text : String
  toolCalls : List ToolCall
  stopReason : StopReason
  inputTokens : Int
  outputTokens : Int

/-- The variables of the loop, and the events so far. -/
structure Reading where
  text : String := ""
  calls : List PendingToolCall := []
  slotByIndex : List (Int × Nat) := []
  finish : String := ""
  inputTokens : Int := 0
  outputTokens : Int := 0
  events : List Event := []

namespace PendingToolCall

/-- A new id on a known index starts a new call. -/
def startsAnother (call : PendingToolCall) (delta : ToolCallDelta) : Prop :=
  delta.id ≠ "" ∧ call.id ≠ "" ∧ call.id ≠ delta.id

instance (call : PendingToolCall) (delta : ToolCallDelta) : Decidable (call.startsAnother delta) :=
  inferInstanceAs (Decidable (_ ∧ _ ∧ _))

def absorb (call : PendingToolCall) (delta : ToolCallDelta) : PendingToolCall :=
  let name := if delta.name ≠ "" then delta.name else call.name
  { id := if delta.id ≠ "" then delta.id else call.id
    name := name
    arguments := call.arguments ++ delta.arguments
    announced := call.announced || decide (name ≠ "") }

/-- What a fragment that came into a slot tells the handlers. -/
def eventsOf (call : PendingToolCall) (delta : ToolCallDelta) (slot : Nat) : List Event :=
  let after := call.absorb delta
  if after.name ≠ "" then
    (if call.announced then [] else [.toolStart slot after.name]) ++
      if delta.arguments ≠ "" then [.toolProgress slot after.arguments.utf8ByteSize] else []
  else []

end PendingToolCall

namespace Reading

/-- The slot of a fragment, which may be a new one. -/
def slotFor (reading : Reading) (delta : ToolCallDelta) : Reading × Nat :=
  let another : Reading × Nat :=
    ({ reading with
        calls := reading.calls ++ [{}]
        slotByIndex := Table.set reading.slotByIndex delta.index reading.calls.length },
      reading.calls.length)
  match reading.slotByIndex.lookup delta.index with
  | none => another
  | some slot =>
      if (reading.calls.getD slot {}).startsAnother delta then another else (reading, slot)

def readDelta (reading : Reading) (delta : ToolCallDelta) : Reading :=
  let (reading, slot) := reading.slotFor delta
  let call := reading.calls.getD slot {}
  { reading with
    calls := reading.calls.set slot (call.absorb delta)
    events := reading.events ++ call.eventsOf delta slot }

def readChoice (reading : Reading) (choice : Choice) : Reading :=
  if choice.index ≠ 0 then reading
  else
    let reading :=
      if choice.content ≠ "" then
        { reading with
          text := reading.text ++ choice.content
          events := reading.events ++ [.text choice.content] }
      else reading
    let reading := choice.toolCalls.foldl readDelta reading
    if choice.finishReason ≠ "" then { reading with finish := choice.finishReason } else reading

def readChunk (reading : Reading) (chunk : Chunk) : Reading :=
  let reading :=
    if chunk.usage.totalTokens > 0 then
      { reading with
        inputTokens := chunk.usage.promptTokens
        outputTokens := chunk.usage.completionTokens }
    else reading
  chunk.choices.foldl readChoice reading

end Reading

def inventedID (slot : Nat) : String := "call_" ++ toString (slot + 1)

def toolCall (call : PendingToolCall) (slot : Nat) : ToolCall :=
  let arguments := trimSpace call.arguments
  { id := if call.id = "" then inventedID slot else call.id
    name := call.name
    input := if arguments = "" then "\x7b\x7d" else arguments }

def toolCalls (calls : List PendingToolCall) : List ToolCall :=
  (calls.zipIdx.filter fun entry => entry.1.name ≠ "").map fun entry => toolCall entry.1 entry.2

def result (reading : Reading) : TurnResult :=
  let calls := toolCalls reading.calls
  { text := reading.text
    toolCalls := calls
    stopReason :=
      if reading.finish = "length" then .maxTokens
      else if reading.finish = "content_filter" then .refusal
      else if calls.length > 0 then .toolUse
      else .endTurn
    inputTokens := reading.inputTokens
    outputTokens := reading.outputTokens }

/-- `Stream`: the chunks up to the end of the stream or to its error. -/
def stream {ε : Type} (chunks : List Chunk) (failed : Option ε) :
    Except ε TurnResult × List Event :=
  let reading := chunks.foldl Reading.readChunk {}
  match failed with
  | some error => (.error error, reading.events)
  | none => (.ok (result reading), reading.events)

/-! ## Text and usage beside the calls -/

def announcements (events : List Event) (index : Nat) : List String :=
  events.filterMap fun
    | .toolStart slot name => if slot = index then some name else none
    | _ => none

theorem announcements_append (events more : List Event) (index : Nat) :
    announcements (events ++ more) index =
      announcements events index ++ announcements more index := List.filterMap_append

theorem announcements_toolStart (slot : Nat) (name : String) (index : Nat) :
    announcements [.toolStart slot name] index = if slot = index then [name] else [] := by
  unfold announcements
  by_cases here : slot = index
  · simp only [List.filterMap_cons, List.filterMap_nil, if_pos here]
  · simp only [List.filterMap_cons, List.filterMap_nil, if_neg here]

/-- Two readings that differ at most in what is no tool call. -/
structure SameCalls (left right : Reading) : Prop where
  calls : left.calls = right.calls
  slots : left.slotByIndex = right.slotByIndex
  announced : ∀ index, announcements left.events index = announcements right.events index

theorem SameCalls.refl (reading : Reading) : SameCalls reading reading :=
  ⟨rfl, rfl, fun _ => rfl⟩

theorem SameCalls.trans {first second third : Reading} (left : SameCalls first second)
    (right : SameCalls second third) : SameCalls first third :=
  ⟨left.calls.trans right.calls, left.slots.trans right.slots,
    fun index => (left.announced index).trans (right.announced index)⟩

theorem SameCalls.slotFor {left right : Reading} (same : SameCalls left right)
    (delta : ToolCallDelta) :
    SameCalls (left.slotFor delta).1 (right.slotFor delta).1 ∧
      (left.slotFor delta).2 = (right.slotFor delta).2 := by
  unfold Reading.slotFor
  rw [same.calls, same.slots]
  cases right.slotByIndex.lookup delta.index with
  | none => exact ⟨⟨rfl, rfl, same.announced⟩, rfl⟩
  | some slot =>
      dsimp only
      split
      · exact ⟨⟨rfl, rfl, same.announced⟩, rfl⟩
      · exact ⟨same, rfl⟩

theorem SameCalls.readDelta {left right : Reading} (same : SameCalls left right)
    (delta : ToolCallDelta) : SameCalls (left.readDelta delta) (right.readDelta delta) := by
  rcases same.slotFor delta with ⟨slots, slot⟩
  unfold Reading.readDelta
  dsimp only
  rw [slot, slots.calls]
  refine ⟨rfl, slots.slots, fun index => ?_⟩
  rw [announcements_append, announcements_append, slots.announced]

theorem SameCalls.foldl_readDelta {left right : Reading} (same : SameCalls left right)
    (deltas : List ToolCallDelta) :
    SameCalls (deltas.foldl Reading.readDelta left) (deltas.foldl Reading.readDelta right) := by
  induction deltas generalizing left right with
  | nil => exact same
  | cons delta rest induction => exact induction (same.readDelta delta)

def deltas (chunks : List Chunk) : List ToolCallDelta :=
  chunks.flatMap fun chunk =>
    (chunk.choices.filter (·.index = 0)).flatMap Choice.toolCalls

theorem readChoice_sameCalls (reading : Reading) (choice : Choice) :
    SameCalls (reading.readChoice choice)
      ((if choice.index = 0 then choice.toolCalls else []).foldl Reading.readDelta reading) := by
  unfold Reading.readChoice
  by_cases other : choice.index ≠ 0
  · rw [if_pos other, if_neg other]
    exact .refl reading
  · rw [if_neg other, if_pos (not_not.mp other)]
    have written : SameCalls (if choice.content ≠ "" then
        { reading with
          text := reading.text ++ choice.content
          events := reading.events ++ [.text choice.content] }
        else reading) reading := by
      split
      · refine ⟨rfl, rfl, fun index => ?_⟩
        rw [announcements_append]
        exact List.append_nil _
      · exact .refl reading
    have folded := written.foldl_readDelta choice.toolCalls
    dsimp only
    split
    · exact ⟨folded.calls, folded.slots, folded.announced⟩
    · exact folded

theorem foldl_readChoice_sameCalls (choices : List Choice) (reading : Reading) :
    SameCalls (choices.foldl Reading.readChoice reading)
      (((choices.filter (·.index = 0)).flatMap Choice.toolCalls).foldl Reading.readDelta
        reading) := by
  induction choices generalizing reading with
  | nil => exact .refl reading
  | cons choice rest induction =>
      refine (induction _).trans ?_
      have first := (readChoice_sameCalls reading choice).foldl_readDelta
        ((rest.filter (·.index = 0)).flatMap Choice.toolCalls)
      refine first.trans ?_
      rw [← List.foldl_append, List.filter_cons]
      by_cases here : choice.index = 0
      · rw [if_pos here, if_pos (decide_eq_true here), List.flatMap_cons]
        exact .refl _
      · rw [if_neg here, if_neg (mt of_decide_eq_true here)]
        exact .refl _

theorem foldl_readChunk_sameCalls (chunks : List Chunk) (reading : Reading) :
    SameCalls (chunks.foldl Reading.readChunk reading)
      ((deltas chunks).foldl Reading.readDelta reading) := by
  induction chunks generalizing reading with
  | nil => exact .refl reading
  | cons chunk rest induction =>
      refine (induction _).trans ?_
      have first : deltas (chunk :: rest) =
          (chunk.choices.filter (·.index = 0)).flatMap Choice.toolCalls ++ deltas rest :=
        List.flatMap_cons
      rw [first, List.foldl_append]
      apply SameCalls.foldl_readDelta
      unfold Reading.readChunk
      refine (foldl_readChoice_sameCalls chunk.choices _).trans ?_
      apply SameCalls.foldl_readDelta
      split
      · exact ⟨rfl, rfl, fun _ => rfl⟩
      · exact .refl reading

/-! ## What the endpoint sends -/

/-- A call as the model makes it, under the index the endpoint gives it. -/
structure Call where
  index : Int
  id : String
  name : String
  arguments : String

section Sent

variable {calls : List Call}

/-- No fragment of the second call comes earlier than one of the first. -/
def AllBefore (sent : List (Fin calls.length × ToolCallDelta))
    (first second : Fin calls.length) : Prop :=
  sent.Pairwise fun earlier later => ¬(earlier.1 = second ∧ later.1 = first)

instance (sent : List (Fin calls.length × ToolCallDelta)) (first second : Fin calls.length) :
    Decidable (AllBefore sent first second) := inferInstanceAs (Decidable (List.Pairwise _ _))

/-- The fragments belong to the calls. Calls share an index only with ids, and one after
another. -/
structure Sends (calls : List Call) (sent : List (Fin calls.length × ToolCallDelta)) : Prop where
  named : ∀ call ∈ calls, call.name ≠ ""
  distinct : calls.Pairwise fun left right => left.id = "" ∨ left.id ≠ right.id
  onIndex : ∀ entry ∈ sent, entry.2.index = (calls.get entry.1).index
  idOf : ∀ entry ∈ sent, entry.2.id = "" ∨ entry.2.id = (calls.get entry.1).id
  nameOf : ∀ entry ∈ sent, entry.2.name = "" ∨ entry.2.name = (calls.get entry.1).name
  idSent : ∀ call, ∃ entry ∈ sent, entry.1 = call ∧ entry.2.id = (calls.get call).id
  nameSent : ∀ call, ∃ entry ∈ sent, entry.1 = call ∧ entry.2.name = (calls.get call).name
  argumentsSent : ∀ call, String.join ((sent.filter (·.1 = call)).map (·.2.arguments)) =
    (calls.get call).arguments
  inTurn : ∀ first second, first ≠ second → (calls.get first).index = (calls.get second).index →
    ((calls.get first).id ≠ "" ∧ (calls.get second).id ≠ "") ∧
      (AllBefore sent first second ∨ AllBefore sent second first)

/-- The first fragment of a call on an index in use carries the id. -/
def OpensWithID (sent : List (Fin calls.length × ToolCallDelta)) : Prop :=
  ∀ place, ∀ inside : place < sent.length,
    (∀ entry ∈ sent.take place, entry.1 ≠ sent[place].1) →
    (∃ entry ∈ sent.take place, entry.2.index = sent[place].2.index) → sent[place].2.id ≠ ""

instance (sent : List (Fin calls.length × ToolCallDelta)) : Decidable (OpensWithID sent) :=
  inferInstanceAs (Decidable (∀ place, ∀ _ : place < sent.length, _))

/-- The calls in the order they began. -/
def begun (sent : List (Fin calls.length × ToolCallDelta)) : List (Fin calls.length) :=
  sent.foldl (fun order entry => if entry.1 ∈ order then order else order ++ [entry.1]) []

/-- What the fragments of one call make by themselves. -/
def collected (sent : List (Fin calls.length × ToolCallDelta)) (call : Fin calls.length) :
    PendingToolCall :=
  ((sent.filter (·.1 = call)).map (·.2)).foldl PendingToolCall.absorb {}

variable {sent before : List (Fin calls.length × ToolCallDelta)}
  {entry : Fin calls.length × ToolCallDelta}

theorem begun_append (before : List (Fin calls.length × ToolCallDelta))
    (entry : Fin calls.length × ToolCallDelta) :
    begun (before ++ [entry]) =
      if entry.1 ∈ begun before then begun before else begun before ++ [entry.1] := by
  rw [begun, List.foldl_append]
  rfl

theorem mem_begun {call : Fin calls.length} :
    call ∈ begun sent ↔ ∃ entry ∈ sent, entry.1 = call := by
  induction sent using List.reverseRecOn with
  | nil => exact ⟨nofun, nofun⟩
  | append_singleton before entry induction =>
      have either : call ∈ begun (before ++ [entry]) ↔ call ∈ begun before ∨ entry.1 = call := by
        rw [begun_append]
        split
        · rename_i known
          exact ⟨.inl, fun either => either.elim id fun same => same ▸ known⟩
        · rw [List.mem_append, List.mem_singleton, eq_comm]
      rw [either, induction]
      simp only [List.mem_append, List.mem_singleton, or_and_right, exists_or, exists_eq_left]

theorem nodup_begun (sent : List (Fin calls.length × ToolCallDelta)) : (begun sent).Nodup := by
  induction sent using List.reverseRecOn with
  | nil => exact List.nodup_nil
  | append_singleton before entry induction =>
      rw [begun_append]
      split
      · exact induction
      · rename_i new
        rw [← List.concat_eq_append]
        exact induction.concat new

theorem collected_append (before : List (Fin calls.length × ToolCallDelta))
    (entry : Fin calls.length × ToolCallDelta) (call : Fin calls.length) :
    collected (before ++ [entry]) call =
      if entry.1 = call then (collected before call).absorb entry.2 else collected before call := by
  rw [collected, List.filter_append, List.map_append, List.foldl_append, List.filter_singleton]
  by_cases own : entry.1 = call
  · rw [if_pos own, decide_eq_true own]
    rfl
  · rw [if_neg own, decide_eq_false own]
    rfl

theorem collected_of_not_begun {call : Fin calls.length} (new : call ∉ begun before) :
    collected before call = {} := by
  have none : before.filter (·.1 = call) = [] := by
    rw [List.filter_eq_nil_iff]
    exact fun entry member own => new (mem_begun.mpr ⟨entry, member, of_decide_eq_true own⟩)
  rw [collected, none]
  rfl

theorem collected_announced (sent : List (Fin calls.length × ToolCallDelta))
    (call : Fin calls.length) :
    (collected sent call).announced = decide ((collected sent call).name ≠ "") := by
  induction sent using List.reverseRecOn with
  | nil => rfl
  | append_singleton before entry induction =>
      rw [collected_append]
      split
      · rw [PendingToolCall.absorb]
        dsimp only
        rw [induction]
        by_cases named : (collected before call).name = ""
        · rw [named]
          rfl
        · split
          · rename_i given
            rw [decide_eq_true given, Bool.or_true]
          · rw [Bool.or_self]
      · exact induction

theorem collected_arguments (sent : List (Fin calls.length × ToolCallDelta))
    (call : Fin calls.length) : (collected sent call).arguments =
      String.join ((sent.filter (·.1 = call)).map (·.2.arguments)) := by
  induction sent using List.reverseRecOn with
  | nil => rfl
  | append_singleton before entry induction =>
      rw [collected_append, List.filter_append, List.map_append, String.join_append,
        List.filter_singleton, ← induction]
      by_cases own : entry.1 = call
      · rw [if_pos own, decide_eq_true own, cond_true, List.map_singleton, String.join_cons,
          String.join_nil, String.append_empty]
        rfl
      · rw [if_neg own, decide_eq_false own, cond_false, List.map_nil,
          String.join_nil, String.append_empty]

theorem later_given {value kept next : String} (keptAlike : kept = "" ∨ kept = value)
    (nextAlike : next = "" ∨ next = value) :
    ((if next ≠ "" then next else kept) = "" ∨ (if next ≠ "" then next else kept) = value) ∧
      (kept = value ∨ next = value → (if next ≠ "" then next else kept) = value) := by
  by_cases open_ : next = ""
  · rw [if_neg (not_not.mpr open_)]
    refine ⟨keptAlike, fun either => either.elim id fun same => ?_⟩
    rcases keptAlike with none | given
    · rw [none, ← open_, same]
    · exact given
  · rw [if_pos open_]
    have same := nextAlike.resolve_left open_
    exact ⟨.inr same, fun _ => same⟩

section Given

variable (field : ToolCallDelta → String) (kept : PendingToolCall → String)
  (absorbed : ∀ call delta, kept (call.absorb delta) =
    if field delta ≠ "" then field delta else kept call) (unset : kept {} = "")

include absorbed unset

theorem collected_given {call : Fin calls.length} {value : String}
    (alike : ∀ entry ∈ sent, entry.1 = call → field entry.2 = "" ∨ field entry.2 = value) :
    (kept (collected sent call) = "" ∨ kept (collected sent call) = value) ∧
      ((∃ entry ∈ sent, entry.1 = call ∧ field entry.2 = value) →
        kept (collected sent call) = value) := by
  induction sent using List.reverseRecOn with
  | nil => exact ⟨.inl unset, nofun⟩
  | append_singleton before entry induction =>
      have earlier := induction fun other member => alike other (List.mem_append_left _ member)
      rw [collected_append]
      by_cases own : entry.1 = call
      · rw [if_pos own, absorbed]
        have next := later_given earlier.1
          (alike entry (List.mem_append_right _ (List.mem_singleton_self _)) own)
        refine ⟨next.1, ?_⟩
        rintro ⟨other, member, mine, given⟩
        rcases List.mem_append.mp member with old | here
        · exact next.2 (.inl (earlier.2 ⟨other, old, mine, given⟩))
        · rw [List.mem_singleton.mp here] at given
          exact next.2 (.inr given)
      · rw [if_neg own]
        refine ⟨earlier.1, ?_⟩
        rintro ⟨other, member, mine, given⟩
        rcases List.mem_append.mp member with old | here
        · exact earlier.2 ⟨other, old, mine, given⟩
        · rw [List.mem_singleton.mp here] at mine
          exact absurd mine own

end Given

theorem Sends.collected_id (sends : Sends calls sent) (within : before.Sublist sent)
    (call : Fin calls.length) :
    ((collected before call).id = "" ∨ (collected before call).id = (calls.get call).id) ∧
      ((∃ entry ∈ before, entry.1 = call ∧ entry.2.id = (calls.get call).id) →
        (collected before call).id = (calls.get call).id) :=
  collected_given ToolCallDelta.id PendingToolCall.id (fun _ _ => rfl) rfl
    fun entry member own => own ▸ sends.idOf entry (within.subset member)

theorem Sends.collected_name (sends : Sends calls sent) (within : before.Sublist sent)
    (call : Fin calls.length) :
    ((collected before call).name = "" ∨ (collected before call).name = (calls.get call).name) ∧
      ((∃ entry ∈ before, entry.1 = call ∧ entry.2.name = (calls.get call).name) →
        (collected before call).name = (calls.get call).name) :=
  collected_given ToolCallDelta.name PendingToolCall.name (fun _ _ => rfl) rfl
    fun entry member own => own ▸ sends.nameOf entry (within.subset member)

/-! ## Fragment by fragment -/

/-- What the loop holds when it has read some of the fragments. -/
structure Consumed (sent before : List (Fin calls.length × ToolCallDelta)) (reading : Reading) :
    Prop where
  pending : reading.calls = (begun before).map (collected before)
  free : ∀ index, reading.slotByIndex.lookup index = none →
    ∀ call ∈ begun before, (calls.get call).index ≠ index
  taken : ∀ index slot, reading.slotByIndex.lookup index = some slot →
    ∃ last, (begun before)[slot]? = some last ∧ (calls.get last).index = index ∧
      ∀ call ∈ begun before, (calls.get call).index = index → call = last ∨ AllBefore sent call last
  announced : ∀ slot, announcements reading.events slot =
    ((begun before)[slot]?.filter fun call => (collected before call).name ≠ "").toList.map
      fun call => (calls.get call).name

theorem AllBefore.not_later {first second : Fin calls.length} (ordered : AllBefore sent first second)
    {after : List (Fin calls.length × ToolCallDelta)} (split : sent = before ++ entry :: after)
    (isFirst : entry.1 = first) : second ∉ begun before := by
  intro early
  rcases mem_begun.mp early with ⟨other, member, isSecond⟩
  rw [AllBefore, split, List.pairwise_append] at ordered
  exact ordered.2.2 other member entry List.mem_cons_self ⟨isSecond, isFirst⟩

theorem Consumed.pending_at {reading : Reading} (consumed : Consumed sent before reading)
    {slot : Nat} {call : Fin calls.length} (located : (begun before)[slot]? = some call) :
    reading.calls.getD slot {} = collected before call := by
  rw [consumed.pending, List.getD_eq_getElem?_getD, List.getElem?_map, located]
  rfl

theorem Consumed.slotFor_begun (sends : Sends calls sent) {reading : Reading}
    (consumed : Consumed sent before reading) {after : List (Fin calls.length × ToolCallDelta)}
    (split : sent = before ++ entry :: after) (known : entry.1 ∈ begun before) :
    ∃ slot, reading.slotFor entry.2 = (reading, slot) ∧ (begun before)[slot]? = some entry.1 := by
  have member : entry ∈ sent := split ▸ List.mem_append_right _ List.mem_cons_self
  have onIndex := sends.onIndex entry member
  unfold Reading.slotFor
  cases found : reading.slotByIndex.lookup entry.2.index with
  | none => exact absurd onIndex.symm (consumed.free _ found _ known)
  | some slot =>
      rcases consumed.taken _ _ found with ⟨last, located, lastOn, others⟩
      have same : entry.1 = last := by
        rcases others entry.1 known onIndex.symm with same | ordered
        · exact same
        · exact absurd (List.mem_of_getElem? located) (ordered.not_later split rfl)
      subst same
      refine ⟨slot, ?_, located⟩
      have here := consumed.pending_at located
      have own := sends.collected_id (split ▸ List.sublist_append_left _ _) entry.1
      dsimp only
      rw [if_neg]
      rintro ⟨given, kept, differs⟩
      rw [here] at kept differs
      exact differs ((own.1.resolve_left kept).trans
        ((sends.idOf entry member).resolve_left given).symm)

theorem Sends.id_ne (sends : Sends calls sent) {left right : Fin calls.length}
    (differs : left ≠ right) (given : (calls.get left).id ≠ "") :
    (calls.get left).id ≠ (calls.get right).id := by
  have distinct := List.pairwise_iff_getElem.mp sends.distinct
  rcases lt_or_gt_of_ne differs with less | more
  · exact (distinct left right left.isLt right.isLt less).resolve_left given
  · intro same
    rcases distinct right left right.isLt left.isLt more with none | differ
    · exact given (same.trans none)
    · exact differ same.symm

theorem Consumed.slotFor_new (sends : Sends calls sent) (opens : OpensWithID sent)
    {reading : Reading} (consumed : Consumed sent before reading)
    {after : List (Fin calls.length × ToolCallDelta)} (split : sent = before ++ entry :: after)
    (new : entry.1 ∉ begun before) :
    reading.slotFor entry.2 =
      ({ reading with
          calls := reading.calls ++ [{}]
          slotByIndex := Table.set reading.slotByIndex entry.2.index reading.calls.length },
        reading.calls.length) := by
  have member : entry ∈ sent := split ▸ List.mem_append_right _ List.mem_cons_self
  have onIndex := sends.onIndex entry member
  unfold Reading.slotFor
  cases found : reading.slotByIndex.lookup entry.2.index with
  | none => rfl
  | some slot =>
      rcases consumed.taken _ _ found with ⟨last, located, lastOn, _⟩
      have listed := List.mem_of_getElem? located
      have differs : last ≠ entry.1 := fun same => new (same ▸ listed)
      have inTurn := sends.inTurn last entry.1 differs (lastOn.trans onIndex)
      have finished : AllBefore sent last entry.1 := by
        refine inTurn.2.resolve_right fun ordered => ?_
        exact ordered.not_later split rfl listed
      have here := consumed.pending_at located
      -- All fragments of the call before are read, so its identifier is known.
      have lastID : (collected before last).id = (calls.get last).id := by
        apply (sends.collected_id (split ▸ List.sublist_append_left _ _) last).2
        rcases sends.idSent last with ⟨other, otherMember, otherOwn, given⟩
        refine ⟨other, ?_, otherOwn, given⟩
        rw [split] at otherMember finished
        rcases List.mem_append.mp otherMember with old | later
        · exact old
        · rcases List.mem_cons.mp later with rfl | later
          · exact absurd otherOwn.symm differs
          · have rest := (List.pairwise_append.mp finished).2.1
            exact absurd ⟨rfl, otherOwn⟩ ((List.pairwise_cons.mp rest).1 other later)
      have opening : entry.2.id ≠ "" := by
        have inside : before.length < sent.length := by
          rw [split, List.length_append, List.length_cons]
          omega
        have here : sent[before.length] = entry := by
          simp only [split, List.getElem_append_right (Nat.le_refl _), Nat.sub_self,
            List.getElem_cons_zero]
        have past : sent.take before.length = before := by rw [split, List.take_left']; rfl
        have first := opens before.length inside
        rw [past, here] at first
        apply first fun other member same => new (mem_begun.mpr ⟨other, member, same⟩)
        rcases mem_begun.mp listed with ⟨other, otherMember, otherOwn⟩
        refine ⟨other, otherMember, ?_⟩
        rw [sends.onIndex other (split ▸ List.mem_append_left _ otherMember), otherOwn, lastOn]
      dsimp only
      rw [if_pos]
      refine ⟨opening, ?_, ?_⟩
      · rw [here, lastID]
        exact inTurn.1.1
      · rw [here, lastID, (sends.idOf entry member).resolve_left opening]
        exact sends.id_ne differs inTurn.1.1

theorem map_set_of_nodup {α β : Type*} {items : List α} (distinct : items.Nodup) {slot : Nat}
    {item : α} (located : items[slot]? = some item) {old new : α → β}
    (others : ∀ other ∈ items, other ≠ item → old other = new other) :
    (items.map old).set slot (new item) = items.map new := by
  apply List.ext_getElem?
  intro place
  rw [List.getElem?_set, List.length_map, List.getElem?_map, List.getElem?_map]
  have inside : slot < items.length := (List.getElem?_eq_some_iff.mp located).1
  by_cases here : slot = place
  · subst here
    rw [if_pos rfl, if_pos inside, located, Option.map_some]
  · rw [if_neg here]
    cases found : items[place]? with
    | none => rfl
    | some other =>
        rw [Option.map_some, Option.map_some, others other (List.mem_of_getElem? found)]
        rintro rfl
        exact here ((List.getElem?_inj inside distinct).mp (located.trans found.symm))

theorem announcements_eventsOf (call : PendingToolCall) (delta : ToolCallDelta) (slot index : Nat) :
    announcements (call.eventsOf delta slot) index =
      if slot = index ∧ call.announced = false ∧ (call.absorb delta).name ≠ "" then
        [(call.absorb delta).name]
      else [] := by
  have progress : ∀ bytes, announcements
      (if delta.arguments ≠ "" then [Event.toolProgress slot bytes] else []) index = [] := by
    intro bytes
    split <;> rfl
  unfold PendingToolCall.eventsOf
  dsimp only
  by_cases named : (call.absorb delta).name = ""
  · rw [if_neg (not_not.mpr named), if_neg fun both => both.2.2 named]
    rfl
  · rw [if_pos named, announcements_append, progress, List.append_nil]
    cases call.announced with
    | true =>
        rw [if_pos rfl, if_neg fun both => Bool.noConfusion both.2.1]
        rfl
    | false =>
        rw [if_neg Bool.false_ne_true]
        rw [announcements_toolStart]
        by_cases here : slot = index
        · rw [if_pos here, if_pos ⟨here, rfl, named⟩]
        · rw [if_neg here, if_neg fun both => here both.1]

theorem toList_named (before : List (Fin calls.length × ToolCallDelta)) (call : Fin calls.length) :
    ((some call).filter fun call => (collected before call).name ≠ "").toList.map
      (fun call => (calls.get call).name) =
      if (collected before call).name = "" then [] else [(calls.get call).name] := by
  by_cases unnamed : (collected before call).name = ""
  · rw [if_pos unnamed, Option.filter_some, if_neg (by simpa using unnamed)]
    rfl
  · rw [if_neg unnamed, Option.filter_some, if_pos (decide_eq_true unnamed)]
    rfl

theorem Sends.announcements_step (sends : Sends calls sent) {events : List Event}
    (within : (before ++ [entry]).Sublist sent) {slot : Nat} (index : Nat)
    (earlier : announcements events slot =
      if (collected before entry.1).name = "" then [] else [(calls.get entry.1).name]) :
    announcements (events ++ (collected before entry.1).eventsOf entry.2 slot) index =
      if slot = index then
        if (collected (before ++ [entry]) entry.1).name = "" then []
        else [(calls.get entry.1).name]
      else announcements events index := by
  have after := (sends.collected_name within entry.1).1
  rw [collected_append, if_pos rfl] at after ⊢
  rw [announcements_append, announcements_eventsOf, collected_announced]
  by_cases here : slot = index
  · subst here
    rw [if_pos rfl, earlier]
    by_cases unnamed : (collected before entry.1).name = ""
    · rw [if_pos unnamed, List.nil_append]
      by_cases still : ((collected before entry.1).absorb entry.2).name = ""
      · rw [if_pos still, if_neg fun both => both.2.2 still]
      · rw [if_neg still, if_pos ⟨rfl, decide_eq_false (not_not.mpr unnamed), still⟩,
          after.resolve_left still]
    · have kept : ((collected before entry.1).absorb entry.2).name ≠ "" := by
        rw [PendingToolCall.absorb]
        dsimp only
        split
        · assumption
        · exact unnamed
      rw [if_neg unnamed, if_neg kept, if_neg, List.append_nil]
      rintro ⟨_, silent, _⟩
      exact of_decide_eq_false silent unnamed
  · rw [if_neg here, if_neg fun both => here both.1, List.append_nil]

theorem Consumed.readDelta (sends : Sends calls sent) (opens : OpensWithID sent)
    {reading : Reading} (consumed : Consumed sent before reading)
    {after : List (Fin calls.length × ToolCallDelta)} (split : sent = before ++ entry :: after) :
    Consumed sent (before ++ [entry]) (reading.readDelta entry.2) := by
  have within : (before ++ [entry]).Sublist sent := by
    rw [split, List.append_cons before entry after]
    exact List.sublist_append_left _ _
  have onIndex := sends.onIndex entry (within.subset (List.mem_append_right _ List.mem_cons_self))
  have unchanged : ∀ call, call ≠ entry.1 →
      collected (before ++ [entry]) call = collected before call := by
    intro call differs
    rw [collected_append, if_neg differs.symm]
  by_cases known : entry.1 ∈ begun before
  · rcases consumed.slotFor_begun sends split known with ⟨slot, goes, located⟩
    have order : begun (before ++ [entry]) = begun before := by rw [begun_append, if_pos known]
    have result : reading.readDelta entry.2 = { reading with
        calls := reading.calls.set slot ((collected before entry.1).absorb entry.2)
        events := reading.events ++ (collected before entry.1).eventsOf entry.2 slot } := by
      rw [Reading.readDelta, goes]
      dsimp only
      rw [consumed.pending_at located]
    rw [result]
    refine ⟨?_, ?_, ?_, ?_⟩
    · rw [order]
      dsimp only
      rw [consumed.pending]
      have self : (collected before entry.1).absorb entry.2 =
          collected (before ++ [entry]) entry.1 := by rw [collected_append, if_pos rfl]
      rw [self]
      exact map_set_of_nodup (nodup_begun before) located
        fun other _ differs => (unchanged other differs).symm
    · rw [order]
      exact consumed.free
    · rw [order]
      exact consumed.taken
    · intro index
      have earlier := consumed.announced slot
      rw [located, toList_named] at earlier
      dsimp only
      rw [sends.announcements_step within index earlier, order]
      by_cases here : slot = index
      · rw [if_pos here, ← here, located, toList_named]
      · rw [if_neg here, consumed.announced]
        cases found : (begun before)[index]? with
        | none => rfl
        | some other =>
            have differs : other ≠ entry.1 := by
              rintro rfl
              have inside := (List.getElem?_eq_some_iff.mp located).1
              exact here ((List.getElem?_inj inside (nodup_begun before)).mp
                (located.trans found.symm))
            rw [toList_named, toList_named, unchanged other differs]
  · have goes := consumed.slotFor_new sends opens split known
    have order : begun (before ++ [entry]) = begun before ++ [entry.1] := by
      rw [begun_append, if_neg known]
    have blank := collected_of_not_begun known
    have count : reading.calls.length = (begun before).length := by
      rw [consumed.pending, List.length_map]
    have result : reading.readDelta entry.2 = { reading with
        calls := reading.calls ++ [(collected before entry.1).absorb entry.2]
        slotByIndex := Table.set reading.slotByIndex entry.2.index (begun before).length
        events := reading.events ++
          (collected before entry.1).eventsOf entry.2 (begun before).length } := by
      rw [Reading.readDelta, goes]
      dsimp only
      rw [List.getD_append_right _ _ _ _ (Nat.le_refl _), Nat.sub_self, blank,
        List.set_append_right _ _ (Nat.le_refl _), Nat.sub_self, count]
      rfl
    rw [result]
    refine ⟨?_, ?_, ?_, ?_⟩
    · dsimp only
      rw [order, consumed.pending, List.map_append, List.map_singleton, collected_append,
        if_pos rfl]
      congr 1
      apply List.map_congr_left
      intro call begunCall
      exact (unchanged call fun same => known (same ▸ begunCall)).symm
    · intro index free call listed
      dsimp only at free
      rw [Table.lookup_set] at free
      by_cases here : index = entry.2.index
      · rw [if_pos here] at free
        cases free
      · rw [if_neg here] at free
        rw [order] at listed
        rcases List.mem_append.mp listed with old | new
        · exact consumed.free index free call old
        · rw [List.mem_singleton.mp new, ← onIndex]
          exact Ne.symm here
    · intro index slot found
      dsimp only at found
      rw [Table.lookup_set] at found
      rw [order]
      by_cases here : index = entry.2.index
      · rw [if_pos here] at found
        cases found
        refine ⟨entry.1, ?_, onIndex.symm.trans here.symm, ?_⟩
        · rw [List.getElem?_append_right (Nat.le_refl _), Nat.sub_self]
          rfl
        · intro call listed sameIndex
          rcases List.mem_append.mp listed with old | new
          · have differs : call ≠ entry.1 := fun same => known (same ▸ old)
            have inTurn := sends.inTurn call entry.1 differs
              (sameIndex.trans (here.trans onIndex))
            exact .inr (inTurn.2.resolve_right fun ordered => ordered.not_later split rfl old)
          · exact .inl (List.mem_singleton.mp new)
      · rw [if_neg here] at found
        rcases consumed.taken index slot found with ⟨last, located, lastOn, others⟩
        refine ⟨last, ?_, lastOn, ?_⟩
        · rw [List.getElem?_append_left (List.getElem?_eq_some_iff.mp located).1, located]
        · intro call listed sameIndex
          rcases List.mem_append.mp listed with old | new
          · exact others call old sameIndex
          · rw [List.mem_singleton.mp new, ← onIndex] at sameIndex
            exact absurd sameIndex.symm here
    · intro index
      have earlier : announcements reading.events (begun before).length =
          if (collected before entry.1).name = "" then [] else [(calls.get entry.1).name] := by
        rw [consumed.announced, List.getElem?_eq_none (Nat.le_refl _), blank, if_pos rfl]
        rfl
      dsimp only
      rw [sends.announcements_step within index earlier, order]
      by_cases here : (begun before).length = index
      · rw [if_pos here, ← here, List.getElem?_append_right (Nat.le_refl _), Nat.sub_self,
          List.getElem?_cons_zero, toList_named]
      · rw [if_neg here, consumed.announced]
        rcases Nat.lt_or_gt_of_ne here with beyond | inside
        · rw [List.getElem?_eq_none beyond.le, List.getElem?_eq_none]
          · rfl
          · rw [List.length_append, List.length_singleton]
            omega
        · rw [List.getElem?_append_left inside, List.getElem?_eq_getElem inside, toList_named,
            toList_named, unchanged _ fun same => known (same ▸ List.getElem_mem inside)]

theorem consumed_foldl (sends : Sends calls sent) (opens : OpensWithID sent)
    {after : List (Fin calls.length × ToolCallDelta)} (split : sent = before ++ after) :
    Consumed sent before ((before.map (·.2)).foldl Reading.readDelta {}) := by
  induction before using List.reverseRecOn generalizing after with
  | nil => exact ⟨rfl, fun _ _ => nofun, nofun, fun _ => rfl⟩
  | append_singleton before entry induction =>
      rw [List.append_assoc, List.singleton_append] at split
      rw [List.map_append, List.foldl_append]
      exact (induction split).readDelta sends opens split

/-! ## The calls of the reply -/

def answered (call : Call) (slot : Nat) : ToolCall :=
  let arguments := trimSpace call.arguments
  { id := if call.id = "" then inventedID slot else call.id
    name := call.name
    input := if arguments = "" then "\x7b\x7d" else arguments }

/-- The reply lists all calls in the order they began, and each was announced once under
its index. -/
structure Assembles (sent : List (Fin calls.length × ToolCallDelta)) (turn : TurnResult)
    (events : List Event) : Prop where
  all : (begun sent).Perm (List.finRange calls.length)
  listed : turn.toolCalls =
    (begun sent).zipIdx.map fun entry => answered (calls.get entry.1) entry.2
  identified : ∀ call ∈ turn.toolCalls, call.id ≠ ""
  announced : ∀ slot,
    announcements events slot = turn.toolCalls[slot]?.toList.map ToolCall.name

/-- No call has the identifier that is invented for another one. -/
def NoneInvented (sent : List (Fin calls.length × ToolCallDelta)) : Prop :=
  ∀ slot call other, (begun sent)[slot]? = some call → (calls.get call).id = "" →
    (calls.get other).id ≠ inventedID slot

theorem inventedID_ne_empty (slot : Nat) : inventedID slot ≠ "" := by
  intro none
  have length := congrArg String.length none
  rw [inventedID, String.length_append] at length
  have start : "call_".length = 5 := rfl
  have empty : "".length = 0 := rfl
  omega

theorem inventedID_injective {left right : Nat} (same : inventedID left = inventedID right) :
    left = right :=
  Nat.succ_injective (Gaming.toString_injective ((String.append_right_inj _).mp same))

theorem answered_id_ne_empty (call : Call) (slot : Nat) : (answered call slot).id ≠ "" := by
  rw [answered]
  dsimp only
  split
  · exact inventedID_ne_empty slot
  · assumption

theorem Sends.begun_perm (sends : Sends calls sent) :
    (begun sent).Perm (List.finRange calls.length) := by
  rw [List.perm_ext_iff_of_nodup (nodup_begun sent) (List.nodup_finRange _)]
  intro call
  rcases sends.nameSent call with ⟨entry, member, own, _⟩
  exact ⟨fun _ => List.mem_finRange call, fun _ => mem_begun.mpr ⟨entry, member, own⟩⟩

theorem Sends.collected (sends : Sends calls sent) (call : Fin calls.length) :
    (collected sent call).name = (calls.get call).name ∧
      ∀ slot, toolCall (Llm.collected sent call) slot = answered (calls.get call) slot := by
  have name := (sends.collected_name (List.Sublist.refl _) call).2 (sends.nameSent call)
  have id := (sends.collected_id (List.Sublist.refl _) call).2 (sends.idSent call)
  refine ⟨name, fun slot => ?_⟩
  rw [toolCall, answered, name, id, collected_arguments, sends.argumentsSent]

theorem Sends.nodup_ids (sends : Sends calls sent) (noneInvented : NoneInvented sent) :
    (((begun sent).zipIdx.map fun entry => answered (calls.get entry.1) entry.2).map
      ToolCall.id).Nodup := by
  rw [List.map_map, List.Nodup, List.pairwise_iff_getElem]
  intro left right leftInside rightInside less same
  rw [List.length_map, List.length_zipIdx] at leftInside rightInside
  rw [List.getElem_map, List.getElem_map, List.getElem_zipIdx, List.getElem_zipIdx,
    Function.comp_apply, Function.comp_apply, Nat.zero_add, Nat.zero_add] at same
  have differs : (begun sent)[left] ≠ (begun sent)[right] :=
    fun equal => absurd ((nodup_begun sent).getElem_inj_iff.mp equal) less.ne
  rw [answered, answered] at same
  dsimp only at same
  split at same
  · rename_i leftNone
    split at same
    · exact less.ne (inventedID_injective same)
    · exact noneInvented left _ _ (List.getElem?_eq_getElem leftInside) leftNone same.symm
  · rename_i leftOwn
    split at same
    · rename_i rightNone
      exact noneInvented right _ _ (List.getElem?_eq_getElem rightInside) rightNone same
    · exact sends.id_ne differs leftOwn same

end Sent

/-- Calls that are told apart when they begin are assembled whole. -/
theorem stream_assembles {ε : Type} {calls : List Call}
    {sent : List (Fin calls.length × ToolCallDelta)} (sends : Sends calls sent)
    (opens : OpensWithID sent) (chunks : List Chunk)
    (fragments : deltas chunks = sent.map (·.2)) :
    ∃ turn, (stream chunks (none : Option ε)).1 = .ok turn ∧
      Assembles sent turn (stream chunks (none : Option ε)).2 ∧
      (NoneInvented sent → (turn.toolCalls.map ToolCall.id).Nodup) := by
  have same := foldl_readChunk_sameCalls chunks {}
  rw [fragments] at same
  have consumed := consumed_foldl sends opens (List.append_nil sent).symm
  refine ⟨_, rfl, ?_⟩
  change Assembles sent (result (chunks.foldl Reading.readChunk {}))
      (chunks.foldl Reading.readChunk {}).events ∧ _
  have held : (chunks.foldl Reading.readChunk {}).calls = (begun sent).map (collected sent) :=
    same.calls.trans consumed.pending
  have announced : ∀ slot, announcements (chunks.foldl Reading.readChunk {}).events slot = _ :=
    fun slot => (same.announced slot).trans (consumed.announced slot)
  generalize chunks.foldl Reading.readChunk {} = reading at *
  have kept : ∀ entry ∈ ((begun sent).map (collected sent)).zipIdx, entry.1.name ≠ "" := by
    intro entry member
    rcases List.mem_map.mp (List.fst_mem_of_mem_zipIdx member) with ⟨call, _, isCall⟩
    rw [← isCall, (sends.collected call).1]
    exact sends.named _ (List.get_mem _ _)
  have listed : (result reading).toolCalls =
      (begun sent).zipIdx.map fun entry => answered (calls.get entry.1) entry.2 := by
    change toolCalls reading.calls = _
    rw [toolCalls, held, List.filter_eq_self.mpr fun entry member =>
      decide_eq_true (kept entry member), List.zipIdx_map, List.map_map]
    apply List.map_congr_left
    intro entry _
    exact (sends.collected entry.1).2 entry.2
  refine ⟨⟨sends.begun_perm, listed, ?_, ?_⟩, ?_⟩
  · intro call member
    rw [listed] at member
    rcases List.mem_map.mp member with ⟨entry, _, rfl⟩
    exact answered_id_ne_empty _ _
  · intro slot
    rw [announced, listed, List.getElem?_map, List.getElem?_zipIdx]
    cases found : (begun sent)[slot]? with
    | none => rfl
    | some call =>
        rw [toList_named, if_neg]
        · rfl
        · rw [(sends.collected call).1]
          exact sends.named _ (List.get_mem _ _)
  · intro noneInvented
    rw [listed]
    exact sends.nodup_ids noneInvented

/-! ## Three endpoints -/

def oneChunk {calls : List Call} (sent : List (Fin calls.length × ToolCallDelta)) : List Chunk :=
  [{ choices := [{ toolCalls := sent.map (·.2) }] }]

/-- An endpoint that interleaves two calls and reuses an index for a third. -/
def mixedCalls : List Call :=
  [⟨0, "a", "get_build", "[1, 2]"⟩, ⟨1, "", "validate_build", ""⟩, ⟨0, "b", "list_builds", " "⟩]

def mixedSent : List (Fin mixedCalls.length × ToolCallDelta) :=
  [(⟨0, by decide⟩, { index := 0, id := "a", arguments := "[1" }), (⟨1, by decide⟩, { index := 1 }),
    (⟨0, by decide⟩, { index := 0, name := "get_build", arguments := ", 2]" }),
    (⟨1, by decide⟩, { index := 1, name := "validate_build" }),
    (⟨2, by decide⟩, { index := 0, id := "b", name := "list_builds", arguments := " " })]

theorem mixedSent_sends : Sends mixedCalls mixedSent := by
  constructor <;> decide

/-- The same fragments over four chunks: one with text and no fragment, two with some
of them, and one at the end with the usage alone. -/
def mixedChunks : List Chunk :=
  [{ choices := [{ content := "Let me look." }] },
    { choices := [{ toolCalls := (mixedSent.map (·.2)).take 2 }] },
    { choices := [{ toolCalls := (mixedSent.map (·.2)).drop 2, finishReason := "tool_calls" }] },
    { usage := { promptTokens := 30, completionTokens := 12, totalTokens := 42 } }]

theorem mixedSent_noneInvented : NoneInvented mixedSent := by
  have ids : ∀ call, (mixedCalls.get call).id ∈ ["a", "", "b"] := by decide
  intro slot call other _ _ same
  have length := congrArg String.length same
  rw [inventedID, String.length_append] at length
  have start : "call_".length = 5 := rfl
  have short : ∀ id ∈ ["a", "", "b"], id.length ≤ 1 := by decide
  have := short _ (ids other)
  omega

theorem mixedSent_assembles :
    ∃ turn, (stream mixedChunks (none : Option Unit)).1 = .ok turn ∧
      Assembles mixedSent turn (stream mixedChunks (none : Option Unit)).2 ∧
      (turn.toolCalls.map ToolCall.id).Nodup ∧
      turn.toolCalls =
        [⟨"a", "get_build", "[1, 2]"⟩, ⟨"call_2", "validate_build", "\x7b\x7d"⟩,
          ⟨"b", "list_builds", "\x7b\x7d"⟩] := by
  have streams := @stream_assembles Unit _ _ mixedSent_sends (by decide) mixedChunks rfl
  rcases streams with ⟨turn, streamed, assembled, distinct⟩
  refine ⟨turn, streamed, assembled, distinct mixedSent_noneInvented, ?_⟩
  cases streamed
  decide

/-- An endpoint that reuses an index and sends the new identifier late. -/
def lateCalls : List Call := [⟨0, "x1", "get_build", ""⟩, ⟨0, "x2", "validate_build", ""⟩]

def lateSent : List (Fin lateCalls.length × ToolCallDelta) :=
  [(⟨0, by decide⟩, { index := 0, id := "x1", name := "get_build" }),
    (⟨1, by decide⟩, { index := 0, name := "validate_build" }),
    (⟨1, by decide⟩, { index := 0, id := "x2" })]

/-- An endpoint that names a call the way the program names one without an identifier. -/
def namesakeCalls : List Call := [⟨0, "call_2", "get_build", ""⟩, ⟨1, "", "validate_build", ""⟩]

def namesakeSent : List (Fin namesakeCalls.length × ToolCallDelta) :=
  [(⟨0, by decide⟩, { index := 0, id := "call_2", name := "get_build" }),
    (⟨1, by decide⟩, { index := 1, name := "validate_build" })]

/-- The first loses a call, and the second gets one identifier for two calls. -/
theorem late_id_merges_and_invented_id_clashes :
    (Sends lateCalls lateSent ∧ ∀ turn,
      (stream (oneChunk lateSent) (none : Option Unit)).1 = .ok turn →
        turn.toolCalls = [⟨"x1", "validate_build", "\x7b\x7d"⟩] ∧
        ¬ Assembles lateSent turn (stream (oneChunk lateSent) (none : Option Unit)).2) ∧
    (Sends namesakeCalls namesakeSent ∧ OpensWithID namesakeSent ∧ ∀ turn,
      (stream (oneChunk namesakeSent) (none : Option Unit)).1 = .ok turn →
        turn.toolCalls.map ToolCall.id = ["call_2", "call_2"]) := by
  refine ⟨⟨by constructor <;> decide, ?_⟩, by constructor <;> decide,
    by decide, ?_⟩
  · intro turn read
    cases read
    have only : (result ((oneChunk lateSent).foldl Reading.readChunk {})).toolCalls =
        [⟨"x1", "validate_build", "\x7b\x7d"⟩] := by decide
    refine ⟨only, fun assembled => ?_⟩
    have count := congrArg List.length (only.symm.trans assembled.listed)
    rw [List.length_map, List.length_zipIdx, assembled.all.length_eq, List.length_finRange] at count
    cases count
  · intro turn read
    cases read
    decide

end HomelabBuilder.Llm
