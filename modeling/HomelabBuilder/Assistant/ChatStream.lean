import HomelabBuilder.Assistant.EventStream
import HomelabBuilder.Foundation.Runs

/-! # The chat stream

`Chat` of `assistant_handler.go` writes the events of a turn and, from another goroutine,
pings; `streamChat` reads them. What JSON does is a parameter.
-/

namespace HomelabBuilder.Assistant

open Utf8

/-- What the two sides rely on: a document is written on one line and read back. -/
structure Codec (Data Payload : Type) where
  marshal : Data → Option Line
  parse : Line → Option Payload
  view : Data → Payload
  empty : Payload
  unbroken_marshal : ∀ {data text}, marshal data = some text → Unbroken text
  parse_marshal : ∀ {data text}, marshal data = some text → parse text = some (view data)
  parse_empty : parse "{}".toList = some empty

inductive EventType
  | turnStart
  | textDelta
  | toolPending
  | toolCall
  | toolResult
  | proposal
  | notice
  | error
  | done
  deriving DecidableEq

def EventType.text : EventType → Line
  | .turnStart => "turn_start".toList
  | .textDelta => "text_delta".toList
  | .toolPending => "tool_pending".toList
  | .toolCall => "tool_call".toList
  | .toolResult => "tool_result".toList
  | .proposal => "proposal".toList
  | .notice => "notice".toList
  | .error => "error".toList
  | .done => "done".toList

structure TurnEvent (Data : Type) where
  type : EventType
  data : Data

structure ChatEvent (Payload : Type) where
  type : Line
  payload : Payload

variable {Data Payload : Type} (codec : Codec Data Payload)

/-! ## The server -/

namespace TurnEvent

def written (event : TurnEvent Data) : Line := (codec.marshal event.data).getD "{}".toList

def encode (event : TurnEvent Data) : List Char :=
  "event: ".toList ++ event.type.text ++ "\ndata: ".toList ++ event.written codec ++ "\n\n".toList

def told (event : TurnEvent Data) : ChatEvent Payload where
  type := event.type.text
  payload := match codec.marshal event.data with
    | some _ => codec.view event.data
    | none => codec.empty

end TurnEvent

def ping : List Char := ": ping\n\n".toList

/-- The response of a chat request: `frames` is what was written to it. -/
structure Response where
  running : Bool := true
  closed : Bool := false
  frames : List (List Char) := []

/-- What the goroutines of `Chat` do, one at a time under the lock. -/
inductive Act (Data : Type)
  | emit (event : TurnEvent Data)
  | ping
  | ran
  | close

def Response.write (response : Response) (frame : List Char) : Response :=
  if response.closed then response else { response with frames := response.frames ++ [frame] }

/-- The turn emits until it has run; the handler closes the response afterwards. -/
def Response.act (response : Response) : Act Data → Option Response
  | .emit event => if response.running then some (response.write (event.encode codec)) else none
  | .ping => some (response.write Assistant.ping)
  | .ran => if response.running then some { response with running := false } else none
  | .close => if response.running then none else some { response with closed := true }

def Response.wire (response : Response) : List UInt8 := encode response.frames.flatten

/-! ## The client -/

def eventTypes : List Line :=
  ["turn_start".toList, "text_delta".toList, "tool_pending".toList, "tool_call".toList,
    "tool_result".toList, "proposal".toList, "notice".toList, "error".toList, "done".toList]

def accept (frame : ServerEvent) : Option (ChatEvent Payload) :=
  if frame.event ∈ eventTypes then
    (codec.parse frame.data).map fun payload => ⟨frame.event, payload⟩
  else none

def streamChat (chunks : List (List UInt8)) : List (ChatEvent Payload) :=
  (readSSE chunks).filterMap (accept codec)

/-- The events that `streamChat` has yielded when it waits for more. -/
def yielded (chunks : List (List UInt8)) : List (ChatEvent Payload) :=
  (Reader.reads {} chunks).2.filterMap (accept codec)

/-! ## Frames -/

def frameText : Option (TurnEvent Data) → List Char
  | some event => event.encode codec
  | none => ping

def frameLines : Option (TurnEvent Data) → List Line
  | some event => ["event: ".toList ++ event.type.text, "data: ".toList ++ event.written codec, []]
  | none => [": ping".toList, []]

def TurnEvent.frame (event : TurnEvent Data) : ServerEvent := ⟨event.type.text, event.written codec⟩

theorem takeLines_line {piece : Line} (unbroken : Unbroken piece) (final : Bool)
    (rest : List Char) :
    takeLines final [] (piece ++ '\n' :: rest) = endLine piece (takeLines final [] rest) := by
  rw [takeLines_unbroken unbroken, takeLines_lf, List.nil_append]

theorem EventType.text_unbroken (type : EventType) : Unbroken type.text := by
  cases type <;> exact unbroken_of_all (by decide)

theorem TurnEvent.written_unbroken (event : TurnEvent Data) : Unbroken (event.written codec) := by
  unfold written
  cases marshalled : codec.marshal event.data with
  | none => exact unbroken_of_all (by decide)
  | some text => exact codec.unbroken_marshal marshalled

theorem split_frame {before type between inner written after rest : Line}
    (inside : between = '\n' :: inner) (last : after = ['\n', '\n']) :
    before ++ type ++ between ++ written ++ after ++ rest =
      (before ++ type) ++ '\n' :: ((inner ++ written) ++ '\n' :: '\n' :: rest) := by
  subst inside last
  simp only [List.append_assoc, List.cons_append, List.nil_append]

theorem ping_eq : ping = ": ping".toList ++ ['\n', '\n'] := by decide

theorem data_eq : "\ndata: ".toList = '\n' :: "data: ".toList := by decide

theorem end_eq : "\n\n".toList = ['\n', '\n'] := by decide

theorem takeLines_frame (final : Bool) (sent : Option (TurnEvent Data)) (rest : List Char) :
    takeLines final [] (frameText codec sent ++ rest) =
      (frameLines codec sent ++ (takeLines final [] rest).1, (takeLines final [] rest).2) := by
  cases sent with
  | none =>
      have plain : Unbroken ": ping".toList := unbroken_of_all (by decide)
      have split : frameText codec none ++ rest = ": ping".toList ++ '\n' :: '\n' :: rest := by
        rw [frameText, ping_eq, List.append_assoc]
        rfl
      rw [split, takeLines_line plain, takeLines_lf]
      rfl
  | some event =>
      have first : Unbroken ("event: ".toList ++ event.type.text) :=
        Unbroken.append (unbroken_of_all (by decide)) event.type.text_unbroken
      have second : Unbroken ("data: ".toList ++ event.written codec) :=
        Unbroken.append (unbroken_of_all (by decide)) (event.written_unbroken codec)
      have split : frameText codec (some event) ++ rest =
          ("event: ".toList ++ event.type.text) ++
            '\n' :: (("data: ".toList ++ event.written codec) ++ '\n' :: '\n' :: rest) :=
        split_frame data_eq end_eq
      rw [split, takeLines_line first, takeLines_line second, takeLines_lf]
      rfl

theorem takeLines_frames (final : Bool) (sent : List (Option (TurnEvent Data))) :
    takeLines final [] (sent.map (frameText codec)).flatten =
      (sent.flatMap (frameLines codec), []) := by
  induction sent with
  | nil => rfl
  | cons frame rest induction =>
      rw [List.map_cons, List.flatten_cons, takeLines_frame, induction]
      rfl

theorem dispatch_frame (sent : Option (TurnEvent Data)) :
    dispatch {} (frameLines codec sent) = ({}, (sent.map (TurnEvent.frame codec)).toList) := by
  cases sent with
  | none => rfl
  | some event =>
      have named : dispatchLine {} ("event: ".toList ++ event.type.text) =
          ({ event := event.type.text }, []) := by
        simp [dispatchLine]
      have filled : ∀ fields : Fields,
          dispatchLine fields ("data: ".toList ++ event.written codec) =
            ({ fields with data := fields.data ++ [event.written codec] }, []) := by
        intro fields
        simp [dispatchLine]
      have called : event.type.text ≠ [] := by cases event.type <;> decide
      simp only [frameLines, dispatch, named, filled]
      simp [dispatchLine, called, TurnEvent.frame]

theorem dispatch_frames (sent : List (Option (TurnEvent Data))) :
    dispatch {} (sent.flatMap (frameLines codec)) =
      ({}, (sent.filterMap id).map (TurnEvent.frame codec)) := by
  induction sent with
  | nil => rfl
  | cons frame rest induction =>
      rw [List.flatMap_cons, dispatch_append, dispatch_frame, induction]
      cases frame <;> rfl

/-! ## Runs -/

def emitted (acts : List (Act Data)) : List (TurnEvent Data) :=
  acts.filterMap fun
    | .emit event => some event
    | _ => none

/-- A response that is closed has no turn behind it. -/
def Response.Ended (response : Response) : Prop := response.closed = true → response.running = false

theorem Response.act_frames {response after : Response} {act : Act Data} (ended : response.Ended)
    (acted : response.act codec act = some after) :
    after.Ended ∧ ∃ sent : List (Option (TurnEvent Data)),
      after.frames = response.frames ++ sent.map (frameText codec) ∧
        sent.filterMap id = emitted [act] := by
  cases act with
  | emit event =>
      simp only [Response.act] at acted
      split at acted
      case isFalse => cases acted
      case isTrue running =>
        have opened : response.closed = false :=
          Bool.eq_false_iff.mpr fun closed => Bool.false_ne_true ((ended closed).symm.trans running)
        cases acted
        unfold write
        rw [if_neg (Bool.eq_false_iff.mp opened)]
        exact ⟨fun closed => absurd (opened.symm.trans closed) Bool.false_ne_true,
          [some event], rfl, rfl⟩
  | ping =>
      cases acted
      unfold write
      split
      · exact ⟨ended, [], (List.append_nil _).symm, rfl⟩
      · exact ⟨ended, [none], rfl, rfl⟩
  | ran =>
      simp only [Response.act] at acted
      split at acted
      · cases acted
        exact ⟨fun _ => rfl, [], (List.append_nil _).symm, rfl⟩
      · cases acted
  | close =>
      simp only [Response.act] at acted
      split at acted
      · cases acted
      · rename_i stopped
        cases acted
        exact ⟨fun _ => Bool.eq_false_iff.mpr stopped, [], (List.append_nil _).symm, rfl⟩

theorem Response.acts_frames {response last : Response} (ended : response.Ended)
    {acts : List (Act Data)} (ran : acts.foldlM (Response.act codec) response = some last) :
    ∃ sent : List (Option (TurnEvent Data)),
      last.frames = response.frames ++ sent.map (frameText codec) ∧
        sent.filterMap id = emitted acts := by
  induction acts generalizing response with
  | nil =>
      cases ran
      exact ⟨[], (List.append_nil _).symm, rfl⟩
  | cons act rest induction =>
      rw [List.foldlM_cons] at ran
      rcases Option.bind_eq_some_iff.mp ran with ⟨middle, acted, remaining⟩
      rcases act_frames codec ended acted with ⟨still, first, wrote, told⟩
      rcases induction still remaining with ⟨second, wroteLater, toldLater⟩
      refine ⟨first ++ second, ?_, ?_⟩
      · rw [wroteLater, wrote, List.map_append, List.append_assoc]
      · rw [List.filterMap_append, told, toldLater, emitted, emitted, emitted,
          ← List.filterMap_append, List.singleton_append]

theorem accept_frame (event : TurnEvent Data) :
    accept codec (event.frame codec) = some (event.told codec) := by
  have known : event.type.text ∈ eventTypes := by cases event.type <;> decide
  have read : codec.parse (event.written codec) = some (event.told codec).payload := by
    unfold TurnEvent.written TurnEvent.told
    cases marshalled : codec.marshal event.data with
    | none => exact codec.parse_empty
    | some text => exact codec.parse_marshal marshalled
  rw [accept, TurnEvent.frame, if_pos known, read]
  rfl

theorem head_frames (sent : List (Option (TurnEvent Data))) :
    (sent.map (frameText codec)).flatten.head? ≠ some byteOrderMark := by
  cases sent with
  | nil => nofun
  | cons frame rest =>
      rw [List.map_cons, List.flatten_cons]
      cases frame with
      | none =>
          have colon : (ping ++ (rest.map (frameText codec)).flatten).head? = some ':' := rfl
          exact fun mark => absurd (colon.symm.trans mark) (by decide)
      | some event =>
          have letter : (event.encode codec ++ (rest.map (frameText codec)).flatten).head? =
              some 'e' := rfl
          exact fun mark => absurd (letter.symm.trans mark) (by decide)

theorem reads_frames {sent : List (Option (TurnEvent Data))} {chunks : List (List UInt8)}
    (whole : chunks.flatten = encode (sent.map (frameText codec)).flatten) :
    (Reader.reads {} chunks).2 = (sent.filterMap id).map (TurnEvent.frame codec) ∧
      (Reader.reads {} chunks).1.finish = [] := by
  have text := TextDecoder.decode_encode (head_frames codec sent)
  have read : Reader.reads {} chunks =
      Reader.take {} false (TextDecoder.decode {} chunks.flatten).1
        (TextDecoder.decode {} chunks.flatten).2 := Reader.reads_eq (by rfl) chunks
  rw [whole, text.1, Reader.take] at read
  have lines : takeLines false [] ([] ++ (sent.map (frameText codec)).flatten) =
      (sent.flatMap (frameLines codec), []) := takeLines_frames codec false sent
  dsimp only at read
  rw [lines, dispatch_frames] at read
  rw [read]
  refine ⟨rfl, ?_⟩
  unfold Reader.finish Reader.take
  dsimp only
  rw [text.2]
  rfl

theorem filterMap_accept (events : List (TurnEvent Data)) :
    (events.map (TurnEvent.frame codec)).filterMap (accept codec) =
      events.map (TurnEvent.told codec) := by
  induction events with
  | nil => rfl
  | cons event rest induction =>
      rw [List.map_cons, List.filterMap_cons, accept_frame, induction]
      rfl

theorem events_of_wire {acts : List (Act Data)} {last : Response}
    (ran : acts.foldlM (Response.act codec) {} = some last) {chunks : List (List UInt8)}
    (whole : chunks.flatten = last.wire) :
    yielded codec chunks = (emitted acts).map (TurnEvent.told codec) ∧
      streamChat codec chunks = (emitted acts).map (TurnEvent.told codec) := by
  rcases Response.acts_frames codec (fun closed => absurd closed Bool.false_ne_true) ran with
    ⟨sent, wrote, told⟩
  have wire : last.wire = encode (sent.map (frameText codec)).flatten := by
    rw [Response.wire, wrote, List.nil_append]
  have read := reads_frames codec (whole.trans wire)
  rw [yielded, streamChat, readSSE]
  dsimp only
  rw [read.1, read.2, List.append_nil, filterMap_accept, told]
  exact ⟨rfl, rfl⟩

/-- The client yields each event of a turn as soon as its frame has come, in order and once:
whatever else has come, the events of every earlier part of the run that has come whole are
yielded. A connection that breaks only costs it the last events. Pings, and where the network
cuts the bytes, make no difference. -/
theorem streamChat_emitted {acts : List (Act Data)} {last : Response}
    (ran : acts.foldlM (Response.act codec) {} = some last) (chunks : List (List UInt8)) :
    (chunks.flatten = last.wire →
      yielded codec chunks = (emitted acts).map (TurnEvent.told codec) ∧
        streamChat codec chunks = (emitted acts).map (TurnEvent.told codec)) ∧
      (chunks.flatten <+: last.wire →
        streamChat codec chunks <+: (emitted acts).map (TurnEvent.told codec) ∧
        yielded codec chunks <+: (emitted acts).map (TurnEvent.told codec) ∧
        ∀ before after early, acts = before ++ after →
          before.foldlM (Response.act codec) {} = some early → early.wire <+: chunks.flatten →
            (emitted before).map (TurnEvent.told codec) <+: yielded codec chunks) := by
  refine ⟨events_of_wire codec ran, fun cut => ?_⟩
  have all := events_of_wire codec ran List.flatten_singleton
  refine ⟨?_, ?_, ?_⟩
  · rw [← all.2]
    exact (isPrefix_readSSE (List.flatten_singleton ▸ cut)).filterMap _
  · rw [← all.1]
    exact (isPrefix_reads (List.flatten_singleton ▸ cut)).filterMap _
  · intro before after early _ ranBefore come
    rw [← (events_of_wire codec ranBefore List.flatten_singleton).1]
    exact (isPrefix_reads (List.flatten_singleton ▸ come)).filterMap _

/-- The data of `done`: whether the conversation is full. -/
def fullText : Bool → Line
  | true => "\x7b\"full\":true\x7d".toList
  | false => "\x7b\"full\":false\x7d".toList

def fullCodec : Codec Bool (Option Bool) where
  marshal full := some (fullText full)
  parse text :=
    if text = fullText true then some (some true)
    else if text = fullText false then some (some false)
    else if text = "{}".toList then some none
    else none
  view full := some full
  empty := none
  unbroken_marshal {full} {text} marshalled := by
    have same := Option.some.inj marshalled
    subst same
    cases full <;> exact unbroken_of_all (by decide)
  parse_marshal {full} {text} marshalled := by
    have same := Option.some.inj marshalled
    subst same
    cases full <;> decide
  parse_empty := by decide

/-- A turn of two events, with pings around them. -/
def endingTurn : List (Act Bool) :=
  [.ping, .emit ⟨.turnStart, true⟩, .ping, .emit ⟨.done, false⟩, .ran, .close, .ping]

def endingWire : List UInt8 :=
  Response.wire ((endingTurn.foldlM (Response.act fullCodec) {}).getD {})

/-- The second chunk ends inside the second event, whose rest comes last. -/
theorem streamChat_emitted_endingTurn :
    [⟨"turn_start".toList, some true⟩] <+:
        yielded fullCodec [endingWire.take 20, (endingWire.drop 20).take 45] ∧
      streamChat fullCodec
          [endingWire.take 20, (endingWire.drop 20).take 45, endingWire.drop 65] =
        [⟨"turn_start".toList, some true⟩, ⟨"done".toList, some false⟩] := by
  have ran : endingTurn.foldlM (Response.act fullCodec) {} =
      some ((endingTurn.foldlM (Response.act fullCodec) {}).getD {}) := rfl
  have first : (endingTurn.take 2).foldlM (Response.act fullCodec) {} =
      some (((endingTurn.take 2).foldlM (Response.act fullCodec) {}).getD {}) := rfl
  constructor
  · exact ((streamChat_emitted fullCodec ran _).2 (by decide)).2.2 (endingTurn.take 2)
      (endingTurn.drop 2) _ rfl first (by decide)
  · exact ((streamChat_emitted fullCodec ran _).1 (by decide)).2

end HomelabBuilder.Assistant
