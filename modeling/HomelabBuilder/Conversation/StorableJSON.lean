import Mathlib.Data.Char
import Mathlib.Data.List.Lex
import Std.Data.String.ToInt
import HomelabBuilder.Foundation.JsonStrings

/-! # Parts as PostgreSQL keeps them

`Append` and `DecodeParts` of `assistant_thread_service.go`: the parts of a message are
written as one JSON document, the input of a call as the model spelled it, and a document
that mentions NUL is read and written anew. Documents are UTF-8.
-/

namespace HomelabBuilder.Conversation.Storing

open JsonText

/-! ## Strings -/

/-- A Go string by its characters; `none` is a byte that belongs to none of them. -/
abbrev GoString := List (Option Char)

def goString (text : String) : GoString := text.toList.map some

/-- `json.Marshal` of a string; a byte that belongs to no character becomes U+FFFD. -/
def encodeGo (text : GoString) : Spelling :=
  text.map fun
    | some char => encodeChar char
    | none => .unicode (.ofCode 0xFFFD)

theorem encodeGo_map_some (text : List Char) : encodeGo (text.map some) = encode text := by
  rw [encodeGo, encode, List.map_map]
  rfl

theorem exists_map_some : ∀ {text : GoString}, none ∉ text → ∃ chars : List Char,
    text = chars.map some
  | [], _ => ⟨[], rfl⟩
  | none :: _, whole => absurd List.mem_cons_self whole
  | some char :: _, whole => by
      rcases exists_map_some (List.not_mem_of_not_mem_cons whole) with ⟨rest, rfl⟩
      exact ⟨char :: rest, rfl⟩

theorem none_not_mem_map_some (text : List Char) : none ∉ text.map some := by
  intro listed
  rcases List.mem_map.mp listed with ⟨char, _, absurd_⟩
  cases absurd_

theorem paired_encodeGo (text : GoString) : Paired (encodeGo text) := by
  induction text with
  | nil => trivial
  | cons char rest induction =>
      cases char with
      | none => exact (paired_unicode (by decide) _).mpr induction
      | some char => exact (paired_encodeChar char _).mpr induction

/-! ## Parts -/

/-- A part of a message, its input as a document of its own. -/
structure StoredPart where
  type : GoString := []
  text : GoString := []
  id : GoString := []
  name : GoString := []
  input : Option Doc := none
  content : GoString := []
  isError : Bool := false
  summary : GoString := []
  durationMS : Int := 0
  proposalID : GoString := []

/-- The strings of a part. -/
def StoredPart.texts (part : StoredPart) : List GoString :=
  [part.type, part.text, part.id, part.name, part.content, part.summary, part.proposalID]

/-- All strings of a part are valid UTF-8. -/
def StoredPart.IsText (part : StoredPart) : Prop := ∀ text ∈ part.texts, none ∉ text

inductive PartField
  | type
  | text
  | id
  | name
  | input
  | content
  | isError
  | summary
  | durationMS
  | proposalID
  deriving DecidableEq

namespace PartField

def all : List PartField :=
  [.type, .text, .id, .name, .input, .content, .isError, .summary, .durationMS, .proposalID]

theorem mem_all (field : PartField) : field ∈ all := by cases field <;> decide

def key : PartField → List Char
  | .type => "type".toList
  | .text => "text".toList
  | .id => "id".toList
  | .name => "name".toList
  | .input => "input".toList
  | .content => "content".toList
  | .isError => "is_error".toList
  | .summary => "summary".toList
  | .durationMS => "duration_ms".toList
  | .proposalID => "proposal_id".toList

end PartField

/-- A string that is left out when it is empty. -/
def omitEmpty (text : GoString) : Option Doc :=
  if text = [] then none else some (.str (encodeGo text))

/-- What `json.Marshal` writes for a field, if anything. -/
def StoredPart.written (part : StoredPart) : PartField → Option Doc
  | .type => some (.str (encodeGo part.type))
  | .text => omitEmpty part.text
  | .id => omitEmpty part.id
  | .name => omitEmpty part.name
  | .input => part.input.map (JsonTree.map (List.map escapeMarkup))
  | .content => omitEmpty part.content
  | .isError => if part.isError then some (.bool true) else none
  | .summary => omitEmpty part.summary
  | .durationMS => if part.durationMS = 0 then none else some (.num part.durationMS.repr)
  | .proposalID => omitEmpty part.proposalID

def StoredPart.members (part : StoredPart) : List (Spelling × Doc) :=
  PartField.all.filterMap fun field =>
    (part.written field).map fun value => (encode field.key, value)

def marshal (parts : List StoredPart) : Doc := .arr (parts.map fun part => .obj part.members)

/-! ## Storing -/

abbrev Member := List Char × JsonTree (List Char)

/-- The order in which a loop meets the entries of a map. -/
structure MapOrder where
  arrange : List Member → List Member
  rearranges : ∀ members, (arrange members).Perm members

/-- How deep `encoding/json` reads. -/
def maxNesting : Nat := 10000

def stripNUL (text : List Char) : List Char := text.filter (· ≠ nul)

/-- Decoding into maps: of equal keys the last one counts. -/
def decodeAny (doc : Doc) : JsonTree (List Char) := (doc.map decode).rebuild id id

def withoutNUL (order : MapOrder) (value : JsonTree (List Char)) : JsonTree (List Char) :=
  value.rebuild order.arrange stripNUL

def sortMembers (members : List Member) : List Member :=
  members.mergeSort fun left right => decide (left.1 ≤ right.1)

/-- The entries of a map are written in the order of their keys. -/
def marshalAny (value : JsonTree (List Char)) : Doc := (value.rebuild sortMembers id).map encode

def rewritten (order : MapOrder) (doc : Doc) : Doc :=
  marshalAny (withoutNUL order (decodeAny doc))

def storableJSON (order : MapOrder) (raw : Doc) : Option Doc :=
  if MentionsNUL raw then
    if raw.depth ≤ maxNesting then some (rewritten order raw) else none
  else some raw

/-- The document `Append` stores, none when it fails. -/
def append (order : MapOrder) (parts : List StoredPart) : Option Doc :=
  storableJSON order (marshal parts)

/-! ## Reading -/

/-- The last member of that name, in whatever case it is written. -/
def readMember (members : List (Spelling × Doc)) (field : PartField) : Option Doc :=
  (members.reverse.find? fun member =>
    (decode member.1).map Char.toLower = field.key.map Char.toLower).map Prod.snd

def asText : Option Doc → GoString
  | some (.str spelling) => (decode spelling).map some
  | _ => []

def asFlag : Option Doc → Bool
  | some (.bool value) => value
  | _ => false

def asWhole : Option Doc → Int
  | some (.num literal) => literal.toInt?.getD 0
  | _ => 0

def decodePart : Doc → StoredPart
  | .obj members =>
      { type := asText (readMember members .type)
        text := asText (readMember members .text)
        id := asText (readMember members .id)
        name := asText (readMember members .name)
        input := readMember members .input
        content := asText (readMember members .content)
        isError := asFlag (readMember members .isError)
        summary := asText (readMember members .summary)
        durationMS := asWhole (readMember members .durationMS)
        proposalID := asText (readMember members .proposalID) }
  | _ => {}

def decodeParts (doc : Doc) : List StoredPart :=
  if doc.depth ≤ maxNesting then
    match doc with
    | .arr items => items.map decodePart
    | _ => []
  else []

/-! ## What is asked of them -/

/-- What `jsonb` takes. -/
def Accepted (doc : Doc) : Prop := doc.All fun spelling => Paired spelling ∧ FreeOfNUL spelling

/-- What a spelling means, without NUL. -/
def plainText (spelling : Spelling) : List Char := stripNUL (decode spelling)

/-- A string without its NUL characters. -/
def dropNUL (text : GoString) : GoString := text.filter (· ≠ some nul)

/-- The second part says what the first one says apart from NUL characters and the order
of members in its input. -/
structure ReadsAs (part other : StoredPart) : Prop where
  type : other.type = dropNUL part.type
  text : other.text = dropNUL part.text
  id : other.id = dropNUL part.id
  name : other.name = dropNUL part.name
  input : Option.Rel (fun doc read => JsonTree.Same (doc.map plainText) (read.map decode))
    part.input other.input
  content : other.content = dropNUL part.content
  isError : other.isError = part.isError
  summary : other.summary = dropNUL part.summary
  durationMS : other.durationMS = part.durationMS
  proposalID : other.proposalID = dropNUL part.proposalID

/-- A document is stored that the database takes and that holds all parts. -/
def StoresWhole (order : MapOrder) (parts : List StoredPart) : Prop :=
  ∃ stored, append order parts = some stored ∧ Accepted stored ∧
    List.Forall₂ ReadsAs parts (decodeParts stored)

def inputs (parts : List StoredPart) : List Doc := parts.filterMap StoredPart.input

/-! ## A document written anew -/

section Rewritten

variable (order : MapOrder)

theorem sortMembers_perm (members : List Member) : (sortMembers members).Perm members :=
  List.mergeSort_perm members _

theorem id_rearranges (members : List Member) : (id members).Perm members := .refl _

theorem rewritten_arr (items : List Doc) :
    rewritten order (.arr items) = .arr (items.map (rewritten order)) := by
  simp only [rewritten, marshalAny, withoutNUL, decodeAny, JsonTree.map_arr, JsonTree.rebuild_arr,
    List.map_map]
  rfl

theorem decode_rewritten (doc : Doc) :
    (rewritten order doc).map decode =
      (withoutNUL order (decodeAny doc)).rebuild sortMembers id := by
  rw [rewritten, marshalAny, JsonTree.map_map]
  simp only [decode_encode, JsonTree.map_id]

theorem rewritten_obj {members : List (Spelling × Doc)}
    (apart : JsonTree.KeysApart plainText members) :
    ∃ built, rewritten order (.obj members) = .obj built ∧
      (members.map fun member => (encode (plainText member.1), rewritten order member.2)).Perm
        built := by
  have plain : JsonTree.KeysApart id
      (members.map fun member => (decode member.1, member.2.map decode)) := by
    rw [JsonTree.KeysApart, List.map_map]
    have keys : ((members.map fun member => decode member.1).map stripNUL).Nodup := by
      rw [List.map_map]
      exact apart
    exact keys.of_map
  rcases JsonTree.rebuild_obj_perm id_rearranges plain with ⟨first, isFirst, firstOrder⟩
  have stripped : JsonTree.KeysApart stripNUL first := by
    rw [JsonTree.KeysApart, ← (firstOrder.map fun member => stripNUL member.1).nodup_iff,
      List.map_map, List.map_map]
    exact apart
  rcases JsonTree.rebuild_obj_perm order.rearranges stripped with ⟨second, isSecond, secondOrder⟩
  have sortable : JsonTree.KeysApart id second := by
    rw [JsonTree.KeysApart, ← (secondOrder.map fun member => id member.1).nodup_iff, List.map_map]
    exact stripped
  rcases JsonTree.rebuild_obj_perm sortMembers_perm sortable with ⟨third, isThird, thirdOrder⟩
  refine ⟨third.map fun member => (encode member.1, member.2.map encode), ?_, ?_⟩
  · rw [rewritten, marshalAny, withoutNUL, decodeAny, JsonTree.map_obj, isFirst, isSecond, isThird,
      JsonTree.map_obj]
  · have all := (((firstOrder.map _).trans secondOrder).map _).trans thirdOrder
    have written := all.map fun member => (encode member.1, member.2.map encode)
    rw [List.map_map, List.map_map, List.map_map, List.map_map] at written
    exact written

theorem apart_decodeAny {doc : Doc} (apart : JsonTree.Apart plainText doc) :
    JsonTree.Same (doc.map decode) (decodeAny doc) ∧ JsonTree.Apart stripNUL (decodeAny doc) := by
  have stripped : JsonTree.Apart stripNUL (doc.map decode) := JsonTree.apart_map.mpr apart
  have plain : JsonTree.Apart id (doc.map decode) := JsonTree.Apart.of_comp (g := stripNUL) stripped
  have same := JsonTree.same_rebuild id_rearranges plain
  rw [JsonTree.map_map] at same
  exact ⟨same, same.apart_iff.mp stripped⟩

theorem same_rewritten {doc : Doc} (apart : JsonTree.Apart plainText doc) :
    JsonTree.Same (doc.map plainText) ((rewritten order doc).map decode) := by
  rcases apart_decodeAny apart with ⟨decoded, stripped⟩
  have strip := decoded.map stripNUL
  rw [JsonTree.map_map] at strip
  have cleaned := JsonTree.same_rebuild order.rearranges stripped
  have sortable : JsonTree.Apart id (withoutNUL order (decodeAny doc)) :=
    cleaned.apart_iff.mp (JsonTree.apart_map.mpr stripped)
  have sorted := JsonTree.same_rebuild sortMembers_perm sortable
  have whole := strip.trans cleaned
  rw [decode_rewritten]
  exact whole.trans ((JsonTree.map_id _ ▸ sorted :))

theorem apart_of_same {doc : Doc}
    (same : JsonTree.Same (doc.map plainText) ((rewritten order doc).map decode)) :
    JsonTree.Apart plainText doc := by
  have count := same.members_eq
  rw [decode_rewritten, JsonTree.members_map] at count
  have first := JsonTree.members_rebuild (f := id) id_rearranges (doc.map decode)
  have second := JsonTree.members_rebuild (f := stripNUL) order.rearranges (decodeAny doc)
  have third := JsonTree.members_rebuild (f := id) sortMembers_perm (withoutNUL order (decodeAny doc))
  rw [JsonTree.members_map] at first
  have plain : JsonTree.Apart id (doc.map decode) := first.2 (by
    have low := second.1
    have lower := third.1
    have top := first.1
    rw [decodeAny, withoutNUL] at *
    omega)
  have stripped : JsonTree.Apart stripNUL (decodeAny doc) := second.2 (by
    have low := second.1
    have lower := third.1
    have top := first.1
    rw [decodeAny, withoutNUL] at *
    omega)
  have decoded := JsonTree.same_rebuild id_rearranges plain
  rw [JsonTree.map_map] at decoded
  have back := decoded.apart_iff.mpr stripped
  rw [JsonTree.apart_map] at back
  exact back

theorem nul_not_mem_stripNUL (text : List Char) : nul ∉ stripNUL text := by
  rw [stripNUL, List.mem_filter]
  exact fun both => of_decide_eq_true both.2 rfl

theorem accepted_rewritten (doc : Doc) : Accepted (rewritten order doc) := by
  have clean : (withoutNUL order (decodeAny doc)).All (nul ∉ ·) :=
    JsonTree.all_rebuild order.rearranges (JsonTree.all_of_forall nul_not_mem_stripNUL _)
  have sorted : ((withoutNUL order (decodeAny doc)).rebuild sortMembers id).All (nul ∉ ·) :=
    JsonTree.all_rebuild sortMembers_perm clean
  rw [Accepted, rewritten, marshalAny, JsonTree.all_map]
  exact sorted.imp fun text free => ⟨paired_encode text, freeOfNUL_encode free⟩

theorem depth_rewritten {doc : Doc} {limit : Nat} (shallow : doc.depth ≤ limit) :
    (rewritten order doc).depth ≤ limit := by
  rw [rewritten, marshalAny, JsonTree.depth_map]
  apply JsonTree.depth_rebuild_le sortMembers_perm
  apply JsonTree.depth_rebuild_le order.rearranges
  apply JsonTree.depth_rebuild_le id_rearranges
  rwa [JsonTree.depth_map]

end Rewritten

/-! ## Fields -/

theorem nodup_fieldKeys : (PartField.all.map fun field => field.key.map Char.toLower).Nodup := by
  decide

theorem key_clean (field : PartField) : stripNUL field.key = field.key := by
  cases field <;> decide

theorem readMember_perm {part : StoredPart} {change : Doc → Doc} {members : List (Spelling × Doc)}
    (order : (PartField.all.filterMap fun field =>
      (part.written field).map fun value => (encode field.key, change value)).Perm members)
    (field : PartField) : readMember members field = (part.written field).map change := by
  have keys : (PartField.all.filterMap fun field => (part.written field).map fun value =>
      (encode field.key, change value)).map (fun member => (decode member.1).map Char.toLower) =
        (PartField.all.filter fun field => (part.written field).isSome).map
          fun field => field.key.map Char.toLower := by
    induction PartField.all with
    | nil => rfl
    | cons head rest induction =>
        rw [List.filterMap_cons, List.filter_cons]
        cases part.written head with
        | none => exact induction
        | some value =>
            rw [Option.map_some, Option.isSome_some, if_pos rfl, List.map_cons, List.map_cons,
              induction, decode_encode]
  have distinct : (members.map fun member => (decode member.1).map Char.toLower).Nodup := by
    rw [← (order.map _).nodup_iff, keys]
    exact nodup_fieldKeys.sublist (List.filter_sublist.map _)
  rw [readMember]
  cases value : part.written field with
  | some given =>
      have listed : (encode field.key, change given) ∈ members :=
        order.mem_iff.mp (List.mem_filterMap.mpr ⟨field, field.mem_all, by rw [value]; rfl⟩)
      have found := Keyed.find?_reverse_key distinct listed
      dsimp only at found
      rw [decode_encode] at found
      rw [found]
      rfl
  | none =>
      rw [Option.map_none, Option.map_eq_none_iff, List.find?_eq_none]
      intro member listed same
      rcases List.mem_filterMap.mp (order.mem_iff.mpr (List.mem_reverse.mp listed)) with
        ⟨other, _, read⟩
      rcases Option.map_eq_some_iff.mp read with ⟨given, isWritten, rfl⟩
      have equal := of_decide_eq_true same
      rw [decode_encode] at equal
      have isField := Keyed.eq_of_key_eq nodup_fieldKeys other.mem_all field.mem_all equal
      rw [isField, value] at isWritten
      cases isWritten

/-- How the reading of a field follows a change of its document. -/
structure Carries (part : StoredPart) (change : Doc → Doc) : Prop where
  text : ∀ text, none ∉ text → (∃ field, part.written field = some (.str (encodeGo text))) →
    asText (some (change (.str (encodeGo text)))) = dropNUL text
  bool : ∀ value, change (.bool value) = .bool value
  num : ∀ literal, change (.num literal) = .num literal
  input : ∀ doc, part.input = some doc →
    JsonTree.Same (doc.map plainText) ((change (doc.map (List.map escapeMarkup))).map decode)

theorem asText_omitEmpty {part : StoredPart} {change : Doc → Doc} (carries : Carries part change)
    (field : PartField) {text : GoString} (whole : none ∉ text)
    (written : part.written field = omitEmpty text) :
    asText ((omitEmpty text).map change) = dropNUL text := by
  rw [omitEmpty] at written ⊢
  split at written
  · rename_i empty
    rw [if_pos empty, empty]
    rfl
  · rename_i given
    rw [if_neg given]
    exact carries.text text whole ⟨field, written⟩

theorem decodePart_readsAs {part : StoredPart} {change : Doc → Doc}
    {members : List (Spelling × Doc)} (whole : part.IsText) (carries : Carries part change)
    (order : (PartField.all.filterMap fun field =>
      (part.written field).map fun value => (encode field.key, change value)).Perm members) :
    ReadsAs part (decodePart (.obj members)) where
  type := by
    change asText (readMember members .type) = _
    rw [readMember_perm order]
    exact carries.text part.type (whole _ (by simp [StoredPart.texts])) ⟨.type, rfl⟩
  text := by
    change asText (readMember members .text) = _
    rw [readMember_perm order]
    exact asText_omitEmpty carries .text (whole _ (by simp [StoredPart.texts])) rfl
  id := by
    change asText (readMember members .id) = _
    rw [readMember_perm order]
    exact asText_omitEmpty carries .id (whole _ (by simp [StoredPart.texts])) rfl
  name := by
    change asText (readMember members .name) = _
    rw [readMember_perm order]
    exact asText_omitEmpty carries .name (whole _ (by simp [StoredPart.texts])) rfl
  input := by
    change Option.Rel _ part.input (readMember members .input)
    rw [readMember_perm order]
    dsimp only [StoredPart.written]
    cases given : part.input with
    | none => exact .none
    | some doc => exact .some (carries.input doc given)
  content := by
    change asText (readMember members .content) = _
    rw [readMember_perm order]
    exact asText_omitEmpty carries .content (whole _ (by simp [StoredPart.texts])) rfl
  isError := by
    change asFlag (readMember members .isError) = _
    rw [readMember_perm order]
    dsimp only [StoredPart.written]
    cases part.isError with
    | false => rfl
    | true => rw [if_pos rfl, Option.map_some, carries.bool]; rfl
  summary := by
    change asText (readMember members .summary) = _
    rw [readMember_perm order]
    exact asText_omitEmpty carries .summary (whole _ (by simp [StoredPart.texts])) rfl
  durationMS := by
    change asWhole (readMember members .durationMS) = _
    rw [readMember_perm order]
    dsimp only [StoredPart.written]
    split
    · rename_i zero
      rw [zero]
      rfl
    · rw [Option.map_some, carries.num, asWhole, Int.toInt?_repr, Option.getD_some]
  proposalID := by
    change asText (readMember members .proposalID) = _
    rw [readMember_perm order]
    exact asText_omitEmpty carries .proposalID (whole _ (by simp [StoredPart.texts])) rfl

/-- What is read is valid UTF-8. -/
theorem isText_of_readsAs {part : StoredPart} {doc : Doc} (reads : ReadsAs part (decodePart doc)) :
    part.IsText := by
  have read : ∀ {text shown : GoString}, shown = dropNUL text → none ∉ shown → none ∉ text := by
    intro text shown same whole listed
    rw [same] at whole
    exact whole (List.mem_filter.mpr ⟨listed, rfl⟩)
  have shown : (decodePart doc).IsText := by
    have asText_whole : ∀ value, none ∉ asText value := by
      intro value
      unfold asText
      split
      · exact none_not_mem_map_some _
      · exact List.not_mem_nil
    unfold StoredPart.IsText StoredPart.texts decodePart
    split
    · simp only [List.forall_mem_cons, List.not_mem_nil, false_imp_iff, implies_true,
        asText_whole, not_false_eq_true, and_self]
    · simp
  simp only [StoredPart.IsText, StoredPart.texts, List.forall_mem_cons] at shown ⊢
  exact ⟨read reads.type shown.1, read reads.text shown.2.1, read reads.id shown.2.2.1,
    read reads.name shown.2.2.2.1, read reads.content shown.2.2.2.2.1,
    read reads.summary shown.2.2.2.2.2.1, read reads.proposalID shown.2.2.2.2.2.2.1, nofun⟩

/-! ## The document of a message -/

section Message

variable {parts : List StoredPart}

theorem mem_marshal_written {part : StoredPart} {field : PartField} {value : Doc}
    (written : part.written field = some value) : (encode field.key, value) ∈ part.members :=
  List.mem_filterMap.mpr ⟨field, field.mem_all, by rw [written]; rfl⟩

theorem written_input {part : StoredPart} {doc : Doc} (given : part.input = some doc) :
    part.written .input = some (doc.map (List.map escapeMarkup)) := by
  rw [StoredPart.written, given]
  rfl

theorem written_cases {part : StoredPart} {field : PartField} {value : Doc}
    (written : part.written field = some value) :
    (∃ text, value = .str (encodeGo text)) ∨
      (∃ doc, part.input = some doc ∧ value = doc.map (List.map escapeMarkup)) ∨
        value = .bool true ∨ ∃ literal, value = .num literal := by
  have text : ∀ {text : GoString}, omitEmpty text = some value →
      ∃ text, value = .str (encodeGo text) := by
    intro text some
    rw [omitEmpty] at some
    split at some
    · cases some
    · exact ⟨text, (Option.some.inj some).symm⟩
  cases field with
  | type => exact .inl ⟨part.type, (Option.some.inj written).symm⟩
  | input =>
      rcases Option.map_eq_some_iff.mp written with ⟨doc, given, rfl⟩
      exact .inr (.inl ⟨doc, given, rfl⟩)
  | isError =>
      rw [StoredPart.written] at written
      split at written <;> cases written
      exact .inr (.inr (.inl rfl))
  | durationMS =>
      rw [StoredPart.written] at written
      split at written <;> cases written
      exact .inr (.inr (.inr ⟨_, rfl⟩))
  | text => exact .inl (text written)
  | id => exact .inl (text written)
  | name => exact .inl (text written)
  | content => exact .inl (text written)
  | summary => exact .inl (text written)
  | proposalID => exact .inl (text written)

theorem all_members {P : Spelling → Prop} (encoded : ∀ text, P (encodeGo text)) {part : StoredPart} :
    (JsonTree.obj part.members).All P ↔ ∀ doc, part.input = some doc →
      doc.All fun spelling => P (spelling.map escapeMarkup) := by
  rw [JsonTree.all_obj]
  constructor
  · exact fun all doc given =>
      JsonTree.all_map.mp (all _ (mem_marshal_written (written_input given))).2
  · intro inner member listed
    rcases List.mem_filterMap.mp listed with ⟨field, _, read⟩
    rcases Option.map_eq_some_iff.mp read with ⟨value, written, rfl⟩
    refine ⟨encodeGo_map_some field.key ▸ encoded _, ?_⟩
    rcases written_cases written with ⟨text, rfl⟩ | ⟨doc, given, rfl⟩ | rfl | ⟨literal, rfl⟩
    · exact encoded text
    · exact JsonTree.all_map.mpr (inner doc given)
    · trivial
    · trivial

theorem mem_inputs {doc : Doc} : doc ∈ inputs parts ↔ ∃ part ∈ parts, part.input = some doc :=
  List.mem_filterMap

theorem paired_marshal : (marshal parts).All Paired ↔ ∀ doc ∈ inputs parts, doc.All Paired := by
  rw [marshal, JsonTree.all_arr, List.forall_mem_map]
  constructor
  · intro all doc listed
    rcases mem_inputs.mp listed with ⟨part, member, given⟩
    exact ((all_members paired_encodeGo).mp (all part member) doc given).imp
      fun spelling => (paired_escapeMarkup spelling).mp
  · intro all part member
    exact (all_members paired_encodeGo).mpr fun doc given =>
      (all doc (mem_inputs.mpr ⟨part, member, given⟩)).imp
        fun spelling => (paired_escapeMarkup spelling).mpr

theorem depth_marshal : (marshal parts).depth ≤ maxNesting ↔
    ∀ doc ∈ inputs parts, doc.depth ≤ maxNesting - 2 := by
  have ofPart : ∀ part : StoredPart, (JsonTree.obj part.members).depth ≤ maxNesting - 1 ↔
      ∀ doc, part.input = some doc → doc.depth ≤ maxNesting - 2 := by
    intro part
    change _ ≤ 9998 + 1 ↔ _
    rw [JsonTree.depth_obj_le]
    constructor
    · intro all doc given
      have shallow := all _ (mem_marshal_written (written_input given))
      rwa [JsonTree.depth_map] at shallow
    · intro inner member listed
      rcases List.mem_filterMap.mp listed with ⟨field, _, read⟩
      rcases Option.map_eq_some_iff.mp read with ⟨value, written, rfl⟩
      rcases written_cases written with ⟨text, rfl⟩ | ⟨doc, given, rfl⟩ | rfl | ⟨literal, rfl⟩
      · exact Nat.zero_le _
      · rw [JsonTree.depth_map]
        exact inner doc given
      · exact Nat.zero_le _
      · exact Nat.zero_le _
  rw [marshal]
  change _ ≤ 9999 + 1 ↔ _
  rw [JsonTree.depth_arr_le, List.forall_mem_map]
  constructor
  · intro all doc listed
    rcases mem_inputs.mp listed with ⟨part, member, given⟩
    exact (ofPart part).mp (all part member) doc given
  · intro all part member
    exact (ofPart part).mpr fun doc given => all doc (mem_inputs.mpr ⟨part, member, given⟩)

/-! ## Whole messages -/

theorem carries_id {part : StoredPart} (free : (JsonTree.obj part.members).All FreeOfNUL) :
    Carries part id where
  text text whole given := by
    rcases given with ⟨field, written⟩
    have clean := (JsonTree.all_obj.mp free _ (mem_marshal_written written)).2
    have absent := nul_not_mem_decode clean
    rcases exists_map_some whole with ⟨chars, rfl⟩
    rw [encodeGo_map_some, decode_encode] at absent
    change (decode (encodeGo (chars.map some))).map some = _
    rw [encodeGo_map_some, decode_encode, dropNUL, List.filter_eq_self.mpr]
    rw [List.forall_mem_map]
    exact fun char listed => decide_eq_true fun same => absent (Option.some.inj same ▸ listed)
  bool value := rfl
  num literal := rfl
  input doc given := by
    have clean := JsonTree.all_map.mp
      (JsonTree.all_obj.mp free _ (mem_marshal_written (written_input given))).2
    have same : doc.map plainText = (doc.map (List.map escapeMarkup)).map decode := by
      rw [JsonTree.map_map]
      refine JsonTree.map_congr_of_all (clean.imp fun spelling free => ?_)
      have absent := nul_not_mem_decode (freeOfNUL_escapeMarkup.mp free)
      rw [decode_escapeMarkup, plainText, stripNUL, List.filter_eq_self.mpr]
      exact fun char listed => decide_eq_true fun same => absent (same ▸ listed)
    rw [same]
    exact .refl _

theorem map_plainText_escapeMarkup (doc : Doc) :
    (doc.map (List.map escapeMarkup)).map plainText = doc.map plainText := by
  rw [JsonTree.map_map]
  simp only [plainText, decode_escapeMarkup]
  rfl

theorem carries_rewritten (order : MapOrder) {part : StoredPart}
    (apart : ∀ doc, part.input = some doc → doc.Apart plainText) :
    Carries part (rewritten order) where
  text text whole _ := by
    rcases exists_map_some whole with ⟨chars, rfl⟩
    change (decode (encode (stripNUL (decode (encodeGo (chars.map some)))))).map some = _
    rw [encodeGo_map_some, decode_encode, decode_encode, dropNUL, stripNUL, List.filter_map]
    congr 2
    funext char
    simp
  bool value := rfl
  num literal := rfl
  input doc given := by
    rw [← map_plainText_escapeMarkup]
    apply same_rewritten
    rw [JsonTree.apart_map]
    simp only [plainText, decode_escapeMarkup]
    exact apart doc given

theorem members_keysApart (part : StoredPart) : JsonTree.KeysApart plainText part.members := by
  have keys : (part.members.map fun member => plainText member.1) =
      (PartField.all.filter fun field => (part.written field).isSome).map PartField.key := by
    rw [StoredPart.members]
    induction PartField.all with
    | nil => rfl
    | cons head rest induction =>
        rw [List.filterMap_cons, List.filter_cons]
        cases part.written head with
        | none => exact induction
        | some value =>
            rw [Option.map_some, Option.isSome_some, if_pos rfl, List.map_cons, List.map_cons,
              induction, plainText, decode_encode, key_clean]
  have distinct : (PartField.all.map PartField.key).Nodup := by decide
  rw [JsonTree.KeysApart, keys]
  exact distinct.sublist (List.filter_sublist.map _)

theorem rewritten_part (order : MapOrder) (part : StoredPart) :
    ∃ members, rewritten order (.obj part.members) = .obj members ∧
      (PartField.all.filterMap fun field => (part.written field).map fun value =>
        (encode field.key, rewritten order value)).Perm members := by
  rcases rewritten_obj order (members_keysApart part) with ⟨members, isBuilt, perm⟩
  refine ⟨members, isBuilt, ?_⟩
  have same : (PartField.all.filterMap fun field => (part.written field).map fun value =>
      (encode field.key, rewritten order value)) =
        part.members.map fun member => (encode (plainText member.1), rewritten order member.2) := by
    rw [StoredPart.members, List.map_filterMap]
    congr 1
    funext field
    rw [Option.map_map]
    cases part.written field with
    | none => rfl
    | some value =>
        rw [Option.map_some, Option.map_some, Function.comp_apply, plainText, decode_encode,
          key_clean]
  rw [same]
  exact perm

/-- Parts that are read are valid UTF-8. -/
theorem isText_of_decodeParts {doc : Doc} (reads : List.Forall₂ ReadsAs parts (decodeParts doc))
    {part : StoredPart} (member : part ∈ parts) : part.IsText := by
  rcases Keyed.exists_of_forall₂ reads member with ⟨other, listed, same⟩
  unfold decodeParts at listed
  split at listed
  · split at listed
    · rcases List.mem_map.mp listed with ⟨item, _, rfl⟩
      exact isText_of_readsAs same
    · cases listed
  · cases listed

theorem decodeParts_arr {items : List Doc} (shallow : (JsonTree.arr items).depth ≤ maxNesting) :
    decodeParts (.arr items) = items.map decodePart := by
  rw [decodeParts, if_pos shallow]

theorem storesWhole_unchanged (order : MapOrder) (silent : ¬MentionsNUL (marshal parts)) :
    StoresWhole order parts ↔ (∀ part ∈ parts, part.IsText) ∧
      (∀ doc ∈ inputs parts, doc.depth ≤ maxNesting - 2) ∧
        ∀ doc ∈ inputs parts, doc.All Paired := by
  have stores : append order parts = some (marshal parts) := if_neg silent
  have free := all_freeOfNUL silent
  rw [← depth_marshal, ← paired_marshal]
  constructor
  · rintro ⟨stored, isStored, accepted, reads⟩
    cases stores.symm.trans isStored
    refine ⟨fun part member => ?_, ?_, accepted.imp fun spelling => And.left⟩
    · exact isText_of_decodeParts reads member
    by_contra deep
    have none : decodeParts (marshal parts) = [] := if_neg deep
    rw [none] at reads
    cases reads
    exact deep (by decide)
  · rintro ⟨whole, shallow, paired⟩
    refine ⟨marshal parts, stores, ?_, ?_⟩
    · exact JsonTree.all_and.mpr ⟨paired, free⟩
    · rw [marshal] at shallow free ⊢
      rw [decodeParts_arr shallow, List.map_map, List.forall₂_map_right_iff, List.forall₂_same]
      intro part member
      rw [JsonTree.all_arr, List.forall_mem_map] at free
      exact decodePart_readsAs (whole part member) (carries_id (free part member)) (.of_eq (by rfl))

theorem readsAs_rewritten (order : MapOrder) (shallow : (marshal parts).depth ≤ maxNesting) :
    List.Forall₂ ReadsAs parts (decodeParts (rewritten order (marshal parts))) ↔
      ∀ part ∈ parts, ReadsAs part (decodePart (rewritten order (.obj part.members))) := by
  have depth := depth_rewritten order shallow
  rw [marshal, rewritten_arr] at depth ⊢
  rw [decodeParts_arr depth, List.map_map, List.map_map, List.forall₂_map_right_iff,
    List.forall₂_same]
  rfl

theorem storesWhole_rewritten (order : MapOrder) (mentions : MentionsNUL (marshal parts)) :
    StoresWhole order parts ↔ (∀ part ∈ parts, part.IsText) ∧
      (∀ doc ∈ inputs parts, doc.depth ≤ maxNesting - 2) ∧
        ∀ doc ∈ inputs parts, doc.Apart plainText := by
  rw [← depth_marshal]
  by_cases shallow : (marshal parts).depth ≤ maxNesting
  · have stores : append order parts = some (rewritten order (marshal parts)) := by
      rw [append, storableJSON, if_pos mentions, if_pos shallow]
    have reads := readsAs_rewritten order shallow
    rw [and_iff_right shallow]
    constructor
    · rintro ⟨stored, isStored, _, read⟩
      cases stores.symm.trans isStored
      refine ⟨fun part member => isText_of_decodeParts read member, fun doc listed => ?_⟩
      rcases mem_inputs.mp listed with ⟨part, member, given⟩
      rcases rewritten_part order part with ⟨members, isBuilt, perm⟩
      have input := (reads.mp read part member).input
      have found : (decodePart (.obj members)).input = _ := readMember_perm perm .input
      rw [isBuilt, found, written_input given, given] at input
      rw [Option.map_some] at input
      cases input with
      | some same =>
          rw [← map_plainText_escapeMarkup] at same
          have apart := apart_of_same order same
          rw [JsonTree.apart_map] at apart
          simp only [plainText, decode_escapeMarkup] at apart
          exact apart
    · rintro ⟨whole, apart⟩
      refine ⟨_, stores, accepted_rewritten order _, reads.mpr fun part member => ?_⟩
      rcases rewritten_part order part with ⟨members, isBuilt, perm⟩
      rw [isBuilt]
      exact decodePart_readsAs (whole part member)
        (carries_rewritten order fun doc given => apart doc (mem_inputs.mpr ⟨part, member, given⟩))
        perm
  · have fails : append order parts = none := by
      rw [append, storableJSON, if_pos mentions, if_neg shallow]
    constructor
    · rintro ⟨stored, isStored, _⟩
      cases fails.symm.trans isStored
    · exact fun all => absurd all.2.1 shallow

end Message

/-- Where what a message holds can be stored and read again. Strings must be UTF-8. An input
must leave room for the list and its part, and NUL anywhere in the message must not be all
that tells two keys apart; without NUL, surrogates must come in pairs. -/
theorem storesWhole_iff (order : MapOrder) (parts : List StoredPart) :
    StoresWhole order parts ↔ (∀ part ∈ parts, part.IsText) ∧
      (∀ doc ∈ inputs parts, doc.depth ≤ maxNesting - 2) ∧
        if MentionsNUL (marshal parts) then ∀ doc ∈ inputs parts, doc.Apart plainText
        else ∀ doc ∈ inputs parts, doc.All Paired := by
  split
  · rename_i mentions
    exact storesWhole_rewritten order mentions
  · rename_i silent
    exact storesWhole_unchanged order silent

/-- `["\ud800"]`. -/
def halfPair : Doc := .arr [.str [.unicode (.ofCode 0xD800)]]

/-- `{"a": 1, "a\u0000": 2}`. -/
def twoKeys : Doc :=
  .obj [(encode ['a'], .num "1"), (encode ['a', nul], .num "2")]

/-- Maps are met in the order they were written. -/
def MapOrder.written : MapOrder := ⟨id, fun members => .refl members⟩

/-- A half of a pair is stored as it is, a member is lost with NUL, and so is the byte of
a character that was cut. -/
theorem halfPair_and_twoKeys :
    ¬ StoresWhole .written [{ type := goString "tool_call", input := some halfPair }] ∧
      ¬ StoresWhole .written [{ type := goString "tool_call", input := some twoKeys }] ∧
      ¬ StoresWhole .written [{ type := goString "tool_result", content := [some 'a', none] }] := by
  refine ⟨?_, ?_, ?_⟩
  · have silent : ¬MentionsNUL
        (marshal [{ type := goString "tool_call", input := some halfPair }]) := by decide
    rw [storesWhole_iff, if_neg silent]
    intro both
    have paired := both.2.2 halfPair List.mem_cons_self
    rw [halfPair, JsonTree.all_arr] at paired
    have half := paired _ List.mem_cons_self
    exact absurd half.1 (by decide)
  · have mentions : MentionsNUL
        (marshal [{ type := goString "tool_call", input := some twoKeys }]) := by decide
    rw [storesWhole_iff, if_pos mentions]
    intro both
    have apart := both.2.2 twoKeys List.mem_cons_self
    rw [twoKeys, JsonTree.apart_obj, JsonTree.KeysApart] at apart
    exact absurd apart.1 (by decide)
  · rw [storesWhole_iff]
    intro all
    exact absurd (all.1 _ List.mem_cons_self) (by simp [StoredPart.IsText, StoredPart.texts])

end HomelabBuilder.Conversation.Storing
