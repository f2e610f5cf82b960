import HomelabBuilder.Foundation.Utf8

/-! # Reading a stream of events

`readSSE`: the chunks of a response are decoded, cut into lines and put together to
events. Where a chunk ends changes nothing.
-/

namespace HomelabBuilder.Assistant

open Utf8

abbrev Line := List Char

structure ServerEvent where
  event : List Char
  data : List Char
  deriving DecidableEq

/-! ## Lines -/

def endLine (line : Line) (more : List Line × Line) : List Line × Line := (line :: more.1, more.2)

/-- The lines of the buffer that have ended, and what is left of it; `line` is the part of the
buffer between `start` and `i`. -/
def takeLines (final : Bool) (line : Line) : List Char → List Line × Line
  | [] => ([], line)
  | char :: rest =>
      if char = '\n' then endLine line (takeLines final [] rest)
      else if char = '\r' then
        match rest with
        | [] => if final then ([line], []) else ([], line ++ [char])
        | next :: later =>
            if next = '\n' then endLine line (takeLines final [] later)
            else endLine line (takeLines final [] (next :: later))
      else takeLines final (line ++ [char]) rest

section Lines

variable (final : Bool) (line : Line) (rest : List Char)

theorem takeLines_lf :
    takeLines final line ('\n' :: rest) = endLine line (takeLines final [] rest) := by
  rw [takeLines.eq_def]
  simp

theorem takeLines_crlf :
    takeLines final line ('\r' :: '\n' :: rest) = endLine line (takeLines final [] rest) := by
  rw [takeLines.eq_def]
  simp

theorem takeLines_cr {next : Char} (different : next ≠ '\n') :
    takeLines final line ('\r' :: next :: rest) =
      endLine line (takeLines final [] (next :: rest)) := by
  rw [takeLines.eq_def]
  simp [different]

theorem takeLines_return : takeLines true line ['\r'] = ([line], []) := by
  rw [takeLines.eq_def]
  simp

theorem takeLines_char {char : Char} (plain : char ≠ '\n' ∧ char ≠ '\r') :
    takeLines final line (char :: rest) = takeLines final (line ++ [char]) rest := by
  rw [takeLines.eq_def]
  simp only [if_neg plain.1, if_neg plain.2]

end Lines

def Unbroken (line : Line) : Prop := ∀ char ∈ line, char ≠ '\n' ∧ char ≠ '\r'

theorem unbroken_of_all {line : Line}
    (plain : (line.all fun char => char != '\n' && char != '\r') = true) : Unbroken line := by
  intro char listed
  have both := List.all_eq_true.mp plain char listed
  simpa only [Bool.and_eq_true, bne_iff_ne] using both

theorem unbroken_nil : Unbroken [] := fun _ listed => absurd listed List.not_mem_nil

theorem Unbroken.append {first second : Line} (unbroken : Unbroken first)
    (also : Unbroken second) : Unbroken (first ++ second) := by
  intro char listed
  cases List.mem_append.mp listed with
  | inl earlier => exact unbroken char earlier
  | inr later => exact also char later

theorem Unbroken.append_char {line : Line} {char : Char} (unbroken : Unbroken line)
    (plain : char ≠ '\n' ∧ char ≠ '\r') : Unbroken (line ++ [char]) := by
  refine unbroken.append fun other listed => ?_
  exact List.mem_singleton.mp listed ▸ plain

theorem takeLines_unbroken {piece : Line} (unbroken : Unbroken piece) (final : Bool) (line : Line)
    (text : List Char) :
    takeLines final line (piece ++ text) = takeLines final (line ++ piece) text := by
  induction piece generalizing line with
  | nil => rw [List.nil_append, List.append_nil]
  | cons char rest induction =>
      have plain : Unbroken rest := fun char listed => unbroken char (List.mem_cons_of_mem _ listed)
      rw [List.cons_append, takeLines_char _ _ _ (unbroken char List.mem_cons_self), induction plain,
        List.append_assoc, List.singleton_append]

/-- The lines of a text that comes in two pieces: what the first piece leaves is read again. -/
theorem takeLines_append (final : Bool) (line : Line) (text more : List Char)
    (unbroken : Unbroken line) :
    takeLines final line (text ++ more) =
      ((takeLines false line text).1 ++
          (takeLines final [] ((takeLines false line text).2 ++ more)).1,
        (takeLines final [] ((takeLines false line text).2 ++ more)).2) := by
  fun_induction takeLines false line text with
  | case1 line => rw [takeLines_unbroken unbroken, List.nil_append, List.nil_append, List.nil_append]
  | case2 line rest induction =>
      rw [List.cons_append, takeLines_lf, induction unbroken_nil]
      rfl
  | case3 line never => cases never
  | case4 line =>
      rw [List.append_assoc, takeLines_unbroken unbroken, List.nil_append, List.nil_append]
  | case5 line rest _ induction =>
      rw [List.cons_append, List.cons_append, takeLines_crlf, induction unbroken_nil]
      rfl
  | case6 line next rest different _ induction =>
      rw [List.cons_append, List.cons_append, takeLines_cr _ _ _ different, ← List.cons_append,
        induction unbroken_nil]
      rfl
  | case7 line next rest noFeed noReturn induction =>
      rw [List.cons_append, takeLines_char _ _ _ ⟨noFeed, noReturn⟩,
        induction (unbroken.append_char ⟨noFeed, noReturn⟩)]

theorem takeLines_left {line : Line} (unbroken : Unbroken line) (text : List Char) :
    takeLines false [] (takeLines false line text).2 = ([], (takeLines false line text).2) := by
  have kept : ∀ line more, Unbroken line →
      takeLines false [] (line ++ more) = takeLines false line more :=
    fun line more unbroken => takeLines_unbroken unbroken false [] more
  fun_induction takeLines false line text with
  | case1 line =>
      have unended := kept line [] unbroken
      rw [List.append_nil] at unended
      exact unended
  | case2 line rest induction => exact induction unbroken_nil
  | case3 line never => cases never
  | case4 line =>
      rw [kept _ _ unbroken, takeLines.eq_def]
      simp
  | case5 line rest _ induction => exact induction unbroken_nil
  | case6 line next rest _ _ induction => exact induction unbroken_nil
  | case7 line next rest noFeed noReturn induction =>
      exact induction (unbroken.append_char ⟨noFeed, noReturn⟩)

theorem takeLines_prefix (line : Line) (text more : List Char) :
    (takeLines true line text).1 <+: (takeLines true line (text ++ more)).1 := by
  fun_induction takeLines true line text with
  | case1 line => exact List.nil_prefix
  | case2 line rest induction =>
      rw [List.cons_append, takeLines_lf]
      exact List.cons_prefix_cons.mpr ⟨rfl, induction⟩
  | case3 line =>
      cases more with
      | nil => rw [List.append_nil, takeLines_return]
      | cons next later =>
          rw [List.singleton_append]
          by_cases feed : next = '\n'
          · subst feed
            rw [takeLines_crlf]
            exact List.cons_prefix_cons.mpr ⟨rfl, List.nil_prefix⟩
          · rw [takeLines_cr _ _ _ feed]
            exact List.cons_prefix_cons.mpr ⟨rfl, List.nil_prefix⟩
  | case4 line never => exact absurd rfl never
  | case5 line rest _ induction =>
      rw [List.cons_append, List.cons_append, takeLines_crlf]
      exact List.cons_prefix_cons.mpr ⟨rfl, induction⟩
  | case6 line next rest different _ induction =>
      rw [List.cons_append, List.cons_append, takeLines_cr _ _ _ different, ← List.cons_append]
      exact List.cons_prefix_cons.mpr ⟨rfl, induction⟩
  | case7 line next rest noFeed noReturn induction =>
      rw [List.cons_append, takeLines_char _ _ _ ⟨noFeed, noReturn⟩]
      exact induction

theorem takeLines_ragged {piece : Line} (unbroken : Unbroken piece) (line : Line)
    (text : List Char) :
    (takeLines true line (text ++ piece)).1 = (takeLines true line text).1 := by
  have unended : ∀ line, (takeLines true line piece).1 = [] := by
    intro line
    rw [← List.append_nil piece, takeLines_unbroken unbroken]
    rfl
  fun_induction takeLines true line text with
  | case1 line => exact unended line
  | case2 line rest induction =>
      rw [List.cons_append, takeLines_lf, endLine, induction]
      rfl
  | case3 line =>
      cases piece with
      | nil => rw [List.append_nil, takeLines_return]
      | cons next later =>
          rw [List.singleton_append, takeLines_cr _ _ _ (unbroken next List.mem_cons_self).1, endLine,
            unended]
  | case4 line never => exact absurd rfl never
  | case5 line rest _ induction =>
      rw [List.cons_append, List.cons_append, takeLines_crlf, endLine, induction]
      rfl
  | case6 line next rest different _ induction =>
      rw [List.cons_append, List.cons_append, takeLines_cr _ _ _ different, ← List.cons_append,
        endLine, induction]
      rfl
  | case7 line next rest noFeed noReturn induction =>
      rw [List.cons_append, takeLines_char _ _ _ ⟨noFeed, noReturn⟩, induction]

/-! ## Events -/

/-- The fields of the event that is being read. -/
structure Fields where
  event : List Char := []
  data : List Line := []
  deriving DecidableEq

def dispatchLine (fields : Fields) (line : Line) : Fields × List ServerEvent :=
  if line = [] then
    ({}, if fields.data = [] then []
      else [⟨if fields.event = [] then "message".toList else fields.event,
        List.intercalate ['\n'] fields.data⟩])
  else if line.head? = some ':' then (fields, [])
  else
    let field := line.takeWhile (· ≠ ':')
    let value := (line.dropWhile (· ≠ ':')).tail
    let value := if value.head? = some ' ' then value.tail else value
    if field = "event".toList then ({ fields with event := value }, [])
    else if field = "data".toList then ({ fields with data := fields.data ++ [value] }, [])
    else (fields, [])

def dispatch : Fields → List Line → Fields × List ServerEvent
  | fields, [] => (fields, [])
  | fields, line :: rest =>
      let (after, events) := dispatchLine fields line
      let (last, later) := dispatch after rest
      (last, events ++ later)

structure Reader where
  decoder : TextDecoder := {}
  buffer : List Char := []
  fields : Fields := {}

/-- What `readSSE` does with a text that was decoded. -/
def Reader.take (reader : Reader) (final : Bool) (decoder : TextDecoder) (text : List Char) :
    Reader × List ServerEvent :=
  let (lines, left) := takeLines final [] (reader.buffer ++ text)
  let (fields, events) := dispatch reader.fields lines
  (⟨decoder, left, fields⟩, events)

def Reader.read (reader : Reader) (chunk : List UInt8) : Reader × List ServerEvent :=
  reader.take false (reader.decoder.decode chunk).1 (reader.decoder.decode chunk).2

def Reader.finish (reader : Reader) : List ServerEvent :=
  (reader.take true reader.decoder reader.decoder.flush).2

def Reader.reads (reader : Reader) : List (List UInt8) → Reader × List ServerEvent
  | [] => (reader, [])
  | chunk :: rest =>
      let (after, events) := reader.read chunk
      let (last, later) := Reader.reads after rest
      (last, events ++ later)

def readSSE (chunks : List (List UInt8)) : List ServerEvent :=
  let (last, events) := Reader.reads {} chunks
  events ++ last.finish

/-! ## Chunks -/

theorem dispatch_append (fields : Fields) (lines more : List Line) :
    dispatch fields (lines ++ more) =
      ((dispatch (dispatch fields lines).1 more).1,
        (dispatch fields lines).2 ++ (dispatch (dispatch fields lines).1 more).2) := by
  induction lines generalizing fields with
  | nil => rfl
  | cons line rest induction =>
      simp only [List.cons_append, dispatch, induction, List.append_assoc]

theorem dispatch_prefix (fields : Fields) {lines all : List Line} (cut : lines <+: all) :
    (dispatch fields lines).2 <+: (dispatch fields all).2 := by
  rcases cut with ⟨more, rfl⟩
  rw [dispatch_append]
  exact List.prefix_append _ _

/-- What a reader keeps back has no line that has ended. -/
def Reader.Settled (reader : Reader) : Prop :=
  takeLines false [] reader.buffer = ([], reader.buffer)

theorem Reader.reads_cons (reader : Reader) (chunk : List UInt8) (rest : List (List UInt8)) :
    reader.reads (chunk :: rest) =
      (((reader.read chunk).1.reads rest).1,
        (reader.read chunk).2 ++ ((reader.read chunk).1.reads rest).2) := rfl

theorem Reader.settled_take (reader : Reader) (decoder : TextDecoder) (text : List Char) :
    (reader.take false decoder text).1.Settled := takeLines_left unbroken_nil _

theorem Reader.take_append (reader : Reader) (final : Bool) (first second : TextDecoder)
    (text more : List Char) :
    reader.take final second (text ++ more) =
      (((reader.take false first text).1.take final second more).1,
        (reader.take false first text).2 ++
          ((reader.take false first text).1.take final second more).2) := by
  simp only [take]
  rw [← List.append_assoc, takeLines_append _ _ _ _ unbroken_nil, dispatch_append]

theorem Reader.reads_eq {reader : Reader} (settled : reader.Settled) (chunks : List (List UInt8)) :
    reader.reads chunks =
      reader.take false (reader.decoder.decode chunks.flatten).1
        (reader.decoder.decode chunks.flatten).2 := by
  induction chunks generalizing reader with
  | nil =>
      rw [List.flatten_nil, TextDecoder.decode_nil, take, List.append_nil, settled]
      rfl
  | cons chunk rest induction =>
      rw [reads_cons, read, induction (reader.settled_take _ _), List.flatten_cons,
        TextDecoder.decode_append, reader.take_append _ (reader.decoder.decode chunk).1]
      rfl

theorem isPrefix_reads {chunks all : List (List UInt8)} (cut : chunks.flatten <+: all.flatten) :
    (Reader.reads {} chunks).2 <+: (Reader.reads {} all).2 := by
  rcases cut with ⟨more, whole⟩
  rw [Reader.reads_eq (by rfl), Reader.reads_eq (by rfl), ← whole, TextDecoder.decode_append,
    Reader.take_append {} false (TextDecoder.decode {} chunks.flatten).1]
  exact List.prefix_append _ _

theorem readSSE_eq (chunks : List (List UInt8)) :
    readSSE chunks =
      (dispatch {} (takeLines true [] ((TextDecoder.decode {} chunks.flatten).2 ++
        (TextDecoder.decode {} chunks.flatten).1.flush)).1).2 := by
  rw [readSSE, Reader.reads_eq (by rfl)]
  have whole := Reader.take_append {} true (TextDecoder.decode {} chunks.flatten).1
    (TextDecoder.decode {} chunks.flatten).1 (TextDecoder.decode {} chunks.flatten).2
    (TextDecoder.decode {} chunks.flatten).1.flush
  exact (congrArg Prod.snd whole).symm

theorem flush_unbroken (decoder : TextDecoder) : Unbroken decoder.flush := by
  intro char listed
  rw [decoder.flush_plain char listed]
  decide

/-- Where a stream is cut off, the events read so far are the first ones, none of them cut. -/
theorem isPrefix_readSSE {chunks all : List (List UInt8)} (cut : chunks.flatten <+: all.flatten) :
    readSSE chunks <+: readSSE all := by
  rcases cut with ⟨more, whole⟩
  rw [readSSE_eq, readSSE_eq, ← whole, TextDecoder.decode_append]
  refine dispatch_prefix _ ?_
  rw [takeLines_ragged (flush_unbroken _), List.append_assoc]
  exact takeLines_prefix _ _ _

end HomelabBuilder.Assistant
