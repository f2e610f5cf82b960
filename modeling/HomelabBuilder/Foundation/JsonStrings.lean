import Mathlib.Data.List.Infix
import HomelabBuilder.Foundation.JsonText

/-! # Spelled strings

A string of a JSON document as it is spelled, in plain characters and escapes, and what
it means: an escape of a surrogate counts together with the one of its other half, and
for U+FFFD alone.
-/

namespace HomelabBuilder.JsonText

/-! ## Spellings -/

structure HexDigit where
  value : Fin 16
  upper : Bool

def HexDigit.char (digit : HexDigit) : Char :=
  if digit.value.val < 10 then Char.ofNat (48 + digit.value.val)
  else if digit.upper then Char.ofNat (55 + digit.value.val)
  else Char.ofNat (87 + digit.value.val)

/-- `\uXXXX`. -/
structure UnicodeEscape where
  first : HexDigit
  second : HexDigit
  third : HexDigit
  fourth : HexDigit

namespace UnicodeEscape

def code (escape : UnicodeEscape) : Nat :=
  ((escape.first.value * 16 + escape.second.value) * 16 + escape.third.value) * 16 +
    escape.fourth.value

def ofCode (code : Nat) : UnicodeEscape where
  first := ⟨⟨code / 4096 % 16, by omega⟩, false⟩
  second := ⟨⟨code / 256 % 16, by omega⟩, false⟩
  third := ⟨⟨code / 16 % 16, by omega⟩, false⟩
  fourth := ⟨⟨code % 16, by omega⟩, false⟩

theorem code_ofCode {code : Nat} (small : code < 0x10000) : (ofCode code).code = code := by
  rw [UnicodeEscape.code, ofCode]
  dsimp only
  omega

def isHigh (escape : UnicodeEscape) : Bool := 0xD800 ≤ escape.code && escape.code < 0xDC00

def isLow (escape : UnicodeEscape) : Bool := 0xDC00 ≤ escape.code && escape.code < 0xE000

def isSurrogate (escape : UnicodeEscape) : Bool := escape.isHigh || escape.isLow

def char (escape : UnicodeEscape) : Char :=
  if escape.isSurrogate then '\uFFFD' else Char.ofNat escape.code

end UnicodeEscape

def combined (high low : UnicodeEscape) : Char :=
  Char.ofNat (0x10000 + (high.code - 0xD800) * 0x400 + (low.code - 0xDC00))

/-- A character that may stand in a string as it is. -/
structure PlainChar where
  char : Char
  printed : 0x20 ≤ char.toNat
  notQuote : char ≠ '"'
  notBackslash : char ≠ '\\'

inductive ShortEscape
  | quote
  | backslash
  | slash
  | b
  | f
  | n
  | r
  | t

namespace ShortEscape

def letter : ShortEscape → Char
  | .quote => '"'
  | .backslash => '\\'
  | .slash => '/'
  | .b => 'b'
  | .f => 'f'
  | .n => 'n'
  | .r => 'r'
  | .t => 't'

def char : ShortEscape → Char
  | .quote => '"'
  | .backslash => '\\'
  | .slash => '/'
  | .b => '\x08'
  | .f => '\x0C'
  | .n => '\n'
  | .r => '\r'
  | .t => '\t'

end ShortEscape

inductive Piece
  | plain (char : PlainChar)
  | short (escape : ShortEscape)
  | unicode (escape : UnicodeEscape)

abbrev Spelling := List Piece

abbrev Doc := JsonTree Spelling

/-! ## Meaning -/

def decode : Spelling → List Char
  | [] => []
  | .unicode high :: .unicode low :: rest =>
      if high.isHigh && low.isLow then combined high low :: decode rest
      else high.char :: decode (.unicode low :: rest)
  | .unicode escape :: rest => escape.char :: decode rest
  | .plain plain :: rest => plain.char :: decode rest
  | .short escape :: rest => escape.char :: decode rest

/-- Surrogates occur in pairs only. -/
def Paired : Spelling → Prop
  | [] => True
  | .unicode high :: .unicode low :: rest =>
      if high.isHigh && low.isLow then Paired rest
      else high.isSurrogate = false ∧ Paired (.unicode low :: rest)
  | .unicode escape :: rest => escape.isSurrogate = false ∧ Paired rest
  | .plain _ :: rest => Paired rest
  | .short _ :: rest => Paired rest

def Piece.isNUL : Piece → Bool
  | .unicode escape => escape.code = 0
  | _ => false

def FreeOfNUL (spelling : Spelling) : Prop := ∀ piece ∈ spelling, piece.isNUL = false

/-- The rest does not go on with the other half of a pair. -/
def Single (escape : UnicodeEscape) (rest : Spelling) : Prop :=
  ∀ low more, rest = .unicode low :: more → (escape.isHigh && low.isLow) = false

theorem decode_single {escape : UnicodeEscape} {rest : Spelling} (single : Single escape rest) :
    decode (.unicode escape :: rest) = escape.char :: decode rest := by
  cases rest with
  | nil => rfl
  | cons piece rest =>
      cases piece with
      | unicode low => rw [decode, single low rest rfl, if_neg Bool.false_ne_true]
      | plain plain => rfl
      | short short => rfl

theorem paired_single {escape : UnicodeEscape} {rest : Spelling} (single : Single escape rest) :
    Paired (.unicode escape :: rest) ↔ escape.isSurrogate = false ∧ Paired rest := by
  cases rest with
  | nil => exact Iff.rfl
  | cons piece rest =>
      cases piece with
      | unicode low => rw [Paired, single low rest rfl, if_neg Bool.false_ne_true]
      | plain plain => exact Iff.rfl
      | short short => exact Iff.rfl

theorem single_of_whole {escape : UnicodeEscape} (whole : escape.isSurrogate = false)
    (rest : Spelling) : Single escape rest := by
  intro low more _
  rw [(Bool.or_eq_false_iff.mp whole).1, Bool.false_and]

theorem decode_unicode {escape : UnicodeEscape} (whole : escape.isSurrogate = false)
    (rest : Spelling) : decode (.unicode escape :: rest) = Char.ofNat escape.code :: decode rest := by
  rw [decode_single (single_of_whole whole rest), UnicodeEscape.char, whole, if_neg Bool.false_ne_true]

theorem paired_unicode {escape : UnicodeEscape} (whole : escape.isSurrogate = false)
    (rest : Spelling) : Paired (.unicode escape :: rest) ↔ Paired rest := by
  rw [paired_single (single_of_whole whole rest), and_iff_right whole]

/-! ## Writing a string -/

/-- What HTML takes for markup, and what JavaScript takes for the end of a line. -/
def isMarkup (char : Char) : Bool := char ∈ ['<', '>', '&', '\u2028', '\u2029']

def encodeChar (char : Char) : Piece :=
  if quote : char = '"' then .short .quote
  else if backslash : char = '\\' then .short .backslash
  else if printed : 0x20 ≤ char.toNat then
    if isMarkup char then .unicode (.ofCode char.toNat) else .plain ⟨char, printed, quote, backslash⟩
  else if char = '\x08' then .short .b
  else if char = '\x0C' then .short .f
  else if char = '\n' then .short .n
  else if char = '\r' then .short .r
  else if char = '\t' then .short .t
  else .unicode (.ofCode char.toNat)

def encode (text : List Char) : Spelling := text.map encodeChar

/-- Markup is escaped in documents that are embedded, too. -/
def escapeMarkup : Piece → Piece
  | .plain plain =>
      if isMarkup plain.char then .unicode (.ofCode plain.char.toNat) else .plain plain
  | piece => piece

theorem isSurrogate_ofCode {code : Nat} (small : code < 0xD800) :
    (UnicodeEscape.ofCode code).isSurrogate = false := by
  have same : (UnicodeEscape.ofCode code).code = code := UnicodeEscape.code_ofCode (by omega)
  rw [UnicodeEscape.isSurrogate, UnicodeEscape.isHigh, UnicodeEscape.isLow, same]
  simp only [Bool.or_eq_false_iff, Bool.and_eq_false_iff, decide_eq_false_iff_not]
  omega

theorem toNat_lt_of_isMarkup {char : Char} (markup : isMarkup char = true) :
    char.toNat < 0xD800 := by
  have all : (['<', '>', '&', '\u2028', '\u2029'].all fun char => char.toNat < 0xD800) = true := by
    decide
  exact of_decide_eq_true (List.all_eq_true.mp all char (of_decide_eq_true markup))

theorem decode_ofCode {char : Char} (small : char.toNat < 0xD800) (rest : Spelling) :
    decode (.unicode (.ofCode char.toNat) :: rest) = char :: decode rest := by
  rw [decode_unicode (isSurrogate_ofCode small), UnicodeEscape.code_ofCode (by omega),
    Char.ofNat_toNat]

theorem decode_encodeChar (char : Char) (rest : Spelling) :
    decode (encodeChar char :: rest) = char :: decode rest := by
  unfold encodeChar
  split
  · rename_i isQuote; rw [isQuote]; rfl
  split
  · rename_i isBackslash; rw [isBackslash]; rfl
  split
  · split
    · rename_i markup
      exact decode_ofCode (toNat_lt_of_isMarkup markup) rest
    · rfl
  · rename_i control
    split
    · rename_i same; rw [same]; rfl
    split
    · rename_i same; rw [same]; rfl
    split
    · rename_i same; rw [same]; rfl
    split
    · rename_i same; rw [same]; rfl
    split
    · rename_i same; rw [same]; rfl
    · exact decode_ofCode (by omega) rest

@[simp]
theorem decode_encode (text : List Char) : decode (encode text) = text := by
  induction text with
  | nil => rfl
  | cons char rest induction =>
      rw [encode, List.map_cons, decode_encodeChar]
      exact congrArg (char :: ·) induction

theorem paired_encodeChar (char : Char) (rest : Spelling) :
    Paired (encodeChar char :: rest) ↔ Paired rest := by
  unfold encodeChar
  split
  · exact Iff.rfl
  split
  · exact Iff.rfl
  split
  · split
    · rename_i markup
      exact paired_unicode (isSurrogate_ofCode (toNat_lt_of_isMarkup markup)) rest
    · exact Iff.rfl
  · rename_i control
    repeat' split
    all_goals first
      | exact Iff.rfl
      | exact paired_unicode (isSurrogate_ofCode (by omega)) rest

theorem paired_encode (text : List Char) : Paired (encode text) := by
  induction text with
  | nil => trivial
  | cons char rest induction =>
      rw [encode, List.map_cons]
      exact (paired_encodeChar char _).mpr induction

/-! ## NUL -/

def nul : Char := '\x00'

theorem UnicodeEscape.code_lt (escape : UnicodeEscape) : escape.code < 0x10000 := by
  have first := escape.first.value.isLt
  have second := escape.second.value.isLt
  have third := escape.third.value.isLt
  have fourth := escape.fourth.value.isLt
  rw [UnicodeEscape.code]
  omega

theorem ofNat_ne_nul {code : Nat} (valid : code.isValidChar) (positive : code ≠ 0) :
    Char.ofNat code ≠ nul := by
  intro same
  rw [Char.ofNat, dif_pos valid] at same
  have codes : code = nul.toNat := congrArg Char.toNat same
  exact positive codes

theorem UnicodeEscape.char_ne_nul {escape : UnicodeEscape} (positive : escape.code ≠ 0) :
    escape.char ≠ nul := by
  rw [UnicodeEscape.char]
  split
  · decide
  · rename_i whole
    apply ofNat_ne_nul _ positive
    have small := escape.code_lt
    rw [Bool.not_eq_true, UnicodeEscape.isSurrogate, UnicodeEscape.isHigh, UnicodeEscape.isLow,
      Bool.or_eq_false_iff, Bool.and_eq_false_iff, Bool.and_eq_false_iff, decide_eq_false_iff_not,
      decide_eq_false_iff_not, decide_eq_false_iff_not, decide_eq_false_iff_not] at whole
    rw [Nat.isValidChar]
    omega

theorem combined_ne_nul {high low : UnicodeEscape} (pair : (high.isHigh && low.isLow) = true) :
    combined high low ≠ nul := by
  rw [Bool.and_eq_true, UnicodeEscape.isHigh, UnicodeEscape.isLow, Bool.and_eq_true,
    Bool.and_eq_true, decide_eq_true_eq, decide_eq_true_eq, decide_eq_true_eq,
    decide_eq_true_eq] at pair
  apply ofNat_ne_nul
  · rw [Nat.isValidChar]
    omega
  · omega

theorem ShortEscape.char_ne_nul (escape : ShortEscape) : escape.char ≠ nul := by
  cases escape <;> decide

theorem FreeOfNUL.tail {piece : Piece} {rest : Spelling} (free : FreeOfNUL (piece :: rest)) :
    FreeOfNUL rest := fun other listed => free other (List.mem_cons_of_mem _ listed)

theorem FreeOfNUL.code_ne {escape : UnicodeEscape} {rest : Spelling}
    (free : FreeOfNUL (.unicode escape :: rest)) : escape.code ≠ 0 :=
  of_decide_eq_false (free _ List.mem_cons_self)

theorem nul_not_mem_decode {spelling : Spelling} (free : FreeOfNUL spelling) :
    nul ∉ decode spelling := by
  induction spelling using decode.induct with
  | case1 => exact List.not_mem_nil
  | case2 high low rest pair induction =>
      rw [decode, if_pos pair]
      exact List.not_mem_cons_of_ne_of_not_mem (combined_ne_nul pair).symm
        (induction free.tail.tail)
  | case3 high low rest single induction =>
      rw [decode, if_neg single]
      exact List.not_mem_cons_of_ne_of_not_mem (UnicodeEscape.char_ne_nul free.code_ne).symm
        (induction free.tail)
  | case4 escape rest single induction =>
      rw [decode]
      · exact List.not_mem_cons_of_ne_of_not_mem (UnicodeEscape.char_ne_nul free.code_ne).symm
          (induction free.tail)
      · exact single
  | case5 plain rest induction =>
      rw [decode]
      apply List.not_mem_cons_of_ne_of_not_mem _ (induction free.tail)
      intro same
      have printed := plain.printed
      rw [← same] at printed
      exact absurd printed (by decide)
  | case6 escape rest induction =>
      rw [decode]
      exact List.not_mem_cons_of_ne_of_not_mem escape.char_ne_nul.symm (induction free.tail)

theorem encodeChar_isNUL {char : Char} (printed : char ≠ nul) : (encodeChar char).isNUL = false := by
  have code : char.toNat ≠ 0 := by
    intro zero
    exact printed (Char.toNat_inj.mp zero)
  have written : char.toNat < 0xD800 → (Piece.unicode (.ofCode char.toNat)).isNUL = false := by
    intro small
    rw [Piece.isNUL, UnicodeEscape.code_ofCode (by omega)]
    exact decide_eq_false code
  unfold encodeChar
  repeat' split
  all_goals first
    | rfl
    | exact written (toNat_lt_of_isMarkup ‹_›)
    | exact written (by omega)

theorem freeOfNUL_encode {text : List Char} (free : nul ∉ text) : FreeOfNUL (encode text) := by
  intro piece listed
  rcases List.mem_map.mp listed with ⟨char, member, rfl⟩
  exact encodeChar_isNUL fun same => free (same ▸ member)

/-! ## Escaped markup -/

@[simp]
theorem escapeMarkup_isNUL (piece : Piece) : (escapeMarkup piece).isNUL = piece.isNUL := by
  cases piece with
  | plain plain =>
      rw [escapeMarkup]
      split
      · rename_i markup
        have printed := plain.printed
        have small := toNat_lt_of_isMarkup markup
        rw [Piece.isNUL, UnicodeEscape.code_ofCode (by omega)]
        exact decide_eq_false (by omega)
      · rfl
  | short escape => rfl
  | unicode escape => rfl

theorem freeOfNUL_escapeMarkup {spelling : Spelling} :
    FreeOfNUL (spelling.map escapeMarkup) ↔ FreeOfNUL spelling := by
  rw [FreeOfNUL, List.forall_mem_map]
  exact forall₂_congr fun piece _ => by rw [escapeMarkup_isNUL]

theorem decode_plain_escapeMarkup (plain : PlainChar) (rest : Spelling) :
    decode (escapeMarkup (.plain plain) :: rest) = plain.char :: decode rest := by
  rw [escapeMarkup]
  split
  · rename_i markup
    exact decode_ofCode (toNat_lt_of_isMarkup markup) rest
  · rfl

theorem paired_plain_escapeMarkup (plain : PlainChar) (rest : Spelling) :
    Paired (escapeMarkup (.plain plain) :: rest) ↔ Paired rest := by
  rw [escapeMarkup]
  split
  · rename_i markup
    exact paired_unicode (isSurrogate_ofCode (toNat_lt_of_isMarkup markup)) rest
  · exact Iff.rfl

theorem Single.escapeMarkup {escape : UnicodeEscape} {rest : Spelling}
    (single : Single escape rest) : Single escape (rest.map escapeMarkup) := by
  intro low more split
  cases rest with
  | nil => cases split
  | cons piece rest =>
      rw [List.map_cons] at split
      have head := (List.cons.inj split).1
      cases piece with
      | plain plain =>
          rw [JsonText.escapeMarkup] at head
          split at head
          · rename_i markup
            cases head
            have whole := isSurrogate_ofCode (toNat_lt_of_isMarkup markup)
            rw [(Bool.or_eq_false_iff.mp whole).2, Bool.and_false]
          · cases head
      | short escape => cases head
      | unicode other =>
          cases head
          exact single low rest rfl

theorem single_of_not_pair {high low : UnicodeEscape} {rest : Spelling}
    (single : ¬(high.isHigh && low.isLow) = true) : Single high (.unicode low :: rest) := by
  intro other more split
  cases split
  exact (Bool.not_eq_true _).mp single

@[simp]
theorem decode_escapeMarkup (spelling : Spelling) :
    decode (spelling.map escapeMarkup) = decode spelling := by
  induction spelling using decode.induct with
  | case1 => rfl
  | case2 high low rest pair induction =>
      rw [List.map_cons, List.map_cons, escapeMarkup, escapeMarkup, decode, if_pos pair, decode,
        if_pos pair, induction]
      all_goals nofun
  | case3 high low rest notPair induction =>
      have single : Single high (.unicode low :: rest) := single_of_not_pair notPair
      rw [decode_single single, ← induction]
      exact decode_single single.escapeMarkup
  | case4 escape rest other induction =>
      have single : Single escape rest := fun low more split => (other low more split).elim
      rw [decode_single single, ← induction]
      exact decode_single single.escapeMarkup
  | case5 plain rest induction =>
      rw [List.map_cons, decode_plain_escapeMarkup, induction, decode]
  | case6 escape rest induction =>
      rw [List.map_cons, escapeMarkup, decode, decode, induction]
      nofun

theorem paired_escapeMarkup (spelling : Spelling) :
    Paired (spelling.map escapeMarkup) ↔ Paired spelling := by
  induction spelling using decode.induct with
  | case1 => exact Iff.rfl
  | case2 high low rest pair induction =>
      rw [List.map_cons, List.map_cons, escapeMarkup, escapeMarkup, Paired, if_pos pair, Paired,
        if_pos pair, induction]
      all_goals nofun
  | case3 high low rest notPair induction =>
      have single : Single high (.unicode low :: rest) := single_of_not_pair notPair
      rw [paired_single single, ← induction]
      exact paired_single single.escapeMarkup
  | case4 escape rest other induction =>
      have single : Single escape rest := fun low more split => (other low more split).elim
      rw [paired_single single, ← induction]
      exact paired_single single.escapeMarkup
  | case5 plain rest induction =>
      rw [List.map_cons, paired_plain_escapeMarkup, induction, Paired]
  | case6 escape rest induction =>
      rw [List.map_cons, escapeMarkup, Paired, Paired, induction]
      nofun

/-! ## The text of a document -/

def Piece.text : Piece → List Char
  | .plain char => [char.char]
  | .short escape => ['\\', escape.letter]
  | .unicode escape =>
      ['\\', 'u', escape.first.char, escape.second.char, escape.third.char, escape.fourth.char]

def stringText (spelling : Spelling) : List Char := '"' :: spelling.flatMap Piece.text ++ ['"']

mutual
def text : Doc → List Char
  | .null => "null".toList
  | .bool value => (toString value).toList
  | .num literal => literal.toList
  | .str spelling => stringText spelling
  | .arr items => '[' :: [','].intercalate (itemTexts items) ++ [']']
  | .obj members => '\x7b' :: [','].intercalate (memberTexts members) ++ ['\x7d']

def itemTexts : List Doc → List (List Char)
  | [] => []
  | item :: rest => text item :: itemTexts rest

def memberTexts : List (Spelling × Doc) → List (List Char)
  | [] => []
  | (key, value) :: rest => (stringText key ++ ':' :: text value) :: memberTexts rest
end

/-- `\u0000`, as an escape is written or behind an escaped backslash. -/
def nulEscape : List Char := ['\\', 'u', '0', '0', '0', '0']

def MentionsNUL (doc : Doc) : Prop := nulEscape <:+: text doc

instance (doc : Doc) : Decidable (MentionsNUL doc) := inferInstanceAs (Decidable (_ <:+: _))

theorem HexDigit.char_of_zero {digit : HexDigit} (zero : digit.value.val = 0) :
    digit.char = '0' := by
  rw [HexDigit.char, zero]
  rfl

theorem UnicodeEscape.text_of_zero {escape : UnicodeEscape} (zero : escape.code = 0) :
    (Piece.unicode escape).text = nulEscape := by
  rw [UnicodeEscape.code] at zero
  rw [Piece.text, HexDigit.char_of_zero, HexDigit.char_of_zero, HexDigit.char_of_zero,
    HexDigit.char_of_zero, nulEscape]
  all_goals omega

theorem isInfix_nulEscape {spelling : Spelling} (denotes : ¬FreeOfNUL spelling) :
    nulEscape <:+: stringText spelling := by
  rw [FreeOfNUL] at denotes
  push Not at denotes
  rcases denotes with ⟨piece, listed, isNUL⟩
  rcases List.append_of_mem listed with ⟨before, after, rfl⟩
  have written : piece.text = nulEscape := by
    cases piece with
    | plain char => exact absurd rfl isNUL
    | short escape => exact absurd rfl isNUL
    | unicode escape => exact escape.text_of_zero (by simpa [Piece.isNUL] using isNUL)
  rw [stringText, List.flatMap_append, List.flatMap_cons, written]
  exact ⟨'"' :: before.flatMap Piece.text, after.flatMap Piece.text ++ ['"'], by simp⟩

theorem infix_intercalate {texts : List (List Char)} {part : List Char} (listed : part ∈ texts) :
    part <:+: [','].intercalate texts := by
  induction texts with
  | nil => cases listed
  | cons head rest induction =>
      cases rest with
      | nil =>
          have only := List.mem_singleton.mp listed
          simp only [only, List.intercalate_singleton, List.infix_refl]
      | cons next rest =>
          rw [List.intercalate_cons_cons]
          rcases List.mem_cons.mp listed with rfl | later
          · exact ⟨[], [','] ++ [','].intercalate (next :: rest), by simp⟩
          · exact (induction later).trans (List.suffix_append _ _).isInfix

theorem itemTexts_eq (items : List Doc) : itemTexts items = items.map text := by
  induction items with
  | nil => rfl
  | cons item rest induction => rw [itemTexts, induction, List.map_cons]

theorem memberTexts_eq (members : List (Spelling × Doc)) :
    memberTexts members =
      members.map fun member => stringText member.1 ++ ':' :: text member.2 := by
  induction members with
  | nil => rfl
  | cons member rest induction => rw [memberTexts, induction, List.map_cons]

theorem infix_between (first : Char) (inner : List Char) (last : List Char) :
    inner <:+: first :: inner ++ last := ⟨[first], last, rfl⟩

theorem text_infix_arr {items : List Doc} {item : Doc} (listed : item ∈ items) :
    text item <:+: text (.arr items) := by
  rw [text, itemTexts_eq]
  exact (infix_intercalate (List.mem_map_of_mem listed)).trans (infix_between _ _ _)

theorem text_infix_obj {members : List (Spelling × Doc)} {member : Spelling × Doc}
    (listed : member ∈ members) :
    stringText member.1 <:+: text (.obj members) ∧ text member.2 <:+: text (.obj members) := by
  have whole : stringText member.1 ++ ':' :: text member.2 <:+: text (.obj members) := by
    rw [text, memberTexts_eq]
    have part := List.mem_map_of_mem (f := fun member : Spelling × Doc =>
      stringText member.1 ++ ':' :: text member.2) listed
    exact (infix_intercalate part).trans (infix_between _ _ _)
  refine ⟨(List.prefix_append _ _).isInfix.trans whole, .trans ?_ whole⟩
  exact ⟨stringText member.1 ++ [':'], [], by simp⟩

theorem all_freeOfNUL {doc : Doc} (silent : ¬MentionsNUL doc) : doc.All FreeOfNUL := by
  induction doc using JsonTree.induct with
  | null => trivial
  | bool value => trivial
  | num literal => trivial
  | str spelling =>
      by_contra denotes
      exact silent (isInfix_nulEscape denotes)
  | arr items induction =>
      rw [JsonTree.all_arr]
      exact fun item listed => induction item listed fun mentions =>
        silent (List.IsInfix.trans mentions (text_infix_arr listed))
  | obj members induction =>
      rw [JsonTree.all_obj]
      intro member listed
      have within := text_infix_obj listed
      constructor
      · by_contra denotes
        exact silent ((isInfix_nulEscape denotes).trans within.1)
      · exact induction member listed fun mentions =>
          silent (List.IsInfix.trans mentions within.2)

end HomelabBuilder.JsonText
