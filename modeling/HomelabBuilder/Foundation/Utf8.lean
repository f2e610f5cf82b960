import Mathlib.Data.List.Infix

/-! # Decoding UTF-8

The decoder of the Encoding Standard, which takes a text in pieces: what it writes depends
on the bytes, not on where the pieces end.
-/

namespace HomelabBuilder.Utf8

def replacement : Char := Char.ofNat 0xFFFD

def byteOrderMark : Char := Char.ofNat 0xFEFF

def encode (text : List Char) : List UInt8 := text.flatMap String.utf8EncodeChar

/-! ## The decoder -/

structure Decoder where
  codePoint : Nat := 0
  /-- How many bytes of the code point are still to come. -/
  needed : Nat := 0
  lower : Nat := 0x80
  upper : Nat := 0xBF
  deriving DecidableEq

namespace Decoder

/-- The first byte of a code point. -/
def first (byte : Nat) : Decoder × List Char :=
  if byte ≤ 0x7F then ({}, [Char.ofNat byte])
  else if 0xC2 ≤ byte ∧ byte ≤ 0xDF then ({ codePoint := byte % 0x20, needed := 1 }, [])
  else if 0xE0 ≤ byte ∧ byte ≤ 0xEF then
    ({ codePoint := byte % 0x10, needed := 2,
       lower := if byte = 0xE0 then 0xA0 else 0x80,
       upper := if byte = 0xED then 0x9F else 0xBF }, [])
  else if 0xF0 ≤ byte ∧ byte ≤ 0xF4 then
    ({ codePoint := byte % 0x8, needed := 3,
       lower := if byte = 0xF0 then 0x90 else 0x80,
       upper := if byte = 0xF4 then 0x8F else 0xBF }, [])
  else ({}, [replacement])

def next (decoder : Decoder) (byte : Nat) : Decoder × List Char :=
  if decoder.needed = 0 then first byte
  else if byte < decoder.lower ∨ decoder.upper < byte then
    ((first byte).1, replacement :: (first byte).2)
  else if decoder.needed = 1 then ({}, [Char.ofNat (decoder.codePoint * 0x40 + byte % 0x40)])
  else ({ codePoint := decoder.codePoint * 0x40 + byte % 0x40, needed := decoder.needed - 1 }, [])

def decode : Decoder → List UInt8 → Decoder × List Char
  | decoder, [] => (decoder, [])
  | decoder, byte :: rest =>
      let (after, text) := decoder.next byte.toNat
      let (last, later) := decode after rest
      (last, text ++ later)

def flush (decoder : Decoder) : List Char := if decoder.needed = 0 then [] else [replacement]

theorem decode_append (decoder : Decoder) (left right : List UInt8) :
    decoder.decode (left ++ right) =
      (((decoder.decode left).1.decode right).1,
        (decoder.decode left).2 ++ ((decoder.decode left).1.decode right).2) := by
  induction left generalizing decoder with
  | nil => rfl
  | cons byte rest induction => simp only [List.cons_append, decode, induction, List.append_assoc]

theorem toNat_ofNat {byte : Nat} (small : byte < 256) : (UInt8.ofNat byte).toNat = byte := by
  rw [UInt8.toNat_ofNat', Nat.mod_eq_of_lt small]

theorem decode_first {byte : Nat} {rest : List UInt8} {after : Decoder} (small : byte < 256)
    (begun : first byte = (after, [])) :
    decode {} (UInt8.ofNat byte :: rest) = decode after rest := by
  have stepped : next {} (UInt8.ofNat byte).toNat = (after, []) := by
    rw [toNat_ofNat small, next, if_pos rfl, begun]
  rw [decode, stepped]
  rfl

theorem decode_inner {decoder : Decoder} {byte : Nat} {rest : List UInt8} (small : byte < 256)
    (needs : 1 < decoder.needed) (least : decoder.lower ≤ byte) (most : byte ≤ decoder.upper) :
    decoder.decode (UInt8.ofNat byte :: rest) =
      decode { codePoint := decoder.codePoint * 0x40 + byte % 0x40,
               needed := decoder.needed - 1 } rest := by
  have pending : decoder.needed ≠ 0 := by omega
  have more : decoder.needed ≠ 1 := by omega
  have within : ¬(byte < decoder.lower ∨ decoder.upper < byte) := by omega
  rw [decode, toNat_ofNat small, next, if_neg pending, if_neg within, if_neg more]
  rfl

theorem decode_last {decoder : Decoder} {byte : Nat} {char : Char} (small : byte < 256)
    (needs : decoder.needed = 1) (least : decoder.lower ≤ byte) (most : byte ≤ decoder.upper)
    (made : decoder.codePoint * 0x40 + byte % 0x40 = char.val.toNat) :
    decoder.decode [UInt8.ofNat byte] = ({}, [char]) := by
  have pending : decoder.needed ≠ 0 := by omega
  have within : ¬(byte < decoder.lower ∨ decoder.upper < byte) := by omega
  rw [decode, toNat_ofNat small, next, if_neg pending, if_neg within, if_pos needs, made]
  simp [decode]

theorem first_two {byte : Nat} (least : 0xC2 ≤ byte) (most : byte ≤ 0xDF) :
    first byte = ({ codePoint := byte % 0x20, needed := 1 }, []) := by
  rw [first, if_neg (by omega), if_pos ⟨least, most⟩]

theorem first_three {byte : Nat} (least : 0xE0 ≤ byte) (most : byte ≤ 0xEF) :
    first byte =
      ({ codePoint := byte % 0x10, needed := 2,
         lower := if byte = 0xE0 then 0xA0 else 0x80,
         upper := if byte = 0xED then 0x9F else 0xBF }, []) := by
  rw [first, if_neg (by omega), if_neg (by omega), if_pos ⟨least, most⟩]

theorem first_four {byte : Nat} (least : 0xF0 ≤ byte) (most : byte ≤ 0xF4) :
    first byte =
      ({ codePoint := byte % 0x8, needed := 3,
         lower := if byte = 0xF0 then 0x90 else 0x80,
         upper := if byte = 0xF4 then 0x8F else 0xBF }, []) := by
  rw [first, if_neg (by omega), if_neg (by omega), if_neg (by omega), if_pos ⟨least, most⟩]

theorem decode_utf8EncodeChar (char : Char) :
    decode {} (String.utf8EncodeChar char) = ({}, [char]) := by
  have valid : char.val.toNat < 0xD800 ∨ 0xDFFF < char.val.toNat ∧ char.val.toNat < 0x110000 :=
    char.valid
  unfold String.utf8EncodeChar
  dsimp only
  split
  case isTrue one =>
    have small : char.val.toNat < 256 := by omega
    rw [decode, toNat_ofNat small, next, if_pos rfl, first, if_pos one]
    simp [decode]
  split
  case isTrue two =>
    rw [decode_first (by omega) (first_two (by omega) (by omega))]
    exact decode_last (by omega) rfl (by dsimp only; omega) (by dsimp only; omega)
      (by dsimp only; omega)
  split
  case isTrue three =>
    rw [decode_first (by omega) (first_three (by omega) (by omega)),
      decode_inner (by omega) (Nat.lt_succ_self 1) (by dsimp only; split <;> omega)
        (by dsimp only; split <;> omega)]
    exact decode_last (by omega) rfl (by dsimp only; omega) (by dsimp only; omega)
      (by dsimp only; omega)
  · rw [decode_first (by omega) (first_four (by omega) (by omega)),
      decode_inner (by omega) (by dsimp only; omega) (by dsimp only; split <;> omega)
        (by dsimp only; split <;> omega),
      decode_inner (by omega) (by dsimp only; omega) (by dsimp only; omega) (by dsimp only; omega)]
    exact decode_last (by omega) rfl (by dsimp only; omega) (by dsimp only; omega)
      (by dsimp only; omega)

theorem decode_encode (text : List Char) : decode {} (encode text) = ({}, text) := by
  induction text with
  | nil => rfl
  | cons char rest induction =>
      rw [encode, List.flatMap_cons, decode_append, decode_utf8EncodeChar]
      dsimp only
      rw [← encode, induction]
      rfl

end Decoder

/-! ## The decoder of a browser -/

/-- A byte order mark at the start of the text is dropped. -/
structure TextDecoder where
  decoder : Decoder := {}
  bomSeen : Bool := false
  deriving DecidableEq

def stripMark : List Char → List Char
  | [] => []
  | char :: rest => if char = byteOrderMark then rest else char :: rest

namespace TextDecoder

def serialize (bomSeen : Bool) (text : List Char) : List Char :=
  if bomSeen then text else stripMark text

/-- `decode` with more bytes to come. -/
def decode (decoder : TextDecoder) (bytes : List UInt8) : TextDecoder × List Char :=
  let (after, text) := decoder.decoder.decode bytes
  (⟨after, decoder.bomSeen || !text.isEmpty⟩, serialize decoder.bomSeen text)

def flush (decoder : TextDecoder) : List Char := serialize decoder.bomSeen decoder.decoder.flush

theorem decode_nil (decoder : TextDecoder) : decoder.decode [] = (decoder, []) := by
  rcases decoder with ⟨decoder, bomSeen⟩
  cases bomSeen <;> rfl

theorem serialize_append (bomSeen : Bool) (left right : List Char) :
    serialize bomSeen (left ++ right) =
      serialize bomSeen left ++ serialize (bomSeen || !left.isEmpty) right := by
  cases bomSeen with
  | true => rfl
  | false =>
      cases left with
      | nil => rfl
      | cons char rest =>
          simp only [serialize, stripMark, List.cons_append, List.isEmpty_cons]
          by_cases mark : char = byteOrderMark
          · simp [mark]
          · simp [mark]

theorem decode_append (decoder : TextDecoder) (left right : List UInt8) :
    decoder.decode (left ++ right) =
      (((decoder.decode left).1.decode right).1,
        (decoder.decode left).2 ++ ((decoder.decode left).1.decode right).2) := by
  have shown : ∀ first second : List Char,
      (!(first ++ second).isEmpty) = (!first.isEmpty || !second.isEmpty) := by
    intro first second
    cases first <;> rfl
  simp only [decode, Decoder.decode_append, serialize_append, shown, Bool.or_assoc]

theorem decode_encode {text : List Char} (unmarked : text.head? ≠ some byteOrderMark) :
    (decode {} (encode text)).2 = text ∧ (decode {} (encode text)).1.flush = [] := by
  simp only [decode, Decoder.decode_encode, flush]
  constructor
  · cases text with
    | nil => rfl
    | cons char rest => exact if_neg fun mark => unmarked (congrArg some mark)
  · cases text with
    | nil => rfl
    | cons char rest => rfl

theorem flush_plain (decoder : TextDecoder) : ∀ char ∈ decoder.flush, char = replacement := by
  intro char listed
  have flushed : ∀ char ∈ decoder.decoder.flush, char = replacement := by
    intro char listed
    unfold Decoder.flush at listed
    split at listed
    · cases listed
    · exact List.mem_singleton.mp listed
  unfold flush serialize at listed
  split at listed
  · exact flushed char listed
  · refine flushed char ?_
    cases within : decoder.decoder.flush with
    | nil => rw [within] at listed; exact listed
    | cons head rest =>
        rw [within, stripMark] at listed
        split at listed
        · exact List.mem_cons_of_mem _ listed
        · exact listed

end TextDecoder

end HomelabBuilder.Utf8
