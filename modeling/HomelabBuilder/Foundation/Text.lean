import Mathlib.Data.List.DropRight

/-! # Text -/

namespace HomelabBuilder

def isSpace (char : Char) : Bool :=
  char.toNat ∈ [0x09, 0x0A, 0x0B, 0x0C, 0x0D, 0x20, 0x85, 0xA0, 0x1680, 0x2028, 0x2029, 0x202F,
    0x205F, 0x3000] || (0x2000 ≤ char.toNat && char.toNat ≤ 0x200A)

theorem isSpace_eq_false {char : Char} (low : 0x21 ≤ char.toNat) (high : char.toNat ≤ 0x7E) :
    isSpace char = false := by
  rw [isSpace, Bool.or_eq_false_iff, Bool.and_eq_false_iff]
  constructor
  · apply decide_eq_false
    simp only [List.mem_cons, List.not_mem_nil, or_false]
    omega
  · left
    apply decide_eq_false
    omega

/-- `%q`, for a text without characters to escape. -/
def quoted (text : String) : String := "\"" ++ text ++ "\""

def trimSpace (text : String) : String :=
  String.ofList (((text.toList.dropWhile isSpace).reverse.dropWhile isSpace).reverse)

theorem trimSpace_trimSpace (text : String) : trimSpace (trimSpace text) = trimSpace text := by
  have trimmed : ∀ text, trimSpace text =
      String.ofList ((text.toList.dropWhile isSpace).rdropWhile isSpace) := fun _ => rfl
  have opened := List.dropWhile_idempotent isSpace text.toList
  rw [trimmed, trimmed, String.toList_ofList]
  generalize text.toList.dropWhile isSpace = inner at opened
  -- What is cut at the end leaves the first character alone.
  have start : (inner.rdropWhile isSpace).dropWhile isSpace = inner.rdropWhile isSpace := by
    apply List.dropWhile_eq_self_iff.mpr
    intro some blank
    have kept := List.rdropWhile_prefix isSpace inner
    have nonempty := Nat.lt_of_lt_of_le some kept.length_le
    apply List.dropWhile_eq_self_iff.mp opened nonempty
    rw [← kept.getElem some]
    exact blank
  rw [start, List.rdropWhile_idempotent]

theorem trimSpace_eq_self {text : String} (solid : ∀ char ∈ text.toList, isSpace char = false) :
    trimSpace text = text := by
  have kept : ∀ {chars : List Char}, (∀ char ∈ chars, isSpace char = false) →
      chars.dropWhile isSpace = chars := by
    intro chars solid
    cases chars with
    | nil => rfl
    | cons char rest => rw [List.dropWhile_cons, solid char List.mem_cons_self]; rfl
  unfold trimSpace
  rw [kept solid, kept fun char member => solid char (List.mem_reverse.mp member),
    List.reverse_reverse, String.ofList_toList]

def contains (text part : String) : Bool := text.toList.tails.any part.toList.isPrefixOf

/-- What is left of a text behind a prefix, `strings.CutPrefix`. -/
def cutPrefix (start text : String) : Option (List Char) :=
  start.toList.isPrefixOf? text.toList

theorem cutPrefix_append (start text : String) :
    cutPrefix start (start ++ text) = some text.toList := by
  rw [cutPrefix, String.toList_append]
  induction start.toList with
  | nil => rfl
  | cons char rest induction =>
      change (if (char == char) = true then rest.isPrefixOf? (rest ++ text.toList) else none) = _
      rw [if_pos (beq_self_eq_true char)]
      exact induction

theorem eq_append_of_cutPrefix {start text : String} {rest : List Char}
    (found : cutPrefix start text = some rest) : text = start ++ String.ofList rest := by
  have split : ∀ (left right : List Char),
      left.isPrefixOf? right = some rest → right = left ++ rest := by
    intro left
    induction left with
    | nil =>
        intro right whole
        exact Option.some.inj whole
    | cons char left induction =>
        intro right whole
        cases right with
        | nil => cases whole
        | cons other right =>
            change (if (char == other) = true then left.isPrefixOf? right else none) = _ at whole
            split at whole
            · rename_i same
              rw [← eq_of_beq same, induction right whole, List.cons_append]
            · cases whole
  apply String.toList_inj.mp
  simpa using split _ _ found

end HomelabBuilder
