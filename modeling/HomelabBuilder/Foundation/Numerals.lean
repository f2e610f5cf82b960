import Mathlib.Algebra.Order.Field.Rat
import Mathlib.Data.Int.Log
import Mathlib.Data.Rat.Floor
import HomelabBuilder.Foundation.Text

/-! # Doubles

Numbers as IEEE 754 doubles hold them, rounded to the nearest one and to the even
one between two.
-/

namespace HomelabBuilder

/-- The nearest integer, the even one between two. -/
def roundEven (value : Rat) : Int :=
  let rest := value - ⌊value⌋
  if rest < 1 / 2 then ⌊value⌋
  else if 1 / 2 < rest then ⌊value⌋ + 1
  else if ⌊value⌋ % 2 = 0 then ⌊value⌋
  else ⌊value⌋ + 1

/-- The exponent of a double's last place. -/
def lastPlace (magnitude : Rat) : Int := max (Int.log 2 magnitude - 52) (-1074)

/-- The double of a number, unless it is infinite. -/
def nearestDouble (value : Rat) : Option Rat :=
  let unit : Rat := 2 ^ lastPlace |value|
  let rounded := roundEven (value / unit) * unit
  if 2 ^ 1024 ≤ |rounded| then none else some rounded

theorem roundEven_intCast (value : Int) : roundEven value = value := by
  rw [roundEven, Int.floor_intCast, sub_self, if_pos (by norm_num)]

theorem nearestDouble_natCast {value : Nat} (small : value < 2 ^ 53) :
    nearestDouble value = some (value : Rat) := by
  have logarithm : Int.log 2 (value : Rat) < 53 := by
    rw [Int.log_natCast]
    exact_mod_cast Nat.log_lt_of_lt_pow' (by decide) small
  have magnitude : |(value : Rat)| = value := abs_of_nonneg (Nat.cast_nonneg value)
  have fits : (value : Rat) < 2 ^ 1024 := by
    have two : (1 : Rat) ≤ 2 := by norm_num
    have below : (value : Rat) < 2 ^ 53 := by exact_mod_cast small
    exact lt_of_lt_of_le below (pow_le_pow_right₀ two (by omega))
  have place : ∃ places : Nat, lastPlace (value : Rat) = -places := by
    refine ⟨(-lastPlace (value : Rat)).toNat, ?_⟩
    rw [lastPlace]
    omega
  rcases place with ⟨places, same⟩
  have shifted : (value : Rat) / 2 ^ (-places : Int) = ((value * 2 ^ places : Nat) : Int) := by
    rw [zpow_neg, zpow_natCast, div_inv_eq_mul]
    push_cast
    rfl
  have whole : (((value * 2 ^ places : Nat) : Int) : Rat) * 2 ^ (-places : Int) = value := by
    rw [← shifted, div_mul_cancel₀]
    exact zpow_ne_zero _ (by norm_num)
  rw [nearestDouble, magnitude, same, shifted, roundEven_intCast, whole, magnitude, if_neg]
  exact not_le_of_gt fits

end HomelabBuilder

/-! # Numerals

The texts that Go's `strconv.ParseFloat` and JavaScript's `Number` read as finite
numbers. Both know decimal numerals; Go has underscores and hexadecimal fractions
besides, JavaScript has whole numbers to other bases.
-/

namespace HomelabBuilder

/-! ## Decimal numerals -/

def digitValue (char : Char) : Nat :=
  if char.isDigit then char.toNat - '0'.toNat else char.toLower.toNat - 'a'.toNat + 10

def digitsValue (base : Nat) (digits : List Char) : Nat :=
  digits.foldl (fun value char => value * base + digitValue char) 0

def isHexNumeralDigit (char : Char) : Bool := char ∈ "0123456789abcdefABCDEF".toList

def signed : List Char → Bool × List Char
  | '-' :: rest => (true, rest)
  | '+' :: rest => (false, rest)
  | text => (false, text)

def withSign {α : Type} [Neg α] (negative : Bool) (value : α) : α :=
  if negative then -value else value

def wholeNumeral (text : List Char) : Option Int :=
  let (negative, digits) := signed text
  if digits ≠ [] ∧ digits.all Char.isDigit then
    some (withSign negative (digitsValue 10 digits : Int))
  else none

/-- The exponent behind one of the marks; it may be left out. -/
def exponent (marks : List Char) : List Char → Option Int
  | [] => some 0
  | mark :: rest => if mark ∈ marks then wholeNumeral rest else none

/-- The digits in front of a point, those behind it, and the rest. -/
def mantissa (isDigit : Char → Bool) (text : List Char) : List Char × List Char × List Char :=
  let whole := text.takeWhile isDigit
  match text.dropWhile isDigit with
  | '.' :: rest => (whole, rest.takeWhile isDigit, rest.dropWhile isDigit)
  | rest => (whole, [], rest)

def decimalNumeral (text : List Char) : Option Rat :=
  let (negative, unsigned) := signed text
  let (whole, fraction, rest) := mantissa Char.isDigit unsigned
  if whole ++ fraction = [] then none
  else (exponent ['e', 'E'] rest).map fun power =>
    withSign negative
      ((digitsValue 10 (whole ++ fraction) : Rat) * 10 ^ (power - (fraction.length : Int)))

/-! ## Go -/

/-- The last character seen when underscores are checked. -/
inductive Seen
  | start
  | digit
  | underscore
  | other
  deriving DecidableEq

def underscoresFine (hex : Bool) : Seen → List Char → Bool
  | seen, [] => seen ≠ .underscore
  | seen, char :: rest =>
      if char.isDigit || hex && isHexNumeralDigit char then underscoresFine hex .digit rest
      else if char = '_' then seen = .digit && underscoresFine hex .underscore rest
      else seen ≠ .underscore && underscoresFine hex .other rest

/-- `underscoreOK`: each underscore stands between digits, or between the prefix of a
base and a digit. -/
def underscoreOK (text : List Char) : Bool :=
  match (signed text).2 with
  | '0' :: mark :: rest =>
      if mark.toLower ∈ ['b', 'o', 'x'] then underscoresFine (mark.toLower = 'x') .digit rest
      else underscoresFine false .start ('0' :: mark :: rest)
  | unsigned => underscoresFine false .start unsigned

/-- A hexadecimal fraction behind its prefix; it must have an exponent. -/
def hexFraction (text : List Char) : Option Rat :=
  let (whole, fraction, rest) := mantissa isHexNumeralDigit text
  if whole ++ fraction = [] ∨ rest = [] then none
  else (exponent ['p', 'P'] rest).map fun power =>
    (digitsValue 16 (whole ++ fraction) : Rat) * 2 ^ (power - 4 * (fraction.length : Int))

def plainGoNumeral (text : List Char) : Option Rat :=
  match signed text with
  | (negative, '0' :: mark :: rest) =>
      if mark = 'x' ∨ mark = 'X' then (hexFraction rest).map (withSign negative)
      else decimalNumeral text
  | _ => decimalNumeral text

def goNumeral (text : List Char) : Option Rat :=
  if '_' ∈ text then
    if underscoreOK text then plainGoNumeral (text.filter (· ≠ '_')) else none
  else plainGoNumeral text

/-- `strconv.ParseFloat` where it gives a finite number and no error. -/
def goParseFloat (text : String) : Option Rat := (goNumeral text.toList).bind nearestDouble

/-! ## JavaScript -/

/-- What `trim` removes, and what `\s` stands for in a pattern. -/
def isJSSpace (char : Char) : Bool :=
  char.toNat ∈ [0x09, 0x0A, 0x0B, 0x0C, 0x0D, 0x20, 0xA0, 0x1680, 0x2028, 0x2029, 0x202F, 0x205F,
    0x3000, 0xFEFF] || (0x2000 ≤ char.toNat && char.toNat ≤ 0x200A)

def jsTrim (text : String) : String :=
  String.ofList (((text.toList.dropWhile isJSSpace).reverse.dropWhile isJSSpace).reverse)

/-- A whole number to another base, behind its prefix. -/
def radixNumeral (base : Nat) (digits : List Char) : Option Rat :=
  if digits ≠ [] ∧ digits.all fun digit => isHexNumeralDigit digit && digitValue digit < base then
    some (digitsValue base digits)
  else none

def jsNumeral : List Char → Option Rat
  | [] => some 0
  | '0' :: mark :: digits =>
      if mark = 'x' ∨ mark = 'X' then radixNumeral 16 digits
      else if mark = 'o' ∨ mark = 'O' then radixNumeral 8 digits
      else if mark = 'b' ∨ mark = 'B' then radixNumeral 2 digits
      else decimalNumeral ('0' :: mark :: digits)
  | text => decimalNumeral text

/-- `Number` of a trimmed text where it is finite. -/
def jsNumber (text : String) : Option Rat := (jsNumeral text.toList).bind nearestDouble

/-! ## Characters of numerals -/

def isNumeralChar (char : Char) : Bool := char.isAlphanum || char ∈ ['+', '-', '.', '_']

def isDecimalChar (char : Char) : Bool := char.isDigit || char ∈ ['+', '-', '.', 'e', 'E']

theorem isNumeralChar_of_isDigit {char : Char} (digit : char.isDigit = true) :
    isNumeralChar char = true := by
  simp [isNumeralChar, Char.isAlphanum, digit]

theorem isNumeralChar_of_isDecimalChar {char : Char} (plain : isDecimalChar char = true) :
    isNumeralChar char = true := by
  rw [isDecimalChar, Bool.or_eq_true, decide_eq_true_eq] at plain
  rcases plain with digit | mark
  · exact isNumeralChar_of_isDigit digit
  · have marks : ['+', '-', '.', 'e', 'E'].all isNumeralChar = true := by decide
    exact List.all_eq_true.mp marks char mark

theorem isNumeralChar_of_isHexNumeralDigit {char : Char} (hex : isHexNumeralDigit char = true) :
    isNumeralChar char = true := by
  have all : "0123456789abcdefABCDEF".toList.all isNumeralChar = true := by decide
  exact List.all_eq_true.mp all char (of_decide_eq_true hex)

theorem mem_signed {text : List Char} {char : Char} (listed : char ∈ text) :
    char ∈ ['+', '-'] ∨ char ∈ (signed text).2 := by
  rw [signed.eq_def]
  split
  · exact (List.mem_cons.mp listed).imp (fun same => by simp [same]) id
  · exact (List.mem_cons.mp listed).imp (fun same => by simp [same]) id
  · exact Or.inr listed

theorem mem_wholeNumeral {text : List Char} {value : Int} (read : wholeNumeral text = some value)
    {char : Char} (listed : char ∈ text) : char ∈ ['+', '-'] ∨ char.isDigit = true := by
  rw [wholeNumeral] at read
  dsimp only at read
  split at read
  · rename_i digits
    exact (mem_signed listed).imp_right fun inDigits => List.all_eq_true.mp digits.2 char inDigits
  · cases read

theorem mem_exponent {marks text : List Char} {value : Int}
    (read : exponent marks text = some value) {char : Char} (listed : char ∈ text) :
    char ∈ marks ∨ char ∈ ['+', '-'] ∨ char.isDigit = true := by
  cases text with
  | nil => cases listed
  | cons mark rest =>
      rw [exponent] at read
      split at read
      · rename_i marked
        rcases List.mem_cons.mp listed with rfl | later
        · exact Or.inl marked
        · exact Or.inr (mem_wholeNumeral read later)
      · cases read

theorem mem_mantissa (isDigit : Char → Bool) {text : List Char} {char : Char}
    (listed : char ∈ text) :
    isDigit char = true ∨ char = '.' ∨ char ∈ (mantissa isDigit text).2.2 := by
  rw [← List.takeWhile_append_dropWhile (p := isDigit) (l := text), List.mem_append] at listed
  rcases listed with whole | rest
  · exact Or.inl (List.mem_takeWhile_imp whole)
  · rw [mantissa]
    split
    · rename_i more split
      rw [split] at rest
      rcases List.mem_cons.mp rest with rfl | later
      · exact Or.inr (Or.inl rfl)
      · rw [← List.takeWhile_append_dropWhile (p := isDigit) (l := more), List.mem_append] at later
        exact later.imp List.mem_takeWhile_imp Or.inr
    · exact Or.inr (Or.inr rest)

theorem mem_decimalNumeral {text : List Char} {value : Rat}
    (read : decimalNumeral text = some value) {char : Char} (listed : char ∈ text) :
    isDecimalChar char = true := by
  rw [decimalNumeral] at read
  dsimp only at read
  split at read
  · cases read
  rcases Option.map_eq_some_iff.mp read with ⟨power, exponentRead, _⟩
  have signs : ['+', '-'] ⊆ ['+', '-', '.', 'e', 'E'] := by decide
  have marks : ['e', 'E'] ⊆ ['+', '-', '.', 'e', 'E'] := by decide
  have known : char.isDigit = true ∨ char ∈ ['+', '-', '.', 'e', 'E'] := by
    rcases mem_signed listed with sign | unsigned
    · exact Or.inr (signs sign)
    · rcases mem_mantissa Char.isDigit unsigned with digit | rfl | rest
      · exact Or.inl digit
      · exact Or.inr (by decide)
      · rcases mem_exponent exponentRead rest with mark | sign | digit
        · exact Or.inr (marks mark)
        · exact Or.inr (signs sign)
        · exact Or.inl digit
  rw [isDecimalChar, Bool.or_eq_true, decide_eq_true_eq]
  exact known

theorem mem_hexFraction {text : List Char} {value : Rat} (read : hexFraction text = some value)
    {char : Char} (listed : char ∈ text) : isNumeralChar char = true := by
  rw [hexFraction] at read
  dsimp only at read
  split at read
  · cases read
  rcases Option.map_eq_some_iff.mp read with ⟨power, exponentRead, _⟩
  have signs : ['+', '-', '.', 'p', 'P'].all isNumeralChar = true := by decide
  replace signs := List.all_eq_true.mp signs
  rcases mem_mantissa isHexNumeralDigit listed with hex | rfl | rest
  · exact isNumeralChar_of_isHexNumeralDigit hex
  · exact signs '.' (by decide)
  · rcases mem_exponent exponentRead rest with mark | sign | digit
    · exact signs char (by simp only [List.mem_cons, List.not_mem_nil, or_false] at mark ⊢; grind)
    · exact signs char (by simp only [List.mem_cons, List.not_mem_nil, or_false] at sign ⊢; grind)
    · exact isNumeralChar_of_isDigit digit

theorem mem_plainGoNumeral {text : List Char} {value : Rat}
    (read : plainGoNumeral text = some value) {char : Char} (listed : char ∈ text) :
    isNumeralChar char = true := by
  rw [plainGoNumeral] at read
  split at read
  · rename_i negative mark rest split
    split at read
    · rename_i hex
      rcases Option.map_eq_some_iff.mp read with ⟨_, fraction, _⟩
      rcases mem_signed listed with sign | unsigned
      · exact List.all_eq_true.mp (by decide : ['+', '-'].all isNumeralChar = true) char sign
      · rw [split] at unsigned
        rcases List.mem_cons.mp unsigned with rfl | unsigned
        · rfl
        · rcases List.mem_cons.mp unsigned with rfl | later
          · rcases hex with rfl | rfl <;> rfl
          · exact mem_hexFraction fraction later
    · exact isNumeralChar_of_isDecimalChar (mem_decimalNumeral read listed)
  · exact isNumeralChar_of_isDecimalChar (mem_decimalNumeral read listed)

theorem mem_goNumeral {text : List Char} {value : Rat} (read : goNumeral text = some value)
    {char : Char} (listed : char ∈ text) : isNumeralChar char = true := by
  rw [goNumeral] at read
  split at read
  · split at read
    · by_cases underscore : char = '_'
      · rw [underscore]
        rfl
      · exact mem_plainGoNumeral read
          (List.mem_filter.mpr ⟨listed, decide_eq_true underscore⟩)
    · cases read
  · exact mem_plainGoNumeral read listed

theorem mem_jsNumeral {text : List Char} {value : Rat} (read : jsNumeral text = some value)
    {char : Char} (listed : char ∈ text) : isNumeralChar char = true ∧ char ≠ '_' := by
  have decimal : ∀ {text : List Char} {value : Rat}, decimalNumeral text = some value →
      char ∈ text → isNumeralChar char = true ∧ char ≠ '_' := by
    intro text value read listed
    have plain := mem_decimalNumeral read listed
    refine ⟨isNumeralChar_of_isDecimalChar plain, ?_⟩
    rintro rfl
    exact absurd plain (by decide)
  have radix : ∀ {base : Nat} {digits : List Char} {value : Rat},
      radixNumeral base digits = some value → char ∈ digits →
        isNumeralChar char = true ∧ char ≠ '_' := by
    intro base digits value read listed
    rw [radixNumeral] at read
    split at read
    · rename_i valid
      have hex := (Bool.and_eq_true_iff.mp (List.all_eq_true.mp valid.2 char listed)).1
      refine ⟨isNumeralChar_of_isHexNumeralDigit hex, ?_⟩
      rintro rfl
      exact absurd hex (by decide)
    · cases read
  have zero : isNumeralChar '0' = true ∧ '0' ≠ '_' := by decide
  have prefixed : ∀ {base : Nat} {mark : Char} {digits : List Char} {value : Rat},
      radixNumeral base digits = some value → mark ∈ ['x', 'X', 'o', 'O', 'b', 'B'] →
        char ∈ '0' :: mark :: digits → isNumeralChar char = true ∧ char ≠ '_' := by
    intro base mark digits value read marked listed
    rcases List.mem_cons.mp listed with rfl | listed
    · exact zero
    · rcases List.mem_cons.mp listed with rfl | later
      · have marks : (['x', 'X', 'o', 'O', 'b', 'B'].all fun char =>
            isNumeralChar char ∧ char ≠ '_') = true := by decide
        exact of_decide_eq_true (List.all_eq_true.mp marks char marked)
      · exact radix read later
  unfold jsNumeral at read
  split at read
  · cases listed
  · split at read
    · exact prefixed read (by simp; tauto) listed
    split at read
    · exact prefixed read (by simp; tauto) listed
    split at read
    · exact prefixed read (by simp; tauto) listed
    · exact decimal read listed
  · exact decimal read listed

/-! ## Numerals of both languages -/

theorem decimalNumeral_of_mark {text rest : List Char} {negative : Bool} {mark : Char}
    (split : signed text = (negative, '0' :: mark :: rest))
    (odd : isDecimalChar mark = false) : decimalNumeral text = none := by
  rw [isDecimalChar, Bool.or_eq_false_iff, decide_eq_false_iff_not] at odd
  have noPoint : mark ≠ '.' := fun same => odd.2 (by rw [same]; decide)
  have noExponent : mark ∉ ['e', 'E'] := fun listed =>
    odd.2 ((by decide : ['e', 'E'] ⊆ ['+', '-', '.', 'e', 'E']) listed)
  have zero : '0'.isDigit = true := rfl
  have parts : mantissa Char.isDigit ('0' :: mark :: rest) = (['0'], [], mark :: rest) := by
    rw [mantissa, List.takeWhile_cons_of_pos zero, List.dropWhile_cons_of_pos zero,
      List.takeWhile_cons_of_neg (by rw [odd.1]; exact Bool.false_ne_true),
      List.dropWhile_cons_of_neg (by rw [odd.1]; exact Bool.false_ne_true)]
    split
    · rename_i same
      exact absurd (List.cons.inj same).1 noPoint
    · rfl
  rw [decimalNumeral, split]
  dsimp only
  rw [parts]
  dsimp only
  rw [exponent, if_neg noExponent]
  rfl

theorem hexFraction_of_digits {digits : List Char}
    (hex : ∀ digit ∈ digits, isHexNumeralDigit digit = true) : hexFraction digits = none := by
  have none : digits.dropWhile isHexNumeralDigit = [] := List.dropWhile_eq_nil_iff.mpr hex
  rw [hexFraction, mantissa, none]
  dsimp only
  rw [if_pos (Or.inr rfl)]

theorem goNumeral_eq_jsNumeral {text : List Char} {goValue jsValue : Rat}
    (go : goNumeral text = some goValue) (js : jsNumeral text = some jsValue) :
    goValue = jsValue := by
  have plain : plainGoNumeral text = some goValue := by
    rw [goNumeral, if_neg fun listed => (mem_jsNumeral js listed).2 rfl] at go
    exact go
  rw [plainGoNumeral] at plain
  unfold jsNumeral at js
  split at js
  · cases plain
  · rename_i mark digits
    have unsigned : signed ('0' :: mark :: digits) = (false, '0' :: mark :: digits) := rfl
    change (if mark = 'x' ∨ mark = 'X' then (hexFraction digits).map (withSign false)
      else decimalNumeral ('0' :: mark :: digits)) = some goValue at plain
    have other : (mark = 'o' ∨ mark = 'O') ∨ mark = 'b' ∨ mark = 'B' →
        isDecimalChar mark = false ∧ ¬(mark = 'x' ∨ mark = 'X') := by
      rintro ((rfl | rfl) | rfl | rfl) <;> decide
    split at js
    · rename_i hex
      rw [if_pos hex] at plain
      rw [radixNumeral] at js
      split at js
      · rename_i valid
        have digitsHex : ∀ digit ∈ digits, isHexNumeralDigit digit = true := fun digit listed =>
          (Bool.and_eq_true_iff.mp (List.all_eq_true.mp valid.2 digit listed)).1
        rw [hexFraction_of_digits digitsHex] at plain
        cases plain
      · cases js
    rename_i notHex
    rw [if_neg notHex] at plain
    split at js
    · rename_i octal
      rw [decimalNumeral_of_mark unsigned (other (Or.inl octal)).1] at plain
      cases plain
    split at js
    · rename_i binary
      rw [decimalNumeral_of_mark unsigned (other (Or.inr binary)).1] at plain
      cases plain
    · exact Option.some.inj (plain.symm.trans js)
  · split at plain
    · rename_i negative mark rest split
      split at plain
      · rename_i hex
        have odd : isDecimalChar mark = false := by rcases hex with rfl | rfl <;> rfl
        rw [decimalNumeral_of_mark split odd] at js
        cases js
      · exact Option.some.inj (plain.symm.trans js)
    · exact Option.some.inj (plain.symm.trans js)

/-! ## Trimming -/

theorem isSpace_of_isNumeralChar {char : Char} (numeral : isNumeralChar char = true) :
    isSpace char = false ∧ isJSSpace char = false := by
  have bounds : 0x21 ≤ char.toNat ∧ char.toNat ≤ 0x7E := by
    rw [isNumeralChar, Bool.or_eq_true, decide_eq_true_eq] at numeral
    rcases numeral with letter | mark
    · delta Char.isAlphanum Char.isAlpha Char.isUpper Char.isLower Char.isDigit at letter
      simp only [Bool.or_eq_true, Bool.and_eq_true, decide_eq_true_eq] at letter
      rcases letter with (⟨low, high⟩ | ⟨low, high⟩) | ⟨low, high⟩
      · have least : 65 ≤ char.toNat := low
        have most : char.toNat ≤ 90 := high
        omega
      · have least : 97 ≤ char.toNat := low
        have most : char.toNat ≤ 122 := high
        omega
      · have least : 48 ≤ char.toNat := low
        have most : char.toNat ≤ 57 := high
        omega
    · have marks : (['+', '-', '.', '_'].all fun char =>
          0x21 ≤ char.toNat ∧ char.toNat ≤ 0x7E) = true := by decide
      exact of_decide_eq_true (List.all_eq_true.mp marks char mark)
  refine ⟨isSpace_eq_false bounds.1 bounds.2, ?_⟩
  rw [isJSSpace, Bool.or_eq_false_iff, Bool.and_eq_false_iff]
  constructor
  · apply decide_eq_false
    simp only [List.mem_cons, List.not_mem_nil, or_false]
    omega
  · left
    apply decide_eq_false
    omega

theorem filter_dropWhile {α : Type} {drop keep : α → Bool} (apart : ∀ item, keep item = true →
    drop item = false) (items : List α) :
    (items.dropWhile drop).filter keep = items.filter keep := by
  induction items with
  | nil => rfl
  | cons item rest induction =>
      rw [List.dropWhile_cons]
      split
      · rename_i dropped
        rw [induction, List.filter_cons_of_neg]
        intro kept
        rw [apart item kept] at dropped
        cases dropped
      · rfl

/-- What is left of a text between the characters of one kind at its ends. -/
def trimmedChars (drop : Char → Bool) (text : List Char) : List Char :=
  ((text.dropWhile drop).reverse.dropWhile drop).reverse

theorem filter_trimmedChars {drop keep : Char → Bool}
    (apart : ∀ char, keep char = true → drop char = false) (text : List Char) :
    (trimmedChars drop text).filter keep = text.filter keep := by
  rw [trimmedChars, List.filter_reverse, filter_dropWhile apart, List.filter_reverse,
    List.reverse_reverse, filter_dropWhile apart]

theorem trimmed_eq {text : String} {goValue jsValue : Rat}
    (go : goNumeral (trimSpace text).toList = some goValue)
    (js : jsNumeral (jsTrim text).toList = some jsValue) : trimSpace text = jsTrim text := by
  have goChars : (trimSpace text).toList.filter isNumeralChar = (trimSpace text).toList :=
    List.filter_eq_self.mpr fun char listed => mem_goNumeral go listed
  have jsChars : (jsTrim text).toList.filter isNumeralChar = (jsTrim text).toList :=
    List.filter_eq_self.mpr fun char listed => (mem_jsNumeral js listed).1
  have goTrimmed : (trimSpace text).toList = trimmedChars isSpace text.toList :=
    String.toList_ofList
  have jsTrimmed : (jsTrim text).toList = trimmedChars isJSSpace text.toList :=
    String.toList_ofList
  rw [goTrimmed, filter_trimmedChars fun char numeral =>
    (isSpace_of_isNumeralChar numeral).1] at goChars
  rw [jsTrimmed, filter_trimmedChars fun char numeral =>
    (isSpace_of_isNumeralChar numeral).2] at jsChars
  rw [← String.toList_inj, goTrimmed, jsTrimmed, ← goChars, jsChars]

theorem goParseFloat_eq_jsNumber {text : String} {goValue jsValue : Rat}
    (go : goParseFloat (trimSpace text) = some goValue)
    (js : jsNumber (jsTrim text) = some jsValue) : goValue = jsValue := by
  rcases Option.bind_eq_some_iff.mp go with ⟨goExact, goRead, goDouble⟩
  rcases Option.bind_eq_some_iff.mp js with ⟨jsExact, jsRead, jsDouble⟩
  have same := trimmed_eq goRead jsRead
  rw [← same] at jsRead
  rw [goNumeral_eq_jsNumeral goRead jsRead] at goDouble
  exact Option.some.inj (goDouble.symm.trans jsDouble)

end HomelabBuilder
