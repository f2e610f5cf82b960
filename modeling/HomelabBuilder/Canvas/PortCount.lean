import HomelabBuilder.Foundation.Numerals
import HomelabBuilder.Services.TopologyPorts

/-! # Ports the canvas draws

`port-count.ts`: how many handles a card gets, and where the server counts as many.
-/

namespace HomelabBuilder.Canvas

open Services (dynamicPortTypes positive atoiClamped wrapInt)
open Wiring (Floats truncate)
open Net (decimal)

/-! ## The canvas -/

def defaultDynamicPorts : List (String × Rat) :=
  [("router", 4), ("switch", 4), ("server", 4), ("server_v2", 4), ("firewall", 4), ("vps", 2),
    ("modem", 4)]

def getDefaultPortCount (type : String) : Rat := (defaultDynamicPorts.lookup type).getD 1

/-- A number of JavaScript that is not negative; nothing stands for infinity. -/
abbrev JSNumber := Option Rat

def addNumbers (left right : JSNumber) : JSNumber :=
  left.bind fun left => right.bind fun right => nearestDouble (left + right)

/-- `Number` of a run of digits. -/
def numberOf (digits : List Char) : JSNumber := jsNumber (String.ofList digits)

/-- The numbers in front of a multiplication sign, a space between them or not. -/
def multipliersOver (space : Char → Bool) : List Char → Bool → List Char → List (List Char)
  | _, _, [] => []
  | run, gap, char :: rest =>
      if char.isDigit then multipliersOver space (if gap then [char] else char :: run) false rest
      else if char ∈ ['x', 'X', '×'] then
        if run = [] then multipliersOver space [] false rest
        else run.reverse :: multipliersOver space [] false rest
      else if space char then multipliersOver space run true rest
      else multipliersOver space [] false rest

def firstInteger (text : List Char) : List Char :=
  (text.dropWhile fun char => !char.isDigit).takeWhile Char.isDigit

def ifPositive : JSNumber → Option JSNumber
  | some value => if 0 < value then some (some value) else none
  | none => some none

def parsePortCount : Json → Option JSNumber
  | .num value => if 0 < value then some (some value) else none
  | .str text =>
      let trimmed := jsTrim text
      if trimmed = "" then none
      else
        match (jsNumber trimmed).filter (0 < ·) with
        | some direct => some (some direct)
        | none =>
            match multipliersOver isJSSpace [] false trimmed.toList with
            | [] =>
                match firstInteger trimmed.toList with
                | [] => none
                | first => ifPositive (numberOf first)
            | counts =>
                ifPositive (counts.foldl (fun total count => addNumbers total (numberOf count))
                  (some 0))
  | _ => none

def getNodePortCount (type : String) (value : Option Json) : JSNumber :=
  (value.bind parsePortCount).getD (some (getDefaultPortCount type))

/-! ## Both sides -/

/-- The server's numbers; what `int` makes of a number it cannot hold is open. -/
def goFloats (overflow : Rat → Int) : Floats where
  parseFloat := goParseFloat
  overflow := overflow

/-- The server accepts as many handles as the canvas draws. -/
def PortCountsAgree (overflow : Rat → Int) (nodeType : String)
    (details : List (String × Json)) : Prop :=
  ∃ count : Rat, getNodePortCount nodeType (details.lookup "ports") = some count ∧
    Services.portCount (goFloats overflow) nodeType details = ⌊count⌋

/-- The number a list of counts, or else the first integer, comes to. -/
def countedIn (counts : List (List Char)) (text : List Char) : Nat :=
  match counts with
  | [] => (decimal (firstInteger text)).getD 0
  | counts => (counts.map fun count => (decimal count).getD 0).sum

/-- Both sides read the value alike, and as a number of ports a card can have. -/
def ReadAlike : Json → Prop
  | .num value => value ≤ 0 ∨ 1 ≤ value ∧ value < 2 ^ 63
  | .str text =>
      match (goParseFloat (trimSpace text)).filter (0 < ·),
        (jsNumber (jsTrim text)).filter (0 < ·) with
      | some value, some _ => 1 ≤ value ∧ value < 2 ^ 63
      | none, none =>
          Services.multipliers [] false (trimSpace text).toList =
            multipliersOver isJSSpace [] false (jsTrim text).toList ∧
          countedIn (Services.multipliers [] false (trimSpace text).toList) text.toList < 2 ^ 53
      | _, _ => False
  | _ => True

def IsNumberToBoth : Json → Prop
  | .num _ => True
  | .str text =>
      ((goParseFloat (trimSpace text)).filter (0 < ·)).isSome ∧
        ((jsNumber (jsTrim text)).filter (0 < ·)).isSome
  | _ => False

/-! ## Numbers -/

theorem tdiv_eq_floor {value : Rat} (pos : 0 < value) :
    value.num.tdiv value.den = ⌊value⌋ := by
  rw [Rat.floor_def', Int.tdiv_eq_ediv_of_nonneg (Rat.num_nonneg.mpr pos.le)]

theorem truncate_of_pos (floats : Floats) {value : Rat} (pos : 0 < value) (small : value < 2 ^ 63) :
    truncate floats value = ⌊value⌋ := by
  have low : 0 ≤ ⌊value⌋ := Int.floor_nonneg.mpr pos.le
  have high : ⌊value⌋ < 2 ^ 63 := Int.floor_lt.mpr (by exact_mod_cast small)
  rw [truncate, tdiv_eq_floor pos, if_pos ⟨by omega, high⟩]

/-- A positive number counts alike where it is no fraction of a port and fits an `int`. -/
theorem positive_truncate_iff (floats : Floats) (law : ∀ value, floats.overflow value < 2 ^ 63)
    {value : Rat} (pos : 0 < value) {fallback : Int} (given : 0 < fallback ∧ fallback < 2 ^ 63) :
    (positive (truncate floats value)).getD fallback = ⌊value⌋ ↔ 1 ≤ value ∧ value < 2 ^ 63 := by
  by_cases small : value < 2 ^ 63
  · rw [truncate_of_pos floats pos small, positive]
    split
    · rename_i one
      exact ⟨fun _ => ⟨by exact_mod_cast Int.floor_pos.mp one, small⟩, fun _ => rfl⟩
    · rename_i below
      constructor
      · intro same
        rw [Option.getD_none] at same
        omega
      · exact fun both => absurd (Int.floor_pos.mpr both.1) below
  · constructor
    · intro same
      have high : 2 ^ 63 ≤ ⌊value⌋ := Int.le_floor.mpr (by exact_mod_cast not_lt.mp small)
      have within := law value
      rw [truncate, tdiv_eq_floor pos, if_neg (by omega), positive] at same
      split at same
      · rw [Option.getD_some] at same
        omega
      · rw [Option.getD_none] at same
        omega
    · exact fun both => absurd both.2 small

/-! ## Runs of digits -/

theorem digitsValue_of_digits {digits : List Char} (all : ∀ digit ∈ digits, digit.isDigit = true)
    (nonempty : digits ≠ []) : decimal digits = some (digitsValue 10 digits) := by
  have same : ∀ (digits : List Char) (start : Nat), (∀ digit ∈ digits, digit.isDigit = true) →
      digits.foldl (fun value char => value * 10 + (char.toNat - '0'.toNat)) start =
        digits.foldl (fun value char => value * 10 + digitValue char) start := by
    intro digits
    induction digits with
    | nil => exact fun _ _ => rfl
    | cons digit rest induction =>
        intro start all
        rw [List.foldl_cons, List.foldl_cons, digitValue, if_pos (all digit List.mem_cons_self)]
        exact induction _ fun other listed => all other (List.mem_cons_of_mem _ listed)
  rw [decimal, if_pos ⟨nonempty, List.all_eq_true.mpr all⟩, same digits 0 all]
  rfl

theorem decimalNumeral_of_digits {digits : List Char}
    (all : ∀ digit ∈ digits, digit.isDigit = true) (nonempty : digits ≠ []) :
    decimalNumeral digits = some (digitsValue 10 digits : Rat) := by
  have unsigned : signed digits = (false, digits) := by
    rw [signed.eq_def]
    split
    · exact absurd (all '-' List.mem_cons_self) (by decide)
    · exact absurd (all '+' List.mem_cons_self) (by decide)
    · rfl
  have none : digits.dropWhile Char.isDigit = [] := List.dropWhile_eq_nil_iff.mpr all
  have whole : digits.takeWhile Char.isDigit = digits := List.takeWhile_eq_self_iff.mpr all
  have parts : mantissa Char.isDigit digits = (digits, [], []) := by
    rw [mantissa, none, whole]
  rw [decimalNumeral, unsigned]
  dsimp only
  rw [parts]
  dsimp only
  rw [List.append_nil, if_neg nonempty, exponent, Option.map_some]
  simp [withSign]

theorem jsNumeral_of_digits {digits : List Char} (all : ∀ digit ∈ digits, digit.isDigit = true)
    (nonempty : digits ≠ []) : jsNumeral digits = some (digitsValue 10 digits : Rat) := by
  have decimal := decimalNumeral_of_digits all nonempty
  unfold jsNumeral
  split
  · exact absurd rfl nonempty
  · rename_i mark rest
    have digit := all mark (List.mem_cons_of_mem _ List.mem_cons_self)
    have odd : ∀ other ∈ ['x', 'X', 'o', 'O', 'b', 'B'], mark ≠ other := by
      have letters : (['x', 'X', 'o', 'O', 'b', 'B'].all fun other => !other.isDigit) = true := by
        decide
      intro other listed same
      have letter := List.all_eq_true.mp letters other listed
      rw [← same, digit] at letter
      cases letter
    rw [if_neg, if_neg, if_neg]
    · exact decimal
    · exact fun same => same.elim (odd 'b' (by decide)) (odd 'B' (by decide))
    · exact fun same => same.elim (odd 'o' (by decide)) (odd 'O' (by decide))
    · exact fun same => same.elim (odd 'x' (by decide)) (odd 'X' (by decide))
  · exact decimal

theorem read_digits {digits : List Char} (all : ∀ digit ∈ digits, digit.isDigit = true)
    (nonempty : digits ≠ []) (small : (decimal digits).getD 0 < 2 ^ 53) :
    atoiClamped digits = (decimal digits).getD 0 ∧
      numberOf digits = some (((decimal digits).getD 0 : Nat) : Rat) := by
  have value := digitsValue_of_digits all nonempty
  rw [value, Option.getD_some] at small ⊢
  constructor
  · rw [atoiClamped, value, Option.getD_some]
    omega
  · rw [numberOf, jsNumber, String.toList_ofList, jsNumeral_of_digits all nonempty,
      Option.bind_some]
    exact nearestDouble_natCast small

theorem multipliers_eq (text : List Char) : ∀ (run : List Char) (gap : Bool),
    Services.multipliers run gap text = multipliersOver Services.isRegexSpace run gap text := by
  induction text with
  | nil => exact fun _ _ => rfl
  | cons char rest induction =>
      intro run gap
      rw [Services.multipliers, multipliersOver]
      simp only [induction]

theorem digits_multipliersOver {space : Char → Bool} (text : List Char) :
    ∀ (run : List Char) (gap : Bool), (∀ digit ∈ run, digit.isDigit = true) →
      ∀ count ∈ multipliersOver space run gap text,
        count ≠ [] ∧ ∀ digit ∈ count, digit.isDigit = true := by
  induction text with
  | nil => exact fun _ _ _ count listed => absurd listed List.not_mem_nil
  | cons char rest induction =>
      intro run gap all count listed
      rw [multipliersOver] at listed
      split at listed
      · rename_i digit
        apply induction _ false _ count listed
        split
        · exact List.forall_mem_singleton.mpr digit
        · exact List.forall_mem_cons.mpr ⟨digit, all⟩
      split at listed
      · split at listed
        · exact induction [] false (List.forall_mem_nil _) count listed
        · rename_i nonempty
          rcases List.mem_cons.mp listed with rfl | later
          · exact ⟨fun none => nonempty (List.reverse_eq_nil_iff.mp none),
              fun digit inRun => all digit (List.mem_reverse.mp inRun)⟩
          · exact induction [] false (List.forall_mem_nil _) count later
      split at listed
      · exact induction run true all count listed
      · exact induction [] false (List.forall_mem_nil _) count listed

/-! ## Sums of multipliers -/

theorem foldl_addNumbers : ∀ {counts : List (List Char)} {total : Nat},
    (∀ count ∈ counts, count ≠ [] ∧ ∀ digit ∈ count, digit.isDigit = true) →
      total + (counts.map fun count => (decimal count).getD 0).sum < 2 ^ 53 →
        counts.foldl (fun total count => wrapInt (total + atoiClamped count)) (total : Int) =
            ((total + (counts.map fun count => (decimal count).getD 0).sum : Nat) : Int) ∧
          counts.foldl (fun total count => addNumbers total (numberOf count))
              (some (total : Rat)) =
            some ((total + (counts.map fun count => (decimal count).getD 0).sum : Nat) : Rat)
  | [], total, _, _ => ⟨rfl, rfl⟩
  | count :: rest, total, all, small => by
      rw [List.map_cons, List.sum_cons] at small ⊢
      have digits := all count List.mem_cons_self
      have read := read_digits digits.2 digits.1 (by omega)
      have wrapped : wrapInt ((total : Int) + ((decimal count).getD 0 : Nat)) =
          ((total + (decimal count).getD 0 : Nat) : Int) := by
        rw [wrapInt, Int.bmod_eq_of_le (by omega) (by omega)]
        rfl
      have added : addNumbers (some (total : Rat)) (some (((decimal count).getD 0 : Nat) : Rat)) =
          some ((total + (decimal count).getD 0 : Nat) : Rat) := by
        have double := @nearestDouble_natCast (total + (decimal count).getD 0) (by omega)
        rw [Nat.cast_add] at double ⊢
        exact double
      have later := @foldl_addNumbers rest (total + (decimal count).getD 0)
        (fun other listed => all other (List.mem_cons_of_mem _ listed)) (by omega)
      rw [List.foldl_cons, List.foldl_cons, read.1, read.2, wrapped, added, ← Nat.add_assoc]
      exact later

/-! ## The first integer -/

theorem firstInteger_dropWhile {drop : Char → Bool}
    (apart : ∀ char, char.isDigit = true → drop char = false) (text : List Char) :
    firstInteger (text.dropWhile drop) = firstInteger text := by
  induction text with
  | nil => rfl
  | cons char rest induction =>
      rw [List.dropWhile_cons]
      split
      · rename_i dropped
        have noDigit : char.isDigit = false := by
          cases digit : char.isDigit with
          | false => rfl
          | true =>
              rw [apart char digit] at dropped
              cases dropped
        rw [induction, firstInteger, firstInteger, List.dropWhile_cons_of_pos (by rw [noDigit]; rfl)]
      · rfl

theorem firstInteger_append {front blank : List Char}
    (noDigits : ∀ char ∈ blank, char.isDigit = false) :
    firstInteger (front ++ blank) = firstInteger front := by
  have none : blank.takeWhile Char.isDigit = [] := by
    cases blank with
    | nil => rfl
    | cons char rest =>
        rw [List.takeWhile_cons_of_neg (by rw [noDigits char List.mem_cons_self]; nofun)]
  have skipped : (blank.dropWhile fun char => !char.isDigit) = [] :=
    List.dropWhile_eq_nil_iff.mpr fun char listed => by rw [noDigits char listed]; rfl
  rw [firstInteger, firstInteger, List.dropWhile_append]
  split
  · rename_i empty
    rw [skipped, List.isEmpty_iff.mp empty]
  · rw [List.takeWhile_append, none, List.append_nil]
    split <;> rename_i whole
    · exact (List.takeWhile_eq_self_iff.mpr (List.takeWhile_eq_self_iff.mp
        ((List.takeWhile_prefix _).eq_of_length whole))).symm
    · rfl

theorem firstInteger_trimmedChars {drop : Char → Bool}
    (apart : ∀ char, char.isDigit = true → drop char = false) (text : List Char) :
    firstInteger (trimmedChars drop text) = firstInteger text := by
  let front := text.dropWhile drop
  have split : front = trimmedChars drop text ++ (front.reverse.takeWhile drop).reverse := by
    rw [trimmedChars, ← List.reverse_append, List.takeWhile_append_dropWhile, List.reverse_reverse]
  have noDigits : ∀ char ∈ (front.reverse.takeWhile drop).reverse, char.isDigit = false := by
    intro char listed
    have dropped := List.mem_takeWhile_imp (List.mem_reverse.mp listed)
    cases digit : char.isDigit with
    | false => rfl
    | true =>
        rw [apart char digit] at dropped
        cases dropped
  rw [← firstInteger_dropWhile apart text]
  change _ = firstInteger front
  rw [split, firstInteger_append noDigits]

/-! ## Whole counts -/

section

variable {overflow : Rat → Int} {nodeType : String} {details : List (String × Json)} {value : Json}

/-- The count of a device that says nothing readable. -/
def serverDefault (nodeType : String) : Int := (Services.defaultPortCounts.lookup nodeType).getD 1

theorem getDefaultPortCount_eq (dynamic : nodeType ∈ dynamicPortTypes) :
    getDefaultPortCount nodeType = (serverDefault nodeType : Rat) ∧
      0 < serverDefault nodeType ∧ serverDefault nodeType < 2 ^ 63 := by
  have all : ∀ nodeType ∈ dynamicPortTypes,
      getDefaultPortCount nodeType = (serverDefault nodeType : Rat) ∧
        0 < serverDefault nodeType ∧ serverDefault nodeType < 2 ^ 63 := by
    decide
  exact all nodeType dynamic

theorem portCountsAgree_iff_readings (dynamic : nodeType ∈ dynamicPortTypes)
    (found : details.lookup "ports" = some value) :
    PortCountsAgree overflow nodeType details ↔
      ∃ count : Rat,
        (parsePortCount value).getD (some (serverDefault nodeType : Rat)) = some count ∧
          (Services.parsePortCount (goFloats overflow) value).getD (serverDefault nodeType) =
            ⌊count⌋ := by
  have server : Services.portCount (goFloats overflow) nodeType details =
      (Services.parsePortCount (goFloats overflow) value).getD (serverDefault nodeType) := by
    rw [Services.portCount, if_neg (not_not.mpr dynamic), found, Option.bind_some]
    cases Services.parsePortCount (goFloats overflow) value <;> rfl
  rw [PortCountsAgree, getNodePortCount, found, Option.bind_some, server,
    (getDefaultPortCount_eq dynamic).1]

theorem parseFloat_goFloats (overflow : Rat → Int) :
    (goFloats overflow).parseFloat = goParseFloat := rfl

theorem server_parsePortCount_str (text : String) :
    Services.parsePortCount (goFloats overflow) (.str text) =
      Services.parsePortText (goFloats overflow) text := by
  rw [Services.parsePortCount]
  split
  · rename_i empty
    have nothing : (goParseFloat "").filter (0 < ·) = none := by decide
    rw [Services.parsePortText, empty, parseFloat_goFloats, nothing]
    rfl
  · rfl

theorem parsePortCount_str (text : String) :
    parsePortCount (.str text) =
      match (jsNumber (jsTrim text)).filter (0 < ·) with
      | some direct => some (some direct)
      | none =>
          match multipliersOver isJSSpace [] false (jsTrim text).toList with
          | [] =>
              match firstInteger (jsTrim text).toList with
              | [] => none
              | first => ifPositive (numberOf first)
          | counts =>
              ifPositive (counts.foldl (fun total count => addNumbers total (numberOf count))
                (some 0)) := by
  rw [parsePortCount]
  split
  · rename_i empty
    have nothing : (jsNumber "").filter (0 < ·) = none := by decide +kernel
    rw [empty, nothing]
    rfl
  · rfl

theorem digits_firstInteger (text : List Char) :
    ∀ digit ∈ firstInteger text, digit.isDigit = true :=
  fun _ listed => List.mem_takeWhile_imp listed

theorem not_isSpace_of_isDigit {char : Char} (digit : char.isDigit = true) :
    isSpace char = false ∧ isJSSpace char = false :=
  isSpace_of_isNumeralChar (isNumeralChar_of_isDigit digit)

section Fallback

variable {text : String}
  (small : countedIn (Services.multipliers [] false (trimSpace text).toList) text.toList < 2 ^ 53)

theorem digits_multipliers (text : List Char) :
    ∀ count ∈ Services.multipliers [] false text,
      count ≠ [] ∧ ∀ digit ∈ count, digit.isDigit = true := by
  rw [multipliers_eq]
  exact digits_multipliersOver text [] false (List.forall_mem_nil _)

include small in
theorem server_fallback
    (noNumber : (goParseFloat (trimSpace text)).filter (0 < ·) = none) :
    Services.parsePortText (goFloats overflow) text =
      positive (countedIn (Services.multipliers [] false (trimSpace text).toList) text.toList :
        Nat) := by
  have digits := digits_multipliers (trimSpace text).toList
  have first : (((trimSpace text).toList.dropWhile fun char => !char.isDigit).takeWhile
      Char.isDigit) = firstInteger text.toList := by
    change firstInteger (trimSpace text).toList = _
    have trimmed : (trimSpace text).toList = trimmedChars isSpace text.toList :=
      String.toList_ofList
    rw [trimmed]
    exact firstInteger_trimmedChars (fun _ digit => (not_isSpace_of_isDigit digit).1) _
  rw [Services.parsePortText, parseFloat_goFloats, noNumber]
  dsimp only
  cases counts : Services.multipliers [] false (trimSpace text).toList with
  | nil =>
      rw [counts, countedIn] at small
      rw [countedIn]
      dsimp only
      rw [first]
      cases run : firstInteger text.toList with
      | nil => rfl
      | cons digit rest =>
          have inRun := digits_firstInteger text.toList
          rw [run] at small inRun
          have both := read_digits inRun (List.cons_ne_nil _ _) small
          exact congrArg positive both.1
  | cons count rest =>
      rw [counts] at small digits
      have summed := @foldl_addNumbers (count :: rest) 0 digits (by
        rw [Nat.zero_add]
        exact small)
      rw [Nat.zero_add] at summed
      exact congrArg positive summed.1

include small in
theorem canvas_fallback
    (noNumber : (jsNumber (jsTrim text)).filter (0 < ·) = none)
    (same : Services.multipliers [] false (trimSpace text).toList =
      multipliersOver isJSSpace [] false (jsTrim text).toList) :
    parsePortCount (.str text) =
      ifPositive (some ((countedIn (Services.multipliers [] false (trimSpace text).toList)
        text.toList : Nat) : Rat)) := by
  have digits := digits_multipliers (trimSpace text).toList
  have first : firstInteger (jsTrim text).toList = firstInteger text.toList := by
    have trimmed : (jsTrim text).toList = trimmedChars isJSSpace text.toList :=
      String.toList_ofList
    rw [trimmed]
    exact firstInteger_trimmedChars (fun _ digit => (not_isSpace_of_isDigit digit).2) _
  rw [parsePortCount_str, noNumber, ← same]
  dsimp only
  cases counts : Services.multipliers [] false (trimSpace text).toList with
  | nil =>
      rw [counts, countedIn] at small
      rw [countedIn]
      dsimp only
      rw [first]
      cases run : firstInteger text.toList with
      | nil => rfl
      | cons digit rest =>
          have inRun := digits_firstInteger text.toList
          rw [run] at small inRun
          have both := read_digits inRun (List.cons_ne_nil _ _) small
          exact congrArg ifPositive both.2
  | cons count rest =>
      rw [counts] at small digits
      have summed := @foldl_addNumbers (count :: rest) 0 digits (by
        rw [Nat.zero_add]
        exact small)
      rw [Nat.zero_add] at summed
      exact congrArg ifPositive summed.2

end Fallback

theorem positive_agrees_iff (law : ∀ value, overflow value < 2 ^ 63)
    (dynamic : nodeType ∈ dynamicPortTypes) {number : Rat} (pos : 0 < number) :
    (∃ count : Rat, (some (some number) : Option JSNumber).getD
        (some (serverDefault nodeType : Rat)) = some count ∧
      (positive (truncate (goFloats overflow) number)).getD (serverDefault nodeType) = ⌊count⌋) ↔
      1 ≤ number ∧ number < 2 ^ 63 := by
  have given := (getDefaultPortCount_eq dynamic).2
  rw [← positive_truncate_iff (goFloats overflow) law pos given]
  constructor
  · rintro ⟨count, same, agree⟩
    rw [Option.getD_some, Option.some.injEq] at same
    rw [← same] at agree
    exact agree
  · exact fun agree => ⟨number, rfl, agree⟩

/-- Where both sides read a value alike they count as many ports; a value that is a
number to both has to be one they read alike. -/
theorem portCountsAgree_iff_readAlike (law : ∀ value, overflow value < 2 ^ 63)
    (dynamic : nodeType ∈ dynamicPortTypes) (found : details.lookup "ports" = some value) :
    (ReadAlike value → PortCountsAgree overflow nodeType details) ∧
      (IsNumberToBoth value → PortCountsAgree overflow nodeType details → ReadAlike value) := by
  rw [portCountsAgree_iff_readings dynamic found]
  have unread : (∃ count : Rat, (none : Option JSNumber).getD
      (some (serverDefault nodeType : Rat)) = some count ∧
        (none : Option Int).getD (serverDefault nodeType) = ⌊count⌋) :=
    ⟨serverDefault nodeType, rfl, (Int.floor_intCast _).symm⟩
  cases value with
  | num number =>
      rw [parsePortCount, Services.parsePortCount, ReadAlike]
      by_cases pos : 0 < number
      · rw [if_pos pos, if_neg (not_le.mpr pos), positive_agrees_iff law dynamic pos]
        exact ⟨fun alike => alike.resolve_left (not_le.mpr pos), fun _ => Or.inr⟩
      · rw [if_neg pos, if_pos (not_lt.mp pos)]
        exact ⟨fun _ => unread, fun _ _ => Or.inl (not_lt.mp pos)⟩
  | str text =>
      rw [server_parsePortCount_str, IsNumberToBoth, ReadAlike]
      cases go : (goParseFloat (trimSpace text)).filter (0 < ·) with
      | some goValue =>
          cases js : (jsNumber (jsTrim text)).filter (0 < ·) with
          | some jsValue =>
              have goRead := Option.filter_eq_some_iff.mp go
              have jsRead := Option.filter_eq_some_iff.mp js
              have same := goParseFloat_eq_jsNumber goRead.1 jsRead.1
              have pos : 0 < goValue := of_decide_eq_true goRead.2
              have server : Services.parsePortText (goFloats overflow) text =
                  positive (truncate (goFloats overflow) goValue) := by
                rw [Services.parsePortText, parseFloat_goFloats, go]
              have canvas : parsePortCount (.str text) = some (some goValue) := by
                rw [parsePortCount_str, js, same]
              rw [server, canvas, positive_agrees_iff law dynamic pos]
              exact ⟨id, fun _ => id⟩
          | none => exact ⟨False.elim, fun both => absurd both.2 Bool.false_ne_true⟩
      | none =>
          cases js : (jsNumber (jsTrim text)).filter (0 < ·) with
          | some jsValue => exact ⟨False.elim, fun both => absurd both.1 Bool.false_ne_true⟩
          | none =>
              refine ⟨?_, fun both => absurd both.1 Bool.false_ne_true⟩
              rintro ⟨same, small⟩
              rw [server_fallback small go, canvas_fallback small js same]
              generalize countedIn (Services.multipliers [] false (trimSpace text).toList)
                text.toList = counted
              rw [ifPositive, positive]
              by_cases pos : 0 < counted
              · rw [if_pos (Nat.cast_pos.mpr pos), if_pos (by omega)]
                exact ⟨counted, rfl, (Int.floor_natCast counted).symm⟩
              · rw [if_neg (by rwa [Nat.cast_pos]), if_neg (by omega)]
                exact unread
  | null => exact ⟨fun _ => unread, False.elim⟩
  | bool given => exact ⟨fun _ => unread, False.elim⟩
  | arr items => exact ⟨fun _ => unread, False.elim⟩
  | obj members => exact ⟨fun _ => unread, False.elim⟩

end

theorem dozen_counts_agree :
    PortCountsAgree (fun _ => -2 ^ 63) "switch" [("ports", .str "8x GbE + 4x SFP+")] := by
  have go : (goParseFloat (trimSpace "8x GbE + 4x SFP+")).filter (0 < ·) = none := by
    decide
  have js : (jsNumber (jsTrim "8x GbE + 4x SFP+")).filter (0 < ·) = none := by
    decide
  have alike : ReadAlike (.str "8x GbE + 4x SFP+") := by
    rw [ReadAlike, go, js]
    decide
  exact (portCountsAgree_iff_readAlike (fun _ => by decide) (by decide) rfl).1 alike

/-- Half a port is none on the canvas, and the usual number to the server. -/
theorem half_port_counts_differ :
    ¬PortCountsAgree (fun _ => -2 ^ 63) "switch" [("ports", .num (1 / 2))] := by
  rintro ⟨count, drawn, accepted⟩
  have half : getNodePortCount "switch" ([("ports", Json.num (1 / 2))].lookup "ports") =
      some (1 / 2) := by
    decide +kernel
  have four : Services.portCount (goFloats fun _ => -2 ^ 63) "switch"
      [("ports", .num (1 / 2))] = 4 := by
    decide +kernel
  rw [half, Option.some.injEq] at drawn
  rw [four, ← drawn] at accepted
  exact absurd accepted (by decide +kernel)

end HomelabBuilder.Canvas
