import Mathlib.Data.Nat.Digits.Defs
import Mathlib.Tactic.Ring
import HomelabBuilder.Foundation.Text
import HomelabBuilder.Wiring.Ports

/-! # Power wiring

`power.go`: how many sockets and power inputs a device has, and which handles
stand for them.
-/

namespace HomelabBuilder.Wiring

open Net (decimal)

/-- What Go leaves to its library and to the machine: the finite float a text
spells, and the integer that truncating a float gives when it fits no `int`. -/
structure Floats where
  parseFloat : String → Option Rat
  overflow : Rat → Int

def powerInPrefix : String := "pwr-in-"
def powerOutPrefix : String := "pwr-out-"

def maxPowerInputs : Int := 4
def maxPowerOutputs : Int := 48

/-- Types that never take a power cable. -/
def noPowerInputTypes : List String :=
  ["power_outlet", "rack", "disk", "gpu", "cpu", "hba", "pcie", "vps"]

def defaultOutlets : List (String × Int) := [("ups", 6), ("pdu", 8), ("power_outlet", 2)]

/-- Whether the type has sockets instead of network ports. -/
def isPowerSource (nodeType : String) : Bool := (defaultOutlets.lookup nodeType).isSome

def number (floats : Floats) : Json → Option Rat
  | .num value => some value
  | .str value => floats.parseFloat (trimSpace value)
  | _ => none

/-- Conversion to `int`, truncated toward zero. -/
def truncate (floats : Floats) (value : Rat) : Int :=
  let whole := value.num.tdiv value.den
  if -2 ^ 63 ≤ whole ∧ whole < 2 ^ 63 then whole else floats.overflow value

/-- A count; a missing or unreadable value gives the fallback. -/
def countDetail (floats : Floats) (details : List (String × Json)) (key : String)
    (fallback : Int) : Int :=
  match (details.lookup key).bind (number floats) with
  | some value => truncate floats value
  | none => fallback

def clamp (value low high : Int) : Int := max low (min high value)

/-- The number of power inputs of a node, one for each PSU. -/
def powerInputCount (floats : Floats) (nodeType : String) (details : List (String × Json)) : Int :=
  if nodeType ∈ noPowerInputTypes then 0
  else clamp (countDetail floats details "psu_count" 1) 0 maxPowerInputs

/-- The number of sockets of a power source, 0 for any other type. -/
def powerOutputCount (floats : Floats) (nodeType : String) (details : List (String × Json)) :
    Int :=
  match defaultOutlets.lookup nodeType with
  | none => 0
  | some fallback => clamp (countDetail floats details "outlets" fallback) 1 maxPowerOutputs

/-- A decimal index without sign or leading zeros, -1 otherwise. -/
def plainIndex (text : List Char) : Int :=
  if text = [] ∨ (1 < text.length ∧ text.head? = some '0') ∨ 6 < text.length then -1
  else
    match decimal text with
    | some index => index
    | none => -1

/-- N for a handle "<prefix>N", -1 for any other. -/
def powerHandleIndex (handle start : String) : Int :=
  match cutPrefix start handle with
  | some rest => plainIndex rest
  | none => -1

/-! ## Counts -/

theorem powerInputCount_le (floats : Floats) (nodeType : String)
    (details : List (String × Json)) : powerInputCount floats nodeType details ≤ 4 := by
  unfold powerInputCount clamp maxPowerInputs
  split <;> omega

theorem powerOutputCount_of_isPowerSource {nodeType : String} (isSource : isPowerSource nodeType)
    (floats : Floats) (details : List (String × Json)) :
    1 ≤ powerOutputCount floats nodeType details ∧
      powerOutputCount floats nodeType details ≤ maxPowerOutputs := by
  unfold isPowerSource at isSource
  unfold powerOutputCount clamp maxPowerOutputs
  cases fallback : defaultOutlets.lookup nodeType with
  | none =>
      rw [fallback] at isSource
      cases isSource
  | some fallback =>
      dsimp only
      omega

theorem powerOutputCount_set {nodeType : String} (isSource : isPowerSource nodeType)
    (floats : Floats) (details : List (String × Json)) {count : Int} (low : 1 ≤ count)
    (high : count ≤ maxPowerOutputs) :
    powerOutputCount floats nodeType (Table.set details "outlets" (.num count)) = count := by
  unfold maxPowerOutputs at high
  have whole : truncate floats count = count := by
    have exact_ : ((count : Rat).num.tdiv (count : Rat).den) = count := by simp
    unfold truncate
    simp only [exact_]
    rw [if_pos (by omega)]
  unfold isPowerSource at isSource
  cases fallback : defaultOutlets.lookup nodeType with
  | none =>
      rw [fallback] at isSource
      cases isSource
  | some fallback =>
      rw [powerOutputCount, fallback]
      dsimp only
      rw [countDetail, Table.lookup_set, if_pos rfl, Option.bind_some, number]
      dsimp only
      rw [whole, clamp, maxPowerOutputs]
      omega

theorem powerInputCount_set (floats : Floats) (nodeType : String)
    (details : List (String × Json)) (count : Json) :
    powerInputCount floats nodeType (Table.set details "outlets" count) =
      powerInputCount floats nodeType details := by
  have other : "psu_count" ≠ "outlets" := by decide
  simp only [powerInputCount, countDetail, Table.lookup_set, if_neg other]

/-! ## Handles -/

theorem powerHandleIndex_append {index : Nat} (small : index < 48) (start : String) :
    powerHandleIndex (start ++ toString index) start = index := by
  have plain : ∀ index : Nat, index < 48 → plainIndex (toString index).toList = index := by
    decide +kernel
  rw [powerHandleIndex, cutPrefix_append]
  exact plain index small

private theorem toNat_of_isDigit {char : Char} (digit : char.isDigit) :
    48 ≤ char.toNat ∧ char.toNat ≤ 57 := by
  simp only [Char.isDigit, Bool.and_eq_true, decide_eq_true_eq] at digit
  exact ⟨digit.1, digit.2⟩

private def digitValues (text : List Char) : List Nat :=
  (text.map fun char => char.toNat - '0'.toNat).reverse

private theorem decimal_eq_ofDigits {text : List Char} {value : Nat}
    (read : decimal text = some value) :
    (∀ char ∈ text, char.isDigit) ∧ value = Nat.ofDigits 10 (digitValues text) := by
  unfold decimal at read
  split at read
  · rename_i digits
    refine ⟨List.all_eq_true.mp digits.2, ?_⟩
    have fold : ∀ (rest : List Char) (high : Nat),
        rest.foldl (fun value char => value * 10 + (char.toNat - '0'.toNat)) high =
          Nat.ofDigits 10 (digitValues rest) + 10 ^ rest.length * high := by
      intro rest
      induction rest with
      | nil => simp [digitValues]
      | cons char rest induction =>
          intro high
          simp only [List.foldl_cons, induction, digitValues, List.map_cons, List.reverse_cons,
            Nat.ofDigits_append, List.length_reverse, List.length_map, Nat.ofDigits_singleton,
            List.length_cons, pow_succ]
          ring
    have whole := fold text 0
    cases read
    simpa using whole
  · cases read

private theorem digitValues_of_plainIndex {text : List Char} {index : Nat}
    (plain : plainIndex text = index) :
    (∀ char ∈ text, char.isDigit) ∧
      digitValues text = if index = 0 then [0] else Nat.digits 10 index := by
  unfold plainIndex at plain
  split at plain
  · exact absurd plain (by omega)
  · rename_i shape
    simp only [not_or, not_and] at shape
    cases read : decimal text with
    | none =>
        rw [read] at plain
        dsimp only at plain
        omega
    | some value =>
        rw [read] at plain
        dsimp only at plain
        have same : value = index := by exact_mod_cast plain
        subst same
        rcases decimal_eq_ofDigits read with ⟨digits, whole⟩
        refine ⟨digits, ?_⟩
        have small : ∀ digit ∈ digitValues text, digit < 10 := by
          intro digit member
          rcases List.mem_map.mp (List.mem_reverse.mp member) with ⟨char, inText, rfl⟩
          have range := toNat_of_isDigit (digits char inText)
          have zero : '0'.toNat = 48 := rfl
          omega
        cases text with
        | nil => exact absurd rfl shape.1
        | cons first rest =>
            by_cases leading : first = '0'
            · have alone : rest = [] := by
                by_contra more
                have length : 1 < (first :: rest).length := by
                  have positive := List.length_pos_iff.mpr more
                  simp only [List.length_cons]
                  omega
                exact shape.2.1 length (by rw [leading]; rfl)
              subst leading alone
              have zero : value = 0 := by simpa [digitValues] using whole
              rw [if_pos zero]
              rfl
            · have noLeading : ∀ nonempty : digitValues (first :: rest) ≠ [],
                  (digitValues (first :: rest)).getLast nonempty ≠ 0 := by
                intro nonempty
                have range := toNat_of_isDigit (digits first List.mem_cons_self)
                have other : first.toNat ≠ 48 := fun same => leading (Char.toNat_inj.mp same)
                have zero : '0'.toNat = 48 := rfl
                simp only [digitValues, List.map_cons, List.reverse_cons, List.getLast_append_singleton]
                omega
              have back := Nat.digits_ofDigits 10 (by omega) _ small noLeading
              rw [← whole] at back
              rw [← back]
              split
              · rename_i zero
                rw [zero] at back
                simp [digitValues] at back
              · rfl

theorem eq_of_powerHandleIndex_eq {left right start : String} {index : Nat}
    (leftIndex : powerHandleIndex left start = index)
    (rightIndex : powerHandleIndex right start = index) : left = right := by
  have spelled : ∀ {handle : String}, powerHandleIndex handle start = index →
      ∃ rest, handle = start ++ String.ofList rest ∧ plainIndex rest = index := by
    intro handle read
    unfold powerHandleIndex at read
    split at read
    · rename_i rest found
      exact ⟨rest, eq_append_of_cutPrefix found, read⟩
    · omega
  rcases spelled leftIndex with ⟨leftRest, rfl, leftPlain⟩
  rcases spelled rightIndex with ⟨rightRest, rfl, rightPlain⟩
  rcases digitValues_of_plainIndex leftPlain with ⟨leftDigits, leftValues⟩
  rcases digitValues_of_plainIndex rightPlain with ⟨rightDigits, rightValues⟩
  have values : leftRest.map (fun char => char.toNat - '0'.toNat) =
      rightRest.map fun char => char.toNat - '0'.toNat :=
    List.reverse_inj.mp (leftValues.trans rightValues.symm)
  have restored : ∀ {text : List Char}, (∀ char ∈ text, char.isDigit) →
      (text.map fun char => char.toNat - '0'.toNat).map (fun value => Char.ofNat (value + 48)) =
        text := by
    intro text digits
    rw [List.map_map]
    calc
      text.map _ = text.map id := by
        apply List.map_congr_left
        intro char member
        have range := toNat_of_isDigit (digits char member)
        have zero : '0'.toNat = 48 := rfl
        have back : char.toNat - 48 + 48 = char.toNat := by omega
        rw [Function.comp_apply, zero, back, Char.ofNat_toNat, id]
      _ = text := List.map_id text
  rw [← restored leftDigits, ← restored rightDigits, values]

end HomelabBuilder.Wiring
