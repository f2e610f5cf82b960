import Mathlib.Algebra.Order.Ring.Int

/-! # Machine integers

Go's fixed-width integers as numbers, with the reductions the language makes.
A `uint32` is a natural number below `2 ^ 32`; an `int` is an integer, reduced
only where a sum can leave its range.
-/

namespace HomelabBuilder

/-- A `uint32` sum or product, reduced to its low 32 bits. -/
def wrap32 (value : Nat) : Nat := value % 2 ^ 32

/-- A `uint32` difference. -/
def sub32 (left right : Nat) : Nat := (left + 2 ^ 32 - right) % 2 ^ 32

/-- The conversion `uint32(value)` of an `int`. -/
def toUint32 (value : Int) : Nat := (value % 2 ^ 32).toNat

/-- An `int` sum, reduced to 64 bits with a sign. -/
def addInt (left right : Int) : Int := (left + right).bmod (2 ^ 64)

theorem wrap32_lt (value : Nat) : wrap32 value < 2 ^ 32 :=
  Nat.mod_lt _ (by decide)

theorem wrap32_of_lt {value : Nat} (bound : value < 2 ^ 32) : wrap32 value = value :=
  Nat.mod_eq_of_lt bound

theorem wrap32_le (value : Nat) : wrap32 value ≤ value := Nat.mod_le _ _

/-- The nearest double to a natural number, half to even. -/
def roundToDouble (value : Nat) : Nat :=
  if value < 2 ^ 53 then value
  else
    let unit := 2 ^ (Nat.log2 value - 52)
    let quotient := value / unit
    let remainder := value % unit
    let up := unit < 2 * remainder ∨ (unit = 2 * remainder ∧ quotient % 2 = 1)
    (if up then quotient + 1 else quotient) * unit

/-- The conversion of a non-negative whole double to `uint32`. It is exact in
range; out of range the language leaves it open, and the compiled code goes
through a 64-bit integer. -/
def uint32OfDouble (value : Nat) : Nat :=
  if value < 2 ^ 63 then wrap32 value else 0

end HomelabBuilder
