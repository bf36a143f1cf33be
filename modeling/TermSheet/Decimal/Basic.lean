/-!
# Decimal numbers

A decimal number is a sign, a coefficient and a power of ten. The representation is kept as it
was written: `1`, `1.00` and `10E-1` have one value and three representations, and a zero keeps
its sign and its exponent.

Results:
- `sameValue_refl`: every number is numerically equal to itself.
-/

namespace TermSheet

/-- The number `± coefficient · 10 ^ exponent`. -/
structure Decimal where
  negative : Bool
  coefficient : Nat
  exponent : Int
  deriving DecidableEq, Inhabited

/-- How many decimal digits a natural number is written with; zero takes one. -/
def digitCount (n : Nat) : Nat :=
  if n < 10 then 1 else digitCount (n / 10) + 1

theorem digitCount_pos (n : Nat) : 0 < digitCount n := by
  unfold digitCount
  split <;> omega

theorem digitCount_eq_one {n : Nat} (h : n < 10) : digitCount n = 1 := by
  unfold digitCount
  exact if_pos h

theorem digitCount_of_ten_le {n : Nat} (h : 10 ≤ n) : digitCount n = digitCount (n / 10) + 1 := by
  conv => lhs; unfold digitCount
  exact if_neg (by omega)

namespace Decimal

/-- The whole number `n` as a decimal. -/
def ofNat (n : Nat) : Decimal := ⟨false, n, 0⟩

/-- A whole number as a decimal. -/
def ofInt (i : Int) : Decimal := ⟨i < 0, i.natAbs, 0⟩

/-- Zero of either sign and any exponent. -/
def isZero (d : Decimal) : Bool := d.coefficient == 0

/-- The exponent of the leading digit. -/
def adjusted (d : Decimal) : Int := d.exponent + digitCount d.coefficient - 1

/-- Numeric equality: the two numbers are zero, or they agree in sign, in the place of the leading
    digit and in all digits once the shorter coefficient is filled up with zeros. -/
def sameValue (a b : Decimal) : Bool :=
  if a.coefficient = 0 ∨ b.coefficient = 0 then a.coefficient == b.coefficient
  else a.negative == b.negative && a.adjusted == b.adjusted &&
    a.coefficient * Nat.pow 10 (a.exponent - b.exponent).toNat ==
      b.coefficient * Nat.pow 10 (b.exponent - a.exponent).toNat

@[simp] theorem sameValue_refl (a : Decimal) : sameValue a a = true := by
  simp [sameValue]

/-- Whether the number is one, however it is written. -/
def isOne (d : Decimal) : Bool := d.sameValue (ofNat 1)

end Decimal

end TermSheet
