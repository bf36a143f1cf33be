import TermSheet.Decimal.Basic

/-!
# Products of decimal numbers

The exact product of two numbers multiplies the coefficients and adds the exponents. It is then
fitted into the range in which results are kept: a leading digit above `10 ^ 999999` is an
overflow, a last digit too far below `10 ^ -999999` is rounded away, half to even, and the exponent
of a zero is moved to the nearer end of the range.

The working precision is the caller's, or the number of digits of both factors where that is more,
so that rounding happens at the low end of the range only.

Results:
- `fit?_of_fits`: a number in the range is left as it is.
-/

namespace TermSheet.Decimal

/-- The highest place of a leading digit. -/
def greatestAdjusted : Int := 999999

/-- The lowest place of a leading digit of a number with full precision. -/
def leastAdjusted : Int := -999999

/-- The lowest place of a last digit at a precision. -/
def leastExponent (precision : Nat) : Int := leastAdjusted - (precision - 1)

/-- The precision of a caller that sets none. -/
def usualPrecision : Nat := 28

/-- `coefficient / 10 ^ places`, rounded to nearest, half to even. -/
def roundOff (coefficient places : Nat) : Nat :=
  if digitCount coefficient < places then 0
  else
    let unit := Nat.pow 10 places
    let quotient := coefficient / unit
    let twice := 2 * (coefficient % unit)
    if twice < unit ∨ (twice = unit ∧ quotient % 2 = 0) then quotient else quotient + 1

/-- A number fitted into the range of results at a precision that covers its digits; nothing on
    overflow. -/
def fit? (precision : Nat) (d : Decimal) : Option Decimal :=
  let least := leastExponent precision
  if d.coefficient = 0 then
    some { d with exponent := max least (min greatestAdjusted d.exponent) }
  else if greatestAdjusted < d.adjusted then none
  else if d.exponent < least then
    some ⟨d.negative, roundOff d.coefficient (least - d.exponent).toNat, least⟩
  else some d

/-- The exact product. -/
def exactMul (a b : Decimal) : Decimal :=
  ⟨a.negative != b.negative, a.coefficient * b.coefficient, a.exponent + b.exponent⟩

/-- The precision at which two numbers are multiplied. -/
def workingPrecision (precision : Nat) (a b : Decimal) : Nat :=
  max precision (digitCount a.coefficient + digitCount b.coefficient)

/-- The product in the range of results; nothing on overflow. -/
def mul? (precision : Nat) (a b : Decimal) : Option Decimal :=
  (exactMul a b).fit? (workingPrecision precision a b)

theorem fit?_of_fits {precision : Nat} {d : Decimal} (low : leastExponent precision ≤ d.exponent)
    (high : d.adjusted ≤ greatestAdjusted) : d.fit? precision = some d := by
  have tail : d.exponent ≤ d.adjusted := by
    have := digitCount_pos d.coefficient
    simp only [adjusted]
    omega
  unfold fit?
  split
  · have : max (leastExponent precision) (min greatestAdjusted d.exponent) = d.exponent := by omega
    simp only [this]
  · rw [if_neg (by omega), if_neg (by omega)]

end TermSheet.Decimal
