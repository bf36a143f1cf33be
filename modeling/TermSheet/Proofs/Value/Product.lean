import TermSheet.Proofs.Decimal.Value
import TermSheet.Value.Amount

/-!
# Products near the limits

Whether a product is refused, and where the range of results is sure to hold it, can be read off the
digits and exponents of its factors. The range reaches down to a lowest place that depends on the
precision, which is at least the number of digits of both factors. So there is a place above which
no product is changed at any precision; below it, the precision of the caller decides how much of
the product is kept.

Results:
* `Decimal.mul?_eq_some_exactMul`: a product above that place is exact in sign, digits and exponent.
* `mulOrFault_eq_ok_iff`, `mulOrFault_eq_error_iff`: products and the fault of a product.
* `mulOrFault_near_limits`: when a product is refused, and when it is exact at every precision.
-/

namespace TermSheet

namespace Decimal

variable {a b : Decimal}

theorem leastExponent_workingPrecision_le (precision : ℕ) (a b : Decimal) :
    leastExponent (workingPrecision precision a b) ≤
      -999999 - ((digitCount a.coefficient + digitCount b.coefficient : ℕ) - 1 : ℤ) := by
  have enough : digitCount a.coefficient + digitCount b.coefficient ≤
      workingPrecision precision a b := Nat.le_max_right _ _
  simp only [leastExponent, leastAdjusted]
  omega

/-- What the lowest place and the highest leading digit allow is kept as it is. -/
theorem mul?_eq_some_exactMul (precision : ℕ)
    (low : -999999 - ((digitCount a.coefficient + digitCount b.coefficient : ℕ) - 1 : ℤ) ≤
      a.exponent + b.exponent) (high : (exactMul a b).adjusted ≤ greatestAdjusted) :
    a.mul? precision b = some (exactMul a b) :=
  fit?_of_fits (le_trans (leastExponent_workingPrecision_le precision a b) low) high

/-- The leading digit of a product that is not refused is in the range. That of a zero is in the
    place of its exponent. -/
theorem adjusted_exactMul_le {precision : ℕ} (computed : a.mul? precision b ≠ none)
    (above : a.coefficient * b.coefficient ≠ 0 ∨ a.exponent + b.exponent ≤ 999999) :
    (exactMul a b).adjusted ≤ greatestAdjusted := by
  by_cases zero : a.coefficient * b.coefficient = 0
  · have small := above.resolve_left (not_not.mpr zero)
    have one : digitCount (a.coefficient * b.coefficient) = 1 :=
      digitCount_eq_one (by rw [zero]; norm_num)
    simp only [adjusted, exactMul, greatestAdjusted, one]
    omega
  · by_contra large
    exact computed (fit?_eq_none_iff.mpr ⟨zero, not_le.mp large⟩)

end Decimal

namespace Amount

variable {precision : ℕ} {a b q : Amount}

theorem mulOrFault_eq_ok_iff :
    a.mulOrFault precision b = .ok q ↔ a.value.mul? precision b.value = some q.value := by
  obtain ⟨v⟩ := q
  rw [mulOrFault, mulAt?]
  cases a.value.mul? precision b.value <;> simp

/-- The only fault of a product is that it is too large. -/
theorem mulOrFault_eq_error_iff {fault : AmountFault} :
    a.mulOrFault precision b = .error fault ↔
      a.value.mul? precision b.value = none ∧ fault = .ofOverflow a b := by
  rw [mulOrFault, mulAt?]
  cases a.value.mul? precision b.value <;> simp [eq_comm]

/-- **Products near the limits.** At any precision of the caller, a product is refused exactly when
    it is not zero and its leading digit is above the place 999999, and the fault names both
    factors. A product that is not refused has the sign, the coefficient and the exponent of the
    exact product, whatever the precision is, when its last digit is not below the place that the
    digits of both factors reach down to; a zero must not have an exponent above the range. -/
theorem mulOrFault_near_limits (precision : ℕ) (a b : Amount) :
    let coefficient := a.value.coefficient * b.value.coefficient
    let exponent := a.value.exponent + b.value.exponent
    let digits := digitCount a.value.coefficient + digitCount b.value.coefficient
    ((∃ fault, a.mulOrFault precision b = .error fault) ↔
      coefficient ≠ 0 ∧ 999999 < exponent + digitCount coefficient - 1) ∧
    (∀ fault, a.mulOrFault precision b = .error fault → fault = .ofOverflow a b) ∧
    ∀ q, a.mulOrFault precision b = .ok q → -999999 - ((digits : ℤ) - 1) ≤ exponent →
      coefficient ≠ 0 ∨ exponent ≤ 999999 →
      q = ⟨⟨a.value.negative != b.value.negative, coefficient, exponent⟩⟩ := by
  intro coefficient exponent digits
  refine ⟨?_, fun fault refused => (mulOrFault_eq_error_iff.mp refused).2, ?_⟩
  · have refused : (∃ fault, a.mulOrFault precision b = .error fault) ↔
        a.value.mul? precision b.value = none := by
      simp only [mulOrFault_eq_error_iff]
      exact exists_and_left.trans (and_iff_left ⟨_, rfl⟩)
    rw [refused, Decimal.mul?, Decimal.fit?_eq_none_iff]
    rfl
  · intro q computed low above
    have product := mulOrFault_eq_ok_iff.mp computed
    have high : (a.value.exactMul b.value).adjusted ≤ Decimal.greatestAdjusted := by
      have kept : a.value.mul? precision b.value ≠ none := by
        rw [product]
        exact Option.some_ne_none q.value
      exact Decimal.adjusted_exactMul_le kept above
    rw [Decimal.mul?_eq_some_exactMul precision low high, Option.some.injEq] at product
    obtain ⟨v⟩ := q
    exact congrArg Amount.mk product.symm

/-- A leading digit that is one place too high, one in the highest place, a last digit in the lowest
    place that is exact at a precision of one digit, and a zero at the upper end. -/
theorem mulOrFault_near_limits_of_both_ends :
    (∃ fault, (⟨⟨false, 9, 999999⟩⟩ : Amount).mulOrFault 1 ⟨⟨false, 2, 0⟩⟩ = .error fault) ∧
    (∃ q, (⟨⟨false, 4, 999999⟩⟩ : Amount).mulOrFault 1 ⟨⟨true, 2, 0⟩⟩ = .ok q ∧
      q = ⟨⟨true, 8, 999999⟩⟩) ∧
    (∃ q, (⟨⟨true, 15, -1000000⟩⟩ : Amount).mulOrFault 1 ⟨⟨false, 5, -1⟩⟩ = .ok q ∧
      q = ⟨⟨true, 75, -1000001⟩⟩) ∧
    ∃ q, (⟨⟨true, 0, 999000⟩⟩ : Amount).mulOrFault 28 ⟨⟨true, 7, 999⟩⟩ = .ok q ∧
      q = ⟨⟨false, 0, 999999⟩⟩ := by
  have high : (⟨⟨false, 4, 999999⟩⟩ : Amount).mulOrFault 1 ⟨⟨true, 2, 0⟩⟩ =
      .ok ⟨⟨true, 8, 999999⟩⟩ := mulOrFault_eq_ok_iff.mpr (by decide +kernel)
  have low : (⟨⟨true, 15, -1000000⟩⟩ : Amount).mulOrFault 1 ⟨⟨false, 5, -1⟩⟩ =
      .ok ⟨⟨true, 75, -1000001⟩⟩ := mulOrFault_eq_ok_iff.mpr (by decide +kernel)
  have zero : (⟨⟨true, 0, 999000⟩⟩ : Amount).mulOrFault 28 ⟨⟨true, 7, 999⟩⟩ =
      .ok ⟨⟨false, 0, 999999⟩⟩ := mulOrFault_eq_ok_iff.mpr (by decide +kernel)
  refine ⟨?_, ⟨_, high, ?_⟩, ⟨_, low, ?_⟩, _, zero, ?_⟩
  · exact (mulOrFault_near_limits 1 _ _).1.mpr (by decide +kernel)
  · exact (mulOrFault_near_limits 1 _ _).2.2 _ high (by decide +kernel) (Or.inl (by decide))
  · exact (mulOrFault_near_limits 1 _ _).2.2 _ low (by decide +kernel) (Or.inl (by decide))
  · exact (mulOrFault_near_limits 28 _ _).2.2 _ zero (by decide +kernel) (Or.inr (by decide))

/-- One place lower the precision decides: 28 digits keep the product that one digit loses. -/
example : (⟨⟨false, 1, -1000001⟩⟩ : Amount).mulAt? 28 ⟨⟨false, 1, 0⟩⟩ =
      some ⟨⟨false, 1, -1000001⟩⟩ ∧
    (⟨⟨false, 1, -1000001⟩⟩ : Amount).mulAt? 1 ⟨⟨false, 1, 0⟩⟩ =
      some ⟨⟨false, 0, -1000000⟩⟩ := by decide +kernel

end Amount

end TermSheet
