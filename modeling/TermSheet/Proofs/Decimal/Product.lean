import TermSheet.Proofs.Decimal.Rounding

/-!
# How far products are exact

A product is computed exactly and then fitted into the range of results. At the upper end of the
range a product that is too large is refused. At the lower end it is rounded without notice: the
result is the nearest number that the range holds, which is the product itself exactly when no digit
other than zero is dropped, and which is zero when the product is at most half a unit of the lowest
place, although neither factor is zero.

Results:
* `isNearest_roundOff`: rounding off gives the nearest count, the even one of two.
* `two_mul_abs_sub_le_of_fit?`, `toRat_eq_zero_iff_of_fit?`: what fitting does to a number.
* `mulAt?_spec`: all of this for the product of two amounts at any precision.
* `mul?_not_exact`: products that are rounded, one of them to zero.
-/

namespace TermSheet

namespace Decimal

/-! ## Rounding off -/

/-- The count of a unit that is nearest to a number; of two that are equally near, the even one. -/
structure IsNearest (n unit count : ℕ) : Prop where
  near : 2 * |(count * unit - n : ℤ)| ≤ unit
  even : 2 * |(count * unit - n : ℤ)| = unit → count % 2 = 0

/-- Half a unit and less is no unit at all. -/
theorem IsNearest.eq_zero_iff {n unit count : ℕ} (positive : 0 < unit)
    (h : IsNearest n unit count) : count = 0 ↔ 2 * n ≤ unit := by
  obtain ⟨near, even⟩ := h
  constructor
  · rintro rfl
    rw [Nat.cast_zero, zero_mul, zero_sub, abs_neg, abs_of_nonneg (by omega)] at near
    omega
  · intro small
    by_contra some_unit
    have total : unit ≤ count * unit := Nat.le_mul_of_pos_left unit (Nat.pos_of_ne_zero some_unit)
    have above : (0 : ℤ) ≤ count * unit - n := by
      have : (unit : ℤ) ≤ count * unit := by exact_mod_cast total
      omega
    rw [abs_of_nonneg above] at near even
    -- The number is half a unit, and one unit is not even.
    have all : count * unit = unit := by
      have : (count * unit : ℤ) ≤ unit := by omega
      exact Nat.le_antisymm (by exact_mod_cast this) total
    have one : count = 1 := by
      rwa [Nat.mul_eq_right (by omega)] at all
    have tie := even (by
      have : (count * unit : ℤ) = unit := by exact_mod_cast all
      omega)
    omega

theorem lt_pow_digitCount (n : ℕ) : n < 10 ^ digitCount n := by
  rw [digitCount_eq_log]
  exact Nat.lt_pow_succ_log_self (by norm_num) n

theorem isNearest_roundOff (n places : ℕ) : IsNearest n (10 ^ places) (roundOff n places) := by
  have unit : 0 < 10 ^ places := by positivity
  unfold roundOff
  split_ifs with few
  · have tenth : 10 * 10 ^ digitCount n ≤ 10 ^ places := by
      rw [← pow_succ']
      exact Nat.pow_le_pow_right (by norm_num) few
    have small := lt_pow_digitCount n
    constructor
    · rw [Nat.cast_zero, zero_mul, zero_sub, abs_neg, abs_of_nonneg (by omega)]
      omega
    · intro _
      rfl
  · dsimp only
    rw [Nat.pow_eq]
    generalize 10 ^ places = u at unit
    have whole : (n : ℤ) = u * (n / u : ℕ) + (n % u : ℕ) := by
      exact_mod_cast (Nat.div_add_mod n u).symm
    have rest := Nat.mod_lt n unit
    generalize n / u = quotient at whole
    generalize n % u = r at whole rest
    split_ifs with down
    · have distance : |(quotient * u - n : ℤ)| = r := by
        rw [whole, show (quotient * u - (u * quotient + r) : ℤ) = -r by ring, abs_neg,
          abs_of_nonneg (by omega)]
      constructor <;> rw [distance] <;> omega
    · have distance : |((quotient + 1 : ℕ) * u - n : ℤ)| = u - r := by
        have left : ((quotient + 1 : ℕ) * u - (u * quotient + r) : ℤ) = u - r := by
          push_cast
          ring
        rw [whole, left, abs_of_nonneg (by omega)]
      constructor <;> rw [distance] <;> omega

/-! ## Fitting -/

section Fit

variable {precision : ℕ} {d q : Decimal}

/-- How far apart two numbers with one sign are, of which the first has fewer places. -/
theorem abs_toRat_sub_toRat (s : Bool) (m n : ℕ) (e : ℤ) (k : ℕ) :
    |(⟨s, m, e + k⟩ : Decimal).toRat - (⟨s, n, e⟩ : Decimal).toRat| =
      (|(m * 10 ^ k - n : ℤ)| : ℤ) * 10 ^ e := by
  have power : |(10 : ℚ) ^ e| = 10 ^ e := abs_of_nonneg (by positivity)
  have common : (⟨s, m, e + k⟩ : Decimal).toRat - (⟨s, n, e⟩ : Decimal).toRat =
      (if s then -1 else 1) * ((m * 10 ^ k - n) * 10 ^ e) := by
    simp only [toRat]
    rw [zpow_add₀ (by norm_num), zpow_natCast]
    ring
  rw [common, abs_mul, abs_mul, power]
  push_cast
  cases s <;> simp

/-- A number that is rounded is written at the lowest place, as many places higher than before. -/
theorem fit?_cases (h : d.fit? precision = some q) :
    (d.coefficient = 0 ∧ q.coefficient = 0) ∨
      (d.coefficient ≠ 0 ∧ leastExponent precision ≤ d.exponent ∧ q = d) ∨
      (d.coefficient ≠ 0 ∧ ∃ k : ℕ, leastExponent precision = d.exponent + k ∧
        q = ⟨d.negative, roundOff d.coefficient k, d.exponent + k⟩) := by
  unfold fit? at h
  dsimp only at h
  split_ifs at h with zero large low
  · cases h
    exact Or.inl ⟨zero, zero⟩
  · cases h
    obtain ⟨k, hk⟩ := Int.le.dest (le_of_lt low)
    have places : (leastExponent precision - d.exponent).toNat = k := by omega
    exact Or.inr (Or.inr ⟨zero, k, hk.symm, by rw [places, hk]⟩)
  · cases h
    exact Or.inr (Or.inl ⟨zero, by omega, rfl⟩)

/-- Fitting moves a number by half a unit of the lowest place at most. -/
theorem two_mul_abs_sub_le_of_fit? (h : d.fit? precision = some q) :
    2 * |q.toRat - d.toRat| ≤ 10 ^ leastExponent precision := by
  rcases fit?_cases h with ⟨zero, zero'⟩ | ⟨-, -, rfl⟩ | ⟨-, k, least, rfl⟩
  · rw [toRat_eq_zero_iff.mpr zero, toRat_eq_zero_iff.mpr zero', sub_self, abs_zero, mul_zero]
    positivity
  · rw [sub_self, abs_zero, mul_zero]
    positivity
  · obtain ⟨near, -⟩ := isNearest_roundOff d.coefficient k
    have near' : 2 * (|((roundOff d.coefficient k : ℕ) * 10 ^ k - d.coefficient : ℤ)| : ℤ) ≤
        (10 : ℚ) ^ k := by exact_mod_cast near
    rw [least, zpow_add₀ (by norm_num), zpow_natCast, mul_comm ((10 : ℚ) ^ d.exponent)]
    calc 2 * |_ - d.toRat| = 2 * ((|((roundOff d.coefficient k : ℕ) * 10 ^ k -
            d.coefficient : ℤ)| : ℤ) * (10 : ℚ) ^ d.exponent) :=
          congrArg _ (abs_toRat_sub_toRat d.negative _ d.coefficient d.exponent k)
      _ = 2 * (|((roundOff d.coefficient k : ℕ) * 10 ^ k - d.coefficient : ℤ)| : ℤ) *
            10 ^ d.exponent := by ring
      _ ≤ 10 ^ k * 10 ^ d.exponent := mul_le_mul_of_nonneg_right near' (by positivity)

/-- A number is lost when it is at most half a unit of the lowest place. -/
theorem toRat_eq_zero_iff_of_fit? (h : d.fit? precision = some q) :
    q.toRat = 0 ↔ 2 * |d.toRat| ≤ 10 ^ leastExponent precision := by
  rcases fit?_cases h with ⟨zero, zero'⟩ | ⟨nonzero, enough, rfl⟩ | ⟨-, k, least, rfl⟩
  · rw [toRat_eq_zero_iff.mpr zero, toRat_eq_zero_iff.mpr zero', abs_zero, mul_zero]
    exact iff_of_true rfl (by positivity)
  · refine iff_of_false (mt toRat_eq_zero_iff.mp nonzero) (not_le.mpr ?_)
    have digit : (1 : ℚ) ≤ q.coefficient := by
      exact_mod_cast Nat.pos_of_ne_zero nonzero
    have place : (10 : ℚ) ^ leastExponent precision ≤ 10 ^ q.exponent :=
      zpow_le_zpow_right₀ (by norm_num) enough
    have positive : (0 : ℚ) < 10 ^ q.exponent := by positivity
    rw [abs_toRat]
    nlinarith
  · have count := (isNearest_roundOff d.coefficient k).eq_zero_iff (by positivity)
    have positive : (0 : ℚ) < 10 ^ d.exponent := by positivity
    rw [toRat_eq_zero_iff, count, abs_toRat, least, zpow_add₀ (by norm_num), zpow_natCast,
      mul_comm ((10 : ℚ) ^ d.exponent), ← mul_assoc, mul_le_mul_iff_left₀ positive]
    exact_mod_cast Iff.rfl

end Fit

end Decimal

/-! ## Products of amounts -/

namespace Amount

variable {precision : ℕ} {a b q : Amount}

/-- The lowest place that is kept when two amounts are multiplied. -/
def leastPlace (precision : ℕ) (a b : Amount) : ℤ :=
  Decimal.leastExponent (Decimal.workingPrecision precision a.value b.value)

/-- No digit other than zero of the exact product is below the lowest place that is kept. -/
def MulIsHeld (precision : ℕ) (a b : Amount) : Prop :=
  (a.value.exactMul b.value).IsHeld (Decimal.workingPrecision precision a.value b.value)

/-- **Products.** A product is refused when its leading digit is above the range of results.
    Otherwise it is off by half a unit of the lowest place at most: it is exact when no digit other
    than zero is dropped, and only then, and it is zero when the exact product is half a unit of the
    lowest place or less, and only then. -/
theorem mulAt?_spec (precision : ℕ) (a b : Amount) :
    (a.mulAt? precision b = none ↔ a.toRat * b.toRat ≠ 0 ∧
      Decimal.greatestAdjusted < Int.log 10 |a.toRat * b.toRat|) ∧
    ∀ q, a.mulAt? precision b = some q →
      (q.toRat = a.toRat * b.toRat ↔ MulIsHeld precision a b) ∧
      2 * |q.toRat - a.toRat * b.toRat| ≤ 10 ^ leastPlace precision a b ∧
      (q.toRat = 0 ↔ 2 * |a.toRat * b.toRat| ≤ 10 ^ leastPlace precision a b) := by
  constructor
  · rw [mulAt?, Option.map_eq_none_iff, Decimal.mul?_eq_none_iff]
    rfl
  · intro q product
    obtain ⟨v, fitted, rfl⟩ := Option.map_eq_some_iff.mp product
    have exact : a.toRat * b.toRat = (a.value.exactMul b.value).toRat :=
      (Decimal.toRat_exactMul a.value b.value).symm
    rw [exact]
    exact ⟨Decimal.toRat_eq_iff_isHeld fitted, Decimal.two_mul_abs_sub_le_of_fit? fitted,
      Decimal.toRat_eq_zero_iff_of_fit? fitted⟩

/-- Fifteen units of the lowest place by minus a tenth are one and a half units, and rounded to
    two. -/
theorem mulAt?_spec_of_lowest_place :
    let a : Amount := ⟨⟨false, 15, -1000026⟩⟩
    let b : Amount := ⟨⟨true, 1, -1⟩⟩
    let q : Amount := ⟨⟨true, 2, -1000026⟩⟩
    a.mulAt? Decimal.usualPrecision b = some q ∧ q.toRat ≠ a.toRat * b.toRat ∧
      2 * |q.toRat - a.toRat * b.toRat| ≤ 10 ^ (-1000026 : ℤ) ∧
      ¬ 2 * |a.toRat * b.toRat| ≤ 10 ^ (-1000026 : ℤ) := by
  intro a b q
  have product : a.mulAt? Decimal.usualPrecision b = some q := by decide +kernel
  have place : leastPlace Decimal.usualPrecision a b = -1000026 := by decide +kernel
  have dropped : ¬ MulIsHeld Decimal.usualPrecision a b := by
    unfold MulIsHeld Decimal.IsHeld
    decide +kernel
  have nonzero : q.toRat ≠ 0 := mt Decimal.toRat_eq_zero_iff.mp (by decide)
  obtain ⟨exact, near, lost⟩ := (mulAt?_spec Decimal.usualPrecision a b).2 q product
  rw [place] at near lost
  exact ⟨product, mt exact.mp dropped, near, mt lost.mpr nonzero⟩

/-- The least amount with full precision is not zero, and its square is. -/
theorem mul?_not_exact :
    (⟨⟨false, 1, -999999⟩⟩ : Amount).mul? ⟨⟨false, 1, -999999⟩⟩ =
        some ⟨⟨false, 0, -1000026⟩⟩ ∧
      (⟨⟨false, 1, -999999⟩⟩ : Amount).isZero = false ∧
      (⟨⟨false, 0, -1000026⟩⟩ : Amount).isZero = true ∧
      ¬ ∀ a b q : Amount, a.mul? b = some q → q.toRat = a.toRat * b.toRat := by
  have square : (⟨⟨false, 1, -999999⟩⟩ : Amount).mul? ⟨⟨false, 1, -999999⟩⟩ =
      some ⟨⟨false, 0, -1000026⟩⟩ := by decide +kernel
  refine ⟨square, rfl, rfl, fun exact => ?_⟩
  have value := exact _ _ _ square
  rw [isZero_iff.mp rfl, eq_comm, mul_self_eq_zero] at value
  exact absurd (isZero_iff.mpr value) (by decide)

end Amount

end TermSheet
