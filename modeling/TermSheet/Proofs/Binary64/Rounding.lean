import Mathlib.Algebra.Order.Field.Power
import Mathlib.Data.Rat.Floor
import Mathlib.Tactic.Linarith
import Mathlib.Tactic.NormNum
import Mathlib.Tactic.Positivity
import Mathlib.Tactic.Ring
import TermSheet.Binary64.Shortest

/-!
# Rounding to a floating-point number

Every finite number owns an interval of the real numbers: what is nearer to it than to any other
number, and the two ends when its significand is even. Rounding takes a ratio to the number whose
interval it lies in. The exponent is found from the number of bits of the ratio. In the lower half
of the interval of a power of two it is one less than the exponent of the number, and rounding up
the significand makes up for it.

Results:
* `roundQuotient_eq`: rounding of a quotient to a whole number.
* `exponentFor_eq`: the exponent of a ratio.
* `ofRatio_of_owns`: a ratio in the interval of a number is rounded to it.
* `fits_rounded_iff`: only what is too large is rounded to no finite number.
-/

namespace TermSheet.Binary64

/-- A real number lies in the interval that a finite number owns. -/
def Owns (significand : ℕ) (exponent : ℤ) (x : ℚ) : Prop :=
  let low : ℚ := (quarters significand exponent).1 * 2 ^ (exponent - 2)
  let high : ℚ := (quarters significand exponent).2.2 * 2 ^ (exponent - 2)
  low ≤ x ∧ x ≤ high ∧ (significand % 2 = 1 → low < x ∧ x < high)

/-! ## Quotients -/

section Quotient

variable {num den n : ℕ}

/-- A whole number at a distance of at most a half from a quotient is its whole part or the next
    number. -/
theorem eq_div_or_eq_succ_div (positive : 0 < den) (lower : 2 * (n * den) ≤ 2 * num + den)
    (upper : 2 * num ≤ 2 * (n * den) + den) : n = num / den ∨ n = num / den + 1 := by
  have split := Nat.div_add_mod num den
  have small := Nat.mod_lt num positive
  generalize num / den = q at split ⊢
  have below : q < n + 1 := by
    by_contra large
    have : (n + 1) * den ≤ den * q := by
      rw [Nat.mul_comm den]
      exact Nat.mul_le_mul_right den (by omega)
    rw [Nat.add_mul] at this
    omega
  have above : n < q + 2 := by
    by_contra large
    have : den * (q + 2) ≤ n * den := by
      rw [Nat.mul_comm n]
      exact Nat.mul_le_mul_left den (by omega)
    rw [Nat.mul_add] at this
    omega
  omega

/-- A whole number at a distance of at most a half is what a quotient is rounded to, if it is even
    in the middle between two whole numbers. -/
theorem roundQuotient_eq (positive : 0 < den) (low : (n : ℚ) - 1 / 2 ≤ num / den)
    (high : (num : ℚ) / den ≤ n + 1 / 2)
    (tie : n % 2 = 1 → (n : ℚ) - 1 / 2 < num / den ∧ (num : ℚ) / den < n + 1 / 2) :
    roundQuotient num den = n := by
  have den_pos : (0 : ℚ) < den := by exact_mod_cast positive
  -- All bounds are multiplied out to bounds of natural numbers.
  rw [le_div_iff₀ den_pos] at low
  rw [div_le_iff₀ den_pos] at high
  simp only [lt_div_iff₀ den_pos, div_lt_iff₀ den_pos] at tie
  have lower : 2 * (n * den) ≤ 2 * num + den := by
    have : (2 : ℚ) * (n * den) ≤ 2 * num + den := by linarith
    exact_mod_cast this
  have upper : 2 * num ≤ 2 * (n * den) + den := by
    have : (2 : ℚ) * num ≤ 2 * (n * den) + den := by linarith
    exact_mod_cast this
  have strict (odd : n % 2 = 1) :
      2 * (n * den) < 2 * num + den ∧ 2 * num < 2 * (n * den) + den := by
    obtain ⟨l, u⟩ := tie odd
    have l' : (2 : ℚ) * (n * den) < 2 * num + den := by linarith
    have u' : (2 : ℚ) * num < 2 * (n * den) + den := by linarith
    exact ⟨by exact_mod_cast l', by exact_mod_cast u'⟩
  have split := Nat.div_add_mod num den
  have small := Nat.mod_lt num positive
  have near := eq_div_or_eq_succ_div positive lower upper
  unfold roundQuotient
  dsimp only
  rcases near with rfl | rfl
  · rw [Nat.mul_comm] at split
    rw [if_pos]
    by_cases odd : num / den % 2 = 1
    · have := (strict odd).2
      omega
    · omega
  · rw [Nat.add_mul, Nat.one_mul, Nat.mul_comm (num / den)] at lower strict
    rw [if_neg]
    rintro (less | ⟨same, even⟩)
    · omega
    · have := (strict (by omega)).1
      omega

/-- Rounding does not leave an interval between whole numbers. -/
theorem roundQuotient_le (positive : 0 < den) (h : (num : ℚ) / den ≤ n) :
    roundQuotient num den ≤ n := by
  rw [div_le_iff₀ (by exact_mod_cast positive)] at h
  have bound : num ≤ den * n := by
    rw [Nat.mul_comm]
    exact_mod_cast h
  have quotient : num / den ≤ n := Nat.div_le_of_le_mul bound
  have split := Nat.div_add_mod num den
  unfold roundQuotient
  dsimp only
  split
  · exact quotient
  · next large =>
    rcases quotient.lt_or_eq with less | same
    · exact less
    · rw [same] at split
      have none : num % den = 0 := by omega
      rw [none] at large
      omega

theorem le_roundQuotient (positive : 0 < den) (h : (n : ℚ) ≤ num / den) :
    n ≤ roundQuotient num den := by
  rw [le_div_iff₀ (by exact_mod_cast positive)] at h
  have bound : n ≤ num / den := (Nat.le_div_iff_mul_le positive).mpr (by exact_mod_cast h)
  unfold roundQuotient
  dsimp only
  split <;> omega

end Quotient

/-! ## The exponent of a ratio -/

section Exponent

variable {num den : ℕ}

theorem two_zpow_add (a b : ℤ) : (2 : ℚ) ^ (a + b) = 2 ^ a * 2 ^ b := zpow_add₀ (by norm_num) a b

theorem two_zpow_le {a b : ℤ} (h : a ≤ b) : (2 : ℚ) ^ a ≤ 2 ^ b :=
  zpow_le_zpow_right₀ (by norm_num) h

/-- A ratio in units of a power of two, as a quotient of natural numbers. -/
theorem scaleDown_eq (num den : ℕ) (exponent : ℤ) :
    ((scaleDown num den exponent).1 : ℚ) / (scaleDown num den exponent).2 =
      num / den / 2 ^ exponent := by
  simp only [scaleDown, Nat.pow_eq, Nat.cast_mul, Nat.cast_pow, Nat.cast_ofNat]
  rcases le_total 0 exponent with h | h
  · obtain ⟨k, rfl⟩ := Int.eq_ofNat_of_zero_le h
    rw [show (-(k : ℤ)).toNat = 0 by omega, Int.toNat_natCast, zpow_natCast, pow_zero, mul_one,
      div_div]
  · obtain ⟨k, rfl⟩ : ∃ k : ℕ, exponent = -k := ⟨(-exponent).toNat, by omega⟩
    rw [neg_neg, Int.toNat_natCast, show (-(k : ℤ)).toNat = 0 by omega, pow_zero, mul_one,
      zpow_neg, zpow_natCast, div_inv_eq_mul, mul_div_right_comm]

theorem scaleDown_pos (positive : 0 < den) (exponent : ℤ) :
    0 < (scaleDown num den exponent).2 :=
  Nat.mul_pos positive (Nat.pow_pos (by decide))

variable (some_num : num ≠ 0) (some_den : 0 < den)

include some_num some_den

/-- The logarithms tell the exponent up to one. -/
theorem ratio_near_guess : (2 : ℚ) ^ ((num.log2 : ℤ) - den.log2 - 53 + 52) < num / den ∧
    (num : ℚ) / den < 2 ^ ((num.log2 : ℤ) - den.log2 - 53 + 54) := by
  have den_pos : (0 : ℚ) < den := by exact_mod_cast some_den
  have num_low : (2 : ℚ) ^ (num.log2 : ℤ) ≤ num := by
    rw [zpow_natCast]
    exact_mod_cast Nat.log2_self_le some_num
  have num_high : (num : ℚ) < 2 ^ ((num.log2 : ℤ) + 1) := by
    rw [← Nat.cast_succ, zpow_natCast]
    exact_mod_cast Nat.lt_log2_self
  have den_low : (2 : ℚ) ^ (den.log2 : ℤ) ≤ den := by
    rw [zpow_natCast]
    exact_mod_cast Nat.log2_self_le some_den.ne'
  have den_high : (den : ℚ) < 2 ^ ((den.log2 : ℤ) + 1) := by
    rw [← Nat.cast_succ, zpow_natCast]
    exact_mod_cast Nat.lt_log2_self
  constructor
  · rw [lt_div_iff₀ den_pos]
    calc (2 : ℚ) ^ ((num.log2 : ℤ) - den.log2 - 53 + 52) * den
        < 2 ^ ((num.log2 : ℤ) - den.log2 - 53 + 52) * 2 ^ ((den.log2 : ℤ) + 1) :=
          mul_lt_mul_of_pos_left den_high (by positivity)
      _ = 2 ^ (num.log2 : ℤ) := by
          rw [← two_zpow_add]
          congr 1
          ring
      _ ≤ num := num_low
  · rw [div_lt_iff₀ den_pos]
    calc (num : ℚ) < 2 ^ ((num.log2 : ℤ) + 1) := num_high
      _ = 2 ^ ((num.log2 : ℤ) - den.log2 - 53 + 54) * 2 ^ (den.log2 : ℤ) := by
          rw [← two_zpow_add]
          congr 1
          ring
      _ ≤ 2 ^ ((num.log2 : ℤ) - den.log2 - 53 + 54) * den :=
          mul_le_mul_of_nonneg_left den_low (by positivity)

/-- With its exponent, a ratio has at most 53 bits in front of the point, and it has all 53 unless
    the exponent is the least one. -/
theorem exponentFor_spec :
    leastExponent ≤ exponentFor num den ∧ (num : ℚ) / den < 2 ^ (exponentFor num den + 53) ∧
      (exponentFor num den = leastExponent ∨
        (2 : ℚ) ^ (exponentFor num den + 52) ≤ num / den) := by
  obtain ⟨low, high⟩ := ratio_near_guess some_num some_den
  unfold exponentFor
  dsimp only
  generalize (num.log2 : ℤ) - den.log2 - 53 = guess at low high ⊢
  have scaled : (scaleDown num den guess).1 / (scaleDown num den guess).2 < Nat.pow 2 53 ↔
      (num : ℚ) / den < 2 ^ (guess + 53) := by
    have den_pos : (0 : ℚ) < (scaleDown num den guess).2 := by
      exact_mod_cast scaleDown_pos some_den guess
    rw [Nat.div_lt_iff_lt_mul (scaleDown_pos some_den guess), add_comm guess, two_zpow_add,
      ← div_lt_iff₀ (by positivity), ← scaleDown_eq, div_lt_iff₀ den_pos]
    norm_cast
  have chosen : ∃ k : ℤ,
      (if (scaleDown num den guess).1 / (scaleDown num den guess).2 < Nat.pow 2 53 then guess
        else guess + 1) = k ∧ (num : ℚ) / den < 2 ^ (k + 53) ∧ (2 : ℚ) ^ (k + 52) ≤ num / den := by
    by_cases few : (num : ℚ) / den < 2 ^ (guess + 53)
    · exact ⟨guess, if_pos (scaled.mpr few), few, low.le⟩
    · refine ⟨guess + 1, if_neg (mt scaled.mp few), ?_, ?_⟩
      · rwa [show guess + 1 + 53 = guess + 54 by ring]
      · rw [show guess + 1 + 52 = guess + 53 by ring]
        exact not_lt.mp few
  obtain ⟨k, same, upper, lower⟩ := chosen
  rw [same]
  refine ⟨le_max_left _ _, upper.trans_le (two_zpow_le (by omega)), ?_⟩
  rcases le_total k leastExponent with small | large
  · exact Or.inl (max_eq_left small)
  · rw [max_eq_right large]
    exact Or.inr lower

/-- There is only one such exponent. -/
theorem exponentFor_eq {exponent : ℤ} (least : leastExponent ≤ exponent)
    (high : (num : ℚ) / den < 2 ^ (exponent + 53))
    (low : exponent = leastExponent ∨ (2 : ℚ) ^ (exponent + 52) ≤ num / den) :
    exponentFor num den = exponent := by
  obtain ⟨least', high', low'⟩ := exponentFor_spec some_num some_den
  generalize exponentFor num den = found at least' high' low' ⊢
  have apart {a b : ℤ} (above : (num : ℚ) / den < 2 ^ (a + 53))
      (below : (2 : ℚ) ^ (b + 52) ≤ num / den) : b ≤ a := by
    by_contra less
    have := two_zpow_le (show a + 53 ≤ b + 52 by omega)
    linarith
  apply le_antisymm
  · rcases low' with rfl | low'
    · exact least
    · exact apart high low'
  · rcases low with rfl | low
    · exact least'
    · exact apart high' low

end Exponent

/-! ## The number of an interval -/

/-- A power of two that is not the smallest owns only a quarter of its unit downwards. -/
theorem quarters_low_cases {significand : ℕ} (exponent : ℤ) (positive : significand ≠ 0) :
    (significand = Nat.pow 2 52 ∧ leastExponent < exponent ∧
      ((quarters significand exponent).1 : ℚ) = 4 * significand - 1) ∨
    (¬(significand = Nat.pow 2 52 ∧ leastExponent < exponent) ∧
      ((quarters significand exponent).1 : ℚ) = 4 * significand - 2) := by
  unfold quarters
  dsimp only
  by_cases narrow : significand = Nat.pow 2 52 ∧ leastExponent < exponent
  · refine Or.inl ⟨narrow.1, narrow.2, ?_⟩
    rw [if_pos narrow, Nat.cast_sub (by omega)]
    push_cast
    ring
  · refine Or.inr ⟨narrow, ?_⟩
    rw [if_neg narrow, Nat.cast_sub (by omega)]
    push_cast
    ring

/-- The interval in units of the significand. -/
theorem Owns.units {significand : ℕ} {exponent : ℤ} {x : ℚ} (h : Owns significand exponent x) :
    ((quarters significand exponent).1 : ℚ) / 4 ≤ x / 2 ^ exponent ∧
      x / 2 ^ exponent ≤ significand + 1 / 2 ∧
      (significand % 2 = 1 →
        ((quarters significand exponent).1 : ℚ) / 4 < x / 2 ^ exponent ∧
          x / 2 ^ exponent < significand + 1 / 2) := by
  have unit : (2 : ℚ) ^ (exponent - 2) = 2 ^ exponent / 4 := by
    rw [sub_eq_add_neg, two_zpow_add, zpow_neg, div_eq_mul_inv]
    norm_num
  have positive : (0 : ℚ) < 2 ^ exponent := by positivity
  have high : ((quarters significand exponent).2.2 : ℚ) = 4 * significand + 2 := by
    simp [quarters]
  obtain ⟨least, greatest, strict⟩ := h
  rw [unit] at least greatest strict
  rw [high] at greatest strict
  rw [le_div_iff₀ positive, div_le_iff₀ positive]
  refine ⟨by linarith, by linarith, fun odd => ?_⟩
  obtain ⟨l, u⟩ := strict odd
  rw [lt_div_iff₀ positive, div_lt_iff₀ positive]
  exact ⟨by linarith, by linarith⟩

section Number

variable {num den significand : ℕ} {exponent : ℤ} (some_num : num ≠ 0) (some_den : 0 < den)
  (fits : Fits significand exponent) (positive : significand ≠ 0)
  (h : Owns significand exponent ((num : ℚ) / den))

include some_num some_den fits positive h

/-- A ratio in the binade of the number has the exponent of the number. -/
theorem rounded_of_le (inside : exponent = leastExponent ∨ (2 : ℚ) ^ (exponent + 52) ≤ num / den) :
    rounded num den = (significand, exponent) := by
  obtain ⟨few, least, -, -⟩ := fits
  obtain ⟨low, high, strict⟩ := h.units
  have low_le : (4 : ℚ) * significand - 2 ≤ (quarters significand exponent).1 := by
    rcases quarters_low_cases exponent positive with ⟨-, -, same⟩ | ⟨-, same⟩ <;> linarith
  have few' : (significand : ℚ) + 1 ≤ 2 ^ (53 : ℤ) := by exact_mod_cast few
  have unit : (0 : ℚ) < 2 ^ exponent := by positivity
  have found : exponentFor num den = exponent := by
    apply exponentFor_eq some_num some_den least _ inside
    rw [add_comm, two_zpow_add, ← div_lt_iff₀ unit]
    linarith
  have nearest : roundQuotient (scaleDown num den exponent).1 (scaleDown num den exponent).2 =
      significand := by
    apply roundQuotient_eq (scaleDown_pos some_den exponent) <;> rw [scaleDown_eq]
    · linarith
    · exact high
    · intro odd
      obtain ⟨l, u⟩ := strict odd
      exact ⟨by linarith, u⟩
  unfold rounded
  dsimp only
  rw [found, nearest, if_neg (Nat.ne_of_lt few)]

/-- A ratio below the binade of the number has an exponent that is one less. The significand is the
    first one of its binade, and it is reached by rounding up. -/
theorem rounded_of_lt (other : exponent ≠ leastExponent)
    (below : (num : ℚ) / den < 2 ^ (exponent + 52)) :
    rounded num den = (significand, exponent) := by
  obtain ⟨-, least, -, normal⟩ := fits
  obtain ⟨low, -, -⟩ := h.units
  have unit : (0 : ℚ) < 2 ^ exponent := by positivity
  rw [add_comm, two_zpow_add, ← div_lt_iff₀ unit] at below
  have large : Nat.pow 2 52 ≤ significand := normal.resolve_left other
  have first : significand = Nat.pow 2 52 ∧
      ((quarters significand exponent).1 : ℚ) = 4 * significand - 1 := by
    rcases quarters_low_cases exponent positive with ⟨first, -, same⟩ | ⟨other, same⟩
    · exact ⟨first, same⟩
    · exfalso
      have : Nat.pow 2 52 + 1 ≤ significand := by omega
      have : (2 : ℚ) ^ (52 : ℤ) + 1 ≤ significand := by exact_mod_cast this
      rw [same] at low
      linarith
  have value : (significand : ℚ) = 2 ^ (52 : ℤ) := by
    rw [first.1]
    norm_cast
  rw [first.2, value] at low
  have half : (num : ℚ) / den / 2 ^ (exponent - 1) = 2 * (num / den / 2 ^ exponent) := by
    rw [sub_eq_add_neg, two_zpow_add, zpow_neg]
    field_simp
  have found : exponentFor num den = exponent - 1 := by
    apply exponentFor_eq some_num some_den (by omega)
    · rw [show exponent - 1 + 53 = 52 + exponent by ring, two_zpow_add, ← div_lt_iff₀ unit]
      exact below
    · right
      rw [show exponent - 1 + 52 = 51 + exponent by ring, two_zpow_add, ← le_div_iff₀ unit]
      norm_num at low ⊢
      linarith
  have nearest : roundQuotient (scaleDown num den (exponent - 1)).1
      (scaleDown num den (exponent - 1)).2 = Nat.pow 2 53 := by
    apply roundQuotient_eq (scaleDown_pos some_den _) <;> rw [scaleDown_eq, half]
    · norm_num at low ⊢
      linarith
    · norm_num at below ⊢
      linarith
    · intro odd
      exact absurd odd (by decide)
  unfold rounded
  dsimp only
  rw [found, nearest, if_pos rfl, first.1, sub_add_cancel]

theorem rounded_of_owns : rounded num den = (significand, exponent) := by
  by_cases inside : exponent = leastExponent ∨ (2 : ℚ) ^ (exponent + 52) ≤ num / den
  · exact rounded_of_le some_num some_den fits positive h inside
  · obtain ⟨other, below⟩ := not_or.mp inside
    exact rounded_of_lt some_num some_den fits positive h other (not_le.mp below)

end Number

/-- A ratio in the interval of a number is rounded to the number. -/
theorem ofRatio_of_owns {num den significand : ℕ} {exponent : ℤ} (negative : Bool)
    (some_num : num ≠ 0) (some_den : 0 < den) (fits : Fits significand exponent)
    (positive : significand ≠ 0) (h : Owns significand exponent ((num : ℚ) / den)) :
    ofRatio negative num den = finite negative significand exponent fits := by
  have found := rounded_of_owns some_num some_den fits positive h
  rw [ofRatio, if_neg some_num, found]
  exact dif_pos fits

/-- The significand and the exponent of a rounded ratio fit, unless the exponent is too large. -/
theorem fits_rounded_iff {num den : ℕ} (some_num : num ≠ 0) (some_den : 0 < den) :
    Fits (rounded num den).1 (rounded num den).2 ↔ (rounded num den).2 ≤ greatestExponent := by
  refine ⟨fun fits => fits.2.2.1, fun small => ?_⟩
  obtain ⟨least, high, low⟩ := exponentFor_spec some_num some_den
  unfold rounded at small ⊢
  dsimp only at small ⊢
  generalize exponentFor num den = exponent at *
  have unit : (0 : ℚ) < 2 ^ exponent := by positivity
  have bits : roundQuotient (scaleDown num den exponent).1 (scaleDown num den exponent).2 ≤
      Nat.pow 2 53 := by
    apply roundQuotient_le (scaleDown_pos some_den _)
    rw [scaleDown_eq, div_le_iff₀ unit]
    refine high.le.trans_eq ?_
    rw [add_comm, two_zpow_add]
    norm_cast
  have normal : exponent = leastExponent ∨
      Nat.pow 2 52 ≤ roundQuotient (scaleDown num den exponent).1
        (scaleDown num den exponent).2 := by
    refine low.imp_right fun low => le_roundQuotient (scaleDown_pos some_den _) ?_
    rw [scaleDown_eq, le_div_iff₀ unit]
    refine Eq.trans_le ?_ low
    rw [add_comm, two_zpow_add]
    norm_cast
  split at small
  · next full =>
    rw [if_pos full]
    exact ⟨(by decide : Nat.pow 2 52 < Nat.pow 2 53), by omega, small, Or.inr le_rfl⟩
  · next other =>
    rw [if_neg other]
    exact ⟨by omega, least, small, normal⟩

end TermSheet.Binary64
