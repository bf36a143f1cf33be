import Mathlib.Algebra.Order.Field.Power
import Mathlib.Data.Int.Log
import Mathlib.Data.Rat.Floor
import Mathlib.Tactic.Linarith
import Mathlib.Tactic.NormNum
import Mathlib.Tactic.Positivity
import Mathlib.Tactic.Ring
import TermSheet.Amount

/-!
# The number that a decimal denotes

A decimal is a representation; `Decimal.toRat` is the rational number behind it. The comparisons
and the limit of products are computed from digits and exponents, with powers of ten filled in
where two representations differ. Here each of them is described by the number alone.

Results:
* `Decimal.sameValue_iff`, `Decimal.isZero_iff`, `Decimal.isOne_iff`: the comparisons are those of
  the numbers.
* `Decimal.adjusted_eq_log`: the place of the leading digit is the integer logarithm.
* `Decimal.mul?_eq_none_iff`: whether a product overflows depends on the two numbers only, not on
  how they are written nor on the precision.
-/

namespace TermSheet

theorem digitCount_eq_log (n : Nat) : digitCount n = Nat.log 10 n + 1 := by
  induction n using Nat.strong_induction_on with
  | h n ih =>
    rcases Nat.lt_or_ge n 10 with small | large
    · rw [digitCount_eq_one small, Nat.log_of_lt small]
    · rw [digitCount_of_ten_le large, ih (n / 10) (by omega),
        Nat.log_of_one_lt_of_le (by norm_num) large]

namespace Decimal

/-- The number `± coefficient · 10 ^ exponent`. -/
def toRat (d : Decimal) : ℚ :=
  (if d.negative then -1 else 1) * (d.coefficient * 10 ^ d.exponent)

theorem abs_toRat (d : Decimal) : |d.toRat| = d.coefficient * 10 ^ d.exponent := by
  have size : (0 : ℚ) ≤ d.coefficient * 10 ^ d.exponent := by positivity
  unfold toRat
  split
  · rw [neg_one_mul, abs_neg, abs_of_nonneg size]
  · rw [one_mul, abs_of_nonneg size]

theorem toRat_eq_zero_iff {d : Decimal} : d.toRat = 0 ↔ d.coefficient = 0 := by
  have power : (10 : ℚ) ^ d.exponent ≠ 0 := by positivity
  rw [← abs_eq_zero, abs_toRat, mul_eq_zero, Nat.cast_eq_zero]
  exact or_iff_left power

theorem toRat_pos {d : Decimal} (h : d.coefficient ≠ 0) (hs : d.negative = false) :
    0 < d.toRat := by
  have : 0 < d.coefficient := Nat.pos_of_ne_zero h
  rw [toRat, hs, if_neg Bool.false_ne_true]
  positivity

theorem toRat_neg {d : Decimal} (h : d.coefficient ≠ 0) (hs : d.negative = true) :
    d.toRat < 0 := by
  have : 0 < d.coefficient := Nat.pos_of_ne_zero h
  rw [toRat, hs, if_pos rfl, neg_one_mul, neg_lt_zero]
  positivity

/-- Apart from zero, the sign of a decimal is the sign of its number. -/
theorem negative_eq_of_toRat_eq {a b : Decimal} (ha : a.coefficient ≠ 0) (hb : b.coefficient ≠ 0)
    (h : a.toRat = b.toRat) : a.negative = b.negative := by
  cases sa : a.negative <;> cases sb : b.negative
  · rfl
  · have := toRat_pos ha sa
    have := toRat_neg hb sb
    linarith
  · have := toRat_neg ha sa
    have := toRat_pos hb sb
    linarith
  · rfl

/-! ## The place of the leading digit -/

theorem zpow_adjusted_le {d : Decimal} (h : d.coefficient ≠ 0) :
    (10 : ℚ) ^ d.adjusted ≤ |d.toRat| := by
  have lower : (10 : ℚ) ^ Nat.log 10 d.coefficient ≤ d.coefficient := by
    exact_mod_cast Nat.pow_log_le_self 10 h
  have place : d.adjusted = (Nat.log 10 d.coefficient : ℤ) + d.exponent := by
    rw [adjusted, digitCount_eq_log]
    push_cast
    ring
  rw [abs_toRat, place, zpow_add₀ (by norm_num), zpow_natCast]
  exact mul_le_mul_of_nonneg_right lower (by positivity)

theorem lt_zpow_adjusted (d : Decimal) : |d.toRat| < (10 : ℚ) ^ (d.adjusted + 1) := by
  have upper : (d.coefficient : ℚ) < 10 ^ (Nat.log 10 d.coefficient + 1) := by
    exact_mod_cast Nat.lt_pow_succ_log_self (by norm_num : 1 < 10) d.coefficient
  have place : d.adjusted + 1 = ((Nat.log 10 d.coefficient + 1 : ℕ) : ℤ) + d.exponent := by
    rw [adjusted, digitCount_eq_log]
    push_cast
    ring
  rw [abs_toRat, place, zpow_add₀ (by norm_num), zpow_natCast]
  exact mul_lt_mul_of_pos_right upper (by positivity)

/-- The place of the leading digit does not depend on how a number is written. -/
theorem adjusted_eq_log {d : Decimal} (h : d.coefficient ≠ 0) :
    d.adjusted = Int.log 10 |d.toRat| := by
  have positive : 0 < |d.toRat| := abs_pos.mpr (mt toRat_eq_zero_iff.mp h)
  have ten : 1 < 10 := by norm_num
  have lower := (Int.zpow_le_iff_le_log ten positive).mp (by exact_mod_cast zpow_adjusted_le h)
  have upper := (Int.lt_zpow_iff_log_lt ten positive).mp (by exact_mod_cast lt_zpow_adjusted d)
  omega

/-! ## Comparisons -/

/-- Filling up the number with the larger exponent makes two magnitudes comparable. -/
theorem filled_eq_iff (m n : ℕ) (e f : ℤ) :
    m * 10 ^ (e - f).toNat = n * 10 ^ (f - e).toNat ↔ (m : ℚ) * 10 ^ e = n * 10 ^ f := by
  have ten : (10 : ℚ) ≠ 0 := by norm_num
  rcases le_total f e with h | h
  · obtain ⟨k, rfl⟩ := Int.le.dest h
    have power : (10 : ℚ) ^ f ≠ 0 := by positivity
    rw [show (f - (f + k)).toNat = 0 by omega, show (f + (k : ℤ) - f).toNat = k by omega, pow_zero,
      mul_one, zpow_add₀ ten, zpow_natCast, mul_comm ((10 : ℚ) ^ f), ← mul_assoc,
      mul_left_inj' power]
    exact_mod_cast Iff.rfl
  · obtain ⟨k, rfl⟩ := Int.le.dest h
    have power : (10 : ℚ) ^ e ≠ 0 := by positivity
    rw [show (e - (e + k)).toNat = 0 by omega, show (e + (k : ℤ) - e).toNat = k by omega, pow_zero,
      mul_one, zpow_add₀ ten, zpow_natCast, mul_comm ((10 : ℚ) ^ e), ← mul_assoc,
      mul_left_inj' power]
    exact_mod_cast Iff.rfl

theorem toRat_eq_iff_of_ne_zero {a b : Decimal} (ha : a.coefficient ≠ 0)
    (hb : b.coefficient ≠ 0) :
    a.toRat = b.toRat ↔ a.negative = b.negative ∧
      (a.coefficient : ℚ) * 10 ^ a.exponent = b.coefficient * 10 ^ b.exponent := by
  constructor
  · intro h
    refine ⟨negative_eq_of_toRat_eq ha hb h, ?_⟩
    rw [← abs_toRat, ← abs_toRat, h]
  · rintro ⟨sign, size⟩
    rw [toRat, toRat, sign, size]

/-- Two decimals compare as equal when they denote one number. -/
theorem sameValue_iff {a b : Decimal} : a.sameValue b = true ↔ a.toRat = b.toRat := by
  unfold sameValue
  by_cases zero : a.coefficient = 0 ∨ b.coefficient = 0
  · rw [if_pos zero, beq_iff_eq]
    rcases zero with h | h
    · rw [toRat_eq_zero_iff.mpr h, eq_comm (a := (0 : ℚ)), toRat_eq_zero_iff, h, eq_comm]
    · rw [toRat_eq_zero_iff.mpr h, toRat_eq_zero_iff, h]
  · obtain ⟨ha, hb⟩ := not_or.mp zero
    rw [if_neg zero, Bool.and_eq_true, Bool.and_eq_true, beq_iff_eq, beq_iff_eq, beq_iff_eq,
      Nat.pow_eq, Nat.pow_eq, filled_eq_iff, toRat_eq_iff_of_ne_zero ha hb]
    refine ⟨fun h => ⟨h.1.1, h.2⟩, fun h => ⟨⟨h.1, ?_⟩, h.2⟩⟩
    rw [adjusted_eq_log ha, adjusted_eq_log hb, abs_toRat, abs_toRat, h.2]

theorem isZero_iff {d : Decimal} : d.isZero = true ↔ d.toRat = 0 := by
  rw [isZero, beq_iff_eq, toRat_eq_zero_iff]

theorem toRat_ofNat (n : ℕ) : (ofNat n).toRat = n := by
  simp [toRat, ofNat]

theorem isOne_iff {d : Decimal} : d.isOne = true ↔ d.toRat = 1 := by
  rw [isOne, sameValue_iff, toRat_ofNat, Nat.cast_one]

/-! ## Products -/

theorem toRat_exactMul (a b : Decimal) : (exactMul a b).toRat = a.toRat * b.toRat := by
  obtain ⟨s, m, e⟩ := a
  obtain ⟨t, n, f⟩ := b
  have power : (10 : ℚ) ^ (e + f) = 10 ^ e * 10 ^ f := zpow_add₀ (by norm_num) e f
  simp only [toRat, exactMul, power, Nat.cast_mul]
  cases s <;> cases t <;> simp <;> ring

theorem fit?_eq_none_iff {precision : ℕ} {d : Decimal} :
    d.fit? precision = none ↔ d.coefficient ≠ 0 ∧ greatestAdjusted < d.adjusted := by
  unfold fit?
  dsimp only
  split_ifs with zero large low
  · simp [zero]
  · simp [zero, large]
  · simp [large]
  · simp [large]

/-- A product overflows when its leading digit is too high, however the factors are written and
    whatever the precision is. -/
theorem mul?_eq_none_iff {precision : ℕ} {a b : Decimal} :
    a.mul? precision b = none ↔
      a.toRat * b.toRat ≠ 0 ∧ greatestAdjusted < Int.log 10 |a.toRat * b.toRat| := by
  rw [mul?, fit?_eq_none_iff, ← toRat_exactMul, ne_eq, ne_eq, toRat_eq_zero_iff]
  refine and_congr_right fun h => ?_
  rw [adjusted_eq_log h]

end Decimal

namespace Amount

/-- The number that an amount denotes. -/
def toRat (a : Amount) : ℚ := a.value.toRat

theorem isZero_iff {a : Amount} : a.isZero = true ↔ a.toRat = 0 := Decimal.isZero_iff

theorem isOne_iff {a : Amount} : a.isOne = true ↔ a.toRat = 1 := Decimal.isOne_iff

theorem sameQuantity_iff {a b : Amount} : a.sameQuantity b = true ↔ a.toRat = b.toRat :=
  Decimal.sameValue_iff

theorem mul?_eq_none_iff {a b : Amount} :
    a.mul? b = none ↔ a.toRat * b.toRat ≠ 0 ∧
      Decimal.greatestAdjusted < Int.log 10 |a.toRat * b.toRat| := by
  rw [mul?, mulAt?, Option.map_eq_none_iff, Decimal.mul?_eq_none_iff]
  rfl

/-- Whether a product overflows depends on the quantities only. -/
theorem isSome_mul?_congr {a b c d : Amount} (h : a.toRat * b.toRat = c.toRat * d.toRat) :
    (a.mul? b).isSome = (c.mul? d).isSome := by
  have none_iff : a.mul? b = none ↔ c.mul? d = none := by
    rw [mul?_eq_none_iff, mul?_eq_none_iff, h]
  rw [Bool.eq_iff_iff, ← not_iff_not, Option.not_isSome_iff_eq_none,
    Option.not_isSome_iff_eq_none, none_iff]

end Amount

end TermSheet
