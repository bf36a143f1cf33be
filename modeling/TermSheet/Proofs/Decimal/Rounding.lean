import TermSheet.Proofs.Decimal.Value

/-!
# When the range holds a number

A number that is fitted into the range of results loses the digits below the lowest place that is
kept. `Decimal.IsHeld` says that all of these are zeros. This is exactly when the fitted number is
the number itself; a number whose exponent is not below the lowest place is always held.

Results:
* `roundOff_of_dvd`: dropping zeros is a division without rest.
* `toRat_eq_iff_isHeld`: fitting keeps a number exactly when the range holds it.
-/

namespace TermSheet.Decimal

variable {precision : ℕ} {d q : Decimal}

/-- No digit other than zero lies below the lowest place that is kept at a precision. -/
def IsHeld (precision : ℕ) (d : Decimal) : Prop :=
  10 ^ (leastExponent precision - d.exponent).toNat ∣ d.coefficient

theorem isHeld_of_le (h : leastExponent precision ≤ d.exponent) : d.IsHeld precision := by
  have places : (leastExponent precision - d.exponent).toNat = 0 := by omega
  rw [IsHeld, places, pow_zero]
  exact one_dvd d.coefficient

/-- A number that has zeros in its last places has more digits than these, so none of the other ones
    is dropped. -/
theorem roundOff_of_dvd {n places : ℕ} (hn : n ≠ 0) (h : 10 ^ places ∣ n) :
    roundOff n places = n / 10 ^ places := by
  have large : 10 ^ places ≤ n := Nat.le_of_dvd (Nat.pos_of_ne_zero hn) h
  have digits : places ≤ Nat.log 10 n := Nat.le_log_of_pow_le (by norm_num) large
  have enough : ¬ digitCount n < places := by
    rw [digitCount_eq_log]
    omega
  have rest : n % 10 ^ places = 0 := Nat.mod_eq_zero_of_dvd h
  have unit : 0 < 10 ^ places := by positivity
  rw [roundOff, if_neg enough]
  simp only [Nat.pow_eq, rest, mul_zero, unit, true_or, if_true]

/-- Two numbers with one sign, of which the second has more places. -/
theorem toRat_eq_toRat_iff (s : Bool) (m n : ℕ) (e : ℤ) (k : ℕ) :
    (⟨s, m, e + k⟩ : Decimal).toRat = (⟨s, n, e⟩ : Decimal).toRat ↔ m * 10 ^ k = n := by
  have power : (10 : ℚ) ^ e ≠ 0 := by positivity
  have sign : (if s then (-1 : ℚ) else 1) ≠ 0 := by split <;> norm_num
  rw [toRat, toRat, mul_right_inj' sign, zpow_add₀ (by norm_num), zpow_natCast,
    mul_comm ((10 : ℚ) ^ e), ← mul_assoc, mul_left_inj' power]
  exact_mod_cast Iff.rfl

/-- Fitting keeps a number exactly when no digit other than zero is dropped. -/
theorem toRat_eq_iff_isHeld (h : d.fit? precision = some q) :
    q.toRat = d.toRat ↔ d.IsHeld precision := by
  unfold fit? at h
  dsimp only at h
  split_ifs at h with zero large low
  · cases h
    have nothing : d.toRat = 0 := toRat_eq_zero_iff.mpr zero
    rw [nothing, toRat_eq_zero_iff, IsHeld, zero]
    exact iff_of_true rfl (dvd_zero _)
  · cases h
    obtain ⟨s, n, e⟩ := d
    obtain ⟨k, hk⟩ := Int.le.dest (le_of_lt low)
    dsimp only at hk zero ⊢
    have places : (leastExponent precision - e).toNat = k := by omega
    rw [IsHeld, places, ← hk, toRat_eq_toRat_iff]
    constructor
    · exact fun product => Dvd.intro_left _ product
    · intro held
      rw [roundOff_of_dvd zero held, Nat.div_mul_cancel held]
  · cases h
    exact iff_of_true rfl (isHeld_of_le (by omega))

end TermSheet.Decimal
