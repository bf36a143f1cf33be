import TermSheet.Proofs.Binary64.Rounding
import TermSheet.Proofs.Decimal.Value

/-!
# The shortest form denotes the number

The multiple of a power of ten that the search finds lies in the interval of the number, and the
search does not come to an end before: a grid finer than half a unit of the significand has a
multiple in the upper half of the interval, and for every number of bits the last grid of the search
is finer. So any decimal number with the value of the shortest form is rounded to the
floating-point number again.

Results:
* `owns_of_onGrid?`, `isSome_onGrid?`: what a grid has, and when it has something.
* `shortest_spec`: the shortest form lies in the interval of the number.
* `ofDecimal_of_owns`: a decimal number in the interval of a floating-point number is read as it.
-/

namespace TermSheet.Binary64

variable {significand : ℕ} {exponent place : ℤ} {c : ℕ}

/-! ## Grids -/

/-- A power with a whole exponent as a quotient of natural numbers. -/
theorem zpow_eq_div (base : ℕ) (e : ℤ) :
    (base : ℚ) ^ e = (base : ℚ) ^ e.toNat / (base : ℚ) ^ (-e).toNat := by
  rcases le_total 0 e with h | h
  · obtain ⟨k, rfl⟩ := Int.eq_ofNat_of_zero_le h
    rw [show (-(k : ℤ)).toNat = 0 by omega, Int.toNat_natCast, zpow_natCast, pow_zero, div_one]
  · obtain ⟨k, rfl⟩ : ∃ k : ℕ, e = -k := ⟨(-e).toNat, by omega⟩
    rw [neg_neg, Int.toNat_natCast, show (-(k : ℤ)).toNat = 0 by omega, pow_zero, zpow_neg,
      zpow_natCast, one_div]

theorem quarterDen_pos (exponent place : ℤ) : 0 < quarterDen exponent place :=
  Nat.mul_pos (Nat.pow_pos (by decide)) (Nat.pow_pos (by decide))

theorem quarter_eq (exponent place : ℤ) :
    (2 : ℚ) ^ (exponent - 2) * quarterDen exponent place =
      10 ^ place * quarterNum exponent place := by
  have two := zpow_eq_div 2 (exponent - 2)
  have ten := zpow_eq_div 10 place
  rw [neg_sub] at two
  simp only [Nat.cast_ofNat] at two ten
  simp only [quarterNum, quarterDen, Nat.pow_eq, Nat.cast_mul, Nat.cast_pow, Nat.cast_ofNat, two,
    ten]
  field_simp

/-- Multiples of the quarter and of the grid are compared as natural numbers. -/
theorem quarters_le_iff {n : ℕ} :
    n * quarterNum exponent place ≤ c * quarterDen exponent place ↔
      (n : ℚ) * 2 ^ (exponent - 2) ≤ c * 10 ^ place := by
  have den : (0 : ℚ) < quarterDen exponent place := by exact_mod_cast quarterDen_pos exponent place
  have grid : (0 : ℚ) < 10 ^ place := by positivity
  rw [← mul_le_mul_iff_of_pos_right den, mul_assoc, quarter_eq, mul_left_comm, mul_right_comm,
    mul_comm _ ((10 : ℚ) ^ place), mul_le_mul_iff_of_pos_left grid]
  exact_mod_cast Iff.rfl

theorem le_quarters_iff {n : ℕ} :
    c * quarterDen exponent place ≤ n * quarterNum exponent place ↔
      (c : ℚ) * 10 ^ place ≤ n * 2 ^ (exponent - 2) := by
  have den : (0 : ℚ) < quarterDen exponent place := by exact_mod_cast quarterDen_pos exponent place
  have grid : (0 : ℚ) < 10 ^ place := by positivity
  rw [← mul_le_mul_iff_of_pos_right den, mul_assoc _ _ (quarterDen exponent place : ℚ),
    mul_assoc (n : ℚ), quarter_eq, mul_left_comm (n : ℚ), mul_left_comm (c : ℚ),
    mul_le_mul_iff_of_pos_left grid]
  exact_mod_cast Iff.rfl

theorem isInside_iff : isInside significand exponent place c = true ↔
    Owns significand exponent (c * 10 ^ place) := by
  unfold isInside Owns
  dsimp only
  split
  · next even =>
    rw [Bool.and_eq_true, decide_eq_true_eq, decide_eq_true_eq, quarters_le_iff, le_quarters_iff]
    exact ⟨fun h => ⟨h.1, h.2, fun odd => absurd (even.symm.trans odd) (by decide)⟩,
      fun h => ⟨h.1, h.2.1⟩⟩
  · next odd =>
    rw [Bool.and_eq_true, decide_eq_true_eq, decide_eq_true_eq, ← not_le, ← not_le, quarters_le_iff,
      le_quarters_iff, not_le, not_le]
    exact ⟨fun h => ⟨h.1.le, h.2.le, fun _ => h⟩, fun h => h.2.2 (Nat.mod_two_ne_zero.mp odd)⟩

theorem owns_of_onGrid? (h : onGrid? significand exponent place = some c) :
    c ≠ 0 ∧ Owns significand exponent (c * 10 ^ place) := by
  have inside := List.find?_some h
  rw [Bool.and_eq_true, bne_iff_ne] at inside
  exact ⟨inside.1, isInside_iff.mp inside.2⟩

/-- The multiple of a grid above a number is one of its neighbours. -/
theorem above_mem_neighbours (significand : ℕ) (exponent place : ℤ) :
    (quarters significand exponent).2.1 * quarterNum exponent place / quarterDen exponent place + 1
      ∈ neighbours significand exponent place := by
  unfold neighbours
  dsimp only
  split
  · exact List.mem_cons_self
  · exact List.mem_cons_of_mem _ List.mem_cons_self

/-- The interval reaches half a unit of the significand upwards, so a grid finer than that has a
    multiple in it. -/
theorem isSome_onGrid? (positive : significand ≠ 0)
    (fine : (10 : ℚ) ^ place < 2 ^ (exponent - 1)) :
    (onGrid? significand exponent place).isSome = true := by
  have positiveDen := quarterDen_pos exponent place
  have narrow : quarterDen exponent place < 2 * quarterNum exponent place := by
    have grid : (0 : ℚ) < 10 ^ place := by positivity
    rw [show exponent - 1 = exponent - 2 + 1 by ring, zpow_add_one₀ (by norm_num)] at fine
    have den' : (0 : ℚ) < quarterDen exponent place := by exact_mod_cast positiveDen
    have wide := mul_lt_mul_of_pos_right fine den'
    rw [mul_right_comm, quarter_eq, mul_assoc, mul_lt_mul_iff_of_pos_left grid,
      mul_comm _ 2] at wide
    exact_mod_cast wide
  rw [onGrid?, List.find?_isSome]
  refine ⟨_, above_mem_neighbours significand exponent place, ?_⟩
  have least : (quarters significand exponent).1 < (quarters significand exponent).2.1 := by
    unfold quarters
    dsimp only
    split <;> omega
  have most : (quarters significand exponent).2.2 = (quarters significand exponent).2.1 + 2 := rfl
  unfold isInside
  dsimp only
  generalize (quarters significand exponent).2.1 = mid at *
  generalize (quarters significand exponent).1 = low at *
  generalize quarterNum exponent place = num at *
  generalize quarterDen exponent place = den at *
  have split := Nat.div_add_mod (mid * num) den
  have rest := Nat.mod_lt (mid * num) positiveDen
  have lower : low * num < (mid * num / den + 1) * den := by
    have := Nat.mul_lt_mul_of_pos_right least (show 0 < num by omega)
    rw [Nat.add_mul, Nat.one_mul, Nat.mul_comm (_ / _)]
    omega
  have upper : (mid * num / den + 1) * den < (mid + 2) * num := by
    rw [Nat.add_mul, Nat.one_mul, Nat.mul_comm (_ / _), Nat.add_mul]
    omega
  rw [most, bne_iff_ne.mpr (Nat.succ_ne_zero _), Bool.true_and]
  split
  · rw [Bool.and_eq_true, decide_eq_true_eq, decide_eq_true_eq]
    exact ⟨lower.le, upper.le⟩
  · rw [Bool.and_eq_true, decide_eq_true_eq, decide_eq_true_eq]
    exact ⟨lower, upper⟩

/-! ## The search -/

theorem shortestFrom_spec {fuel : ℕ}
    (found : ∃ k < fuel, (onGrid? significand exponent (place - k)).isSome = true) :
    let d := shortestFrom significand exponent fuel place
    d.negative = false ∧ d.coefficient ≠ 0 ∧
      Owns significand exponent (d.coefficient * 10 ^ d.exponent) := by
  induction fuel generalizing place with
  | zero =>
    obtain ⟨k, less, -⟩ := found
    exact absurd less (Nat.not_lt_zero k)
  | succ fuel ih =>
    rw [shortestFrom]
    cases grid : onGrid? significand exponent place with
    | some c =>
      obtain ⟨some_c, owned⟩ := owns_of_onGrid? grid
      exact ⟨rfl, some_c, owned⟩
    | none =>
      apply ih
      obtain ⟨k, less, hit⟩ := found
      cases k with
      | zero =>
        rw [Nat.cast_zero, sub_zero, grid] at hit
        cases hit
      | succ k =>
        refine ⟨k, Nat.lt_of_succ_lt_succ less, ?_⟩
        rwa [sub_sub, add_comm, ← Nat.cast_succ]

/-- The place of the last grid for a number with so many bits in front of the point. -/
def lastPlace (bits : ℤ) : ℤ := bits * 30103 / 100000 + 1 - 23

/-- The last grid against half a unit of the significand, for each number of bits that a finite
    number can have. -/
theorem last_grid_fine : ∀ n : ℕ, n < 2098 →
    Nat.pow 10 (lastPlace ((n : ℤ) - 1073)).toNat * Nat.pow 2 (54 - ((n : ℤ) - 1073)).toNat <
      Nat.pow 2 ((n : ℤ) - 1073 - 54).toNat * Nat.pow 10 (-lastPlace ((n : ℤ) - 1073)).toNat := by
  decide +kernel

theorem shortest_spec (fits : Fits significand exponent) (positive : significand ≠ 0) :
    let d := shortest significand exponent
    d.negative = false ∧ d.coefficient ≠ 0 ∧
      Owns significand exponent (d.coefficient * 10 ^ d.exponent) := by
  obtain ⟨few, least, greatest, -⟩ := fits
  have least' : -1074 ≤ exponent := least
  have greatest' : exponent ≤ 971 := greatest
  have small : significand.log2 < 53 := (Nat.log2_lt positive).mpr few
  apply shortestFrom_spec
  refine ⟨23, by decide, isSome_onGrid? positive ?_⟩
  generalize bits_eq : exponent + significand.log2 + 1 = bits
  have fine := last_grid_fine (bits + 1073).toNat (by omega)
  rw [show (((bits + 1073).toNat : ℕ) : ℤ) - 1073 = bits by omega] at fine
  have ten := zpow_eq_div 10 (lastPlace bits)
  have two := zpow_eq_div 2 (bits - 54)
  rw [neg_sub] at two
  simp only [Nat.cast_ofNat] at ten two
  have last : (10 : ℚ) ^ lastPlace bits < 2 ^ (bits - 54) := by
    rw [ten, two, div_lt_div_iff₀ (by positivity) (by positivity)]
    exact_mod_cast fine
  exact last.trans_le (two_zpow_le (by omega))

/-! ## Reading -/

/-- The interval of a number that is not zero lies within the range that the place of the leading
    digit leaves. -/
theorem Owns.bounds {x : ℚ} (h : Owns significand exponent x)
    (fits : Fits significand exponent) (positive : significand ≠ 0) :
    (10 : ℚ) ^ (-400 : ℤ) ≤ x ∧ x < (10 : ℚ) ^ (400 : ℤ) := by
  obtain ⟨low, high, -⟩ := h.units
  obtain ⟨few, least, greatest, -⟩ := fits
  have unit : (0 : ℚ) < 2 ^ exponent := by positivity
  have one : (1 : ℚ) ≤ significand := by exact_mod_cast Nat.pos_of_ne_zero positive
  have few' : (significand : ℚ) + 1 ≤ 2 ^ (53 : ℤ) := by exact_mod_cast few
  have eight : (2 : ℚ) ^ (1200 : ℤ) ≤ 10 ^ (400 : ℤ) := by
    rw [show (1200 : ℤ) = 3 * 400 by norm_num, zpow_mul]
    exact zpow_le_zpow_left₀ (by norm_num) (by norm_num) (by norm_num)
  constructor
  · have half : (1 : ℚ) / 2 ≤ x / 2 ^ exponent := by
      rcases quarters_low_cases exponent positive with ⟨-, -, same⟩ | ⟨-, same⟩ <;>
        · rw [same] at low
          linarith
    rw [le_div_iff₀ unit] at half
    calc (10 : ℚ) ^ (-400 : ℤ) ≤ 2 ^ (-1200 : ℤ) := by
          rw [zpow_neg, zpow_neg]
          exact inv_anti₀ (by positivity) eight
      _ ≤ 2 ^ (exponent - 1) := two_zpow_le (by unfold leastExponent at least; omega)
      _ = 1 / 2 * 2 ^ exponent := by
          rw [sub_eq_add_neg, two_zpow_add, mul_comm]
          norm_num
      _ ≤ x := half
  · have full : x / 2 ^ exponent < 2 ^ (53 : ℤ) := by linarith
    rw [div_lt_iff₀ unit] at full
    calc x < 2 ^ (53 : ℤ) * 2 ^ exponent := full
      _ = 2 ^ (53 + exponent) := (two_zpow_add _ _).symm
      _ ≤ 2 ^ (1200 : ℤ) := two_zpow_le (by unfold greatestExponent at greatest; omega)
      _ ≤ 10 ^ (400 : ℤ) := eight

/-- A decimal number in the interval of a floating-point number is read as this number. -/
theorem ofDecimal_of_owns {d : Decimal} (fits : Fits significand exponent)
    (positive : significand ≠ 0) (some_digit : d.coefficient ≠ 0)
    (h : Owns significand exponent (d.coefficient * 10 ^ d.exponent)) :
    ofDecimal d = finite d.negative significand exponent fits := by
  obtain ⟨low, high⟩ := h.bounds fits positive
  have lead := Decimal.zpow_adjusted_le some_digit
  have behind := Decimal.lt_zpow_adjusted d
  rw [Decimal.abs_toRat] at lead behind
  have ten : (1 : ℚ) < 10 := by norm_num
  have notSmall : ¬d.adjusted < -400 := by
    intro small
    have : (10 : ℚ) ^ (d.adjusted + 1) ≤ 10 ^ (-400 : ℤ) :=
      zpow_le_zpow_right₀ ten.le (by omega)
    linarith
  have notLarge : ¬400 < d.adjusted := by
    intro large
    have : (10 : ℚ) ^ (400 : ℤ) ≤ 10 ^ d.adjusted := zpow_le_zpow_right₀ ten.le large.le
    linarith
  rw [ofDecimal, if_neg (not_or.mpr ⟨some_digit, notSmall⟩), if_neg notLarge]
  have value : ((d.coefficient * 10 ^ d.exponent.toNat : ℕ) : ℚ) / (10 ^ (-d.exponent).toNat : ℕ) =
      d.coefficient * 10 ^ d.exponent := by
    have power := zpow_eq_div 10 d.exponent
    simp only [Nat.cast_ofNat] at power
    rw [power]
    push_cast
    rw [mul_div_assoc]
  exact ofRatio_of_owns d.negative
    (Nat.mul_ne_zero some_digit (Nat.pow_pos (by decide)).ne') (Nat.pow_pos (by decide)) fits
    positive (by rwa [value])

end TermSheet.Binary64
