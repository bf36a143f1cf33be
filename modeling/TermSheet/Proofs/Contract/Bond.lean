import TermSheet.Proofs.Contract.Run
import TermSheet.Proofs.Decimal.Rounding
import TermSheet.Value.Amount

/-!
# The life of a zero-coupon bond

Along rising days a bond waits, pays its amount once, on the first day that is not before its own,
and leaves nothing. What it pays is the amount multiplied with the unit of a currency. This product
is the amount itself as long as the range of results holds it; it overflows when the leading digit
of the amount is above the range, although such an amount can be made.

Results:
* `Amount.perUnit?_eq_none_iff`, `Amount.toRat_of_perUnit?`: the product with the unit.
* `settle_scale_one`: settling the contract inside a bond.
* `follow_bond_eq`: a bond waits and then runs like the contract inside.
* `follow_bond`: a bond whose amount is not above the range pays once, and any other one never.
-/

namespace TermSheet

/-! ## The amount that a bond pays -/

namespace Amount

/-- What a contract over an amount of a currency pays: an amount of one is no factor, and any other
    amount is multiplied with the unit. -/
def perUnit? (a : Amount) : Option Amount := if a.isOne then some unit else a.mul? unit

/-- The range of results holds the product of the amount with the unit. -/
def IsHeld (a : Amount) : Prop :=
  a.value.IsHeld (Decimal.workingPrecision Decimal.usualPrecision a.value unit.value)

theorem toRat_unit : unit.toRat = 1 := by
  rw [toRat, unit, Decimal.toRat_ofNat, Nat.cast_one]

theorem exactMul_unit (a : Amount) : a.value.exactMul unit.value = a.value := by
  obtain ⟨negative, coefficient, exponent⟩ := a
  simp [Decimal.exactMul, unit, Decimal.ofNat]

/-- The product with the unit overflows when the leading digit is above the range. -/
theorem perUnit?_eq_none_iff {a : Amount} (nonzero : a.isZero = false) :
    a.perUnit? = none ↔ Decimal.greatestAdjusted < a.value.adjusted := by
  have digits : a.value.coefficient ≠ 0 := by
    simpa [isZero, Decimal.isZero] using nonzero
  rw [Decimal.adjusted_eq_log digits, perUnit?]
  split_ifs with ho
  · have value : a.value.toRat = 1 := isOne_iff.mp ho
    simp [value, Decimal.greatestAdjusted]
  · have nonzero' : a.value.toRat ≠ 0 := mt Decimal.toRat_eq_zero_iff.mp digits
    rw [mul?_eq_none_iff, toRat_unit, mul_one]
    exact and_iff_right nonzero'

theorem toRat_of_perUnit? {a q : Amount} (paid : a.perUnit? = some q) (held : a.IsHeld) :
    q.toRat = a.toRat := by
  rw [perUnit?] at paid
  split_ifs at paid with ho
  · cases paid
    rw [toRat_unit, isOne_iff.mp ho]
  · rw [mul?, mulAt?, Decimal.mul?, exactMul_unit] at paid
    obtain ⟨v, hv, rfl⟩ := Option.map_eq_some_iff.mp paid
    exact (Decimal.toRat_eq_iff_isHeld hv).mpr held

end Amount

namespace Contract

variable {F : Type} {a q : Amount} {schedule : List Date}

/-- The contract inside a bond pays at once, unless the product overflows. -/
theorem settle_scale_one (nonzero : a.isZero = false) (cur : Currency) (t : Date) :
    (scale a (one cur) : Contract F).settle t =
      match a.perUnit? with
      | some q => .ok ⟨[⟨.long, q, cur⟩], zero⟩
      | none => .error (.overflow a .unit) := by
  cases ho : a.isOne with
  | true =>
    rw [scale_of_isOne ho, Amount.perUnit?, if_pos ho]
    rfl
  | false =>
    have product : a.perUnit? = a.mul? .unit := by
      rw [Amount.perUnit?, ho, if_neg Bool.false_ne_true]
    have scaled : (⟨[⟨.long, .unit, cur⟩], zero⟩ : Settlement F).scaled a =
        match a.mul? .unit with
        | some q => .ok ⟨[⟨.long, q, cur⟩], zero⟩
        | none => .error (.overflow a .unit) := by
      simp only [Settlement.scaled, List.mapM_cons, List.mapM_nil, Payment.scaledOrFault,
        Payment.scaled?]
      cases a.mul? .unit <;> rfl
    rw [settle_scale_eq nonzero ho, product]
    exact scaled

/-! ## The run of a bond -/

/-- One payment on the first of the days, and nothing afterwards. -/
def payOnce (p : Payment) : List Date → List (Date × Settlement F)
  | [] => []
  | first :: rest => (first, ⟨[p], zero⟩) :: rest.map (·, ⟨[], zero⟩)

theorem follow_scale_one_of_paid (nonzero : a.isZero = false) (paid : a.perUnit? = some q)
    (cur : Currency) (schedule : List Date) :
    (scale a (one cur) : Contract F).follow schedule =
      ⟨payOnce ⟨.long, q, cur⟩ schedule, none⟩ := by
  cases schedule with
  | nil => rfl
  | cons first rest =>
    have settled := settle_scale_one (F := F) nonzero cur first
    rw [paid] at settled
    rw [follow_cons_of_settle settled, follow_of_idle fun t _ => isIdle_zero t]
    rfl

theorem follow_scale_one_of_overflow (nonzero : a.isZero = false) (overflow : a.perUnit? = none)
    (cur : Currency) (schedule : List Date) :
    (scale a (one cur) : Contract F).follow schedule =
      ⟨[], schedule.head?.map fun _ => .overflow a .unit⟩ := by
  cases schedule with
  | nil => rfl
  | cons first rest =>
    have settled := settle_scale_one (F := F) nonzero cur first
    rw [overflow] at settled
    rw [follow_cons_of_fault settled]
    rfl

/-- Before its day a bond waits, and then it is the contract inside. -/
theorem follow_bond_eq (rising : schedule.Pairwise (· ≤ ·)) (d : Date) (a : Amount)
    (cur : Currency) :
    (bond d a cur : Contract F).follow schedule =
      ⟨(schedule.filter (· < d)).map (·, ⟨[], bond d a cur⟩) ++
          ((scale a (one cur) : Contract F).follow (schedule.filter (d ≤ ·))).stops,
        ((scale a (one cur) : Contract F).follow (schedule.filter (d ≤ ·))).fault⟩ := by
  obtain ⟨early, late⟩ := Date.takeWhile_lt_and_dropWhile_lt rising d
  rw [← early, ← late]
  exact follow_defer d (scale a (one cur)) schedule

/-- **Zero-coupon bonds.** Along rising days a bond over an amount other than zero pays nothing and
    stays as it is before its day. When the leading digit of the amount is not above the range, the
    run reaches its end: on the first day that is not before its own the bond makes one long payment
    in its currency, of the very quantity when the range holds it, and then nothing is left. When
    the leading digit is above the range, the run ends on that day with an overflow. -/
theorem follow_bond (nonzero : a.toRat ≠ 0) (rising : schedule.Pairwise (· ≤ ·)) (d : Date)
    (cur : Currency) :
    (a.value.adjusted ≤ Decimal.greatestAdjusted →
      ∃ q : Amount, (a.IsHeld → q.toRat = a.toRat) ∧
        (bond d a cur : Contract F).follow schedule =
          ⟨(schedule.filter (· < d)).map (·, ⟨[], bond d a cur⟩) ++
            payOnce ⟨.long, q, cur⟩ (schedule.filter (d ≤ ·)), none⟩) ∧
    (Decimal.greatestAdjusted < a.value.adjusted →
      (bond d a cur : Contract F).follow schedule =
        ⟨(schedule.filter (· < d)).map (·, ⟨[], bond d a cur⟩),
          (schedule.filter (d ≤ ·)).head?.map fun _ => .overflow a .unit⟩) := by
  have hz : a.isZero = false := by rwa [← Bool.not_eq_true, Amount.isZero_iff]
  constructor
  · intro range
    have computed : a.perUnit? ≠ none := by
      rw [ne_eq, Amount.perUnit?_eq_none_iff hz]
      omega
    obtain ⟨q, paid⟩ := Option.ne_none_iff_exists'.mp computed
    refine ⟨q, Amount.toRat_of_perUnit? paid, ?_⟩
    rw [follow_bond_eq rising, follow_scale_one_of_paid hz paid]
  · intro above
    have overflow : a.perUnit? = none := (Amount.perUnit?_eq_none_iff hz).mpr above
    rw [follow_bond_eq rising, follow_scale_one_of_overflow hz overflow, List.append_nil]

/-- Two days before the day of the bond, and one after it that is repeated. -/
theorem follow_bond_of_repeated_day :
    (⟨⟨true, 250, -2⟩⟩ : Amount).toRat ≠ 0 ∧
    ([⟨2021, 5, 1, by decide⟩, ⟨2021, 5, 2, by decide⟩, ⟨2021, 5, 4, by decide⟩,
      ⟨2021, 5, 4, by decide⟩] : List Date).Pairwise (· ≤ ·) ∧
    ∃ q : Amount, q.toRat = (⟨⟨true, 250, -2⟩⟩ : Amount).toRat ∧
      (bond ⟨2021, 5, 3, by decide⟩ ⟨⟨true, 250, -2⟩⟩ .eur : Contract Empty).follow
          [⟨2021, 5, 1, by decide⟩, ⟨2021, 5, 2, by decide⟩, ⟨2021, 5, 4, by decide⟩,
            ⟨2021, 5, 4, by decide⟩] =
        ⟨[(⟨2021, 5, 1, by decide⟩, ⟨[], bond ⟨2021, 5, 3, by decide⟩ ⟨⟨true, 250, -2⟩⟩ .eur⟩),
          (⟨2021, 5, 2, by decide⟩, ⟨[], bond ⟨2021, 5, 3, by decide⟩ ⟨⟨true, 250, -2⟩⟩ .eur⟩),
          (⟨2021, 5, 4, by decide⟩, ⟨[⟨.long, q, .eur⟩], zero⟩),
          (⟨2021, 5, 4, by decide⟩, ⟨[], zero⟩)], none⟩ := by
  have nonzero : (⟨⟨true, 250, -2⟩⟩ : Amount).toRat ≠ 0 := mt Amount.isZero_iff.mpr (by decide)
  have rising : ([⟨2021, 5, 1, by decide⟩, ⟨2021, 5, 2, by decide⟩, ⟨2021, 5, 4, by decide⟩,
      ⟨2021, 5, 4, by decide⟩] : List Date).Pairwise (· ≤ ·) := by decide
  have held : (⟨⟨true, 250, -2⟩⟩ : Amount).IsHeld := Decimal.isHeld_of_le (by decide +kernel)
  obtain ⟨inRange, -⟩ := follow_bond (F := Empty) nonzero rising ⟨2021, 5, 3, by decide⟩ .eur
  obtain ⟨q, quantity, run⟩ := inRange (by decide +kernel)
  exact ⟨nonzero, rising, q, quantity held, run⟩

/-- Two amounts that can be made. A bond over the first one ends its run with an overflow instead of
    a payment, and a bond over the second one, which is not zero, pays a zero. -/
theorem follow_bond_beyond_range :
    (Amount.ofValue? (.decimal (.finite ⟨false, 1, 1000000⟩)) = .ok ⟨⟨false, 1, 1000000⟩⟩ ∧
      (⟨⟨false, 1, 1000000⟩⟩ : Amount).isZero = false ∧
      (bond ⟨2020, 12, 24, by decide⟩ ⟨⟨false, 1, 1000000⟩⟩ .eur : Contract Empty).follow
          [⟨2020, 12, 24, by decide⟩] =
        ⟨[], some (.overflow ⟨⟨false, 1, 1000000⟩⟩ .unit)⟩) ∧
    Amount.ofValue? (.decimal (.finite ⟨false, 1, -2000000⟩)) = .ok ⟨⟨false, 1, -2000000⟩⟩ ∧
      (⟨⟨false, 1, -2000000⟩⟩ : Amount).isZero = false ∧
      (bond ⟨2020, 12, 24, by decide⟩ ⟨⟨false, 1, -2000000⟩⟩ .eur : Contract Empty).follow
          [⟨2020, 12, 24, by decide⟩] =
        ⟨[(⟨2020, 12, 24, by decide⟩, ⟨[⟨.long, ⟨⟨false, 0, -1000026⟩⟩, .eur⟩], zero⟩)], none⟩ ∧
      (⟨⟨false, 0, -1000026⟩⟩ : Amount).isZero = true := by
  refine ⟨⟨rfl, rfl, by decide +kernel⟩, rfl, rfl, by decide +kernel, rfl⟩

end Contract

end TermSheet
