import TermSheet.Proofs.Decimal.Text
import TermSheet.Proofs.Decimal.Value
import TermSheet.Proofs.Value.Logged

/-!
# Which values are amounts

A value that is offered as an amount becomes one, or it is refused with a fault that quotes it.
There is one way in which neither happens: the number is read from the plain form of the value, and
the fault quotes the plain form, so when a whole number anywhere in the value is too long to be
written, what comes out is the fault of writing it. A finite decimal number is an amount as it
stands, and so is every whole number that can be written.

Results:
* `exists_exact_iff`: the whole numbers in a value decide whether it has a written form.
* `isClean_of_plain`, `ofValue?_of_plain_error`: what becomes of a value with and without a plain
  form.
* `ofValue?_int`: whole numbers.
* `ofValue?_clean`: all of this for every value.
* `ofValue?_int_not_clean`: a whole number that is neither accepted nor refused.
-/

namespace TermSheet

/-! ## Whole numbers -/

theorem Decimal.toRat_ofInt (i : Int) : (Decimal.ofInt i).toRat = i := by
  have size : ((i.natAbs : ℤ) : ℚ) = |(i : ℚ)| := by
    rw [Int.natCast_natAbs, Int.cast_abs]
  simp only [toRat, ofInt, zpow_zero, mul_one, decide_eq_true_eq]
  rw [← Int.cast_natCast, size]
  split
  · next negative => rw [abs_of_neg (by exact_mod_cast negative), neg_one_mul, neg_neg]
  · next positive => rw [abs_of_nonneg (by exact_mod_cast not_lt.mp positive), one_mul]

/-- A whole number is written like the decimal number without places. -/
theorem toString_eq_text (i : Int) : toString i = (Decimal.ofInt i).text := by
  have plain : (Decimal.ofInt i).IsPlain := by
    have := digitCount_pos i.natAbs
    constructor
    · exact Int.le_refl 0
    · simp only [Decimal.adjusted, Decimal.ofInt]
      omega
  have chars : (Decimal.ofInt i).chars =
      (if decide (i < 0) then ['-'] else []) ++ Nat.toDigits 10 i.natAbs := by
    simp only [Decimal.chars, if_pos plain]
    rfl
  rw [Decimal.text, chars]
  cases i with
  | ofNat n => rfl
  | negSucc n =>
    rw [decide_eq_true (Int.negSucc_lt_zero n), if_pos rfl, String.ofList_append]
    rfl

theorem digitCount_le_of_lt_pow {n k : ℕ} (positive : 0 < k) (h : n < Nat.pow 10 k) :
    digitCount n ≤ k := by
  rw [digitCount_eq_log]
  exact Nat.log_lt_of_lt_pow' (by omega) h

/-- A whole number that can be written is far inside the range of numbers that can be kept. -/
theorem representable_ofInt {i : Int} (h : i.natAbs < digitLimit) :
    (Decimal.ofInt i).Representable := by
  have few : digitCount i.natAbs ≤ mostDigits := by
    unfold digitLimit at h
    exact digitCount_le_of_lt_pow (by decide) h
  constructor
  · show -1999999999999999997 ≤ (0 : ℤ)
    omega
  · simp only [Decimal.adjusted, Decimal.ofInt, mostDigits] at few ⊢
    omega

/-! ## Which values have a written form -/

namespace Value

mutual

/-- The whole numbers that stand in a value, however deep. -/
def wholeNumbers : Value → List Int
  | int i => [i]
  | list items => wholeNumbersOfList items
  | tuple items => wholeNumbersOfList items
  | dict entries => wholeNumbersOfEntries entries
  | contract c => wholeNumbersOfContract c
  | settlement ⟨_, residual⟩ => wholeNumbersOfContract residual
  | _ => []

/-- The same for the items of a list. -/
def wholeNumbersOfList : List Value → List Int
  | [] => []
  | item :: items => wholeNumbers item ++ wholeNumbersOfList items

/-- The same for the entries of a mapping, with their keys. -/
def wholeNumbersOfEntries : List (Value × Value) → List Int
  | [] => []
  | (key, item) :: entries => wholeNumbers key ++ wholeNumbers item ++ wholeNumbersOfEntries entries

/-- The same for a contract, in the foreign leaves of which any value can stand. -/
def wholeNumbersOfContract : Contract Value → List Int
  | .zero | .one _ => []
  | .multiple _ inner | .later _ inner | .give inner => wholeNumbersOfContract inner
  | .both left right => wholeNumbersOfContract left ++ wholeNumbersOfContract right
  | .foreign leaf => wholeNumbers leaf

end

/-- Every whole number in a value has few enough digits to be written. -/
def IsWritten (v : Value) : Prop := ∀ i ∈ v.wholeNumbers, i.natAbs < digitLimit

mutual

/-- A value has an exact form when all of its whole numbers can be written. -/
theorem exists_exact_iff (v : Value) :
    (∃ s, v.exact = .ok s) ↔ ∀ i ∈ v.wholeNumbers, i.natAbs < digitLimit := by
  cases v with
  | int i =>
    simp only [exact, wholeNumbers, List.mem_singleton, forall_eq]
    exact intText_eq_ok_iff
  | list items =>
    simp only [exact, wholeNumbers, exists_bind_iff, exists_pure_iff, and_true]
    exact exists_exactList_iff items
  | tuple items =>
    simp only [exact, wholeNumbers, exists_bind_iff, exists_pure_iff, and_true]
    exact exists_exactList_iff items
  | dict entries =>
    simp only [exact, wholeNumbers, exists_bind_iff, exists_pure_iff, and_true]
    exact exists_exactEntries_iff entries
  | contract c =>
    simp only [exact, wholeNumbers]
    exact exists_exactContract_iff c
  | settlement s =>
    obtain ⟨payments, residual⟩ := s
    simp only [exact, wholeNumbers, exists_bind_iff, exists_pure_iff, and_true]
    exact exists_exactContract_iff residual
  | _ =>
    simp only [exact, wholeNumbers]
    exact iff_of_true ⟨_, rfl⟩ (List.forall_mem_nil _)
termination_by structural v

theorem exists_exactList_iff (items : List Value) :
    (∃ ss, exactList items = .ok ss) ↔
      ∀ i ∈ wholeNumbersOfList items, i.natAbs < digitLimit := by
  cases items with
  | nil => exact iff_of_true ⟨_, rfl⟩ (List.forall_mem_nil _)
  | cons item items =>
    simp only [exactList, wholeNumbersOfList, exists_bind_iff, exists_pure_iff, and_true,
      exists_and_right]
    rw [exists_exact_iff item, exists_exactList_iff items]
    simp only [List.mem_append, or_imp, forall_and]
termination_by structural items

theorem exists_exactEntries_iff (entries : List (Value × Value)) :
    (∃ ss, exactEntries entries = .ok ss) ↔
      ∀ i ∈ wholeNumbersOfEntries entries, i.natAbs < digitLimit := by
  cases entries with
  | nil => exact iff_of_true ⟨_, rfl⟩ (List.forall_mem_nil _)
  | cons entry entries =>
    obtain ⟨key, item⟩ := entry
    simp only [exactEntries, wholeNumbersOfEntries, exists_bind_iff, exists_pure_iff, and_true,
      exists_and_right]
    rw [exists_exact_iff key, exists_exact_iff item, exists_exactEntries_iff entries]
    simp only [List.mem_append, or_imp, forall_and, and_assoc]
termination_by structural entries

theorem exists_exactContract_iff (c : Contract Value) :
    (∃ s, exactContract c = .ok s) ↔
      ∀ i ∈ wholeNumbersOfContract c, i.natAbs < digitLimit := by
  cases c with
  | zero => exact iff_of_true ⟨_, rfl⟩ (List.forall_mem_nil _)
  | one currency => exact iff_of_true ⟨_, rfl⟩ (List.forall_mem_nil _)
  | multiple factor inner =>
    simp only [exactContract, wholeNumbersOfContract, exists_bind_iff, exists_pure_iff, and_true]
    exact exists_exactContract_iff inner
  | later date inner =>
    simp only [exactContract, wholeNumbersOfContract, exists_bind_iff, exists_pure_iff, and_true]
    exact exists_exactContract_iff inner
  | give inner =>
    simp only [exactContract, wholeNumbersOfContract, exists_bind_iff, exists_pure_iff, and_true]
    exact exists_exactContract_iff inner
  | both left right =>
    simp only [exactContract, wholeNumbersOfContract, exists_bind_iff, exists_pure_iff, and_true,
      exists_and_right]
    rw [exists_exactContract_iff left, exists_exactContract_iff right]
    simp only [List.mem_append, or_imp, forall_and]
  | foreign leaf =>
    simp only [exactContract, wholeNumbersOfContract]
    exact exists_exact_iff leaf
termination_by structural c

end

theorem exists_plain_iff_isWritten (v : Value) : (∃ s, v.plain = .ok s) ↔ v.IsWritten :=
  exists_plain_iff.trans (exists_exact_iff v)

/-- There is only one reason why a value has no plain form. -/
theorem plain_of_not_isWritten {v : Value} (h : ¬ v.IsWritten) :
    v.plain = .error .tooManyDigits := by
  cases plain : v.plain with
  | ok s => exact absurd ((exists_plain_iff_isWritten v).mp ⟨s, plain⟩) h
  | error fault =>
    cases fault
    rfl

end Value

/-! ## Amounts -/

namespace Amount

/-- A value is accepted, or it is refused with a fault that quotes its plain form. -/
def IsClean (outcome : Except AmountFault Amount) : Prop :=
  (∃ a, outcome = .ok a) ∨
    ∃ raw shown, outcome = .error (.illegal raw shown) ∧ raw.plain = .ok shown

theorem isClean_of_plain {v : Value} {s : String} (h : v.plain = .ok s) : IsClean (ofValue? v) := by
  unfold ofValue?
  split
  · exact Or.inl ⟨_, rfl⟩
  · exact Or.inr ⟨_, _, rfl, rfl⟩
  · rw [h]
    dsimp only
    split
    · exact Or.inl ⟨_, rfl⟩
    · exact Or.inr ⟨_, _, rfl, rfl⟩
    · exact Or.inr ⟨_, _, rfl, h⟩

/-- A value without a plain form is neither accepted nor refused. -/
theorem ofValue?_of_plain_error {v : Value} {fault : DisplayFault} (h : v.plain = .error fault) :
    ofValue? v = .error (.unshowable fault) := by
  unfold ofValue?
  split
  · cases h
  · cases h
  · rw [h]

theorem ofValue?_int {i : Int} (h : i.natAbs < digitLimit) :
    ofValue? (.int i) = .ok ⟨.ofInt i⟩ := by
  have plain : (Value.int i).plain = .ok (Decimal.ofInt i).text := by
    simp only [Value.plain, Value.exact, intText_of_lt h, toString_eq_text]
  have read := Numeral.ofText?_text (.ofInt i)
  rw [if_pos (representable_ofInt h)] at read
  simp only [ofValue?, plain, read]

/-- **Amounts from values.** When all whole numbers in a value can be written, the value is accepted
    as an amount or refused with a fault that quotes it. When one of them cannot, what comes out is
    the fault of writing it. A finite decimal number is accepted with its sign, its coefficient and
    its exponent, and a whole number that can be written with the number that it is. -/
theorem ofValue?_clean (v : Value) :
    (v.IsWritten → IsClean (ofValue? v)) ∧
    (¬ v.IsWritten → ofValue? v = .error (.unshowable .tooManyDigits)) ∧
    (∀ d : Decimal, v = .decimal (.finite d) → ofValue? v = .ok ⟨d⟩) ∧
    ∀ i : Int, v = .int i → i.natAbs < digitLimit → ∃ a, ofValue? v = .ok a ∧ a.toRat = i := by
  refine ⟨fun written => ?_, fun unwritten => ?_, ?_, ?_⟩
  · obtain ⟨s, plain⟩ := (Value.exists_plain_iff_isWritten v).mpr written
    exact isClean_of_plain plain
  · exact ofValue?_of_plain_error (Value.plain_of_not_isWritten unwritten)
  · rintro d rfl
    exact ofValue?_decimal d
  · rintro i rfl few
    exact ⟨⟨.ofInt i⟩, ofValue?_int few, Decimal.toRat_ofInt i⟩

/-- A whole number that is too long, in a list under a key of a mapping. -/
theorem not_isWritten_nested : ¬ (Value.dict [(.none, .list [.int digitLimit])]).IsWritten := by
  intro written
  have inside (i : Int) : i ∈ (Value.dict [(.none, .list [.int i])]).wholeNumbers := by
    simp [Value.wholeNumbers, Value.wholeNumbersOfEntries, Value.wholeNumbersOfList]
  have few := written digitLimit (inside digitLimit)
  rw [Int.natAbs_natCast] at few
  exact Nat.lt_irrefl _ few

/-- A list with a short whole number, a mapping with one that is too long, and a whole number. -/
theorem ofValue?_clean_of_list_and_mapping :
    (Value.list [.text "EUR", .int 5]).IsWritten ∧
      IsClean (ofValue? (.list [.text "EUR", .int 5])) ∧
    ¬ (Value.dict [(.none, .list [.int digitLimit])]).IsWritten ∧
      ofValue? (.dict [(.none, .list [.int digitLimit])]) = .error (.unshowable .tooManyDigits) ∧
    ∃ a, ofValue? (.int (-250)) = .ok a ∧ a.toRat = (-250 : ℤ) := by
  have written : (Value.list [.text "EUR", .int 5]).IsWritten := by
    intro i mem
    simp only [Value.wholeNumbers, Value.wholeNumbersOfList, List.nil_append, List.append_nil,
      List.mem_singleton] at mem
    rw [mem]
    exact lt_digitLimit (by decide)
  exact ⟨written, (ofValue?_clean _).1 written, not_isWritten_nested,
    (ofValue?_clean _).2.1 not_isWritten_nested,
    (ofValue?_clean (.int (-250))).2.2.2 (-250) rfl (lt_digitLimit (by decide))⟩

/-- The least whole number that is too long to be written is neither accepted nor refused. -/
theorem ofValue?_int_not_clean :
    ofValue? (.int digitLimit) = .error (.unshowable .tooManyDigits) ∧
      ¬ IsClean (ofValue? (.int digitLimit)) := by
  have unwritten : ¬ (Value.int digitLimit).IsWritten := by
    intro written
    have few := written digitLimit List.mem_cons_self
    rw [Int.natAbs_natCast] at few
    exact Nat.lt_irrefl _ few
  have fault := ofValue?_of_plain_error (Value.plain_of_not_isWritten unwritten)
  refine ⟨fault, ?_⟩
  rw [fault]
  rintro (⟨a, h⟩ | ⟨raw, shown, h, -⟩)
  · cases h
  · cases h

end Amount

end TermSheet
