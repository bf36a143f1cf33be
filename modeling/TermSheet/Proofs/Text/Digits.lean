import TermSheet.Decimal.Text

/-!
# Runs of digits

A natural number is written with the digits that give its value back, whatever number of zeros
stands in front of them. A reader that takes digits as long as there are any finds exactly the run
that was written when no digit follows it.

Results:
* `digitsValue_toDigits`, `digitsValue_zeros`: the value of the written digits.
* `length_toDigits`: how many there are.
* `signed_natAbs`: a number from its size and its sign.
* `takeWhile_append_of_stop`, `dropWhile_append_of_stop`: a run is found again in front of a text
  that does not go on with it.
-/

namespace TermSheet

theorem digitsValue_eq_ofDigitChars (cs : List Char) : digitsValue cs = Nat.ofDigitChars 10 cs 0 :=
  Nat.ofDigitChars_eq_foldl.symm

theorem digitsValue_toDigits (n : Nat) : digitsValue (Nat.toDigits 10 n) = n := by
  rw [digitsValue_eq_ofDigitChars, Nat.ofDigitChars_toDigits (by decide) (by decide)]

theorem digitsValue_zeros (count : Nat) (cs : List Char) :
    digitsValue (List.replicate count '0' ++ cs) = digitsValue cs := by
  rw [digitsValue_eq_ofDigitChars, Nat.ofDigitChars_append, Nat.ofDigitChars_replicate_zero,
    Nat.mul_zero, ← digitsValue_eq_ofDigitChars]

theorem toNat_of_isDigit {c : Char} (h : c.isDigit = true) : 48 ≤ c.toNat ∧ c.toNat ≤ 57 := by
  simpa [Char.isDigit, UInt32.le_iff_toNat_le] using h

theorem isDigit_of_mem_toDigits {n : Nat} {c : Char} (h : c ∈ Nat.toDigits 10 n) :
    c.isDigit = true :=
  Nat.isDigit_of_mem_toDigits (by decide) (by decide) h

theorem exists_toDigits (n : Nat) : ∃ c cs, Nat.toDigits 10 n = c :: cs ∧ c.isDigit = true := by
  cases digits : Nat.toDigits 10 n with
  | nil => exact absurd digits Nat.toDigits_ne_nil
  | cons c cs =>
    refine ⟨c, cs, rfl, isDigit_of_mem_toDigits (n := n) ?_⟩
    rw [digits]
    exact List.mem_cons_self

theorem length_toDigits (n : Nat) : (Nat.toDigits 10 n).length = digitCount n := by
  induction n using Nat.strongRecOn with
  | ind n ih =>
    rw [Nat.toDigits_eq_if (by decide)]
    split
    · next small => rw [digitCount_eq_one small, List.length_singleton]
    · next large =>
      rw [digitCount_of_ten_le (by omega), List.length_append, ih (n / 10) (by omega),
        List.length_singleton]

/-- A whole number is its size with its sign. -/
theorem signed_natAbs (i : Int) :
    (if decide (i < 0) = true then -(i.natAbs : Int) else i.natAbs) = i := by
  simp only [decide_eq_true_eq]
  split <;> omega

/-- A property of all characters of a given text is checked for one after the other. -/
theorem forall_mem_of_all {P : Char → Prop} [DecidablePred P] {cs : List Char}
    (h : (cs.all fun c => decide (P c)) = true) : ∀ c ∈ cs, P c :=
  fun c hc => of_decide_eq_true (List.all_eq_true.mp h c hc)

/-- No text that goes on with a run. -/
def Stops (p : Char → Bool) (rest : List Char) : Prop := ∀ c ∈ rest.head?, p c = false

variable {p : Char → Bool} {run rest : List Char}

theorem stops_nil : Stops p [] := by
  intro c h
  cases h

theorem stops_cons {c : Char} (h : p c = false) (rest : List Char) : Stops p (c :: rest) := by
  intro d hd
  cases hd
  exact h

theorem takeWhile_append_of_stop (inside : ∀ c ∈ run, p c = true) (stop : Stops p rest) :
    (run ++ rest).takeWhile p = run := by
  rw [List.takeWhile_append_of_pos inside]
  cases rest with
  | nil => simp
  | cons c rest => simp [stop c rfl]

theorem dropWhile_append_of_stop (inside : ∀ c ∈ run, p c = true) (stop : Stops p rest) :
    (run ++ rest).dropWhile p = rest := by
  rw [List.dropWhile_append_of_pos inside]
  cases rest with
  | nil => rfl
  | cons c rest => simp [stop c rfl]

end TermSheet
