import Mathlib.Algebra.Ring.Nat
import TermSheet.Proofs.Calendar.Order
import TermSheet.Proofs.Failure
import TermSheet.Proofs.Text.Digits
import TermSheet.Value.Date

/-!
# Reading back what was written of a day

A day is written with four digits for the year and two each for the month and the day of the month.
Numbers that need fewer digits are filled up with zeros, so the parts stand at fixed places, and the
reader, which takes them from there, finds every day of the calendar again.

Results:
* `length_padded`, `isDigit_of_mem_padded`, `digitsValue_padded`: filled-up numbers.
* `Date.ofText?_text`: every day is read back from its text.
* `Date.ofValue?_text`: and so it is when the text comes from outside.
-/

namespace TermSheet

/-- A text of ASCII characters has as many bytes as characters. -/
theorem utf8ByteSize_ofList_of_ascii {cs : List Char} (h : ∀ c ∈ cs, c.toNat < 0x80) :
    (String.ofList cs).utf8ByteSize = cs.length := by
  induction cs with
  | nil => rfl
  | cons c cs ih =>
    have ascii := h c List.mem_cons_self
    have first : c.utf8Size = 1 :=
      Char.utf8Size_eq_one_iff.mpr (UInt32.le_iff_toNat_le.mpr (Nat.le_of_lt_succ ascii))
    rw [String.ofList_cons, String.utf8ByteSize_append, String.utf8ByteSize_singleton, first,
      ih fun d hd => h d (List.mem_cons_of_mem c hd), List.length_cons, Nat.add_comm]

namespace Date

/-! ## Filled-up numbers -/

variable {width n : Nat}

theorem length_padded (positive : 0 < width) (fits : n < 10 ^ width) :
    (padded width n).length = width := by
  have short : (Nat.toDigits 10 n).length ≤ width :=
    (Nat.length_toDigits_le_iff (by decide) positive).mpr fits
  rw [padded, List.length_append, List.length_replicate]
  omega

theorem isDigit_of_mem_padded {c : Char} (h : c ∈ padded width n) : c.isDigit = true := by
  rcases List.mem_append.mp h with filled | written
  · rw [(List.mem_replicate.mp filled).2]
    rfl
  · exact isDigit_of_mem_toDigits written

theorem digitsValue_padded (width n : Nat) : digitsValue (padded width n) = n := by
  rw [padded, digitsValue_zeros, digitsValue_toDigits]

/-- A filled-up number is read from the front of any text. -/
theorem takeNumber_padded (positive : 0 < width) (fits : n < 10 ^ width) (rest : List Char) :
    takeNumber width (padded width n ++ rest) = .ok (n, rest) := by
  have length := length_padded positive fits
  have all : (padded width n).all Char.isDigit = true :=
    List.all_eq_true.mpr fun c => isDigit_of_mem_padded
  have front : (padded width n ++ rest).take width = padded width n := List.take_left' length
  have behind : (padded width n ++ rest).drop width = rest := List.drop_left' length
  simp only [takeNumber, front, behind, length, all, and_self, if_true, digitsValue_padded]

/-! ## Days -/

theorem parts_fit (d : Date) : d.year < 10 ^ 4 ∧ d.month < 10 ^ 2 ∧ d.day < 10 ^ 2 := by
  have year := d.isDay.1.2
  have month := d.isDay.2.1.2
  have day : d.day ≤ 31 := Nat.le_trans d.isDay.2.2.2 (monthLength_le d.year d.month)
  omega

theorem of?_parts (d : Date) : of? d.year d.month d.day = .ok d := dif_pos d.isDay

/-- Behind the year and a hyphen comes a digit, so the text is not taken for a week. -/
theorem ofFront?_chars (d : Date) : ofFront? d.chars = .ok d := by
  obtain ⟨year, month, day⟩ := d.parts_fit
  have parts : d.chars =
      padded 4 d.year ++ '-' :: (padded 2 d.month ++ '-' :: (padded 2 d.day ++ [])) := by
    simp only [chars, List.append_assoc, List.cons_append, List.append_nil]
  have noWeek : ∀ rest, padded 2 d.month ++ '-' :: (padded 2 d.day ++ []) ≠ 'W' :: rest := by
    intro rest h
    have count := length_padded Nat.zero_lt_two month
    cases digits : padded 2 d.month with
    | nil => simp [digits] at count
    | cons c cs =>
      rw [digits, List.cons_append] at h
      have week : 'W' ∈ padded 2 d.month := by
        rw [digits, (List.cons.inj h).1]
        exact List.mem_cons_self
      exact absurd (isDigit_of_mem_padded week) (by decide)
  rw [parts, ofFront?, takeNumber_padded (by decide) year]
  simp only [ok_bind, List.head?_cons, beq_self_eq_true, if_true, List.drop_succ_cons,
    List.drop_zero]
  rw [takeNumber_padded Nat.zero_lt_two month, ok_bind, takeHyphen, if_pos rfl, ok_bind,
    takeNumber_padded Nat.zero_lt_two day, ok_bind, of?_parts]

theorem ascii_of_mem_chars (d : Date) : ∀ c ∈ d.chars, c.toNat < 0x80 := by
  have digits {width n : Nat} {c : Char} (h : c ∈ padded width n) : c.toNat < 0x80 := by
    have := toNat_of_isDigit (isDigit_of_mem_padded h)
    omega
  intro c hc
  simp only [chars, List.mem_append, List.mem_cons] at hc
  rcases hc with (year | rfl | month) | rfl | day
  · exact digits year
  · decide
  · exact digits month
  · decide
  · exact digits day

theorem ofText?_text (d : Date) : ofText? d.text = .ok d := by
  obtain ⟨year, month, day⟩ := d.parts_fit
  have count : d.chars.length = 10 := by
    simp only [chars, List.length_append, List.length_cons, length_padded (Nat.zero_lt_succ 3) year,
      length_padded Nat.zero_lt_two month, length_padded Nat.zero_lt_two day]
  have bytes : d.text.utf8ByteSize = 10 := by
    rw [text, utf8ByteSize_ofList_of_ascii d.ascii_of_mem_chars, count]
  have characters : d.text.toList = d.chars := String.toList_ofList
  rw [ofText?, bytes, if_pos (by decide), characters, ofFront?_chars]

theorem text_injective {a b : Date} (h : a.text = b.text) : a = b := by
  have read := ofText?_text a
  rw [h, ofText?_text] at read
  exact (Except.ok.inj read).symm

/-- A day is read back from its text when the text comes from outside. -/
theorem ofValue?_text (d : Date) : ofValue? (.text d.text) = .ok d := by
  simp only [ofValue?, Value.exact, Value.toText?, ofShown?, ofText?_text]
  rfl

end Date

end TermSheet
