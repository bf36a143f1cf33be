import TermSheet.Proofs.Binary64.Shortest
import TermSheet.Proofs.Decimal.Text
import TermSheet.Proofs.Json.Reader

/-!
# JSON numbers are read back

A whole number is read back as itself. The written form of a finite floating-point number is a
number of JSON with a point or a power of ten; it has the value of the shortest decimal form, so the
floating-point number nearest to it is the one that was written, with its sign even if it is zero.
The values that are not finite have names, and the names are no numbers.

Results:
* `number?_intChars`: whole numbers.
* `number?_floatText`: finite floating-point numbers.
* `takeNumber?_intChars`, `takeNumber?_floatText`: numbers in front of a rest.
-/

namespace TermSheet

/-! ## Digits -/

/-- A whole number does not start with an idle zero, and neither does a front part of one. -/
theorem toDigits_digitsValue_of_prefix {n : ℕ} {front : List Char} (some_digit : front ≠ [])
    (h : front <+: Nat.toDigits 10 n) : Nat.toDigits 10 (digitsValue front) = front := by
  induction n using Nat.strongRecOn with
  | ind n ih =>
    have whole (same : front = Nat.toDigits 10 n) :
        Nat.toDigits 10 (digitsValue front) = front := by
      rw [same, digitsValue_toDigits]
    by_cases small : n < 10
    · rw [Nat.toDigits_of_lt_base small] at h whole
      rcases List.prefix_concat_iff.mp (show front <+: [] ++ [Nat.digitChar n] from h) with
        same | short
      · exact whole same
      · exact absurd (List.prefix_nil.mp short) some_digit
    · rw [Nat.toDigits_of_base_le (by decide) (by omega)] at h whole
      rcases List.prefix_concat_iff.mp h with same | short
      · exact whole same
      · exact ih (n / 10) (by omega) short

/-- A factor of ten is a zero at the end. -/
theorem toDigits_mul_pow {n : ℕ} (positive : n ≠ 0) (zeros : ℕ) :
    Nat.toDigits 10 (n * 10 ^ zeros) = Nat.toDigits 10 n ++ List.replicate zeros '0' := by
  induction zeros with
  | zero => rw [pow_zero, mul_one, List.replicate_zero, List.append_nil]
  | succ zeros ih =>
    have large : 0 < n * 10 ^ zeros := Nat.mul_pos (Nat.pos_of_ne_zero positive) (by positivity)
    rw [pow_succ, ← mul_assoc, Nat.toDigits_of_base_le (by decide) (by omega),
      Nat.mul_div_cancel _ (by decide), Nat.mul_mod_left, ih, List.replicate_succ',
      List.append_assoc]
    rfl

theorem digitsValue_append_zero {n : ℕ} (positive : n ≠ 0) :
    digitsValue (Nat.toDigits 10 n ++ ['0']) = n * 10 := by
  have read := digitsValue_toDigits (n * 10 ^ 1)
  rwa [toDigits_mul_pow positive, pow_one] at read

/-- Whether a floating-point number is a number of finite size. -/
def Binary64.isFinite : Binary64 → Bool
  | finite _ _ _ _ => true
  | nan | infinite _ => false

namespace Json

/-! ## Whole numbers -/

theorem takeMinus_append (negative : Bool) {body : List Char}
    (first : Decimal.StartsWithDigit body) :
    takeMinus ((if negative then ['-'] else []) ++ body) = (negative, body) := by
  cases negative with
  | true => rfl
  | false =>
    obtain ⟨c, head, digit⟩ := first
    cases body with
    | nil => cases head
    | cons d rest =>
      cases head
      rw [if_neg Bool.false_ne_true, List.nil_append]
      unfold takeMinus
      split
      · next minus =>
        cases minus
        exact absurd digit (by decide)
      · rfl

theorem startsWithDigit_toDigits (n : ℕ) : Decimal.StartsWithDigit (Nat.toDigits 10 n) :=
  Decimal.startsWithDigit_of_all Nat.toDigits_ne_nil fun _ => isDigit_of_mem_toDigits

theorem number?_intChars (i : ℤ) : number? (intChars i) = some (int i) := by
  have sign := takeMinus_append (decide (i < 0)) (startsWithDigit_toDigits i.natAbs)
  have parts : Decimal.takeDigits (Nat.toDigits 10 i.natAbs) =
      (Nat.toDigits 10 i.natAbs, [], []) := by
    have found := Decimal.takeDigits_append (fun c => isDigit_of_mem_toDigits (n := i.natAbs))
      stops_nil nofun
    rwa [List.append_nil] at found
  have form : intChars i =
      (if decide (i < 0) = true then ['-'] else []) ++ Nat.toDigits 10 i.natAbs := by
    simp only [intChars, decide_eq_true_eq]
  simp only [number?, form, sign, parts, digitsValue_toDigits, List.append_nil, ne_eq,
    not_true_eq_false, and_false, or_self, if_false, if_true, signed_natAbs]

/-! ## Numbers with a point or a power of ten -/

/-- The parts of a number: no idle zeros in front, digits behind a point, and a power of ten. -/
theorem number?_of_parts (negative : Bool) {body whole fraction power : List Char} {e : ℤ}
    (first : Decimal.StartsWithDigit body)
    (parts : Decimal.takeDigits body = (whole, fraction, power))
    (noIdle : Nat.toDigits 10 (digitsValue whole) = whole)
    (point : fraction = [] → body = whole ++ power) (longer : body ≠ whole)
    (exponent : Decimal.exponentOf? power = some e) :
    number? ((if negative then ['-'] else []) ++ body) =
      some (float (Binary64.ofDecimal
        ⟨negative, digitsValue (whole ++ fraction), e - fraction.length⟩)) := by
  have allowed : ¬(Nat.toDigits 10 (digitsValue whole) ≠ whole ∨
      fraction = [] ∧ body ≠ whole ++ power) := by
    rintro (idle | ⟨none, other⟩)
    · exact idle noIdle
    · exact other (point none)
  simp only [number?, takeMinus_append negative first, parts, if_neg allowed, if_neg longer,
    exponent, Option.map_some]

/-- A number with a point, and perhaps a power of ten behind it. -/
theorem number?_pointed (negative : Bool) (n : ℕ) {places : ℕ} {power : List Char} {e : ℤ}
    (exponent : Decimal.exponentOf? power = some e) (stop : Stops Char.isDigit power)
    (noPoint : power.head? ≠ some '.') (some_part : places ≠ 0 ∨ power ≠ []) :
    number? ((if negative then ['-'] else []) ++
        (Decimal.pointed (Nat.toDigits 10 n) places ++ power)) =
      some (float (Binary64.ofDecimal ⟨negative, n, e - places⟩)) := by
  have all : ∀ c ∈ Nat.toDigits 10 n, c.isDigit = true := fun c => isDigit_of_mem_toDigits
  by_cases point : places = 0
  · have form : Decimal.pointed (Nat.toDigits 10 n) places = Nat.toDigits 10 n := if_pos point
    rw [form]
    have read := number?_of_parts negative ((startsWithDigit_toDigits n).append power)
      (Decimal.takeDigits_append all stop noPoint) (by rw [digitsValue_toDigits])
      (fun _ => rfl) (fun same => (some_part.resolve_left (not_not_intro point))
        (List.append_right_eq_self.mp same)) exponent
    rw [read, List.append_nil, digitsValue_toDigits, point]
    rfl
  · obtain ⟨whole, fraction, zeros, form, count, together, front⟩ :=
      Decimal.exists_pointed (Nat.toDigits 10 n) point
    have digit : ∀ c ∈ whole ++ fraction, c.isDigit = true := by
      intro c hc
      rw [together] at hc
      rcases List.mem_append.mp hc with filled | written
      · rw [(List.mem_replicate.mp filled).2]
        rfl
      · exact all c written
    have noIdle : Nat.toDigits 10 (digitsValue whole) = whole := by
      rcases front with rfl | ⟨some_digit, start⟩
      · rfl
      · exact toDigits_digitsValue_of_prefix some_digit start
    have some_fraction : fraction ≠ [] := by
      rintro rfl
      exact point count.symm
    have value : digitsValue (whole ++ fraction) = n := by
      rw [together, digitsValue_zeros, digitsValue_toDigits]
    have first : Decimal.StartsWithDigit (whole ++ '.' :: (fraction ++ power)) := by
      refine Decimal.StartsWithDigit.append (Decimal.startsWithDigit_of_all ?_ fun c hc =>
        digit c (List.mem_append_left _ hc)) _
      rintro rfl
      exact Nat.toDigits_ne_nil noIdle
    rw [form, List.append_assoc, List.cons_append]
    rw [number?_of_parts negative first
      (Decimal.takeDigits_append_point (fun c hc => digit c (List.mem_append_left _ hc)) stop
        fun c hc => digit c (List.mem_append_right _ hc))
      noIdle (fun none => absurd none some_fraction) (by simp) exponent, value, count]

/-- The layout of a decimal number is read as a decimal number of the same value. -/
theorem number?_layout (negative : Bool) {d : Decimal} (some_digit : d.coefficient ≠ 0) :
    ∃ r : Decimal, r.negative = negative ∧ r.coefficient ≠ 0 ∧
      (r.coefficient : ℚ) * 10 ^ r.exponent = d.coefficient * 10 ^ d.exponent ∧
      number? ((if negative then ['-'] else []) ++ Binary64.layout d) =
        some (float (Binary64.ofDecimal r)) := by
  have count := digitCount_pos d.coefficient
  have noPower : Decimal.exponentOf? [] = some 0 := rfl
  unfold Binary64.layout
  by_cases plain : -4 ≤ d.adjusted ∧ d.adjusted < 16
  · simp only [if_pos plain]
    by_cases whole : 0 ≤ d.exponent
    · -- A whole number is written with its zeros, and another one behind the point.
      obtain ⟨k, shift⟩ := Int.eq_ofNat_of_zero_le whole
      have filled := toDigits_mul_pow some_digit k
      have large : d.coefficient * 10 ^ k ≠ 0 := Nat.mul_ne_zero some_digit (by positivity)
      refine ⟨⟨negative, d.coefficient * 10 ^ k * 10, -1⟩, rfl, Nat.mul_ne_zero large (by decide),
        ?_, ?_⟩
      · rw [shift]
        push_cast
        rw [zpow_natCast, zpow_neg_one]
        ring
      · rw [if_pos whole, shift, Int.toNat_natCast, ← filled]
        have zero : ∀ c ∈ ['0'], c.isDigit = true := forall_mem_of_all (by decide)
        have parts := Decimal.takeDigits_append_point
          (fun c => isDigit_of_mem_toDigits (n := d.coefficient * 10 ^ k)) stops_nil zero
        rw [number?_of_parts negative ((startsWithDigit_toDigits _).append ['.', '0']) parts
          (by rw [digitsValue_toDigits]) nofun (by simp) noPower, digitsValue_append_zero large]
        rfl
    · refine ⟨⟨negative, d.coefficient, d.exponent⟩, rfl, some_digit, rfl, ?_⟩
      have point : d.exponent.natAbs ≠ 0 := by omega
      have read := number?_pointed negative d.coefficient noPower stops_nil nofun (Or.inl point)
      rw [List.append_nil] at read
      rw [if_neg whole, read, show (0 : ℤ) - d.exponent.natAbs = d.exponent by omega]
  · simp only [if_neg plain]
    refine ⟨⟨negative, d.coefficient, d.exponent⟩, rfl, some_digit, rfl, ?_⟩
    rw [number?_pointed negative d.coefficient
      (Decimal.exponentOf?_marked (Or.inl rfl) _ d.adjusted)
      (stops_cons rfl _) (by simp) (Or.inr (List.cons_ne_nil _ _)), length_toDigits]
    congr 4
    rw [Decimal.adjusted]
    omega

/-! ## Floating-point numbers -/

theorem toList_floatText_finite (negative : Bool) (significand : ℕ) (exponent : ℤ)
    (fits : Binary64.Fits significand exponent) :
    (floatText (.finite negative significand exponent fits)).toList =
      (if negative then ['-'] else []) ++
        if significand = 0 then ['0', '.', '0']
        else Binary64.layout (Binary64.shortest significand exponent) := by
  show (Binary64.text _).toList = _
  rw [Binary64.text, String.toList_ofList]
  cases negative <;> rfl

/-- A finite number is read back from its text. -/
theorem number?_floatText (negative : Bool) (significand : ℕ) (exponent : ℤ)
    (fits : Binary64.Fits significand exponent) :
    number? (floatText (.finite negative significand exponent fits)).toList =
      some (float (.finite negative significand exponent fits)) := by
  rw [toList_floatText_finite]
  by_cases zero : significand = 0
  · subst zero
    have least : exponent = Binary64.leastExponent := fits.2.2.2.resolve_right (by decide)
    subst least
    rw [if_pos rfl]
    cases negative <;> rfl
  · obtain ⟨-, some_digit, owned⟩ := Binary64.shortest_spec fits zero
    obtain ⟨r, sign, some_digit', value, read⟩ := number?_layout negative some_digit
    rw [if_neg zero, read]
    rw [← value] at owned
    rw [Binary64.ofDecimal_of_owns fits zero some_digit' owned, sign]

/-! ## Runs of characters -/

theorem isNumberChar_of_isDigit {c : Char} (h : c.isDigit = true) : isNumberChar c = true := by
  rw [isNumberChar, h, Bool.true_or]

theorem isNumberChar_of_decimal {c : Char} (h : Decimal.IsNumberChar c) :
    isNumberChar c = true := by
  rcases h with digit | mark
  · exact isNumberChar_of_isDigit digit
  · exact forall_mem_of_all (P := fun c => isNumberChar c = true) (by decide) c mark

theorem isNumberChar_of_mem_sign (negative : Bool) :
    ∀ c ∈ (if negative then ['-'] else []), isNumberChar c = true := by
  cases negative <;> exact forall_mem_of_all (by decide)

theorem isNumberChar_of_mem_intChars (i : ℤ) : ∀ c ∈ intChars i, isNumberChar c = true := by
  intro c hc
  rcases List.mem_append.mp hc with minus | digit
  · split at minus
    · exact isNumberChar_of_mem_sign true c minus
    · cases minus
  · exact isNumberChar_of_isDigit (isDigit_of_mem_toDigits digit)

/-- A floating-point number is written with the characters of a decimal number and a small `e`. -/
theorem isNumberChar_of_mem_layout (d : Decimal) :
    ∀ c ∈ Binary64.layout d, isNumberChar c = true := by
  have digit {n : ℕ} {c : Char} (h : c ∈ Nat.toDigits 10 n) : isNumberChar c = true :=
    isNumberChar_of_isDigit (isDigit_of_mem_toDigits h)
  have zeros {count : ℕ} {c : Char} (h : c ∈ List.replicate count '0') : isNumberChar c = true := by
    rw [(List.mem_replicate.mp h).2]
    decide
  have pointed {n places : ℕ} {c : Char}
      (h : c ∈ Decimal.pointed (Nat.toDigits 10 n) places) : isNumberChar c = true :=
    isNumberChar_of_decimal
      (Decimal.isNumberChar_of_mem_pointed (fun _ => isDigit_of_mem_toDigits) places c h)
  intro c hc
  unfold Binary64.layout at hc
  dsimp only at hc
  split at hc
  · split at hc
    · rcases List.mem_append.mp hc with front | behind
      · rcases List.mem_append.mp front with number | filled
        · exact digit number
        · exact zeros filled
      · simp only [List.mem_cons, List.not_mem_nil, or_false] at behind
        rcases behind with rfl | rfl <;> decide
    · exact pointed hc
  · rcases List.mem_append.mp hc with number | behind
    · exact pointed number
    · rcases List.mem_cons.mp behind with rfl | behind
      · decide
      · rcases List.mem_cons.mp behind with rfl | power
        · split <;> decide
        · rcases List.mem_append.mp power with filled | number
          · exact zeros filled
          · exact digit number

theorem isNumberChar_of_mem_floatText (negative : Bool) (significand : ℕ) (exponent : ℤ)
    (fits : Binary64.Fits significand exponent) :
    ∀ c ∈ (floatText (.finite negative significand exponent fits)).toList,
      isNumberChar c = true := by
  intro c hc
  rw [toList_floatText_finite] at hc
  rcases List.mem_append.mp hc with sign | body
  · exact isNumberChar_of_mem_sign negative c sign
  · split at body
    · exact forall_mem_of_all (P := fun c => isNumberChar c = true) (by decide) c body
    · exact isNumberChar_of_mem_layout _ c body

/-- A number is read up to the end of its characters. -/
theorem takeNumber?_append {cs rest : List Char} (all : ∀ c ∈ cs, isNumberChar c = true)
    (stop : Stops isNumberChar rest) :
    takeNumber? (cs ++ rest) = (number? cs).map (·, rest) := by
  rw [takeNumber?, takeWhile_append_of_stop all stop, dropWhile_append_of_stop all stop]

theorem takeNumber?_intChars (i : ℤ) {rest : List Char} (stop : Stops isNumberChar rest) :
    takeNumber? (intChars i ++ rest) = some (int i, rest) := by
  rw [takeNumber?_append (isNumberChar_of_mem_intChars i) stop, number?_intChars, Option.map_some]

/-- Exactly the finite numbers are read back. At most a sign stands in front of the first letter of
    another one. -/
theorem takeNumber?_floatText (x : Binary64) {rest : List Char} (stop : Stops isNumberChar rest) :
    takeNumber? ((floatText x).toList ++ rest) =
      if x.isFinite then some (float x, rest) else none := by
  cases x with
  | nan =>
    have letter : Stops isNumberChar ('N' :: 'a' :: 'N' :: rest) := stops_cons rfl _
    have read := takeNumber?_append (List.forall_mem_nil _) letter
    exact read
  | infinite negative =>
    have letter : Stops isNumberChar ("Infinity".toList ++ rest) := stops_cons rfl _
    have read := takeNumber?_append (isNumberChar_of_mem_sign negative) letter
    cases negative <;> exact read
  | finite negative significand exponent fits =>
    rw [takeNumber?_append (isNumberChar_of_mem_floatText negative significand exponent fits) stop,
      number?_floatText, Option.map_some]
    rfl

/-! ## First characters -/

/-- A number starts with a digit or a sign, and the name of another value with a letter or a
    sign. -/
def IsNumberStart (c : Char) : Prop := c.isDigit = true ∨ c ∈ ['-', 'N', 'I']

theorem exists_intChars (i : ℤ) : ∃ c cs, intChars i = c :: cs ∧ IsNumberStart c := by
  unfold intChars
  by_cases negative : i < 0
  · rw [if_pos negative]
    exact ⟨_, _, rfl, Or.inr (by decide)⟩
  · obtain ⟨c, cs, digits, digit⟩ := exists_toDigits i.natAbs
    rw [if_neg negative, digits]
    exact ⟨c, cs, rfl, Or.inl digit⟩

theorem startsWithDigit_layout (d : Decimal) : Decimal.StartsWithDigit (Binary64.layout d) := by
  have all : ∀ c ∈ Nat.toDigits 10 d.coefficient, c.isDigit = true :=
    fun c => isDigit_of_mem_toDigits
  have pointed := Decimal.startsWithDigit_pointed Nat.toDigits_ne_nil all
  unfold Binary64.layout
  dsimp only
  split
  · split
    · exact ((startsWithDigit_toDigits _).append _).append _
    · exact pointed _
  · exact (pointed _).append _

theorem exists_floatText (x : Binary64) :
    ∃ c cs, (floatText x).toList = c :: cs ∧ IsNumberStart c := by
  cases x with
  | nan => exact ⟨_, _, rfl, Or.inr (by decide)⟩
  | infinite negative => cases negative <;> exact ⟨_, _, rfl, Or.inr (by decide)⟩
  | finite negative significand exponent fits =>
    rw [toList_floatText_finite]
    cases negative with
    | true => exact ⟨_, _, rfl, Or.inr (by decide)⟩
    | false =>
      by_cases zero : significand = 0
      · rw [if_pos zero]
        exact ⟨_, _, rfl, Or.inl (by decide)⟩
      · obtain ⟨c, head, digit⟩ := startsWithDigit_layout (Binary64.shortest significand exponent)
        obtain ⟨cs, text⟩ := List.head?_eq_some_iff.mp head
        rw [if_neg zero, text]
        exact ⟨c, cs, rfl, Or.inl digit⟩

/-- A number does not start with a blank or with a mark or a letter of another value. -/
theorem IsNumberStart.not_mem {c : Char} (h : IsNumberStart c) :
    c ∉ [' ', '\n', '\r', '\t', ']', '"', '[', '\x7b', 'n', 't', 'f'] := by
  have others : ∀ d ∈ [' ', '\n', '\r', '\t', ']', '"', '[', '\x7b', 'n', 't', 'f'],
      d.isDigit = false ∧ d ∉ ['-', 'N', 'I'] := forall_mem_of_all (by decide)
  intro mem
  obtain ⟨digit, mark⟩ := others c mem
  rcases h with same | same
  · rw [digit] at same
    cases same
  · exact mark same

theorem IsNumberStart.not_isBlank {c : Char} (h : IsNumberStart c) : isBlank c = false := by
  have other := h.not_mem
  simp only [List.mem_cons, not_or] at other
  simp only [isBlank, Bool.or_eq_false_iff, beq_eq_false_iff_ne]
  exact ⟨⟨⟨other.1, other.2.1⟩, other.2.2.1⟩, other.2.2.2.1⟩

/-- What starts like a number is read as one. -/
theorem takeValue?_of_start {c : Char} (h : IsNumberStart c) (fuel : ℕ) (cs : List Char) :
    takeValue? (fuel + 1) (c :: cs) = takeNumber? (c :: cs) := by
  have other := h.not_mem
  rw [takeValue?, skip_cons h.not_isBlank]
  split
  · next quote => cases quote; exact (other (by decide)).elim
  · next bracket => cases bracket; exact (other (by decide)).elim
  · next brace => cases brace; exact (other (by decide)).elim
  · unfold takeAtom?
    split
    · next null => cases null; exact (other (by decide)).elim
    · next true => cases true; exact (other (by decide)).elim
    · next false => cases false; exact (other (by decide)).elim
    · rfl

end Json

end TermSheet
