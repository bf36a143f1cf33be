import TermSheet.Numeral
import TermSheet.Proofs.Text.Digits
import TermSheet.Value.Amount

/-!
# Reading back what was written of a decimal number

A decimal number is written in full or with a power of ten, and in both ways with all its digits.
The reader finds the sign, the digits on both sides of the point and the power of ten again, so it
gets back the representation, not only the number: the sign of a zero, zeros at the end and the
exponent are kept. Two numbers with one written form are therefore identical.

The reader of numbers that can be kept gives the number back exactly when it is one of these.

Results:
* `takeDigits_pointed`: the digits on both sides of the point.
* `ofChars?_chars`: every number is read back.
* `Decimal.text_injective`: the written form tells the representation.
* `Amount.ofValue?_text`: an amount is read back from its text exactly when it can be kept.
-/

namespace TermSheet

namespace Decimal

/-! ## Digits with a point -/

/-- The first character is a digit. -/
def StartsWithDigit (cs : List Char) : Prop := ∃ c ∈ cs.head?, c.isDigit = true

theorem StartsWithDigit.append {cs : List Char} (h : StartsWithDigit cs) (rest : List Char) :
    StartsWithDigit (cs ++ rest) := by
  obtain ⟨c, hc, digit⟩ := h
  cases cs with
  | nil => cases hc
  | cons d ds => exact ⟨c, hc, digit⟩

variable {digits : List Char}

theorem startsWithDigit_of_all (nonempty : digits ≠ []) (all : ∀ c ∈ digits, c.isDigit = true) :
    StartsWithDigit digits := by
  cases digits with
  | nil => exact absurd rfl nonempty
  | cons c cs => exact ⟨c, rfl, all c List.mem_cons_self⟩

theorem startsWithDigit_pointed (nonempty : digits ≠ []) (all : ∀ c ∈ digits, c.isDigit = true)
    (places : Nat) : StartsWithDigit (pointed digits places) := by
  unfold pointed
  split
  · exact startsWithDigit_of_all nonempty all
  · split
    · refine (startsWithDigit_of_all ?_ fun c hc => all c (List.mem_of_mem_take hc)).append _
      rw [ne_eq, List.take_eq_nil_iff, not_or]
      exact ⟨by omega, nonempty⟩
    · exact ⟨'0', rfl, rfl⟩

section TakeDigits

variable {whole fraction rest : List Char} (inWhole : ∀ c ∈ whole, c.isDigit = true)
  (stop : Stops Char.isDigit rest)

include inWhole stop

theorem takeDigits_append (noPoint : rest.head? ≠ some '.') :
    takeDigits (whole ++ rest) = (whole, [], rest) := by
  simp only [takeDigits, takeWhile_append_of_stop inWhole stop,
    dropWhile_append_of_stop inWhole stop]
  split
  · exact absurd rfl noPoint
  · rfl

theorem takeDigits_append_point (inFraction : ∀ c ∈ fraction, c.isDigit = true) :
    takeDigits (whole ++ '.' :: (fraction ++ rest)) = (whole, fraction, rest) := by
  have point : Stops Char.isDigit ('.' :: (fraction ++ rest)) := stops_cons rfl _
  simp only [takeDigits, takeWhile_append_of_stop inWhole point,
    dropWhile_append_of_stop inWhole point, takeWhile_append_of_stop inFraction stop,
    dropWhile_append_of_stop inFraction stop]

end TakeDigits

/-- A number with a point has digits on both sides of it, which are, together, its digits with zeros
    in front. In front of the point stands a zero or the front of the digits. -/
theorem exists_pointed (digits : List Char) {places : Nat} (point : places ≠ 0) :
    ∃ whole fraction zeros, pointed digits places = whole ++ '.' :: fraction ∧
      fraction.length = places ∧ whole ++ fraction = List.replicate zeros '0' ++ digits ∧
      (whole = ['0'] ∨ whole ≠ [] ∧ whole <+: digits) := by
  unfold pointed
  rw [if_neg point]
  split
  · next few =>
    refine ⟨digits.take (digits.length - places), digits.drop (digits.length - places), 0, rfl, ?_,
      List.take_append_drop _ _, Or.inr ⟨?_, List.take_prefix _ _⟩⟩
    · rw [List.length_drop]
      omega
    · rw [ne_eq, List.take_eq_nil_iff, not_or]
      exact ⟨by omega, List.ne_nil_of_length_pos (by omega)⟩
  · next many =>
    refine ⟨['0'], List.replicate (places - digits.length) '0' ++ digits,
      places - digits.length + 1, rfl, ?_, rfl, Or.inl rfl⟩
    rw [List.length_append, List.length_replicate]
    omega

/-- The digits in front of the point and those behind it are, together, the digits with zeros in
    front. -/
theorem takeDigits_pointed (all : ∀ c ∈ digits, c.isDigit = true) (places : Nat)
    {rest : List Char} (stop : Stops Char.isDigit rest) (noPoint : rest.head? ≠ some '.') :
    ∃ whole fraction zeros, takeDigits (pointed digits places ++ rest) = (whole, fraction, rest) ∧
      fraction.length = places ∧ whole ++ fraction = List.replicate zeros '0' ++ digits := by
  by_cases point : places = 0
  · refine ⟨digits, [], 0, ?_, point.symm, List.append_nil digits⟩
    rw [pointed, if_pos point]
    exact takeDigits_append all stop noPoint
  · obtain ⟨whole, fraction, zeros, form, count, together, -⟩ := exists_pointed digits point
    have digit : ∀ c ∈ whole ++ fraction, c.isDigit = true := by
      intro c hc
      rw [together] at hc
      rcases List.mem_append.mp hc with filled | written
      · rw [(List.mem_replicate.mp filled).2]
        rfl
      · exact all c written
    refine ⟨whole, fraction, zeros, ?_, count, together⟩
    rw [form, List.append_assoc, List.cons_append]
    exact takeDigits_append_point (fun c hc => digit c (List.mem_append_left _ hc)) stop
      fun c hc => digit c (List.mem_append_right _ hc)

/-! ## Signs and powers of ten -/

theorem takeSign_of_digit {cs : List Char} (h : StartsWithDigit cs) :
    takeSign cs = (false, cs) := by
  obtain ⟨c, hc, digit⟩ := h
  cases cs with
  | nil => cases hc
  | cons d ds =>
    cases hc
    unfold takeSign
    split
    · next h => cases h; exact absurd digit (by decide)
    · next h => cases h; exact absurd digit (by decide)
    · rfl

/-- A sign that is written only in front of negative numbers is read back. -/
theorem takeSign_append (negative : Bool) {cs : List Char} (h : StartsWithDigit cs) :
    takeSign ((if negative then ['-'] else []) ++ cs) = (negative, cs) := by
  cases negative with
  | true => rfl
  | false => exact takeSign_of_digit h

/-- A power of ten is read back behind either mark, with zeros in front of it or without. -/
theorem exponentOf?_marked {mark : Char} (marked : mark = 'e' ∨ mark = 'E') (zeros : Nat)
    (e : Int) :
    exponentOf? (mark :: (if e < 0 then '-' else '+') ::
      (List.replicate zeros '0' ++ Nat.toDigits 10 e.natAbs)) = some e := by
  have nonempty : (List.replicate zeros '0' ++ Nat.toDigits 10 e.natAbs != []) = true := by
    rw [bne_iff_ne, ne_eq, List.append_eq_nil_iff, not_and]
    exact fun _ => Nat.toDigits_ne_nil
  have all : (List.replicate zeros '0' ++ Nat.toDigits 10 e.natAbs).all Char.isDigit = true := by
    rw [List.all_append, Bool.and_eq_true]
    refine ⟨List.all_replicate.trans (by simp), List.all_eq_true.mpr fun c => ?_⟩
    exact isDigit_of_mem_toDigits
  have sign : takeSign ((if e < 0 then '-' else '+') ::
      (List.replicate zeros '0' ++ Nat.toDigits 10 e.natAbs)) =
      (decide (e < 0), List.replicate zeros '0' ++ Nat.toDigits 10 e.natAbs) := by
    by_cases negative : e < 0
    · rw [if_pos negative, decide_eq_true negative]
      rfl
    · rw [if_neg negative, decide_eq_false negative]
      rfl
  have known : (mark == 'e' || mark == 'E') = true := by
    rcases marked with rfl | rfl <;> rfl
  simp only [exponentOf?, sign, known, nonempty, all, Bool.and_self, if_true, digitsValue_zeros,
    digitsValue_toDigits, signed_natAbs]

theorem exponentOf?_exponentChars (e : Int) : exponentOf? (exponentChars e) = some e :=
  exponentOf?_marked (Or.inr rfl) 0 e

/-! ## Numbers -/

/-- A sign, written digits with a point among them, and what stands for a power of ten. -/
theorem ofChars?_pointed (negative : Bool) (n places : Nat) {tail : List Char} {e : Int}
    (power : exponentOf? tail = some e) (stop : Stops Char.isDigit tail)
    (noPoint : tail.head? ≠ some '.') :
    ofChars? ((if negative then ['-'] else []) ++ (pointed (Nat.toDigits 10 n) places ++ tail)) =
      some ⟨negative, n, e - places⟩ := by
  have nonempty : Nat.toDigits 10 n ≠ [] := Nat.toDigits_ne_nil
  have all : ∀ c ∈ Nat.toDigits 10 n, c.isDigit = true := fun c => isDigit_of_mem_toDigits
  have first := (startsWithDigit_pointed nonempty all places).append tail
  obtain ⟨whole, fraction, zeros, found, count, together⟩ :=
    takeDigits_pointed all places stop noPoint
  have value : digitsValue (whole ++ fraction) = n := by
    rw [together, digitsValue_zeros, digitsValue_toDigits]
  have some_digit : whole ++ fraction ≠ [] := by
    rw [together, ne_eq, List.append_eq_nil_iff, not_and]
    exact fun _ => nonempty
  simp only [ofChars?, takeSign_append negative first, found, power, Option.bind_eq_bind,
    Option.bind_some, if_neg some_digit, value, count]

/-- Every number is read back with its sign, its coefficient and its exponent. -/
theorem ofChars?_chars (d : Decimal) : ofChars? d.chars = some d := by
  obtain ⟨negative, n, exponent⟩ := d
  have digits := digitCount_pos n
  unfold chars
  by_cases plain : IsPlain ⟨negative, n, exponent⟩
  · have low : exponent ≤ 0 := plain.1
    have whole : exponentOf? [] = some 0 := rfl
    have read := ofChars?_pointed negative n exponent.natAbs whole stops_nil (by simp)
    rw [List.append_nil] at read
    simp only [if_pos plain]
    rw [read]
    congr 2
    omega
  · have stop : Stops Char.isDigit (exponentChars (adjusted ⟨negative, n, exponent⟩)) :=
      stops_cons rfl _
    simp only [if_neg plain, scientific]
    rw [ofChars?_pointed negative n _ (exponentOf?_exponentChars _) stop (by simp [exponentChars])]
    congr 2
    rw [length_toDigits, adjusted]
    dsimp only
    omega

theorem text_injective {a b : Decimal} (h : a.text = b.text) : a = b := by
  have same : a.chars = b.chars := String.ofList_injective h
  have read := ofChars?_chars a
  rw [same, ofChars?_chars] at read
  exact (Option.some.inj read).symm

/-! ## The characters of a number -/

/-- A digit, a point, a sign or the mark in front of a power of ten. -/
def IsNumberChar (c : Char) : Prop := c.isDigit = true ∨ c ∈ ['.', 'E', '+', '-']

theorem isNumberChar_of_mem_pointed (all : ∀ c ∈ digits, c.isDigit = true) (places : Nat) :
    ∀ c ∈ pointed digits places, IsNumberChar c := by
  intro c hc
  unfold pointed at hc
  split at hc
  · exact Or.inl (all c hc)
  · split at hc
    · rcases List.mem_append.mp hc with front | behind
      · exact Or.inl (all c (List.mem_of_mem_take front))
      · rcases List.mem_cons.mp behind with rfl | behind
        · exact Or.inr (by decide)
        · exact Or.inl (all c (List.mem_of_mem_drop behind))
    · rcases List.mem_append.mp hc with front | written
      · rcases List.mem_cons.mp front with rfl | front
        · exact Or.inl (by decide)
        · rcases List.mem_cons.mp front with rfl | filled
          · exact Or.inr (by decide)
          · rw [(List.mem_replicate.mp filled).2]
            exact Or.inl (by decide)
      · exact Or.inl (all c written)

theorem isNumberChar_of_mem_exponentChars (e : Int) : ∀ c ∈ exponentChars e, IsNumberChar c := by
  intro c hc
  rcases List.mem_cons.mp hc with rfl | hc
  · exact Or.inr (by decide)
  · rcases List.mem_cons.mp hc with rfl | hc
    · split <;> exact Or.inr (by decide)
    · exact Or.inl (isDigit_of_mem_toDigits hc)

theorem isNumberChar_of_mem_chars (d : Decimal) : ∀ c ∈ d.chars, IsNumberChar c := by
  have all : ∀ c ∈ Nat.toDigits 10 d.coefficient, c.isDigit = true :=
    fun c => isDigit_of_mem_toDigits
  intro c hc
  rcases List.mem_append.mp hc with sign | body
  · split at sign
    · rw [List.mem_singleton.mp sign]
      exact Or.inr (by decide)
    · cases sign
  · split at body
    · exact isNumberChar_of_mem_pointed all _ c body
    · rcases List.mem_append.mp body with number | power
      · exact isNumberChar_of_mem_pointed all _ c number
      · exact isNumberChar_of_mem_exponentChars _ c power

/-- The characters of a number can be seen, and none of them is an underscore. -/
theorem IsNumberChar.graphic {c : Char} (h : IsNumberChar c) :
    0x21 ≤ c.toNat ∧ c.toNat ≤ 0x7e ∧ c ≠ '_' := by
  rcases h with digit | mark
  · have range := toNat_of_isDigit digit
    refine ⟨by omega, by omega, ?_⟩
    rintro rfl
    exact absurd range (by decide)
  · simp only [List.mem_cons, List.not_mem_nil, or_false] at mark
    rcases mark with rfl | rfl | rfl | rfl <;> decide

/-- Behind its sign a number starts with a digit. -/
theorem takeSign_chars (d : Decimal) :
    ∃ body, takeSign d.chars = (d.negative, body) ∧ StartsWithDigit body := by
  have nonempty : Nat.toDigits 10 d.coefficient ≠ [] := Nat.toDigits_ne_nil
  have all : ∀ c ∈ Nat.toDigits 10 d.coefficient, c.isDigit = true :=
    fun c => isDigit_of_mem_toDigits
  refine ⟨_, takeSign_append d.negative ?first, ?first⟩
  split
  · exact startsWithDigit_pointed nonempty all _
  · exact (startsWithDigit_pointed nonempty all _).append _

end Decimal

/-! ## Reading a text -/

theorem trimBlanks_eq_self {cs : List Char} (h : ∀ c ∈ cs, Text.isBlank c = false) :
    Text.trimBlanks cs = cs := by
  have nothing {run : List Char} (inside : ∀ c ∈ run, Text.isBlank c = false) :
      run.dropWhile Text.isBlank = run :=
    dropWhile_append_of_stop (List.forall_mem_nil _) fun c hc => inside c (List.mem_of_mem_head? hc)
  rw [Text.trimBlanks, nothing h, nothing fun c hc => h c (List.mem_reverse.mp hc),
    List.reverse_reverse]

theorem toPlainDigits?_of_graphic {s : String}
    (h : ∀ c ∈ s.toList, 0x21 ≤ c.toNat ∧ c.toNat ≤ 0x7e) : toPlainDigits? s = some s.toList := by
  have plain : ∀ cs : List Char, (∀ c ∈ cs, c.toNat < 0x80) →
      (cs.mapM fun c => if c.toNat < 0x80 then some c else
        (Text.digitValue? c).map Text.digitChar) = some cs := by
    intro cs low
    induction cs with
    | nil => rfl
    | cons c cs ih =>
      have first := low c List.mem_cons_self
      simp [List.mapM_cons, first, ih fun d hd => low d (List.mem_cons_of_mem c hd)]
  have visible : ∀ c ∈ s.toList, Text.isBlank c = false := fun c hc =>
    Text.not_isBlank_of_graphic (h c hc).1 (h c hc).2
  rw [toPlainDigits?, trimBlanks_eq_self visible]
  exact plain s.toList fun c hc => by have := (h c hc).2; omega

namespace Numeral

/-- The name of an infinity or of what is no number starts with a letter. -/
theorem ofName?_of_digit (negative : Bool) {cs : List Char} (h : Decimal.StartsWithDigit cs) :
    ofName? negative (cs.map Char.toLower) = none := by
  obtain ⟨c, hc, digit⟩ := h
  cases cs with
  | nil => cases hc
  | cons d ds =>
    cases hc
    have lower : c.toLower = c := by
      have range := toNat_of_isDigit digit
      refine dif_neg fun capital => ?_
      have : 65 ≤ c.toNat := UInt32.le_iff_toNat_le.mp capital.1
      omega
    have letter {d : Char} (same : c = d) (h : d.isDigit = false) : False := by
      rw [same, h] at digit
      cases digit
    rw [List.map_cons, lower]
    unfold ofName?
    split
    · next h => exact (letter (List.cons.inj h).1 rfl).elim
    · next h => exact (letter (List.cons.inj h).1 rfl).elim
    · next h => exact (letter (List.cons.inj h).1 rfl).elim
    · rfl

/-- A number is read back from its text when it can be kept, and otherwise nothing is read. -/
theorem ofText?_text (d : Decimal) :
    ofText? d.text = if d.Representable then some (finite d) else none := by
  have chars : d.text.toList = d.chars := String.toList_ofList
  have graphic : ∀ c ∈ d.text.toList, 0x21 ≤ c.toNat ∧ c.toNat ≤ 0x7e := by
    rw [chars]
    intro c hc
    have seen := (d.isNumberChar_of_mem_chars c hc).graphic
    exact ⟨seen.1, seen.2.1⟩
  have kept : d.chars.filter (· != '_') = d.chars := by
    refine List.filter_eq_self.mpr fun c hc => ?_
    exact bne_iff_ne.mpr (d.isNumberChar_of_mem_chars c hc).graphic.2.2
  obtain ⟨body, sign, first⟩ := d.takeSign_chars
  simp only [ofText?, toPlainDigits?_of_graphic graphic, chars, Option.bind_eq_bind,
    Option.bind_some, kept, sign, ofName?_of_digit d.negative first, Option.none_or,
    Decimal.ofKeptChars?, Decimal.ofChars?_chars, Option.filter_some]
  split <;> simp_all

theorem ofName?_ne_finite (negative : Bool) (name : List Char) (d : Decimal) :
    ofName? negative name ≠ some (finite d) := by
  intro read
  unfold ofName? at read
  split at read
  · split at read <;> cases read
  · unfold ofName?.ofPayload? at read
    split at read <;> cases read
  · unfold ofName?.ofPayload? at read
    split at read <;> cases read
  · cases read

/-- What is read from a text can be kept. -/
theorem representable_of_ofText? {s : String} {d : Decimal} (h : ofText? s = some (finite d)) :
    d.Representable := by
  obtain ⟨cs, -, read⟩ := Option.bind_eq_some_iff.mp h
  rcases Option.or_eq_some_iff.mp read with named | ⟨-, number⟩
  · exact absurd named (ofName?_ne_finite _ _ d)
  · obtain ⟨kept, found, same⟩ := Option.map_eq_some_iff.mp number
    cases same
    exact of_decide_eq_true (Option.filter_eq_some_iff.mp found).2

end Numeral

namespace Amount

/-- An amount is read back from its text exactly when it can be kept. -/
theorem ofValue?_text (a : Amount) :
    ofValue? (.text a.text) =
      if a.value.Representable then .ok a else .error (.illegal (.text a.text) a.text) := by
  have read : Numeral.ofText? a.text =
      if a.value.Representable then some (.finite a.value) else none :=
    Numeral.ofText?_text a.value
  by_cases kept : a.value.Representable
  · rw [if_pos kept] at read ⊢
    simp only [ofValue?, Value.plain, read]
  · rw [if_neg kept] at read ⊢
    simp only [ofValue?, Value.plain, read]

end Amount

end TermSheet
