import TermSheet.Json.Basic
import TermSheet.Proofs.Text.Digits

/-!
# A reader of JSON texts

The reader takes a value from the front of a text and leaves the rest. Blanks may stand between any
two parts. Texts may have escapes of every kind: a letter, four hexadecimal digits, or twice four
for a character beyond the basic plane. A number with a point or a power of ten denotes the
floating-point number that is nearest to it. Control characters in a text, idle zeros in front of a
number, a point without digits behind it, the names of what is no finite number and commas without a
member behind them are refused.

What is written for a character or a text is read back, in front of any rest that does not continue
it.

Results:
* `takeChar?_escapeChar`: every character is read back, whether it was escaped or not.
* `takeText?_quoted`: texts.
-/

namespace TermSheet.Json

/-! ## The reader -/

/-- The value of a hexadecimal digit. -/
def hexValue? (c : Char) : Option Nat :=
  if '0' ≤ c ∧ c ≤ '9' then some (c.toNat - 0x30)
  else if 'a' ≤ c ∧ c ≤ 'f' then some (c.toNat - 0x57)
  else if 'A' ≤ c ∧ c ≤ 'F' then some (c.toNat - 0x37)
  else none

/-- The code unit of four hexadecimal digits, and the rest. -/
def takeUnit? : List Char → Option (Nat × List Char)
  | a :: b :: c :: d :: rest => do
    return (((← hexValue? a) * 0x1000 + (← hexValue? b) * 0x100 + (← hexValue? c) * 0x10 +
      (← hexValue? d)), rest)
  | _ => none

/-- The character of a code unit that was escaped, and the rest. The first half of a character
    beyond the basic plane needs the escape of the second half behind it. -/
def takeEscaped? (unit : Nat) (rest : List Char) : Option (Char × List Char) :=
  if unit < 0xd800 ∨ 0xe000 ≤ unit then some (Char.ofNat unit, rest)
  else if unit < 0xdc00 then
    match rest with
    | '\\' :: 'u' :: rest => do
      let (second, rest) ← takeUnit? rest
      if 0xdc00 ≤ second ∧ second < 0xe000 then
        return (Char.ofNat (0x10000 + (unit - 0xd800) * 0x400 + (second - 0xdc00)), rest)
      else none
    | _ => none
  else none

/-- The characters that are escaped by a letter or by themselves. -/
def shortEscapes : List (Char × Char) :=
  [('"', '"'), ('\\', '\\'), ('/', '/'), ('n', '\n'), ('r', '\r'), ('t', '\t'), ('f', '\x0c'),
    ('b', '\x08')]

/-- One character of a text between quotes, and the rest. Control characters must be escaped. -/
def takeChar? : List Char → Option (Char × List Char)
  | '\\' :: 'u' :: rest => do
    let (unit, rest) ← takeUnit? rest
    takeEscaped? unit rest
  | '\\' :: mark :: rest => (shortEscapes.lookup mark).map (·, rest)
  | c :: rest => if 0x20 ≤ c.toNat then some (c, rest) else none
  | [] => none

/-- The characters up to the closing quote, and the rest. There are `fuel` of them at most. -/
def takeText? : Nat → List Char → Option (List Char × List Char)
  | _, '"' :: rest => some ([], rest)
  | 0, _ => none
  | fuel + 1, cs => do
    let (c, rest) ← takeChar? cs
    let (others, rest) ← takeText? fuel rest
    return (c :: others, rest)

/-- Whether there is a minus sign, and the text behind it. -/
def takeMinus : List Char → Bool × List Char
  | '-' :: rest => (true, rest)
  | rest => (false, rest)

/-- A character of a number. -/
def isNumberChar (c : Char) : Bool := c.isDigit || ['-', '+', '.', 'e', 'E'].contains c

/-- The number that characters denote: a whole one, or the floating-point number nearest to one with
    a point or a power of ten. -/
def number? (cs : List Char) : Option Json :=
  let (negative, rest) := takeMinus cs
  let (whole, fraction, power) := Decimal.takeDigits rest
  if Nat.toDigits 10 (digitsValue whole) ≠ whole ∨ fraction = [] ∧ rest ≠ whole ++ power then none
  else if rest = whole then
    some (int (if negative then -(digitsValue whole : Int) else digitsValue whole))
  else
    (Decimal.exponentOf? power).map fun exponent =>
      float (Binary64.ofDecimal
        ⟨negative, digitsValue (whole ++ fraction), exponent - fraction.length⟩)

/-- A number, and the rest. -/
def takeNumber? (cs : List Char) : Option (Json × List Char) :=
  (number? (cs.takeWhile isNumberChar)).map (·, cs.dropWhile isNumberChar)

/-- A blank between the parts of a text. -/
def isBlank (c : Char) : Bool := c == ' ' || c == '\n' || c == '\r' || c == '\t'

/-- The text behind its leading blanks. -/
def skip (cs : List Char) : List Char := cs.dropWhile isBlank

section Group

variable {α : Type} (one? : List Char → Option (α × List Char)) (close : Char)

/-- The members of a group behind the first one, each with a comma in front, and what follows the
    closing mark. There are fewer than `fuel` of them. -/
def takeMembers? : Nat → List Char → Option (List α × List Char)
  | 0, _ => none
  | fuel + 1, cs =>
    match skip cs with
    | [] => none
    | c :: rest =>
      if c = close then some ([], rest)
      else if c = ',' then do
        let (member, rest) ← one? rest
        let (members, rest) ← takeMembers? fuel rest
        return (member :: members, rest)
      else none

/-- All members of a group, and what follows the closing mark. -/
def takeGroup? (fuel : Nat) (cs : List Char) : Option (List α × List Char) :=
  match skip cs with
  | [] => none
  | c :: rest =>
    if c = close then some ([], rest)
    else do
      let (member, rest) ← one? (c :: rest)
      let (members, rest) ← takeMembers? one? close fuel rest
      return (member :: members, rest)

end Group

/-- A name with its value, and the rest. -/
def takeField? (value? : List Char → Option (Json × List Char)) (fuel : Nat) (cs : List Char) :
    Option ((String × Json) × List Char) :=
  match skip cs with
  | '"' :: rest => do
    let (name, rest) ← takeText? fuel rest
    match skip rest with
    | ':' :: rest => do
      let (item, rest) ← value? rest
      return ((String.ofList name, item), rest)
    | _ => none
  | _ => none

/-- A value that is neither a text nor a group, and the rest. -/
def takeAtom? : List Char → Option (Json × List Char)
  | 'n' :: 'u' :: 'l' :: 'l' :: rest => some (null, rest)
  | 't' :: 'r' :: 'u' :: 'e' :: rest => some (bool true, rest)
  | 'f' :: 'a' :: 'l' :: 's' :: 'e' :: rest => some (bool false, rest)
  | cs => takeNumber? cs

/-- A value, and the rest. Values are nested less than `fuel` deep. -/
def takeValue? : Nat → List Char → Option (Json × List Char)
  | 0, _ => none
  | fuel + 1, cs =>
    match skip cs with
    | '"' :: rest => (takeText? fuel rest).map fun (s, rest) => (text (String.ofList s), rest)
    | '[' :: rest =>
      (takeGroup? (takeValue? fuel) ']' fuel rest).map fun (items, rest) => (array items, rest)
    | '\x7b' :: rest =>
      (takeGroup? (takeField? (takeValue? fuel) fuel) '\x7d' fuel rest).map fun (fields, rest) =>
        (object fields, rest)
    | cs => takeAtom? cs

/-- The value that a text denotes; blanks may stand around it. -/
def ofText? (s : String) : Option Json := do
  let cs := s.toList
  let (value, rest) ← takeValue? (cs.length + 1) cs
  if skip rest = [] then some value else none

/-! ## Characters -/

theorem hexValue?_digitChar : ∀ d < 16, hexValue? (Nat.digitChar d) = some d := by decide

/-- The last hexadecimal digit and those in front of it. -/
theorem hexDigits_succ {width : Nat} (h : 0 < width) (n : Nat) :
    Text.hexDigits (width + 1) n = Text.hexDigits width (n / 16) ++ [Nat.digitChar (n % 16)] := by
  unfold Text.hexDigits
  by_cases small : n < 16
  · obtain ⟨w, rfl⟩ : ∃ w, width = w + 1 := ⟨width - 1, by omega⟩
    rw [Nat.toDigits_of_lt_base small, Nat.div_eq_of_lt small, Nat.mod_eq_of_lt small,
      Nat.toDigits_zero]
    simp [List.replicate_succ']
  · rw [Nat.toDigits_of_base_le (by decide) (by omega)]
    simp

theorem hexDigits_four {n : Nat} (h : n < 0x10000) :
    Text.hexDigits 4 n = [Nat.digitChar (n / 16 / 16 / 16), Nat.digitChar (n / 16 / 16 % 16),
      Nat.digitChar (n / 16 % 16), Nat.digitChar (n % 16)] := by
  have one : Text.hexDigits 1 (n / 16 / 16 / 16) = [Nat.digitChar (n / 16 / 16 / 16)] := by
    rw [Text.hexDigits, Nat.toDigits_of_lt_base (by omega)]
    rfl
  rw [hexDigits_succ (by decide), hexDigits_succ (by decide), hexDigits_succ (by decide), one]
  rfl

theorem takeUnit?_hexDigits {n : Nat} (h : n < 0x10000) (rest : List Char) :
    takeUnit? (Text.hexDigits 4 n ++ rest) = some (n, rest) := by
  have digit {d : Nat} (hd : d < 16) : hexValue? (Nat.digitChar d) = some d :=
    hexValue?_digitChar d hd
  have lead : n / 16 / 16 / 16 < 16 := by omega
  rw [hexDigits_four h]
  simp only [List.cons_append, List.nil_append, takeUnit?, digit lead,
    digit (Nat.mod_lt _ (by decide : 0 < 16)), Option.bind_eq_bind, Option.bind_some,
    Option.pure_def, Option.some.injEq, Prod.mk.injEq, and_true]
  omega

/-- A code point is a code unit, or it is beyond the basic plane; the halves are neither. -/
theorem code_cases (c : Char) :
    c.toNat < 0xd800 ∨ 0xe000 ≤ c.toNat ∧ c.toNat < 0x10000 ∨
      0x10000 ≤ c.toNat ∧ c.toNat < 0x110000 := by
  have valid := c.valid
  rw [UInt32.isValidChar, Nat.isValidChar] at valid
  have : c.toNat = c.val.toNat := rfl
  omega

theorem takeChar?_unitEscape {unit : Nat} (h : unit < 0x10000) (rest : List Char) :
    takeChar? (unitEscape unit ++ rest) = takeEscaped? unit rest := by
  rw [unitEscape, List.cons_append, List.cons_append, takeChar?, takeUnit?_hexDigits h]
  rfl

theorem takeEscaped?_unit {unit : Nat} (h : unit < 0xd800 ∨ 0xe000 ≤ unit) (rest : List Char) :
    takeEscaped? unit rest = some (Char.ofNat unit, rest) := by
  unfold takeEscaped?
  exact if_pos h

theorem takeEscaped?_halves {first second : Nat} (hf : 0xd800 ≤ first ∧ first < 0xdc00)
    (hs : 0xdc00 ≤ second ∧ second < 0xe000) (rest : List Char) :
    takeEscaped? first (unitEscape second ++ rest) =
      some (Char.ofNat (0x10000 + (first - 0xd800) * 0x400 + (second - 0xdc00)), rest) := by
  have half : ¬(first < 0xd800 ∨ 0xe000 ≤ first) := by omega
  unfold takeEscaped?
  rw [if_neg half, if_pos hf.2]
  simp only [unitEscape, List.cons_append, takeUnit?_hexDigits (show second < 0x10000 by omega),
    Option.bind_eq_bind, Option.bind_some, if_pos hs, Option.pure_def]

theorem takeChar?_short {mark c : Char} (h : (mark, c) ∈ shortEscapes) (rest : List Char) :
    takeChar? ('\\' :: mark :: rest) = some (c, rest) := by
  simp only [shortEscapes, List.mem_cons, Prod.mk.injEq, List.not_mem_nil, or_false] at h
  rcases h with ⟨rfl, rfl⟩ | ⟨rfl, rfl⟩ | ⟨rfl, rfl⟩ | ⟨rfl, rfl⟩ | ⟨rfl, rfl⟩ | ⟨rfl, rfl⟩ |
    ⟨rfl, rfl⟩ | ⟨rfl, rfl⟩ <;> rfl

theorem takeChar?_of_ne {c : Char} (h : c ≠ '\\') (shown : 0x20 ≤ c.toNat) (rest : List Char) :
    takeChar? (c :: rest) = some (c, rest) := by
  unfold takeChar?
  split
  · next escape => cases escape; exact (h rfl).elim
  · next escape => cases escape; exact (h rfl).elim
  · next same => cases same; exact if_pos shown
  · next same => cases same

/-- A visible ASCII character or a blank. -/
def IsShown (c : Char) : Prop := 0x20 ≤ c.toNat ∧ c.toNat < 0x7f

instance (c : Char) : Decidable (IsShown c) := inferInstanceAs (Decidable (_ ∧ _))

/-- A character is escaped by a letter or by itself, it stands for itself, or its code units are
    written. -/
theorem escapeChar_cases (c : Char) :
    (∃ mark, (mark, c) ∈ shortEscapes ∧ escapeChar c = ['\\', mark]) ∨
    (IsShown c ∧ c ≠ '"' ∧ c ≠ '\\' ∧ escapeChar c = [c]) ∨
    (c.toNat < 0x10000 ∧ escapeChar c = unitEscape c.toNat) ∨
    (0x10000 ≤ c.toNat ∧ escapeChar c = unitEscape (0xd800 + (c.toNat - 0x10000) / 0x400) ++
      unitEscape (0xdc00 + (c.toNat - 0x10000) % 0x400)) := by
  by_cases quote : c = '"'
  · exact Or.inl ⟨'"', by rw [quote]; decide, if_pos quote⟩
  by_cases backslash : c = '\\'
  · exact Or.inl ⟨'\\', by rw [backslash]; decide, by rw [backslash]; rfl⟩
  by_cases feed : c = '\n'
  · exact Or.inl ⟨'n', by rw [feed]; decide, by rw [feed]; rfl⟩
  by_cases ret : c = '\r'
  · exact Or.inl ⟨'r', by rw [ret]; decide, by rw [ret]; rfl⟩
  by_cases tab : c = '\t'
  · exact Or.inl ⟨'t', by rw [tab]; decide, by rw [tab]; rfl⟩
  by_cases form : c = '\x0c'
  · exact Or.inl ⟨'f', by rw [form]; decide, by rw [form]; rfl⟩
  by_cases back : c = '\x08'
  · exact Or.inl ⟨'b', by rw [back]; decide, by rw [back]; rfl⟩
  rw [escapeChar, if_neg quote, if_neg backslash, if_neg feed, if_neg ret, if_neg tab, if_neg form,
    if_neg back]
  by_cases shown : 0x20 ≤ c.toNat ∧ c.toNat < 0x7f
  · exact Or.inr (Or.inl ⟨shown, quote, backslash, if_pos shown⟩)
  rw [if_neg shown]
  by_cases basic : c.toNat < 0x10000
  · exact Or.inr (Or.inr (Or.inl ⟨basic, if_pos basic⟩))
  · exact Or.inr (Or.inr (Or.inr ⟨Nat.le_of_not_lt basic, if_neg basic⟩))

theorem takeChar?_escapeChar (c : Char) (rest : List Char) :
    takeChar? (escapeChar c ++ rest) = some (c, rest) := by
  rcases escapeChar_cases c with ⟨mark, short, text⟩ | ⟨shown, -, backslash, text⟩ |
    ⟨basic, text⟩ | ⟨above, text⟩
  · rw [text]
    exact takeChar?_short short rest
  · rw [text]
    exact takeChar?_of_ne backslash shown.1 rest
  · have unit : c.toNat < 0xd800 ∨ 0xe000 ≤ c.toNat := by
      rcases code_cases c with h | h | h <;> omega
    rw [text, takeChar?_unitEscape basic, takeEscaped?_unit unit, Char.ofNat_toNat]
  · have below : c.toNat < 0x110000 := by rcases code_cases c with h | h | h <;> omega
    have sum : 0x10000 + (0xd800 + (c.toNat - 0x10000) / 0x400 - 0xd800) * 0x400 +
        (0xdc00 + (c.toNat - 0x10000) % 0x400 - 0xdc00) = c.toNat := by omega
    rw [text, List.append_assoc, takeChar?_unitEscape (by omega),
      takeEscaped?_halves (by omega) (by omega), sum, Char.ofNat_toNat]

/-! ## Texts -/

/-- What is written for a character is not empty, and it does not start with the closing quote. -/
theorem exists_escapeChar (c : Char) : ∃ d ds, escapeChar c = d :: ds ∧ d ≠ '"' := by
  rcases escapeChar_cases c with ⟨mark, -, text⟩ | ⟨-, quote, -, text⟩ | ⟨-, text⟩ | ⟨-, text⟩
  · exact ⟨_, _, text, by decide⟩
  · exact ⟨c, [], text, quote⟩
  · exact ⟨_, _, text, by decide⟩
  · exact ⟨_, _, text, by decide⟩

theorem takeText?_escaped {cs : List Char} {fuel : Nat} (enough : cs.length ≤ fuel)
    (rest : List Char) :
    takeText? fuel (cs.flatMap escapeChar ++ '"' :: rest) = some (cs, rest) := by
  induction cs generalizing fuel with
  | nil => cases fuel <;> rfl
  | cons c cs ih =>
    obtain ⟨fuel, rfl⟩ : ∃ n, fuel = n + 1 := ⟨fuel - 1, by rw [List.length_cons] at enough; omega⟩
    rw [List.flatMap_cons, List.append_assoc, takeText?]
    · rw [takeChar?_escapeChar]
      simp only [Option.bind_eq_bind, Option.bind_some,
        ih (Nat.le_of_succ_le_succ enough), Option.pure_def]
    · intro tail closed
      obtain ⟨d, ds, hd, other⟩ := exists_escapeChar c
      rw [hd, List.cons_append] at closed
      exact other (List.cons.inj closed).1

theorem length_le_length_escaped (cs : List Char) :
    cs.length ≤ (cs.flatMap escapeChar).length := by
  induction cs with
  | nil => exact Nat.le_refl _
  | cons c cs ih =>
    obtain ⟨d, ds, hd, -⟩ := exists_escapeChar c
    rw [List.flatMap_cons, List.length_append, List.length_cons, hd, List.length_cons]
    omega

/-- A text between quotes, behind its opening quote. -/
theorem takeText?_quoted {s : String} {fuel : Nat} (enough : (quoted s).length ≤ fuel + 2)
    (rest : List Char) :
    takeText? fuel (s.toList.flatMap escapeChar ++ '"' :: rest) = some (s.toList, rest) := by
  have count := length_le_length_escaped s.toList
  rw [quoted, List.cons_append, List.length_cons, List.length_append,
    List.length_singleton] at enough
  exact takeText?_escaped (by omega) rest

/-! ## Blanks -/

theorem isBlank_of_mem_lineBreak (layout : Layout) (depth : Nat) {c : Char}
    (h : c ∈ layout.lineBreak depth) : isBlank c = true := by
  cases layout with
  | none => cases h
  | some width =>
    rcases List.mem_cons.mp h with rfl | blank
    · rfl
    · rw [(List.mem_replicate.mp blank).2]
      rfl

theorem skip_cons {c : Char} (h : isBlank c = false) (rest : List Char) :
    skip (c :: rest) = c :: rest := by
  rw [skip, List.dropWhile_cons_of_neg (by rw [h]; exact Bool.false_ne_true)]

theorem skip_append {blanks : List Char} (h : ∀ c ∈ blanks, isBlank c = true) (rest : List Char) :
    skip (blanks ++ rest) = skip rest :=
  List.dropWhile_append_of_pos h

/-- What separates two items is a comma and blanks. -/
theorem exists_separator (layout : Layout) (depth : Nat) :
    ∃ blanks, layout.separator depth = ',' :: blanks ∧ ∀ c ∈ blanks, isBlank c = true := by
  cases layout with
  | none => exact ⟨[' '], rfl, forall_mem_of_all (by decide)⟩
  | some width => exact ⟨_, rfl, fun _ => isBlank_of_mem_lineBreak (some width) depth⟩

end TermSheet.Json
