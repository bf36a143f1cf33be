import TermSheet.Numeral

/-!
# Binary floating-point numbers

A number with a 53-bit significand and an 11-bit exponent, held exactly: its value is
`± significand · 2 ^ exponent`. Rounding is to nearest, half to even.
-/

namespace TermSheet

namespace Binary64

/-- The exponent of the smallest numbers. -/
def leastExponent : Int := -1074

/-- The exponent of the largest numbers. -/
def greatestExponent : Int := 971

/-- A significand of at most 53 bits with an exponent in the range, which is the smallest one that
    the significand allows. -/
def Fits (significand : Nat) (exponent : Int) : Prop :=
  significand < Nat.pow 2 53 ∧ leastExponent ≤ exponent ∧ exponent ≤ greatestExponent ∧
    (exponent = leastExponent ∨ Nat.pow 2 52 ≤ significand)

instance (significand : Nat) (exponent : Int) : Decidable (Fits significand exponent) :=
  inferInstanceAs (Decidable (_ ∧ _))

theorem fits_zero : Fits 0 leastExponent := by decide

end Binary64

/-- A binary floating-point number. A finite one has the smallest exponent that its significand
    allows, so equal numbers of one sign have one representation. -/
inductive Binary64
  | nan
  | infinite (negative : Bool)
  | finite (negative : Bool) (significand : Nat) (exponent : Int)
    (fits : Binary64.Fits significand exponent)
  deriving DecidableEq, Inhabited

namespace Binary64

/-- Zero of either sign. -/
def zero (negative : Bool) : Binary64 := finite negative 0 leastExponent fits_zero

/-- The quotient of two natural numbers, rounded to nearest, half to even. -/
def roundQuotient (num den : Nat) : Nat :=
  let quotient := num / den
  let twice := 2 * (num % den)
  if twice < den ∨ (twice = den ∧ quotient % 2 = 0) then quotient else quotient + 1

/-- The quotient `num / (den · 2 ^ exponent)` as a pair of natural numbers. -/
def scaleDown (num den : Nat) (exponent : Int) : Nat × Nat :=
  (num * Nat.pow 2 (-exponent).toNat, den * Nat.pow 2 exponent.toNat)

/-- The least exponent with which `num / den` takes at most 53 bits in front of the point. -/
def exponentFor (num den : Nat) : Int :=
  let guess : Int := (num.log2 : Int) - den.log2 - 53
  let (scaledNum, scaledDen) := scaleDown num den guess
  max leastExponent (if scaledNum / scaledDen < Nat.pow 2 53 then guess else guess + 1)

/-- The significand and the exponent of the number nearest to `num / den`. Rounding up may take one
    more bit. -/
def rounded (num den : Nat) : Nat × Int :=
  let exponent := exponentFor num den
  let (scaledNum, scaledDen) := scaleDown num den exponent
  let significand := roundQuotient scaledNum scaledDen
  if significand = Nat.pow 2 53 then (Nat.pow 2 52, exponent + 1) else (significand, exponent)

/-- The floating-point number nearest to `± num / den`. What is beyond the range is infinite. -/
def ofRatio (negative : Bool) (num den : Nat) : Binary64 :=
  if num = 0 then zero negative
  else
    let (significand, exponent) := rounded num den
    if fits : Fits significand exponent then finite negative significand exponent fits
    else infinite negative

/-- The floating-point number nearest to a decimal number. Numbers beyond the range are settled by
    the place of their leading digit alone. -/
def ofDecimal (d : Decimal) : Binary64 :=
  if d.coefficient = 0 ∨ d.adjusted < -400 then zero d.negative
  else if 400 < d.adjusted then infinite d.negative
  else
    ofRatio d.negative (d.coefficient * Nat.pow 10 d.exponent.toNat)
      (Nat.pow 10 (-d.exponent).toNat)

/-- Whether every underscore stands between two digits. -/
def separatesDigits (cs : List Char) : Bool :=
  go false cs
where
  /-- The same for what follows a digit or something else. -/
  go (behindDigit : Bool) : List Char → Bool
    | [] => true
    | '_' :: rest => behindDigit && rest.head?.any Char.isDigit && go false rest
    | c :: rest => go c.isDigit rest

/-- The floating-point number with a name, in lower case. -/
def ofName? (negative : Bool) (name : List Char) : Option Binary64 :=
  if name = "inf".toList ∨ name = "infinity".toList then some (infinite negative)
  else if name = "nan".toList then some nan
  else none

/-- The floating-point number nearest to a number in a written form, or with a name. There may be
    blanks around it, and underscores between digits. -/
def ofText? (text : String) : Option Binary64 := do
  let cs ← toPlainDigits? text
  let (negative, name) := Decimal.takeSign cs
  if separatesDigits cs then
    (ofName? negative (name.map Char.toLower)).or
      ((Decimal.ofChars? (cs.filter (· != '_'))).map ofDecimal)
  else none

/-- The value as a ratio of natural numbers, without its sign. -/
def magnitude (significand : Nat) (exponent : Int) : Nat × Nat :=
  (significand * Nat.pow 2 exponent.toNat, Nat.pow 2 (-exponent).toNat)

/-- The exact decimal value of a finite number. -/
def toNumeral : Binary64 → Numeral
  | nan => .nan false false 0
  | infinite negative => .infinite negative
  | finite negative significand exponent _ =>
    let halvings := (-exponent).toNat
    .finite
      ⟨negative, significand * Nat.pow 2 exponent.toNat * Nat.pow 5 halvings, -(halvings : Int)⟩

/-- The number nearest to a sum of two finite numbers. -/
def add : Binary64 → Binary64 → Binary64
  | finite aNeg aSig aExp _, finite bNeg bSig bExp _ =>
    let low := min aExp bExp
    let signed (negative : Bool) (significand : Nat) (exponent : Int) : Int :=
      let units : Int := significand * Nat.pow 2 (exponent - low).toNat
      if negative then -units else units
    let sum := signed aNeg aSig aExp + signed bNeg bSig bExp
    if sum = 0 then zero (aNeg && bNeg)
    else
      let (num, den) := magnitude sum.natAbs low
      ofRatio (sum < 0) num den
  | nan, _ | _, nan => nan
  | infinite a, infinite b => if a == b then infinite a else nan
  | infinite a, _ => infinite a
  | _, infinite b => infinite b

/-- The number nearest to a product with a positive natural number. -/
def mulNat (x : Binary64) (factor : Nat) : Binary64 :=
  match x with
  | finite negative significand exponent _ =>
    let (num, den) := magnitude significand exponent
    ofRatio negative (num * factor) den
  | other => other

/-- The number with the other sign. -/
def neg : Binary64 → Binary64
  | nan => nan
  | infinite negative => infinite !negative
  | finite negative significand exponent fits => finite (!negative) significand exponent fits

end Binary64

end TermSheet
