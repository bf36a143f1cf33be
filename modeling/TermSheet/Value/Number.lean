import TermSheet.Decimal.Product
import TermSheet.Value.Equality
import TermSheet.Value.Text

/-!
# Numbers in a field of text

A number can be set into a text as a whole number in one of three bases, or as a real number with a
fixed count of places, with a power of ten, or in whichever of the two is shorter. The field may
have a least width, a sign that is always shown, and zeros in place of blanks.
-/

namespace TermSheet

/-- How a field of text is filled. -/
structure FieldFormat where
  /-- Blanks go behind the text. -/
  leftAligned : Bool := false
  /-- A plus sign stands before positive numbers. -/
  plus : Bool := false
  /-- A blank stands before positive numbers. -/
  blank : Bool := false
  /-- The base or the point is always shown. -/
  alternate : Bool := false
  /-- Zeros stand in place of blanks. -/
  zeros : Bool := false
  width : Nat := 0
  precision : Option Nat := none

namespace FieldFormat

/-- A text filled up with blanks to the width of its field. -/
def fill (f : FieldFormat) (cs : List Char) : List Char :=
  let blanks := List.replicate (f.width - cs.length) ' '
  if f.leftAligned then cs ++ blanks else blanks ++ cs

/-- The sign of a number. -/
def sign (f : FieldFormat) (negative : Bool) : List Char :=
  if negative then ['-'] else if f.plus then ['+'] else if f.blank then [' '] else []

/-- A number in its field: sign and base in front, and zeros behind them where they are asked
    for. -/
def fillNumber (f : FieldFormat) (front digits : List Char) : List Char :=
  if f.zeros && !f.leftAligned then
    front ++ List.replicate (f.width - front.length - digits.length) '0' ++ digits
  else f.fill (front ++ digits)

/-- A whole number in a base, with the mark of the base. -/
def wholeNumber (f : FieldFormat) (base : Nat) (mark : List Char) (i : Int) : List Char :=
  let digits := Nat.toDigits base i.natAbs
  let digits := List.replicate ((f.precision.getD 1) - digits.length) '0' ++ digits
  f.fillNumber (f.sign (i < 0) ++ if f.alternate then mark else []) digits

/-! ## Real numbers -/

/-- A number rounded to a count of places behind the point. -/
def fixedChars (places : Nat) (pointShown : Bool) (d : Decimal) : List Char :=
  let units :=
    if -(places : Int) ≤ d.exponent then d.coefficient * Nat.pow 10 (d.exponent + places).toNat
    else Decimal.roundOff d.coefficient (-d.exponent - places).toNat
  Decimal.pointed (Nat.toDigits 10 units) places ++ if pointShown && places == 0 then ['.'] else []

/-- A number rounded to a count of digits, and the place of its leading digit. -/
def significant (count : Nat) (d : Decimal) : List Char × Int :=
  if d.coefficient = 0 then (List.replicate count '0', 0)
  else
    let width := digitCount d.coefficient
    let digits := Nat.toDigits 10 <|
      if width ≤ count then d.coefficient * Nat.pow 10 (count - width)
      else Decimal.roundOff d.coefficient (width - count)
    if digits.length ≤ count then (digits, d.adjusted) else (digits.take count, d.adjusted + 1)

/-- A power of ten of at least two digits. -/
def powerChars (place : Int) : List Char :=
  let digits := Nat.toDigits 10 place.natAbs
  'e' :: (if place < 0 then '-' else '+') :: List.replicate (2 - digits.length) '0' ++ digits

/-- Digits with one in front of the point, and a power of ten. -/
def powerForm (pointShown : Bool) (digits : List Char) (place : Int) : List Char :=
  Decimal.pointed digits (digits.length - 1) ++
    (if pointShown && digits.length == 1 then ['.'] else []) ++ powerChars place

/-- Digits without the zeros at the end, of which one digit is kept. -/
def trimZeros (digits : List Char) : List Char :=
  match (digits.reverse.dropWhile (· == '0')).reverse with
  | [] => ['0']
  | kept => kept

/-- The shorter of the two forms for a count of digits. -/
def generalChars (count : Nat) (alternate : Bool) (d : Decimal) : List Char :=
  let (digits, place) := significant count d
  if place < -4 ∨ (count : Int) ≤ place then
    powerForm alternate (if alternate then digits else trimZeros digits) place
  else
    let places := ((count : Int) - 1 - place).toNat
    let digits := if alternate then digits else trimZeros digits
    let dropped := count - digits.length
    if places ≤ dropped then
      digits ++ List.replicate (dropped - places) '0' ++ if alternate then ['.'] else []
    else Decimal.pointed digits (places - dropped)

/-- The three forms of a real number. -/
inductive RealForm
  | fixed
  | power
  | general
  deriving DecidableEq

/-- A real number in its field. What is not finite is written by name. -/
def realNumber (f : FieldFormat) (form : RealForm) (capitals : Bool) (x : Binary64) : List Char :=
  let places := f.precision.getD 6
  let capital (cs : List Char) : List Char := if capitals then cs.map Char.toUpper else cs
  match x.toNumeral with
  | .nan _ _ _ => f.fillNumber (f.sign false) (capital ['n', 'a', 'n'])
  | .infinite negative => f.fillNumber (f.sign negative) (capital ['i', 'n', 'f'])
  | .finite d =>
    let body := match form with
      | .fixed => fixedChars places f.alternate d
      | .power =>
        let (digits, place) := significant (places + 1) d
        powerForm f.alternate digits place
      | .general => generalChars (max 1 places) f.alternate d
    f.fillNumber (f.sign d.negative) (capital body)

end FieldFormat

end TermSheet
