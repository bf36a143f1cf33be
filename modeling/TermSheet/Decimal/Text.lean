import TermSheet.Decimal.Basic
import TermSheet.Text.Blank
import TermSheet.Text.Digit

/-!
# The written form of decimal numbers

A number is written with all its digits. It is written in full when its exponent is not positive
and its leading digit is at most six places behind the point, and otherwise with one digit in
front of the point and the power of ten behind an `E`.

The reader takes any spelling: blanks around the number, underscores anywhere in it, digits of
any script, either letter case. It refuses a number whose exponent is too large or too small to be
kept.
-/

namespace TermSheet

/-- The number that a list of ASCII digits denotes. -/
def digitsValue (digits : List Char) : Nat :=
  digits.foldl (fun value c => 10 * value + (c.toNat - '0'.toNat)) 0

namespace Decimal

/-! ## Writing -/

/-- Digits with `places` of them behind the point, filled up with zeros in front. -/
def pointed (digits : List Char) (places : Nat) : List Char :=
  if places = 0 then digits
  else if places < digits.length then
    digits.take (digits.length - places) ++ '.' :: digits.drop (digits.length - places)
  else '0' :: '.' :: List.replicate (places - digits.length) '0' ++ digits

/-- A power of ten with its sign, which is always written. -/
def exponentChars (exponent : Int) : List Char :=
  'E' :: (if exponent < 0 then '-' else '+') :: Nat.toDigits 10 exponent.natAbs

/-- Digits with one in front of the point, and the power of ten. -/
def scientific (digits : List Char) (exponent : Int) : List Char :=
  pointed digits (digits.length - 1) ++ exponentChars exponent

/-- Whether a number is written without a power of ten. -/
def IsPlain (d : Decimal) : Prop := d.exponent ≤ 0 ∧ -6 ≤ d.adjusted

instance (d : Decimal) : Decidable d.IsPlain := inferInstanceAs (Decidable (_ ∧ _))

/-- The written form, as characters. -/
def chars (d : Decimal) : List Char :=
  let digits := Nat.toDigits 10 d.coefficient
  (if d.negative then ['-'] else []) ++
    if d.IsPlain then pointed digits d.exponent.natAbs else scientific digits d.adjusted

/-- The written form. -/
def text (d : Decimal) : String := String.ofList d.chars

/-! ## Reading -/

/-- The range of numbers that can be kept: the last digit is not below the lower bound, the
    leading digit not above the upper one. -/
def Representable (d : Decimal) : Prop :=
  -1999999999999999997 ≤ d.exponent ∧ d.adjusted ≤ 999999999999999999

instance (d : Decimal) : Decidable d.Representable := inferInstanceAs (Decidable (_ ∧ _))

/-- A leading sign, and the text behind it. -/
def takeSign : List Char → Bool × List Char
  | '-' :: rest => (true, rest)
  | '+' :: rest => (false, rest)
  | rest => (false, rest)

/-- The power of ten at the end of a number; it may be missing. -/
def exponentOf? : List Char → Option Int
  | [] => some 0
  | mark :: rest =>
    let (negative, digits) := takeSign rest
    if (mark == 'e' || mark == 'E') && digits != [] && digits.all Char.isDigit then
      some (if negative then -(digitsValue digits : Int) else digitsValue digits)
    else none

/-- The digits in front of the point, the digits behind it, and the rest. -/
def takeDigits (cs : List Char) : List Char × List Char × List Char :=
  let whole := cs.takeWhile Char.isDigit
  match cs.dropWhile Char.isDigit with
  | '.' :: rest => (whole, rest.takeWhile Char.isDigit, rest.dropWhile Char.isDigit)
  | rest => (whole, [], rest)

/-- Reads a number of any size in ASCII: a sign, digits with or without a point, a power of ten. At
    least one digit is needed, and sign and power may be missing. -/
def ofChars? (cs : List Char) : Option Decimal := do
  let (negative, rest) := takeSign cs
  let (whole, fraction, rest) := takeDigits rest
  let exponent ← exponentOf? rest
  if whole ++ fraction = [] then none
  else some ⟨negative, digitsValue (whole ++ fraction), exponent - fraction.length⟩

/-- Reads a number that can be kept. -/
def ofKeptChars? (cs : List Char) : Option Decimal := (ofChars? cs).filter (·.Representable)

end Decimal

/-- A text with digits of any script and blanks around it, brought to ASCII without those blanks. A
    character that is neither ASCII nor a digit makes it no number. -/
def toPlainDigits? (text : String) : Option (List Char) :=
  (Text.trimBlanks text.toList).mapM fun c =>
    if c.toNat < 0x80 then some c else (Text.digitValue? c).map Text.digitChar

end TermSheet
