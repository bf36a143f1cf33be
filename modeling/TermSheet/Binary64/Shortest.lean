import TermSheet.Binary64.Basic

/-!
# The shortest decimal form of a floating-point number

A floating-point number is written with the fewest digits that read back to it and, among those,
with the digits nearest to it.

Every finite number owns the interval of the real numbers that round to it: half a unit of its
significand to each side, a quarter downwards when the significand is a power of two, both ends
included when the significand is even. The grids of multiples of a power of ten are tried from
coarse to fine. On a grid only the two neighbours of the number can lie in the interval first.
-/

namespace TermSheet.Binary64

/-- The interval of a finite number in quarters of the unit of its significand: the lower end, the
    number itself and the upper end. -/
def quarters (significand : Nat) (exponent : Int) : Nat × Nat × Nat :=
  let narrow := significand = Nat.pow 2 52 ∧ leastExponent < exponent
  (4 * significand - (if narrow then 1 else 2), 4 * significand, 4 * significand + 2)

/-- The numerator of a quarter of the unit of a significand, as a multiple of `10 ^ place`. -/
def quarterNum (exponent place : Int) : Nat :=
  Nat.pow 2 (exponent - 2).toNat * Nat.pow 10 (-place).toNat

/-- The denominator of it. -/
def quarterDen (exponent place : Int) : Nat :=
  Nat.pow 2 (2 - exponent).toNat * Nat.pow 10 place.toNat

/-- Whether a multiple of `10 ^ place` lies in the interval of a number. -/
def isInside (significand : Nat) (exponent place : Int) (c : Nat) : Bool :=
  let (low, _, high) := quarters significand exponent
  let num := quarterNum exponent place
  let den := quarterDen exponent place
  if significand % 2 = 0 then low * num ≤ c * den && c * den ≤ high * num
  else low * num < c * den && c * den < high * num

/-- The multiples of `10 ^ place` next to a number, the nearer one first and of two that are equally
    near the even one. -/
def neighbours (significand : Nat) (exponent place : Int) : List Nat :=
  let (_, mid, _) := quarters significand exponent
  let num := quarterNum exponent place
  let den := quarterDen exponent place
  let below := mid * num / den
  let rest := mid * num % den
  if den < 2 * rest ∨ (den = 2 * rest ∧ below % 2 = 1) then [below + 1, below]
  else [below, below + 1]

/-- The multiple of `10 ^ place` in the interval of a number that is nearest to it, if there is
    one. -/
def onGrid? (significand : Nat) (exponent place : Int) : Option Nat :=
  (neighbours significand exponent place).find? fun c =>
    c != 0 && isInside significand exponent place c

/-- The first grid with a multiple in the interval, among `fuel` grids from `10 ^ place` down. -/
def shortestFrom (significand : Nat) (exponent : Int) : Nat → Int → Decimal
  | 0, _ => ⟨false, significand, 0⟩
  | fuel + 1, place =>
    match onGrid? significand exponent place with
    | some c => ⟨false, c, place⟩
    | none => shortestFrom significand exponent fuel (place - 1)

/-- The shortest decimal number that reads back to a finite positive number. The search starts
    above its leading digit, and seventeen digits always suffice. -/
def shortest (significand : Nat) (exponent : Int) : Decimal :=
  let bits : Int := exponent + significand.log2 + 1
  shortestFrom significand exponent 24 (bits * 30103 / 100000 + 1)

/-- The written form of a finite number: the digits, with a point when the leading digit is from
    four places behind the point to sixteen places in front of it, and otherwise one digit in front
    of the point and a power of ten of at least two digits. A whole number keeps `.0`. -/
def layout (d : Decimal) : List Char :=
  let digits := Nat.toDigits 10 d.coefficient
  let place := d.adjusted
  if -4 ≤ place ∧ place < 16 then
    if 0 ≤ d.exponent then digits ++ List.replicate d.exponent.toNat '0' ++ ['.', '0']
    else Decimal.pointed digits d.exponent.natAbs
  else
    let power := Nat.toDigits 10 place.natAbs
    let power := List.replicate (2 - power.length) '0' ++ power
    Decimal.pointed digits (digits.length - 1) ++
      'e' :: (if place < 0 then '-' else '+') :: power

/-- The written form. -/
def text : Binary64 → String
  | nan => "nan"
  | infinite negative => if negative then "-inf" else "inf"
  | finite negative significand exponent _ =>
    let body := if significand = 0 then "0.0".toList else layout (shortest significand exponent)
    String.ofList (if negative then '-' :: body else body)

end TermSheet.Binary64
