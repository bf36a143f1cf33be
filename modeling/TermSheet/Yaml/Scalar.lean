import TermSheet.Value.Basic
import TermSheet.Yaml.Character
import TermSheet.Yaml.Fault

/-!
# The values of plain scalars

A plain scalar stands for nothing, for a truth value, a number, a day or a moment when it has the
form of one, and for its text otherwise. Whole numbers may be written in base two, eight, ten,
sixteen or sixty, real numbers in base ten or sixty, and underscores may stand between digits.
-/

namespace TermSheet.Yaml

namespace Scalar

/-! ## Words -/

/-- The spellings of nothing. -/
def nothingWords : List String := ["", "~", "null", "Null", "NULL"]

/-- The spellings of truth. -/
def trueWords : List String :=
  ["yes", "Yes", "YES", "true", "True", "TRUE", "on", "On", "ON"]

/-- The spellings of falsehood. -/
def falseWords : List String :=
  ["no", "No", "NO", "false", "False", "FALSE", "off", "Off", "OFF"]

/-- The spellings of infinity, behind a sign. -/
def infinityWords : List String := [".inf", ".Inf", ".INF"]

/-- The spellings of what is not a number. -/
def nanWords : List String := [".nan", ".NaN", ".NAN"]

/-! ## Digits -/

/-- The value of a digit of a base up to sixteen. -/
def digitValue (c : Char) : Nat :=
  if c.isDigit then c.toNat - '0'.toNat else c.toLower.toNat - 'a'.toNat + 10

/-- The number that digits of a base denote. -/
def numberIn (base : Nat) (digits : List Char) : Nat :=
  digits.foldl (fun value c => base * value + digitValue c) 0

/-- Characters without the underscores. -/
def compact (cs : List Char) : List Char := cs.filter (· != '_')

/-- Whether characters are digits, as told, and underscores. -/
def areDigits (isDigit : Char → Bool) (cs : List Char) : Bool :=
  cs.all fun c => isDigit c || c == '_'

/-- Whether characters are decimal digits and underscores, and start with a digit as told. -/
def isNumberFrom (isFirst : Char → Bool) (cs : List Char) : Bool :=
  cs.head?.any isFirst && areDigits Char.isDigit cs

/-- The parts between colons. -/
def colonParts (cs : List Char) : List (List Char) :=
  match cs with
  | [] => [[]]
  | c :: rest =>
    match colonParts rest with
    | part :: parts => if c = ':' then [] :: part :: parts else (c :: part) :: parts
    | [] => [[c]]

/-- Whether a part behind a colon is a number below sixty, of one or two digits. -/
def isSixtieth : List Char → Bool
  | [unit] => unit.isDigit
  | [ten, unit] => '0' ≤ ten && ten ≤ '5' && unit.isDigit
  | _ => false

/-! ## Whole numbers -/

/-- A number in base ten, if it does not have too many digits. -/
def decimalNumber (digits : List Char) : Except Misnomer Nat :=
  if 4300 < digits.length then .error (.tooManyDigits digits.length)
  else .ok (numberIn 10 digits)

/-- A number in another base, which must have a digit. -/
def basedNumber (base : Nat) (digits : List Char) : Except Misnomer Nat :=
  if digits = [] then .error (.noDigits base) else .ok (numberIn base digits)

/-- Numbers of which each counts sixty times what the next one counts. -/
def sixties (parts : List Nat) : Nat := parts.foldl (fun value part => 60 * value + part) 0

/-- The whole number that characters without a sign denote, if they have the form of one. -/
def whole? (cs : List Char) : Option (Except Misnomer Nat) :=
  match cs with
  | '0' :: 'b' :: digits =>
    if digits ≠ [] ∧ areDigits (fun c => c == '0' || c == '1') digits then
      some (basedNumber 2 (compact digits))
    else none
  | '0' :: 'x' :: digits =>
    if digits ≠ [] ∧ areDigits isHexDigit digits then some (basedNumber 16 (compact digits))
    else none
  | '0' :: digits =>
    if areDigits (fun c => '0' ≤ c && c ≤ '7') digits then
      some (.ok (numberIn 8 (compact digits)))
    else none
  | cs =>
    match colonParts cs with
    | [digits] =>
      if isNumberFrom isLeading digits then some (decimalNumber (compact digits)) else none
    | first :: others =>
      if isNumberFrom isLeading first && others.all isSixtieth then
        some ((decimalNumber (compact first)).map fun n => sixties (n :: others.map (numberIn 10)))
      else none
    | [] => none
where
  /-- A digit of base sixteen. -/
  isHexDigit (c : Char) : Bool :=
    c.isDigit || ('a' ≤ c && c ≤ 'f') || ('A' ≤ c && c ≤ 'F')
  /-- A digit that is not zero. -/
  isLeading (c : Char) : Bool := '1' ≤ c && c ≤ '9'

/-- The whole number that characters denote, if they have the form of one. -/
def int? (cs : List Char) : Option (Except Misnomer Value) :=
  let (negative, rest) := Decimal.takeSign cs
  (whole? rest).map fun number =>
    number.map fun n => .int (if negative then -(n : Int) else n)

/-! ## Real numbers -/

/-- Whether characters are nothing, or a power of ten with its sign. -/
def isPower : List Char → Bool
  | [] => true
  | mark :: sign :: digits =>
    (mark == 'e' || mark == 'E') && (sign == '+' || sign == '-') && digits != [] &&
      digits.all Char.isDigit
  | _ => false

/-- Whether characters are a number in base ten with a point. The digits in front of the point may
    be missing, unless there is a sign. -/
def isPointed (signed : Bool) (cs : List Char) : Bool :=
  let inNumber (c : Char) : Bool := c.isDigit || c == '_'
  match cs.dropWhile inNumber with
  | '.' :: rest =>
    let places := rest.takeWhile inNumber
    let leads := match cs.takeWhile inNumber with
      | [] => !signed && places.head?.any Char.isDigit
      | digit :: _ => digit.isDigit
    leads && isPower (rest.dropWhile inNumber)
  | _ => false

/-- The real number that a text in base ten denotes. -/
def realNumber (cs : List Char) : Binary64 :=
  (Binary64.ofText? (String.ofList (compact cs))).getD .nan

/-- The real number in base sixty that characters without a sign denote, if they have the form of
    one. Only its last part has a point. -/
def sixtiesReal? (cs : List Char) : Option Binary64 :=
  match (colonParts cs).reverse with
  | last :: middle =>
    let lastWhole := last.takeWhile (· != '.')
    match last.dropWhile (· != '.'), middle.reverse with
    | '.' :: places, first :: others =>
      if isNumberFrom Char.isDigit first && others.all isSixtieth && isSixtieth lastWhole &&
          areDigits Char.isDigit places then
        let start := Binary64.zero false
        some ((last :: middle).foldl (fun (value, scale) part =>
          (value.add ((realNumber part).mulNat scale), scale * 60)) (start, 1)).1
      else none
    | _, _ => none
  | [] => none

/-- The real number that characters denote, if they have the form of one. -/
def real? (cs : List Char) : Option Binary64 :=
  let (negative, rest) := Decimal.takeSign cs
  let signed := rest.length != cs.length
  let withSign (x : Binary64) : Binary64 := if negative then x.neg else x
  if infinityWords.contains (String.ofList rest) then some (.infinite negative)
  else if nanWords.contains (String.ofList cs) then some .nan
  else if isPointed signed rest then some (withSign (realNumber rest))
  else (sixtiesReal? rest).map withSign

/-! ## Days and moments -/

/-- The number in the digits at the front of a text, of which there are as many as told, and the
    rest. -/
def takeField (least most : Nat) (cs : List Char) : Option (Nat × List Char) :=
  let digits := cs.takeWhile Char.isDigit
  if least ≤ digits.length ∧ digits.length ≤ most then
    some (digitsValue digits, cs.dropWhile Char.isDigit)
  else none

/-- The same behind a mark. -/
def takeMarked (mark : Char) (least most : Nat) (cs : List Char) : Option (Nat × List Char) :=
  match cs with
  | c :: rest => if c = mark then takeField least most rest else none
  | [] => none

/-- An offset from universal time in microseconds, nothing where the text ends, or no offset. -/
def offset? (cs : List Char) : Option (Option Int) :=
  match cs.dropWhile isBlank with
  | [] => some none
  | ['Z'] => some (some 0)
  | sign :: rest => do
    if sign != '+' && sign != '-' then none
    let (hours, rest) ← takeField 1 2 rest
    let (minutes, rest) ← if rest = [] then some (0, []) else takeMarked ':' 2 2 rest
    if rest != [] then none
    let microseconds : Int := (hours * 60 + minutes) * 60 * DateTime.perSecond
    return some (if sign = '-' then -microseconds else microseconds)

/-- The time of a moment: hour, minute, second, microsecond and offset. -/
def time? (cs : List Char) : Option (Nat × Nat × Nat × Nat × Option Int) := do
  let (hour, rest) ← takeField 1 2 cs
  let (minute, rest) ← takeMarked ':' 2 2 rest
  let (second, rest) ← takeMarked ':' 2 2 rest
  let (places, rest) := match rest with
    | '.' :: rest => (rest.takeWhile Char.isDigit, rest.dropWhile Char.isDigit)
    | rest => ([], rest)
  let micros := (places ++ List.replicate (6 - places.length) '0').take 6
  return (hour, minute, second, digitsValue micros, ← offset? rest)

/-- What stands between the day and the time of a moment is dropped. -/
def behindDay? (cs : List Char) : Option (List Char) :=
  match cs with
  | 'T' :: rest | 't' :: rest => some rest
  | c :: rest => if isBlank c then some (rest.dropWhile isBlank) else none
  | [] => none

/-- The moment of a day, in which the offset is looked at first. -/
def moment (year month day hour minute second micros : Nat) (offset : Option Int) :
    Except CalendarFault DateTime := do
  let offset ← offset.mapM DateTime.offset?
  let date ← Date.of? year month day
  DateTime.of? date hour minute second micros offset

/-- The day or moment that characters denote, if they have the form of one. A day alone has two
    digits for its month and two for its day. -/
def timestamp? (cs : List Char) : Option (Except Misnomer Value) := do
  let (year, rest) ← takeField 4 4 cs
  let (month, rest) ← takeMarked '-' 1 2 rest
  let (day, rest) ← takeMarked '-' 1 2 rest
  if rest = [] then
    if cs.length = 10 then
      some (((Date.of? year month day).map Value.date).mapError Misnomer.calendar)
    else none
  else
    let (hour, minute, second, micros, offset) ← time? (← behindDay? rest)
    some (((moment year month day hour minute second micros offset).map
      Value.dateTime).mapError Misnomer.calendar)

/-! ## All forms -/

/-- Plain scalars that have a meaning, but no value. -/
def reservedWords : List String := ["=", "<<"]

/-- The value of a plain scalar. -/
def resolve (text : String) : Except Fault Value :=
  let cs := text.toList
  if nothingWords.contains text then .ok .none
  else if trueWords.contains text then .ok (.bool true)
  else if falseWords.contains text then .ok (.bool false)
  else if reservedWords.contains text then .error (.malformed .reservedScalar)
  else
    match real? cs, (int? cs).or (timestamp? cs) with
    | some x, _ => .ok (.float x)
    | none, some value => value.mapError Fault.misnamed
    | none, none => .ok (.text text)

end Scalar

end TermSheet.Yaml
