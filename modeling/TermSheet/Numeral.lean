import TermSheet.Decimal.Text

/-!
# Numbers that may not be finite

Outside data may name an infinity or a value that is not a number. Such a value carries a sign and
a payload of digits, and it may be signalling.
-/

namespace TermSheet

/-- A decimal number, an infinity, or no number at all. -/
inductive Numeral
  | finite (value : Decimal)
  | infinite (negative : Bool)
  | nan (negative signalling : Bool) (payload : Nat)
  deriving DecidableEq, Inhabited

namespace Numeral

/-- Whether a number is no number and signals when it is used. -/
def isSignalling : Numeral → Bool
  | nan _ signalling _ => signalling
  | _ => false

/-- The written form. -/
def text : Numeral → String
  | finite value => value.text
  | infinite negative => (if negative then "-" else "") ++ "Infinity"
  | nan negative signalling payload =>
    (if negative then "-" else "") ++ (if signalling then "sNaN" else "NaN") ++
      if payload = 0 then "" else toString payload

/-- Reads the name of a value that is not finite, in lower case, behind its sign. -/
def ofName? (negative : Bool) (name : List Char) : Option Numeral :=
  match name with
  | 'i' :: 'n' :: 'f' :: rest =>
    if rest = [] ∨ rest = "inity".toList then some (infinite negative) else none
  | 'n' :: 'a' :: 'n' :: payload => ofPayload? false payload
  | 's' :: 'n' :: 'a' :: 'n' :: payload => ofPayload? true payload
  | _ => none
where
  /-- A payload is any number of digits. -/
  ofPayload? (signalling : Bool) (payload : List Char) : Option Numeral :=
    if payload.all Char.isDigit then some (nan negative signalling (digitsValue payload)) else none

/-- Reads a number, an infinity or the name of a value that is not a number. -/
def ofText? (text : String) : Option Numeral := do
  let cs := (← toPlainDigits? text).filter (· != '_')
  let (negative, name) := Decimal.takeSign cs
  (ofName? negative (name.map Char.toLower)).or ((Decimal.ofKeptChars? cs).map finite)

end Numeral

end TermSheet
