import TermSheet.Binary64.Shortest
import TermSheet.Calendar.DateTime
import TermSheet.Contract.Settlement

/-!
# Values from outside

Configuration documents, fields of log records and arguments of readers hold values whose type is
known only when they are looked at. `Value` is the type of all of them. Where a contract is
expected, any other value can stand as a foreign leaf.
-/

namespace TermSheet

/-- A value of any type. A mapping keeps the order of its entries; an object of an unrelated type
    is known by the name of its type and an identity number. -/
inductive Value
  | none
  | bool (b : Bool)
  | int (i : Int)
  | float (x : Binary64)
  | text (s : String)
  | bytes (octets : List UInt8)
  | decimal (n : Numeral)
  | date (d : Date)
  | dateTime (t : DateTime)
  | list (items : List Value)
  | tuple (items : List Value)
  | dict (entries : List (Value × Value))
  | amount (a : Amount)
  | currency (c : Currency)
  | direction (d : Direction)
  | payment (p : Payment)
  | contract (c : Contract Value)
  | settlement (s : Settlement Value)
  | object (typeName : String) (identity : Nat)
  deriving Inhabited

namespace Value

/-- A contract as a value. A foreign leaf that stands alone is the value that it holds. -/
def ofContract : Contract Value → Value
  | .foreign leaf => leaf
  | c => .contract c

/-- A value where a contract is expected. -/
def toContract : Value → Contract Value
  | .contract c => c
  | leaf => .foreign leaf

/-- The name of the type of a value, as messages give it. -/
def typeName : Value → String
  | none => "NoneType"
  | bool _ => "bool"
  | int _ => "int"
  | float _ => "float"
  | text _ => "str"
  | bytes _ => "bytes"
  | decimal _ => "Decimal"
  | date _ => "date"
  | dateTime _ => "datetime"
  | list _ => "list"
  | tuple _ => "tuple"
  | dict _ => "dict"
  | amount _ => "Amount"
  | currency _ => "Currency"
  | direction _ => "Direction"
  | payment _ => "Payment"
  | contract c =>
    match c with
    | .zero => "Zero"
    | .one _ => "One"
    | .multiple _ _ => "Multiple"
    | .later _ _ => "Later"
    | .give _ => "Give"
    | .both _ _ => "And"
    | .foreign leaf => leaf.typeName
  | settlement _ => "StepResult"
  | object name _ => name

/-- The name of a type with the module that it comes from, for the types that have one. -/
def qualifiedName : Value → String
  | decimal _ => "decimal.Decimal"
  | date _ => "datetime.date"
  | dateTime _ => "datetime.datetime"
  | v => v.typeName

/-- The characters of a text as texts. -/
def charItems (s : String) : List Value := s.toList.map fun c => text (String.singleton c)

/-- The items of a value that has items: the characters of a text, the bytes of an octet string,
    the keys of a mapping, the payments and the residual of a settlement. -/
def items? : Value → Option (List Value)
  | text s => some (charItems s)
  | currency c => some (charItems c.code)
  | direction d => some (charItems d.word)
  | bytes octets => some (octets.map fun octet => int octet.toNat)
  | list items | tuple items => some items
  | dict entries => some (entries.map (·.1))
  | settlement s => some [tuple (s.payments.map payment), ofContract s.residual]
  | _ => Option.none

/-- Whether a value says nothing: no value, falsehood, zero, or an empty text or collection. -/
def isVacant : Value → Bool
  | none | bool false | text "" | bytes [] | list [] | tuple [] | dict [] => true
  | int i => i == 0
  | float (.finite _ significand _ _) => significand == 0
  | decimal (.finite d) => d.isZero
  | _ => false

end Value

end TermSheet
