import TermSheet.Value.Moment

/-!
# Faults of YAML documents

A text may break the rules of the format, or follow them and name a value that does not exist.
-/

namespace TermSheet.Yaml

/-- How a text breaks the rules of the format. -/
inductive Malformation
  /-- A control character, or another one that no document may hold. -/
  | unprintable (c : Char)
  /-- No token starts with the character. -/
  | unexpectedCharacter (c : Char)
  /-- A key that needs a colon behind it has none on its line. -/
  | missingColon
  /-- An item of a block sequence, where none may start. -/
  | misplacedItem
  /-- A marked key, where none may start. -/
  | misplacedKey
  /-- A colon, where no value may start. -/
  | misplacedValue
  | unclosedQuote
  | separatorInQuotes
  | unknownEscape
  | shortEscape
  /-- A token that does not continue what stands before it. -/
  | unexpectedToken
  /-- A second document in a text. -/
  | secondDocument
  /-- A sequence or a mapping as a key. -/
  | collectionAsKey
  /-- A plain scalar with a special meaning that no value has. -/
  | reservedScalar
  deriving DecidableEq

/-- What a document names and does not exist. -/
inductive Misnomer
  /-- A character with a number beyond the last one. -/
  | character (code : Nat)
  /-- A whole number in a base, without digits. -/
  | noDigits (base : Nat)
  /-- A whole number with too many decimal digits. -/
  | tooManyDigits (count : Nat)
  /-- A day or moment that the calendar does not have. -/
  | calendar (fault : CalendarFault)
  deriving DecidableEq

/-- The wording of a fault. -/
def Misnomer.message : Misnomer → String
  | character code =>
    if code < Nat.pow 2 31 then "chr() arg not in range(0x110000)"
    else "Python int too large to convert to C int"
  | noDigits base => "invalid literal for int() with base " ++ toString base ++ ": ''"
  | tooManyDigits count =>
    "Exceeds the limit (4300 digits) for integer string conversion: value has " ++ toString count ++
      " digits; use sys.set_int_max_str_digits() to increase the limit"
  | calendar fault => fault.message ""

/-- Why a text is no document. -/
inductive Fault
  | malformed (cause : Malformation)
  | misnamed (what : Misnomer)
  deriving DecidableEq

end TermSheet.Yaml
