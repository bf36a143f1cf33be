import TermSheet.Binary64.Shortest
import TermSheet.Text.Extent
import TermSheet.Text.Quoted

/-!
# JSON texts

A JSON value and its text. The text is ASCII: every other character is escaped, those beyond the
basic plane as two halves. It stands on one line, or with a line for each item, indented by its
depth.
-/

namespace TermSheet

/-- A JSON value. The fields of an object keep their order. -/
inductive Json
  | null
  | bool (b : Bool)
  | int (i : Int)
  | float (x : Binary64)
  | text (s : String)
  | array (items : List Json)
  | object (fields : List (String × Json))
  deriving Inhabited

namespace Json

/-! ## Texts -/

/-- A code unit of sixteen bits as an escape. -/
def unitEscape (unit : Nat) : List Char := '\\' :: 'u' :: Text.hexDigits 4 unit

/-- One character of a text. -/
def escapeChar (c : Char) : List Char :=
  if c = '"' then ['\\', '"']
  else if c = '\\' then ['\\', '\\']
  else if c = '\n' then ['\\', 'n']
  else if c = '\r' then ['\\', 'r']
  else if c = '\t' then ['\\', 't']
  else if c = '\x0c' then ['\\', 'f']
  else if c = '\x08' then ['\\', 'b']
  else if 0x20 ≤ c.toNat ∧ c.toNat < 0x7f then [c]
  else if c.toNat < 0x10000 then unitEscape c.toNat
  else
    let above := c.toNat - 0x10000
    unitEscape (0xd800 + above / 0x400) ++ unitEscape (0xdc00 + above % 0x400)

/-- A text between double quotes. -/
def quoted (s : String) : List Char := '"' :: s.toList.flatMap escapeChar ++ ['"']

/-- A floating-point number. The values that are not finite have names of their own. -/
def floatText : Binary64 → String
  | .nan => "NaN"
  | .infinite negative => if negative then "-Infinity" else "Infinity"
  | x => x.text

/-- A whole number. -/
def intChars (i : Int) : List Char :=
  (if i < 0 then ['-'] else []) ++ Nat.toDigits 10 i.natAbs

/-! ## Layout -/

/-- How a text is laid out: on one line, or with each item on a line of its own, indented by so
    many blanks for each level. -/
abbrev Layout := Option Nat

/-- Why a layout cannot be written. -/
inductive LayoutFault
  /-- The blanks of a level cannot be counted by a machine. -/
  | beyondCount
  /-- The blanks of a level do not fit into memory. -/
  | beyondMemory
  deriving DecidableEq

/-- The wording of a fault. For want of memory there is none. -/
def LayoutFault.message : LayoutFault → String
  | beyondCount => "cannot fit 'int' into an index-sized integer"
  | beyondMemory => ""

namespace Layout

/-- Why a layout cannot be written, if it cannot. -/
def fault? (layout : Layout) : Option LayoutFault :=
  let width := layout.getD 0
  if Nat.pow 2 63 ≤ width then some .beyondCount
  else if Text.noRoom ≤ width then some .beyondMemory
  else none

/-- What stands in front of an item at a depth. -/
def lineBreak (layout : Layout) (depth : Nat) : List Char :=
  match layout with
  | none => []
  | some width => '\n' :: List.replicate (width * depth) ' '

/-- What stands between two items at a depth. -/
def separator (layout : Layout) (depth : Nat) : List Char :=
  match layout with
  | none => [',', ' ']
  | some _ => ',' :: lineBreak layout depth

end Layout

mutual

/-- The text of a value at a depth, as characters. -/
def chars (layout : Layout) (depth : Nat) : Json → List Char
  | null => "null".toList
  | bool b => if b then "true".toList else "false".toList
  | int i => intChars i
  | float x => (floatText x).toList
  | text s => quoted s
  | array [] => ['[', ']']
  | array (item :: items) =>
    '[' :: layout.lineBreak (depth + 1) ++ chars layout (depth + 1) item ++
      itemChars layout (depth + 1) items ++ layout.lineBreak depth ++ [']']
  | object [] => ['\x7b', '\x7d']
  | object ((key, item) :: fields) =>
    '\x7b' :: layout.lineBreak (depth + 1) ++ quoted key ++ ':' :: ' ' ::
      chars layout (depth + 1) item ++ fieldChars layout (depth + 1) fields ++
      layout.lineBreak depth ++ ['\x7d']

/-- The items of an array behind the first one, each with its separator. -/
def itemChars (layout : Layout) (depth : Nat) : List Json → List Char
  | [] => []
  | item :: items =>
    layout.separator depth ++ chars layout depth item ++ itemChars layout depth items

/-- The fields of an object behind the first one, each with its separator. -/
def fieldChars (layout : Layout) (depth : Nat) : List (String × Json) → List Char
  | [] => []
  | (key, item) :: fields =>
    layout.separator depth ++ quoted key ++ ':' :: ' ' :: chars layout depth item ++
      fieldChars layout depth fields

end

/-- The text of a value (`json.dumps`). -/
def render (layout : Layout) (json : Json) : String := String.ofList (chars layout 0 json)

end Json

end TermSheet
