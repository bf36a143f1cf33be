import TermSheet.Yaml.Character
import TermSheet.Yaml.Fault

/-!
# Quoted scalars

Between single quotes, a quote is written twice and nothing else is special. Between double quotes,
a backslash starts an escape. A single line end counts as a blank, of more than one the first is
dropped, and blanks around them are dropped.
-/

namespace TermSheet.Yaml

/-- What a letter behind a backslash stands for. -/
def simpleEscapes : List (Char × Char) :=
  [('0', '\x00'), ('a', '\x07'), ('b', '\x08'), ('t', '\t'), ('\t', '\t'), ('n', '\n'),
    ('v', '\x0b'), ('f', '\x0c'), ('r', '\r'), ('e', '\x1b'), (' ', ' '), ('"', '"'),
    ('\\', '\\'), ('/', '/'), ('N', '\x85'), ('_', '\xa0'), ('L', '\u2028'), ('P', '\u2029')]

/-- How many hexadecimal digits follow a letter behind a backslash. -/
def escapeWidths : List (Char × Nat) := [('x', 2), ('u', 4), ('U', 8)]

/-- The value of a hexadecimal digit. -/
def hexValue? (c : Char) : Option Nat :=
  let code := c.toNat
  if c.isDigit then some (code - '0'.toNat)
  else if 'a' ≤ c ∧ c ≤ 'f' then some (code - 'a'.toNat + 10)
  else if 'A' ≤ c ∧ c ≤ 'F' then some (code - 'A'.toNat + 10)
  else none

/-- The number that hexadecimal digits denote. -/
def hexNumber? (digits : List Char) : Option Nat :=
  digits.foldlM (fun value c => (hexValue? c).map (16 * value + ·)) 0

/-- The character whose number is written in the first `width` characters, and the rest. -/
def takeCoded (width : Nat) (cs : List Char) : Except Fault (Char × List Char) :=
  let digits := cs.take width
  match if digits.length = width then hexNumber? digits else none with
  | none => .error (.malformed .shortEscape)
  | some code =>
    if code < 0x110000 then .ok (Char.ofNat code, cs.drop width)
    else .error (.misnamed (.character code))

/-- The line ends at the front of a text, with the blanks around them dropped, and the rest. No line
    may start with a document separator. -/
def lineBreaks (lineStart : Bool) : List Char → Except Fault (List Char × List Char)
  | [] => .ok ([], [])
  | c :: rest =>
    if lineStart && startsSeparator (c :: rest) then .error (.malformed .separatorInQuotes)
    else if isBreak c then do
      let (ends, rest) ← lineBreaks true rest
      return (breakChar c :: ends, rest)
    else if isBlank c then lineBreaks false rest
    else .ok ([], c :: rest)

/-- The blanks and line ends at the front of a text as they count inside quotes, and the rest. -/
def quotedGap (cs : List Char) : Except Fault (List Char × List Char) :=
  match cs.dropWhile isBlank with
  | [] => .error (.malformed .unclosedQuote)
  | c :: rest =>
    if isBreak c then do
      let (others, rest) ← lineBreaks true rest
      return (folded c others, rest)
    else .ok (cs.takeWhile isBlank, c :: rest)

/-- What an escape stands for, and the rest. A line end behind a backslash stands for nothing, and
    neither do the blanks that follow it. -/
def escaped : List Char → Except Fault (List Char × List Char)
  | [] => .error (.malformed .unknownEscape)
  | c :: rest =>
    if isBreak c then lineBreaks true rest
    else
      match simpleEscapes.lookup c, escapeWidths.lookup c with
      | some shown, _ => .ok ([shown], rest)
      | none, some width => do
        let (shown, rest) ← takeCoded width rest
        return ([shown], rest)
      | none, none => .error (.malformed .unknownEscape)

/-- The text of a scalar behind its opening quote, and what follows the closing one. The fuel is the
    length of the text at least. -/
def quotedFrom (double : Bool) : Nat → List Char → Except Fault (List Char × List Char)
  | 0, _ | _, [] => .error (.malformed .unclosedQuote)
  | fuel + 1, c :: rest => do
    let closing := if double then '"' else '\''
    if c = closing ∧ (double ∨ rest.head? ≠ some '\'') then return ([], rest)
    let (piece, rest) ←
      if c = closing then pure ([c], rest.drop 1)
      else if double ∧ c = '\\' then escaped rest
      else if endsWord (some c) then quotedGap (c :: rest)
      else pure ([c], rest)
    let (pieces, rest) ← quotedFrom double fuel rest
    return (piece ++ pieces, rest)

/-- The text of a quoted scalar behind its opening quote, and what follows the closing one. -/
def quotedText (double : Bool) (cs : List Char) : Except Fault (List Char × List Char) :=
  quotedFrom double cs.length cs

end TermSheet.Yaml
