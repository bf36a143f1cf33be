/-!
# Characters of YAML documents

Which characters a document may hold, and which of them end a line or a word.
-/

namespace TermSheet.Yaml

/-- Whether a document may hold a character. -/
def isAllowed (c : Char) : Bool :=
  let code := c.toNat
  code == 0x9 || code == 0xa || code == 0xd || (0x20 ≤ code && code ≤ 0x7e) || code == 0x85 ||
    (0xa0 ≤ code && code ≤ 0xfffd) || 0x10000 ≤ code

/-- Line ends of all kinds as line feeds. -/
def unifyBreaks : List Char → List Char
  | '\r' :: '\n' :: rest => '\n' :: unifyBreaks rest
  | '\r' :: rest => '\n' :: unifyBreaks rest
  | c :: rest => c :: unifyBreaks rest
  | [] => []

/-- Whether a character ends a line. -/
def isBreak (c : Char) : Bool := c == '\n' || c == '\x85' || c == '\u2028' || c == '\u2029'

/-- What the end of a line stands for inside a scalar. -/
def breakChar (c : Char) : Char := if c = '\x85' then '\n' else c

/-- What line ends count as: a blank for a single one, and all but the first of several. A line or
    paragraph separator is never dropped. -/
def folded (first : Char) (others : List Char) : List Char :=
  if breakChar first ≠ '\n' then first :: others
  else if others = [] then [' ']
  else others

/-- A blank inside a line. -/
def isBlank (c : Char) : Bool := c == ' ' || c == '\t'

/-- Whether a word ends in front of a character, or at the end of the text. -/
def endsWord : Option Char → Bool
  | none => true
  | some c => isBlank c || isBreak c

/-- Whether a text starts with three of one character and nothing more in that word. -/
def startsTriple (mark : Char) (cs : List Char) : Bool :=
  cs.take 3 == [mark, mark, mark] && endsWord cs[3]?

/-- Whether a line starts with a mark that starts or ends a document. -/
def startsSeparator (cs : List Char) : Bool := startsTriple '-' cs || startsTriple '.' cs

end TermSheet.Yaml
