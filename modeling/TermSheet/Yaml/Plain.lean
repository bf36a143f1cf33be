import TermSheet.Yaml.Character

/-!
# Plain scalars

A plain scalar has no quotes. It ends in front of a comment, of a colon at the end of a word and, in
a flow collection, of a mark of that collection. It may go on over several lines, as long as they
are indented more than the collection around it; a single line end counts as a blank, and of more
than one the first is dropped.
-/

namespace TermSheet.Yaml

/-- The characters that no plain scalar starts with unless they stand in front of a word. -/
def indicators : List Char :=
  ['-', '?', ':', ',', '[', ']', '\x7b', '\x7d', '#', '&', '*', '!', '|', '>', '\'', '"', '%', '@',
    '\x60']

/-- The marks of flow collections. -/
def flowMarks : List Char := [',', '[', ']', '\x7b', '\x7d']

/-- Whether a plain scalar starts with a character that has a certain one behind it. -/
def startsPlain (flow : Bool) (c : Char) (next : Option Char) : Bool :=
  (!endsWord (some c) && !indicators.contains c) ||
    (!endsWord next && (c == '-' || (!flow && (c == '?' || c == ':'))))

/-- Whether a run of a plain scalar stops in front of a character that has a certain one behind
    it. -/
def stopsPlain (flow : Bool) (c : Char) (next : Option Char) : Bool :=
  endsWord (some c) || (c == ':' && (endsWord next || (flow && next.any flowMarks.contains))) ||
    (flow && (c == '?' || flowMarks.contains c))

/-- The characters at the front of a text that belong to a plain scalar, and the rest. -/
def plainRun (flow : Bool) : List Char → List Char × List Char
  | [] => ([], [])
  | c :: rest =>
    if stopsPlain flow c rest.head? then ([], c :: rest)
    else
      let (run, rest) := plainRun flow rest
      (c :: run, rest)

/-- What stands between two runs of a plain scalar. -/
structure Gap where
  /-- What it counts as inside the scalar; nothing where the scalar ends. -/
  text : List Char
  /-- The column behind it, when it holds a line end. -/
  column : Option Nat
  rest : List Char

/-- The line ends and leading blanks behind a line end, with the column that is reached. Nothing is
    returned for the line ends when a document separator follows. -/
def gapLines (column : Nat) : List Char → Option (List Char) × Nat × List Char
  | [] => (some [], column, [])
  | c :: rest =>
    if column = 0 ∧ startsSeparator (c :: rest) then (none, column, c :: rest)
    else if c = ' ' then gapLines (column + 1) rest
    else if isBreak c then
      let (ends, column, rest) := gapLines 0 rest
      (ends.map (breakChar c :: ·), column, rest)
    else (some [], column, c :: rest)

/-- The blanks and line ends at the front of a text. -/
def plainGap (cs : List Char) : Gap :=
  let blanks := cs.takeWhile (· == ' ')
  match cs.dropWhile (· == ' ') with
  | [] => ⟨blanks, none, []⟩
  | c :: rest =>
    if isBreak c then
      let (ends, column, rest) := gapLines 0 rest
      ⟨(ends.map (folded c)).getD [], some column, rest⟩
    else ⟨blanks, none, c :: rest⟩

/-- The text of a plain scalar, whether its end is behind a line end, and what follows it. -/
structure PlainScalar where
  text : List Char
  lineEnded : Bool
  rest : List Char

/-- A plain scalar, from behind a gap. The fuel is the length of the text at least. -/
def plainFrom (flow : Bool) (indent : Nat) : Nat → Gap → PlainScalar
  | 0, gap => ⟨[], gap.column.isSome, gap.rest⟩
  | fuel + 1, gap =>
    match plainRun flow gap.rest with
    | ([], _) => ⟨[], gap.column.isSome, gap.rest⟩
    | (run, rest) =>
      let next := plainGap rest
      if next.text = [] ∨ next.rest.head? = some '#' ∨
          (¬ flow ∧ next.column.any (· < indent)) then
        ⟨gap.text ++ run, next.column.isSome, next.rest⟩
      else
        let more := plainFrom flow indent fuel next
        { more with text := gap.text ++ run ++ more.text }

/-- The plain scalar at the front of a text. Its later lines have at least the indentation. -/
def plainScalar (flow : Bool) (indent : Nat) (cs : List Char) : PlainScalar :=
  plainFrom flow indent cs.length ⟨[], none, cs⟩

end TermSheet.Yaml
