import TermSheet.Yaml.Plain
import TermSheet.Yaml.Quoted
import TermSheet.Yaml.Token

/-!
# From text to tokens

The text is read from left to right with its position, the columns of the open block collections
and the number of open flow collections. A scalar or a flow collection may turn out to be a key when
a colon follows it on its line; its place is kept until then, and the tokens of the key are put in
there.
-/

namespace TermSheet.Yaml

/-! ## Positions -/

/-- A place in a text. -/
structure Position where
  index : Nat := 0
  line : Nat := 0
  column : Nat := 0
  deriving DecidableEq

/-- The place behind a character. A byte order mark has no width. -/
def Position.after (p : Position) (c : Char) : Position :=
  if isBreak c then ⟨p.index + 1, p.line + 1, 0⟩
  else ⟨p.index + 1, p.line, if c = '\ufeff' then p.column else p.column + 1⟩

/-- What is left of a text, and the place where it starts. -/
structure Cursor where
  rest : List Char
  position : Position := {}

/-- The cursor in front of a later part of its text. -/
def Cursor.moveTo (cursor : Cursor) (rest : List Char) : Cursor :=
  let passed := cursor.rest.take (cursor.rest.length - rest.length)
  ⟨rest, passed.foldl Position.after cursor.position⟩

/-! ## States -/

/-- A place where a key may turn out to start. -/
structure PossibleKey where
  /-- The number of tokens in front of it. -/
  place : Nat
  /-- Whether nothing but a key can stand there. -/
  required : Bool
  position : Position

/-- How far a text has been read. -/
structure Scan where
  cursor : Cursor
  tokens : List Token := []
  /-- The number of open flow collections. -/
  depth : Nat := 0
  /-- The columns of the open block collections, the innermost first. -/
  columns : List Nat := []
  keyAllowed : Bool := true
  /-- The possible key of each open flow collection, and that of the block around them. -/
  possibleKeys : List (Nat × PossibleKey) := []

namespace Scan

/-- The column of the scan. -/
def column (s : Scan) : Nat := s.cursor.position.column

/-- Whether the scan is inside a flow collection. -/
def inFlow (s : Scan) : Bool := s.depth != 0

/-- The least column of what belongs to the innermost block collection and not to its frame. -/
def contentColumn (s : Scan) : Nat := (s.columns.head?.map (· + 1)).getD 0

/-- One more token, behind which the text goes on. -/
def emit (s : Scan) (token : Token) (rest : List Char) : Scan :=
  { s with tokens := s.tokens ++ [token], cursor := s.cursor.moveTo rest }

/-! ### Block collections -/

/-- The scan with a block collection at a column, unless that column is not beyond the innermost
    one. The token that starts it comes behind the first `place` tokens. -/
def openBlock (s : Scan) (start : Token) (place column : Nat) : Scan :=
  if s.contentColumn ≤ column then
    { s with columns := column :: s.columns, tokens := s.tokens.insertIdx place start }
  else s

/-- The scan with the block collections beyond a column closed. Inside a flow collection nothing is
    closed. -/
def closeBlocks (s : Scan) (isBeyond : Nat → Bool) : Scan :=
  if s.inFlow then s
  else
    { s with
      columns := s.columns.dropWhile isBeyond
      tokens := s.tokens ++ (s.columns.takeWhile isBeyond).map fun _ => .blockEnd }

/-! ### Possible keys -/

/-- The scan without the possible key of its collection, which must not be a required one. -/
def dropKey (s : Scan) : Except Fault Scan :=
  match s.possibleKeys.lookup s.depth with
  | some ⟨_, true, _⟩ => .error (.malformed .missingColon)
  | _ => .ok { s with possibleKeys := s.possibleKeys.filter (·.1 != s.depth) }

/-- The scan with a possible key at its place, where a key may start. -/
def noteKey (s : Scan) : Except Fault Scan :=
  if s.keyAllowed then do
    let required := !s.inFlow && s.columns.head? == some s.column
    let key : PossibleKey := ⟨s.tokens.length, required, s.cursor.position⟩
    let s ← s.dropKey
    return { s with possibleKeys := (s.depth, key) :: s.possibleKeys }
  else .ok s

/-- Whether a possible key is too far back: on another line, or more than 1024 characters away. -/
def isStale (s : Scan) (key : PossibleKey) : Bool :=
  key.position.line != s.cursor.position.line || 1024 < s.cursor.position.index - key.position.index

/-- The scan without the possible keys that are too far back, none of which may be required. -/
def dropStaleKeys (s : Scan) : Except Fault Scan :=
  let (stale, fresh) := s.possibleKeys.partition fun (_, key) => s.isStale key
  if stale.any fun (_, key) => key.required then .error (.malformed .missingColon)
  else .ok { s with possibleKeys := fresh }

/-! ## Tokens -/

/-- The text behind the blanks, comments and line ends at its front, and whether there was a line
    end. -/
def skipGap (inComment : Bool) : List Char → List Char × Bool
  | [] => ([], false)
  | c :: rest =>
    if isBreak c then ((skipGap false rest).1, true)
    else if inComment || c == ' ' then skipGap inComment rest
    else if c == '#' then skipGap true rest
    else (c :: rest, false)

/-- The scan in front of the next token. Behind a line end a key may start, outside of flow
    collections. -/
def skip (s : Scan) : Scan :=
  let (rest, lineEnded) := skipGap false s.cursor.rest
  { s with
    cursor := s.cursor.moveTo rest
    keyAllowed := s.keyAllowed || (lineEnded && !s.inFlow) }

/-- A mark that starts or ends a document. -/
def documentMark (s : Scan) (token : Token) (rest : List Char) : Except Fault Scan := do
  let s ← (s.closeBlocks fun _ => true).dropKey
  return { s with keyAllowed := false }.emit token rest

/-- A mark that opens a flow collection, which may itself be a key. -/
def flowStart (s : Scan) (token : Token) (rest : List Char) : Except Fault Scan := do
  let s ← s.noteKey
  return { s with depth := s.depth + 1, keyAllowed := true }.emit token rest

/-- A mark that closes a flow collection. -/
def flowEnd (s : Scan) (token : Token) (rest : List Char) : Except Fault Scan := do
  let s ← s.dropKey
  if s.inFlow then
    return { s with depth := s.depth - 1, keyAllowed := false }.emit token rest
  else throw (.malformed .unexpectedToken)

/-- A comma in a flow collection. -/
def flowEntry (s : Scan) (rest : List Char) : Except Fault Scan := do
  let s ← { s with keyAllowed := true }.dropKey
  return s.emit .flowEntry rest

/-- A hyphen in front of an item. -/
def blockEntry (s : Scan) (rest : List Char) : Except Fault Scan := do
  if !s.inFlow && !s.keyAllowed then throw (.malformed .misplacedItem)
  let s := if s.inFlow then s else s.openBlock .blockSequenceStart s.tokens.length s.column
  let s ← { s with keyAllowed := true }.dropKey
  return s.emit .blockEntry rest

/-- A question mark in front of a key. -/
def markedKey (s : Scan) (rest : List Char) : Except Fault Scan := do
  if !s.inFlow && !s.keyAllowed then throw (.malformed .misplacedKey)
  let s := if s.inFlow then s else s.openBlock .blockMappingStart s.tokens.length s.column
  let s ← { s with keyAllowed := !s.inFlow }.dropKey
  return s.emit .key rest

/-- A colon in front of a value. What stands before it is its key, if it can be one. -/
def colon (s : Scan) (rest : List Char) : Except Fault Scan :=
  match s.possibleKeys.lookup s.depth with
  | some key =>
    let s := { s with
      possibleKeys := s.possibleKeys.filter (·.1 != s.depth)
      tokens := s.tokens.insertIdx key.place .key
      keyAllowed := false }
    let s := if s.inFlow then s else s.openBlock .blockMappingStart key.place key.position.column
    .ok (s.emit .value rest)
  | none => do
    if !s.inFlow && !s.keyAllowed then throw (.malformed .misplacedValue)
    let s := if s.inFlow then s else s.openBlock .blockMappingStart s.tokens.length s.column
    let s ← { s with keyAllowed := !s.inFlow }.dropKey
    return s.emit .value rest

/-- A scalar between quotes. -/
def quotedScalar (s : Scan) (double : Bool) (rest : List Char) : Except Fault Scan := do
  let s ← s.noteKey
  let (text, rest) ← quotedText double rest
  return { s with keyAllowed := false }.emit (.scalar (String.ofList text) false) rest

/-- A scalar without quotes. Behind a line end a key may start again. -/
def plain (s : Scan) : Except Fault Scan := do
  let s ← s.noteKey
  let found := plainScalar s.inFlow s.contentColumn s.cursor.rest
  return { s with keyAllowed := found.lineEnded }.emit (.scalar (String.ofList found.text) true)
    found.rest

/-- The scan behind the token that starts with a character. -/
def token (s : Scan) (c : Char) (rest : List Char) : Except Fault Scan :=
  let wordEnds := endsWord rest.head?
  if s.column = 0 ∧ startsTriple '-' (c :: rest) then
    s.documentMark .documentStart (rest.drop 2)
  else if s.column = 0 ∧ startsTriple '.' (c :: rest) then
    s.documentMark .documentEnd (rest.drop 2)
  else if c = '[' then s.flowStart .flowSequenceStart rest
  else if c = '\x7b' then s.flowStart .flowMappingStart rest
  else if c = ']' then s.flowEnd .flowSequenceEnd rest
  else if c = '\x7d' then s.flowEnd .flowMappingEnd rest
  else if c = ',' then s.flowEntry rest
  else if c = '-' ∧ wordEnds then s.blockEntry rest
  else if c = '?' ∧ (s.inFlow ∨ wordEnds) then s.markedKey rest
  else if c = ':' ∧ (s.inFlow ∨ wordEnds) then s.colon rest
  else if c = '\'' ∨ c = '"' then s.quotedScalar (c == '"') rest
  else if startsPlain s.inFlow c rest.head? then s.plain
  else .error (.malformed (.unexpectedCharacter c))

/-- The scan behind the whole text. The fuel is the length of the text at least. -/
def finish : Nat → Scan → Except Fault Scan
  | fuel, s => do
    let s ← s.skip.dropStaleKeys
    match fuel, s.cursor.rest with
    | fuel + 1, c :: rest =>
      let column := s.column
      finish fuel (← (s.closeBlocks (column < ·)).token c rest)
    | _, _ => (s.closeBlocks fun _ => true).dropKey

end Scan

/-- The tokens of a text. A byte order mark at its start is ignored. -/
def tokens (cs : List Char) : Except Fault (List Token) :=
  let cursor : Cursor := ⟨cs, {}⟩
  let cursor := if cs.head? = some '\ufeff' then cursor.moveTo (cs.drop 1) else cursor
  (Scan.finish cs.length { cursor }).map Scan.tokens

end TermSheet.Yaml
