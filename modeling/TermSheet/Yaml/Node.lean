import TermSheet.Yaml.Fault
import TermSheet.Yaml.Token

/-!
# Nodes of YAML documents

A document is a tree of scalars, sequences and mappings. The tree is read from the tokens by
recursive descent; what is missing in front of or behind a colon, or behind a hyphen, is an empty
plain scalar.
-/

namespace TermSheet.Yaml

/-- A node. A scalar remembers whether it was plain. -/
inductive Node
  | scalar (text : String) (plain : Bool)
  | sequence (items : List Node)
  | mapping (entries : List (Node × Node))
  deriving Inhabited

namespace Node

/-- What stands where nothing is written. -/
def empty : Node := scalar "" true

/-- The fault that a token does not continue what stands before it. -/
def unexpected {α : Type} : Except Fault (α × List Token) := .error (.malformed .unexpectedToken)

/-- A reading, or the empty node where the tokens go on with one of those that end it. -/
def orEmpty (ends tokens : List Token) (read : List Token → Except Fault (Node × List Token)) :
    Except Fault (Node × List Token) :=
  if tokens.head?.any ends.contains then .ok (empty, tokens) else read tokens

/-- A reading behind a colon, or the empty node where there is no colon. -/
def afterColon (tokens : List Token) (read : List Token → Except Fault (Node × List Token)) :
    Except Fault (Node × List Token) :=
  match tokens with
  | .value :: rest => read rest
  | tokens => .ok (empty, tokens)

mutual

/-- A node. Block collections are only read where they may stand, and a sequence without
    indentation of its own only behind a key or a colon. The fuel of all readings bounds the number
    of readings inside one another. -/
def read (block unindented : Bool) : Nat → List Token → Except Fault (Node × List Token)
  | 0, _ => unexpected
  | fuel + 1, tokens =>
    match tokens with
    | .scalar text plain :: rest => .ok (scalar text plain, rest)
    | .flowSequenceStart :: rest => do
      let (items, rest) ← readFlowItems true fuel rest
      return (sequence items, rest)
    | .flowMappingStart :: rest => do
      let (entries, rest) ← readFlowEntries true fuel rest
      return (mapping entries, rest)
    | .blockSequenceStart :: rest =>
      if block then do
        let (items, rest) ← readItems fuel rest
        return (sequence items, rest)
      else unexpected
    | .blockMappingStart :: rest =>
      if block then do
        let (entries, rest) ← readEntries fuel rest
        return (mapping entries, rest)
      else unexpected
    | .blockEntry :: _ =>
      if unindented then do
        let (items, rest) ← readUnindented fuel tokens
        return (sequence items, rest)
      else unexpected
    | _ => unexpected

/-- The items of a block sequence, up to its end. -/
def readItems : Nat → List Token → Except Fault (List Node × List Token)
  | fuel + 1, .blockEntry :: rest => do
    let (item, rest) ← orEmpty [.blockEntry, .blockEnd] rest (read true false fuel)
    let (items, rest) ← readItems fuel rest
    return (item :: items, rest)
  | _, .blockEnd :: rest => .ok ([], rest)
  | _, _ => unexpected

/-- The items of a block sequence without indentation of its own. -/
def readUnindented : Nat → List Token → Except Fault (List Node × List Token)
  | fuel + 1, .blockEntry :: rest => do
    let (item, rest) ←
      orEmpty [.blockEntry, .key, .value, .blockEnd] rest (read true false fuel)
    let (items, rest) ← readUnindented fuel rest
    return (item :: items, rest)
  | _, tokens => .ok ([], tokens)

/-- The entries of a block mapping, up to its end. -/
def readEntries : Nat → List Token → Except Fault (List (Node × Node) × List Token)
  | fuel + 1, .key :: rest => do
    let part (tokens : List Token) : Except Fault (Node × List Token) :=
      orEmpty [.key, .value, .blockEnd] tokens (read true true fuel)
    let (key, rest) ← part rest
    let (item, rest) ← afterColon rest part
    let (entries, rest) ← readEntries fuel rest
    return ((key, item) :: entries, rest)
  | _, .blockEnd :: rest => .ok ([], rest)
  | _, _ => unexpected

/-- The items of a flow sequence, up to its end. An item with a key is a mapping of one entry. -/
def readFlowItems (first : Bool) : Nat → List Token → Except Fault (List Node × List Token)
  | _, .flowSequenceEnd :: rest => .ok ([], rest)
  | 0, _ => unexpected
  | fuel + 1, tokens => do
    let tokens ← match first, tokens with
      | true, tokens | false, .flowEntry :: tokens => pure tokens
      | false, _ => throw (.malformed .unexpectedToken)
    match tokens with
    | .flowSequenceEnd :: rest => return ([], rest)
    | .key :: rest =>
      let read := read false false fuel
      let (key, rest) ← orEmpty [.value, .flowEntry, .flowSequenceEnd] rest read
      let (item, rest) ← afterColon rest fun rest =>
        orEmpty [.flowEntry, .flowSequenceEnd] rest read
      let (items, rest) ← readFlowItems false fuel rest
      return (mapping [(key, item)] :: items, rest)
    | tokens =>
      let (item, rest) ← read false false fuel tokens
      let (items, rest) ← readFlowItems false fuel rest
      return (item :: items, rest)

/-- The entries of a flow mapping, up to its end. A node without a colon is a key without a
    value. -/
def readFlowEntries (first : Bool) :
    Nat → List Token → Except Fault (List (Node × Node) × List Token)
  | _, .flowMappingEnd :: rest => .ok ([], rest)
  | 0, _ => unexpected
  | fuel + 1, tokens => do
    let tokens ← match first, tokens with
      | true, tokens | false, .flowEntry :: tokens => pure tokens
      | false, _ => throw (.malformed .unexpectedToken)
    match tokens with
    | .flowMappingEnd :: rest => return ([], rest)
    | .key :: rest =>
      let read := read false false fuel
      let (key, rest) ← orEmpty [.value, .flowEntry, .flowMappingEnd] rest read
      let (item, rest) ← afterColon rest fun rest =>
        orEmpty [.flowEntry, .flowMappingEnd] rest read
      let (entries, rest) ← readFlowEntries false fuel rest
      return ((key, item) :: entries, rest)
    | tokens =>
      let (key, rest) ← read false false fuel tokens
      let (entries, rest) ← readFlowEntries false fuel rest
      return ((key, empty) :: entries, rest)

end

end Node

/-- The node at the front of the tokens of a document, which starts with a mark or without one. -/
def content (tokens : List Token) : Except Fault (Node × List Token) :=
  let read := Node.read true false (2 * tokens.length + 2)
  match tokens with
  | .documentStart :: rest =>
    if rest = [] then .ok (.empty, [])
    else Node.orEmpty [.documentStart, .documentEnd] rest read
  | tokens => read tokens

/-- The document that tokens stand for, if they stand for one; there must not be a second one. -/
def document? (tokens : List Token) : Except Fault (Option Node) := do
  if tokens = [] then return none
  let (node, rest) ← content tokens
  match rest.dropWhile (· == .documentEnd) with
  | [] => return some node
  | .documentStart :: _ => throw (.malformed .secondDocument)
  | _ => throw (.malformed .unexpectedToken)

end TermSheet.Yaml
