import TermSheet.Value.Equality
import TermSheet.Yaml.Node
import TermSheet.Yaml.Scalar
import TermSheet.Yaml.Scan

/-!
# The values of YAML documents

A document stands for the value of its node. Keys are scalars, and of two entries with one key the
second counts. Of several scalars that name something that does not exist, the one that is nearest
to the root is reported, and the leftmost of those.

This reader is for the plain part of the language: block and flow collections with plain and quoted
scalars. Directives, tags, anchors, block scalars and merged mappings are faults here. What is shown
of configuration files and of the demonstration holds for every reader; this is the one that the
command line program uses.

Results:
- `Document.read?_nil`: an empty text holds no document.
- `Document.read?_of_node`, `Document.read?_of_entries`: a document in stages.
-/

namespace TermSheet.Yaml

/-- A fault at a number of collections around it. -/
structure Placed where
  depth : Nat
  fault : Fault
  deriving DecidableEq

/-- The values of two parts. Of two faults the one nearer to the root counts, and the left one of
    two that are equally near. -/
def together {α β : Type} : Except Placed α → Except Placed β → Except Placed (α × β)
  | .ok a, .ok b => .ok (a, b)
  | .error p, .error q => .error (if q.depth < p.depth then q else p)
  | .error p, .ok _ => .error p
  | .ok _, .error q => .error q

namespace Node

/-- The value of a scalar at a depth. -/
def scalarValue (depth : Nat) (text : String) (plain : Bool) : Except Placed Value :=
  if plain then (Scalar.resolve text).mapError (Placed.mk depth) else .ok (.text text)

/-- The value of a key at a depth. -/
def keyValue (depth : Nat) : Node → Except Placed Value
  | scalar text plain =>
    if text = "=" then .ok (.text text) else scalarValue depth text plain
  | _ => .error ⟨depth, .malformed .collectionAsKey⟩

mutual

/-- The value of a node at a depth. -/
def value (depth : Nat) : Node → Except Placed Value
  | scalar text plain => scalarValue depth text plain
  | sequence items => (values (depth + 1) items).map Value.list
  | mapping entries => (entryValues (depth + 1) entries).map Value.dictOf

/-- The values of the items of a sequence. -/
def values (depth : Nat) : List Node → Except Placed (List Value)
  | [] => .ok []
  | item :: items =>
    (together (value depth item) (values depth items)).map fun (first, others) => first :: others

/-- The keys and values of the entries of a mapping. -/
def entryValues (depth : Nat) : List (Node × Node) → Except Placed (List (Value × Value))
  | [] => .ok []
  | (key, item) :: entries =>
    (together (together (keyValue depth key) (value depth item)) (entryValues depth entries)).map
      fun (first, others) => first :: others

end

end Node

namespace Document

/-- The value of the document in a text. A text without a document has no value. -/
def read? (text : String) : Except Fault Value := do
  let cs := unifyBreaks text.toList
  match cs.find? (!isAllowed ·) with
  | some c => throw (.malformed (.unprintable c))
  | none =>
    match ← document? (← tokens cs) with
    | none => return .none
    | some node => (node.value 0).mapError Placed.fault

theorem read?_nil : read? "" = .ok .none := rfl

/-- The value of a document in stages: characters, tokens, the node and its value. -/
theorem read?_of_node {text : String} {found : List Token} {node : Node} {v : Value}
    (allowed : (unifyBreaks text.toList).find? (!isAllowed ·) = none)
    (scanned : (tokens (unifyBreaks text.toList)).toOption = some found)
    (parsed : document? found = .ok (some node)) (valued : node.value 0 = .ok v) :
    read? text = .ok v := by
  have told : tokens (unifyBreaks text.toList) = .ok found := by
    cases h : tokens (unifyBreaks text.toList) with
    | error fault =>
      rw [h] at scanned
      cases scanned
    | ok other =>
      rw [h] at scanned
      exact congrArg Except.ok (Option.some.inj scanned)
  simp only [read?, allowed, told, bind, Except.bind, parsed, valued]
  rfl

/-- A document that is a mapping, in stages. -/
theorem read?_of_entries {text : String} {found : List Token} {entries : List (Node × Node)}
    {fields : List (Value × Value)} {v : Value}
    (allowed : (unifyBreaks text.toList).find? (!isAllowed ·) = none)
    (scanned : (tokens (unifyBreaks text.toList)).toOption = some found)
    (parsed : document? found = .ok (some (.mapping entries)))
    (valued : Node.entryValues 1 entries = .ok fields) (kept : Value.dictOf fields = v) :
    read? text = .ok v := by
  apply read?_of_node allowed scanned parsed
  rw [Node.value, valued, ← kept]
  rfl

end Document

end TermSheet.Yaml
