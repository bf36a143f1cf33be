import TermSheet.Fault
import TermSheet.Value.Amount
import TermSheet.Value.Equality
import TermSheet.Value.Text

/-!
# Log records

A record has a logger, a level, a time, a message with its arguments, fields of its own, and
possibly a problem: an error that was caught when the record was made.
-/

namespace TermSheet.Log

/-- How important a record is. -/
abbrev Level := Int

namespace Level

/-- Detail for the author. -/
def debug : Level := 10

/-- The course of the work. -/
def info : Level := 20

/-- Something unexpected. -/
def warning : Level := 30

/-- Something failed. -/
def error : Level := 40

/-- Nothing works any more. -/
def critical : Level := 50

/-- The levels with a name of their own. -/
def named : List (Level × String) :=
  [(critical, "CRITICAL"), (error, "ERROR"), (warning, "WARNING"), (info, "INFO"),
    (debug, "DEBUG"), (0, "NOTSET")]

/-- The name of a level. -/
def name (level : Level) : String := (named.lookup level).getD ("Level " ++ toString level)

end Level

/-- Named values in order. -/
abbrev Fields := List (String × Value)

namespace Fields

/-- The fields with one set. A field that is there keeps its place. -/
def put (fields : Fields) (name : String) (value : Value) : Fields :=
  if fields.any (·.1 == name) then
    fields.map fun field => if field.1 == name then (name, value) else field
  else fields ++ [(name, value)]

/-- Whether there is a field of a name. -/
def has (fields : Fields) (name : String) : Bool := fields.any (·.1 == name)

/-- Fields from pairs in order; of two pairs with one name the last one counts. -/
def ofPairs (pairs : List (String × Value)) : Fields :=
  pairs.foldl (fun fields (name, value) => fields.put name value) []

end Fields

/-- An error in a record: the name of its type, its message, the code of its type where it has one,
    and its attributes. `none` in place of the attributes stands for a value that has none. -/
structure Problem where
  typeName : String
  message : Except DisplayFault String
  typeCode : Option String
  attributes : Option Fields

namespace Problem

/-- The code of a problem: an attribute of that name counts before the code of the type. -/
def code? (p : Problem) : Option Value :=
  ((p.attributes.getD []).lookup "code").or (p.typeCode.map Value.text)

/-- The message of an error that holds arguments (`BaseException.__str__`): nothing, the only
    argument, or all of them. -/
def messageOf (args : List Value) : Except DisplayFault String :=
  match args with
  | [] => .ok ""
  | [arg] => arg.plain
  | args => (Value.tuple args).exact

/-- A value cannot be set as the arguments of an error, for it has no items. -/
structure NoArguments where
  typeName : String
  deriving DecidableEq

/-- The wording of the fault. -/
def NoArguments.message (fault : NoArguments) : String :=
  "'" ++ fault.typeName ++ "' object is not iterable"

/-- The problem with an attribute set. Setting the arguments changes the message. -/
def setAttribute (p : Problem) (name : String) (value : Value) : Except NoArguments Problem :=
  if name = "args" then
    match value.items? with
    | some items => .ok { p with message := messageOf items }
    | none => .error ⟨value.qualifiedName⟩
  else .ok { p with attributes := some ((p.attributes.getD []).put name value) }

/-- An error of a kind of the library, with its message and its attributes. -/
def ofKind (kind : FaultKind) (message : String) (attributes : Fields) : Problem :=
  ⟨kind.name, .ok message, some kind.code, some attributes⟩

/-- The error that a value is no amount. -/
def illegalAmount (v : Value) (shown : String) : Problem :=
  ofKind .invalidAmount (AmountFault.illegal v shown).message [("value", v)]

/-- The error that a leaf is no contract. -/
def illegalContract (termType : Value) (shown : String) : Problem :=
  ofKind .illegalContract (illegalContractMessage shown) [("term_type", termType)]

/-- A value in the place of an error. Only few values could have attributes, and they have none. -/
def ofValue (v : Value) : Problem :=
  let attributes := match v with
    | .currency _ | .direction _ | .object _ _ => some []
    | _ => none
  ⟨v.typeName, v.plain, none, attributes⟩

end Problem

/-- What a record holds in the place of a problem: one that was caught, or any value. -/
inductive Cause
  | caught (problem : Problem)
  | value (v : Value)

/-- A log record (`LogRecord`). The trace says where its problem came up; a record without a problem
    has one that is never written. -/
structure Record where
  logger : Value
  levelName : Value
  created : Value
  template : Value
  args : Value
  extras : Fields
  cause : Cause
  trace : String := ""

namespace Record

/-- The names of the attributes that every record has. -/
def ownNames : List String :=
  ["name", "msg", "args", "levelname", "levelno", "pathname", "filename", "module", "exc_info",
    "exc_text", "stack_info", "lineno", "funcName", "created", "msecs", "relativeCreated", "thread",
    "threadName", "processName", "process"]

/-- The arguments of a message. A single mapping is looked up by key. -/
def argsOf : List Value → Value
  | [.dict []] => .tuple [.dict []]
  | [.dict entries] => .dict entries
  | args => .tuple args

/-- The record with an attribute set. A name that every record has changes the record itself. -/
def setAttribute (r : Record) (name : String) (value : Value) : Record :=
  match name with
  | "name" => { r with logger := value }
  | "msg" => { r with template := value }
  | "args" => { r with args := value }
  | "levelname" => { r with levelName := value }
  | "created" => { r with created := value }
  | "exc_info" => { r with cause := .value value }
  | other => { r with extras := r.extras.put other value }

end Record

end TermSheet.Log
