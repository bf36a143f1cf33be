import TermSheet.Log.Context
import TermSheet.Log.Record
import TermSheet.Value.Json
import TermSheet.Value.Moment
import TermSheet.Value.Template

/-!
# Log lines

A record is written as one JSON object on one line. It starts with the time, the level, the logger
and the message, goes on with the context and with the fields of the record, and ends with the
problem, if there is one. A field of the record never replaces what stands before it; what is said
of the problem replaces fields of the record, and an attribute of the problem replaces what is said
before it.

Results:
- `Record.line_eq_ok_iff`: a line is the one-line form of the object of the record.
-/

namespace TermSheet.Log

/-- Why a record cannot be written. -/
inductive LineFault
  | moment (fault : MomentFault)
  | template (fault : TemplateFault)
  | unshowable (fault : DisplayFault)
  | noItems (typeName : String)
  | noSecondItem (v : Value)
  | noAttributes
  | json (fault : JsonFault)

/-- The wording of a fault. -/
def LineFault.message : LineFault → String
  | moment fault => fault.message
  | template fault => fault.message
  | unshowable fault => fault.message
  | noItems typeName => "'" ++ typeName ++ "' object is not subscriptable"
  | noSecondItem (.dict _) => "1"
  | noSecondItem (.bytes _) => "index out of range"
  | noSecondItem (.text _) => "string index out of range"
  | noSecondItem v => v.typeName ++ " index out of range"
  | noAttributes => "vars() argument must have __dict__ attribute"
  | json fault => fault.message

namespace Record

/-- The message (`getMessage`): the template as it is when there are no arguments, and filled
    otherwise. -/
def message (r : Record) : Except LineFault String :=
  match r.template.plain with
  | .error fault => .error (.unshowable fault)
  | .ok template =>
    if r.args.isVacant then .ok template
    else (Template.render template r.args).mapError LineFault.template

/-- Names of fields that are never written (`_STDLIB_KEYS`). -/
def hiddenNames : List String := "message" :: "taskName" :: ownNames

/-- The fields in front of the problem (`StructuredFormatter.format`). -/
def envelope (context : Context) (r : Record) (time message : String) : Fields :=
  let head : Fields :=
    [("ts", .text time), ("level", r.levelName), ("logger", r.logger), ("message", .text message)]
  let head := match context with
    | some portfolio => head.put portfolioField (.text portfolio)
    | none => head
  r.extras.foldl (fun fields (name, value) =>
    if hiddenNames.contains name || fields.has name then fields else fields.put name value) head

/-- The problem in a value: its second item, or the item of a mapping under the key one. A value
    that says nothing holds no problem, and neither does one whose item is no value. -/
def problemIn (v : Value) : Except LineFault (Option Problem) :=
  if v.isVacant then .ok none
  else
    match v, v.items? with
    | .dict entries, _ =>
      held ((entries.find? fun (key, _) => Value.same key (.int 1)).map (·.2))
    | _, some items => held items[1]?
    | _, none => .error (.noItems v.qualifiedName)
where
  /-- The problem that an item is, which must be there. -/
  held : Option Value → Except LineFault (Option Problem)
    | some .none => .ok none
    | some item => .ok (some (.ofValue item))
    | none => .error (.noSecondItem v)

/-- The problem of a record. -/
def problem? (r : Record) : Except LineFault (Option Problem) :=
  match r.cause with
  | .caught p => .ok (some p)
  | .value v => problemIn v

/-- The fields with what is said of a problem, and its trace (`StructuredFormatter.format`). -/
def withProblem (fields : Fields) (p : Problem) (trace : String) : Except LineFault Fields := do
  let fields := fields.put "exc_type" (.text p.typeName)
  let message ← p.message.mapError LineFault.unshowable
  let fields := fields.put "exc_message" (.text message)
  let fields := match p.code? with
    | some code => fields.put "exc_code" code
    | none => fields
  match p.attributes with
  | none => throw .noAttributes
  | some attributes =>
    let shown := attributes.filter fun (name, _) =>
      name.toList.head? != some '_' && name != "args" && name != "code"
    let fields := shown.foldl (fun fields (name, value) => fields.put ("exc_" ++ name) value) fields
    return fields.put "traceback" (.text trace)

/-- All fields of a line. -/
def fields (context : Context) (r : Record) : Except LineFault Fields := do
  let moment ← (DateTime.ofSeconds? r.created).mapError LineFault.moment
  let message ← r.message
  let fields := r.envelope context moment.text message
  match ← r.problem? with
  | none => return fields
  | some p => withProblem fields p r.trace

/-- The object of a line (`StructuredFormatter.format`). -/
def json (context : Context) (r : Record) : Except LineFault Json := do
  let fields ← r.fields context
  let items ← fields.mapM fun (name, value) => do
    return (name, ← value.logForm.mapError LineFault.json)
  return .object items

/-- The line of a record, without its end (`StructuredFormatter.format`). -/
def line (context : Context) (r : Record) : Except LineFault String :=
  (r.json context).map (Json.render none)

theorem line_eq_ok_iff (context : Context) (r : Record) (s : String) :
    r.line context = .ok s ↔
      ∃ object, r.json context = .ok object ∧ s = object.render none := by
  unfold line
  cases r.json context <;> simp [Except.map, eq_comm]

end Record

end TermSheet.Log
