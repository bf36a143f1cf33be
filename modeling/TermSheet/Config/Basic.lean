import TermSheet.Digest.Sha256
import TermSheet.Json.Basic
import TermSheet.Log.Severity
import TermSheet.Text.Quoted
import TermSheet.Text.Uppercase
import TermSheet.Value.Date

/-!
# Configurations

A configuration says how much is logged, on which days the portfolio is looked at, and how JSON
texts are laid out. It is read from a mapping with the sections `logging`, `evaluation` and
`output`, each of which may be missing; what is not set there keeps its usual value.

A configuration has a canonical JSON text, and the digest of that text identifies it.
-/

namespace TermSheet

/-- The day that is looked at when no days are set. -/
def usualDay : Date := { year := 2020, month := 12, day := 24 }

/-- The schedule of that day. -/
def usualSchedule : Schedule := { days := [usualDay] }

/-- How a demonstration is run (`DemoConfig`). -/
structure Config where
  severity : Log.Severity := .info
  schedule : Schedule := usualSchedule
  layout : Json.Layout := some 2
  deriving DecidableEq

/-- Why a value is no configuration. -/
inductive ConfigFault
  | noMapping (shown : String)
  | noSection (name shown : String)
  | unknownLevel (word : String)
  | schedule (fault : ScheduleFault)
  | badIndent (shown : String)
  | unshowable (fault : DisplayFault)

/-- The wording of a fault. -/
def ConfigFault.message : ConfigFault → String
  | noMapping shown => "Config must be a mapping, got " ++ shown
  | noSection name shown => "Section '" ++ name ++ "' must be a mapping, got " ++ shown
  | unknownLevel word => "Unknown log level: " ++ word
  | schedule fault => fault.message
  | badIndent shown => "json_indent must be a non-negative integer, got " ++ shown
  | unshowable fault => fault.message

namespace Config

/-- A fault that quotes a value, or the fault that it cannot be quoted. -/
def quoting {α : Type} (fault : String → ConfigFault) (v : Value) : Except ConfigFault α :=
  match v.exact with
  | .ok shown => .error (fault shown)
  | .error cannot => .error (.unshowable cannot)

/-- The entries of a section (`_section`). A section without a value is empty. -/
def section? (entries : List (Value × Value)) (name : String) :
    Except ConfigFault (List (Value × Value)) :=
  match Value.field? entries name with
  | none | some .none => .ok []
  | some (.dict fields) => .ok fields
  | some other => quoting (ConfigFault.noSection name) other

/-- The severity that a value names, in letters of any case. -/
def severity? (v : Value) : Except ConfigFault Log.Severity :=
  match v.plain with
  | .error cannot => .error (.unshowable cannot)
  | .ok shown =>
    let word := Text.upper shown
    match Log.Severity.ofWord? word with
    | some severity => .ok severity
    | none => .error (.unknownLevel word)

/-- The layout that a value stands for: one line, or a number of blanks for each level. -/
def layout? (v : Value) : Except ConfigFault Json.Layout :=
  match v with
  | .none => .ok none
  | .int (.ofNat width) => .ok (some width)
  | other => quoting ConfigFault.badIndent other

/-- What a setting stands for, or its usual value where it is not set. -/
def setting? {α : Type} (fields : List (Value × Value)) (name : String) (usual : α)
    (read : Value → Except ConfigFault α) : Except ConfigFault α :=
  match Value.field? fields name with
  | some v => read v
  | none => .ok usual

/-- The configuration that a value stands for (`parse_config`). The sections are looked at before
    their settings. -/
def ofValue? (v : Value) : Except ConfigFault Config :=
  match v with
  | .dict entries => do
    let logging ← section? entries "logging"
    let evaluation ← section? entries "evaluation"
    let output ← section? entries "output"
    let usual : Config := {}
    let severity ← setting? logging "level" usual.severity severity?
    let schedule ← setting? evaluation "as_of_dates" usual.schedule fun v =>
      (Schedule.ofValue? v).mapError ConfigFault.schedule
    let layout ← setting? output "json_indent" usual.layout layout?
    return { severity, schedule, layout }
  | other => quoting ConfigFault.noMapping other

/-- The configuration that a document stands for (`load_yaml_file`). A document that says nothing
    stands for the usual configuration. -/
def ofDocument? (v : Value) : Except ConfigFault Config :=
  if v.isVacant then .ok {} else ofValue? v

/-! ## Identity -/

/-- A configuration as an object, with its fields in the order of their names. -/
def toJson (c : Config) : Json :=
  .object [("as_of_dates", .array (c.schedule.days.map fun day => .text day.text)),
    ("json_indent", match c.layout with
      | none => .null
      | some width => .int width),
    ("log_level", .text c.severity.word)]

/-- The canonical text, if the layout has a written form. -/
def canonicalText (c : Config) : Except DisplayFault String :=
  match intText (c.layout.getD 0) with
  | .ok _ => .ok (c.toJson.render none)
  | .error fault => .error fault

/-- The digest of the canonical text, in hexadecimal digits (`compute_checksum`). -/
def checksum (c : Config) : Except DisplayFault String :=
  c.canonicalText.map fun text =>
    String.ofList ((Sha256.digest text.toUTF8.toList).flatMap fun byte =>
      Text.hexDigits 2 byte.toNat)

end Config

end TermSheet
