import TermSheet.Calendar.Date
import TermSheet.Log.Severity
import TermSheet.Text.Digit
import TermSheet.Text.Quoted

/-!
# Command line options

The demonstration takes three options: a configuration file, days to look at, which may be given
more than once, and a log level. The value of an option stands behind an equals sign or is the next
argument, and the name of an option may be cut short as long as it stays the only one that starts
so. Nothing else is allowed on the command line.

Arguments are told apart before any of them is looked at, and then handled from left to right. What
cannot be placed is reported at the end. A refused command line is answered with the usage of the
program and the fault.
-/

namespace TermSheet.Demo

/-- An option. -/
inductive Flag
  | help
  | config
  | asOf
  | logLevel
  deriving DecidableEq

namespace Flag

/-- Every option. -/
def all : List Flag := [help, config, asOf, logLevel]

/-- The long name of an option. -/
def name : Flag → String
  | help => "--help"
  | config => "--config"
  | asOf => "--as-of"
  | logLevel => "--log-level"

/-- The short name of the only option that has one. -/
def shortHelp : String := "-h"

/-- All names of an option. -/
def title (flag : Flag) : String :=
  match flag with
  | help => shortHelp ++ "/" ++ flag.name
  | _ => flag.name

/-- The option of a complete name. -/
def ofName? (name : String) : Option Flag :=
  if name = shortHelp then some help else all.find? (·.name == name)

end Flag

/-- Why a command line is refused. -/
inductive UsageFault
  | ambiguous (argument : String) (candidates : List Flag)
  | noValue (flag : Flag)
  | needlessValue (flag : Flag) (value : String)
  | noDate (value : String)
  | noLevel (value : String)
  | unrecognized (arguments : List String)
  deriving DecidableEq

/-- The wording of a fault. -/
def UsageFault.message : UsageFault → String
  | ambiguous argument candidates => "ambiguous option: " ++ argument ++ " could match " ++
      ", ".intercalate (candidates.map Flag.name)
  | noValue flag => ofArgument flag "expected one argument"
  | needlessValue flag value => ofArgument flag ("ignored explicit argument " ++ Text.quoted value)
  | noDate value => ofArgument .asOf ("invalid fromisoformat value: " ++ Text.quoted value)
  | noLevel value => ofArgument .logLevel ("invalid choice: " ++ Text.quoted value ++
      " (choose from " ++ ", ".intercalate (Log.Severity.all.map (Text.quoted ·.word)) ++ ")")
  | unrecognized arguments => "unrecognized arguments: " ++ " ".intercalate arguments
where
  /-- A wording that names the option. -/
  ofArgument (flag : Flag) (rest : String) : String := "argument " ++ flag.title ++ ": " ++ rest

/-! ## Texts about the options -/

/-- The name of the program. -/
def programName : String := "demo_bonds.py"

/-- What stands for a level in the texts about the options. -/
def levelChoices : String :=
  "\x7b" ++ ",".intercalate (Log.Severity.all.map (·.word)) ++ "\x7d"

/-- The lines on how the program is called, as wide as they fit into 80 columns. -/
def usage : String :=
  "usage: " ++ programName ++ " [-h] [--config CONFIG] [--as-of YYYY-MM-DD]\n" ++
  "                     [--log-level " ++ levelChoices ++ "]\n"

/-- The text that is printed when help is asked for. -/
def helpText : String :=
  usage ++ "\nStep a two-bond portfolio forward.\n\noptions:\n" ++
  "  -h, --help            show this help message and exit\n" ++
  "  --config CONFIG       YAML settings file\n" ++
  "  --as-of YYYY-MM-DD    Observation date (repeatable, overrides the configured\n" ++
  "                        dates)\n" ++
  "  --log-level " ++ levelChoices ++ "\n"

/-- What is written when a command line is refused. -/
def UsageFault.report (fault : UsageFault) : String :=
  usage ++ programName ++ ": error: " ++ fault.message ++ "\n"

/-! ## Kinds of arguments -/

/-- What an argument is by its form. -/
inductive Argument
  /-- The mark behind which everything is a value. -/
  | separator
  | value (text : String)
  /-- An option, with the value behind its equals sign. -/
  | option (flag : Flag) (explicit : Option String)
  /-- Something that looks like an option and is none. -/
  | stranger (text : String)
  deriving DecidableEq

namespace Argument

/-- The part in front of the first equals sign, and the part behind it. -/
def splitAtEquals (cs : List Char) : List Char × Option String :=
  match cs.dropWhile (· != '=') with
  | _ :: explicit => (cs.takeWhile (· != '='), some (String.ofList explicit))
  | [] => (cs, none)

/-- Whether a text is a negative number: a hyphen, digits of any script, and perhaps a point in
    front of some of them. A line end may follow. -/
def isNegativeNumber (cs : List Char) : Bool :=
  let cs := if cs.getLast? = some '\n' then cs.dropLast else cs
  match cs with
  | '-' :: rest =>
    let isDigit (c : Char) : Bool := (Text.digitValue? c).isSome
    match rest.dropWhile isDigit with
    | [] => rest != []
    | '.' :: places => places != [] && places.all isDigit
    | _ => false
  | _ => false

/-- The short option with something behind it, which may be the same short option again. -/
def shortOption (behind : List Char) : Argument :=
  let rest := behind.dropWhile (· == 'h')
  option .help (if behind ≠ [] ∧ rest = [] then none else some (String.ofList rest))

/-- What an argument may mean when it is no complete name. -/
def candidates (cs : List Char) : List Flag :=
  match cs with
  | '-' :: '-' :: _ =>
    let (start, _) := splitAtEquals cs
    Flag.all.filter fun flag => start.isPrefixOf flag.name.toList
  | _ => []

/-- What an argument is by its form. -/
def ofText (text : String) : Except UsageFault Argument :=
  let cs := text.toList
  match cs with
  | ['-', '-'] => .ok separator
  | '-' :: 'h' :: '=' :: behind => .ok (shortOption behind)
  | '-' :: 'h' :: c :: behind => .ok (shortOption (c :: behind))
  | '-' :: _ :: _ =>
    let (start, explicit) := splitAtEquals cs
    match Flag.ofName? (String.ofList start), candidates cs with
    | some flag, _ | none, [flag] => .ok (option flag explicit)
    | none, [] =>
      .ok (if isNegativeNumber cs || cs.contains ' ' then value text else stranger text)
    | none, several => .error (.ambiguous text several)
  | _ => .ok (value text)

/-- What the arguments are by their forms. Behind the separator all are values. -/
def ofTexts : List String → Except UsageFault (List (String × Argument))
  | [] => .ok []
  | text :: texts => do
    let argument ← ofText text
    if argument = separator then
      return (text, separator) :: texts.map fun text => (text, value text)
    else return (text, argument) :: (← ofTexts texts)

end Argument

/-! ## Paths -/

/-- The parts of a path between its slashes. -/
def pathParts : List Char → List (List Char)
  | [] => [[]]
  | c :: cs =>
    if c = '/' then [] :: pathParts cs
    else
      match pathParts cs with
      | part :: parts => (c :: part) :: parts
      | [] => [[c]]

/-- The text of a path (`Path`). Empty parts and parts that are a point do not count, and neither
    does a third slash at the start, while two of them are kept. A path without parts is a point. -/
def pathText (s : String) : String :=
  let slashes := (s.toList.takeWhile (· == '/')).length
  let root := match slashes with
    | 0 => ""
    | 2 => "//"
    | _ => "/"
  let parts := (pathParts s.toList).filter fun part => part ≠ [] ∧ part ≠ ['.']
  let text := root ++ "/".intercalate (parts.map String.ofList)
  if text = "" then "." else text

/-! ## Options -/

/-- What a command line sets. The path of a file is kept as its text. -/
structure Options where
  config : Option String := none
  asOf : List Date := []
  severity : Option Log.Severity := none
  deriving DecidableEq

namespace Options

/-- The options with one more set, and its value converted. -/
def set (o : Options) (flag : Flag) (value : String) : Except UsageFault Options :=
  match flag with
  | .help => .ok o
  | .config => .ok { o with config := some (pathText value) }
  | .asOf =>
    match Date.ofText? value with
    | .ok day => .ok { o with asOf := o.asOf ++ [day] }
    | .error _ => .error (.noDate value)
  | .logLevel =>
    match Log.Severity.ofWord? value with
    | some severity => .ok { o with severity := some severity }
    | none => .error (.noLevel value)

/-- What a command line asks for. -/
inductive Request
  | help
  | run (options : Options)
  deriving DecidableEq

/-- Handles the arguments in order. The strangers met so far are kept for the end. -/
def handle (o : Options) (strangers : List String) :
    List (String × Argument) → Except UsageFault Request
  | [] => if strangers = [] then .ok (.run o) else .error (.unrecognized strangers)
  | (_, .option .help none) :: _ => .ok .help
  | (_, .option .help (some explicit)) :: _ => .error (.needlessValue .help explicit)
  | (_, .option flag (some explicit)) :: rest => do
    handle (← o.set flag explicit) strangers rest
  | (_, .option flag none) :: (_, .value text) :: rest => do
    handle (← o.set flag text) strangers rest
  | (_, .option flag none) :: _ => .error (.noValue flag)
  | (text, _) :: rest => handle o (strangers ++ [text]) rest

/-- What a command line asks for (`parse_args`). -/
def parse (arguments : List String) : Except UsageFault Request := do
  handle {} [] (← Argument.ofTexts arguments)

end Options

end TermSheet.Demo
