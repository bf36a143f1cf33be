import TermSheet.Config.File
import TermSheet.Demo.Options
import TermSheet.Demo.Report
import TermSheet.Log.Settlement

/-!
# The demonstration as a program

The command line is read, the configuration is loaded, and what the command line sets replaces what
the configuration says. Then logging is configured, unless it is already, and the portfolio is
settled along the schedule, with its identity bound in the context of the log. What the program
finds around it, among this the reader of documents, and the state of logging are parameters, so the
program is a function.
-/

namespace TermSheet.Demo

/-- What a program finds around it. The faults of its reader of documents are in `ε`. -/
structure Surroundings (ε : Type) where
  /-- The reader of documents (`safe_load`). -/
  read : String → Except ε Value
  /-- The texts of the files, by their paths. -/
  files : String → Option String
  /-- The path of the configuration file that comes with the program (`DEFAULT_CONFIG_PATH`). -/
  packagedPath : String
  /-- The identity that the portfolio is given (`uuid4`). -/
  portfolioId : String

/-- How a program ends. -/
inductive Ending (ε : Type)
  | refused (fault : UsageFault)
  | unloadable (fault : LoadFault ε)
  | misdated (fault : ScheduleFault)
  | helped
  | unprintable (fault : Json.LayoutFault)
  | finished

/-- Whether a program that ends so has started its run. -/
def Ending.started {ε : Type} : Ending ε → Bool
  | unprintable _ | finished => true
  | refused _ | unloadable _ | misdated _ | helped => false

/-- The exit status that an ending stands for. -/
def Ending.status {ε : Type} : Ending ε → Nat
  | refused _ | misdated _ => 2
  | unloadable _ | unprintable _ => 1
  | helped | finished => 0

/-- What is left of a program that has ended. -/
structure Outcome (ε : Type) where
  ending : Ending ε
  printed : String
  written : List Log.Output
  log : Log.State

/-- The outcome with something written in front of all else. -/
def Outcome.after {ε : Type} (o : Outcome ε) (written : List Log.Output) : Outcome ε :=
  { o with written := written ++ o.written }

namespace Options

variable {ε : Type}

/-- The path of the file that the configuration is loaded from. -/
def path (o : Options) (around : Surroundings ε) : String := o.config.getD around.packagedPath

/-- The configuration in the file that the options name, or in the one that comes with the program
    (`load_config`). -/
def load (o : Options) (around : Surroundings ε) : Except (LoadFault ε) Config :=
  match o.config with
  | none => Config.ofText? around.read Config.packagedText
  | some path =>
    match around.files path with
    | none => .error (.missing path)
    | some text => Config.ofText? around.read text

/-- The configuration with what the options set in its place (`main`). -/
def revise (o : Options) (config : Config) : Except ScheduleFault Config := do
  let schedule ← if o.asOf = [] then pure config.schedule else Schedule.ofDays? o.asOf
  return { config with schedule, severity := o.severity.getD config.severity }

end Options

namespace Program

variable {ε : Type}

/-- The logger of the program. -/
def logger : String := Log.loggerName "demo.bonds"

/-- What is logged at the start. -/
def started (checksum : String) : Log.Entry where
  logger := logger
  level := Log.Level.info
  template := "demo_started"
  extras := [("config_checksum", .text checksum)]

/-- What is logged of an entry of the report: the settlement, and then what came of it. -/
def stepped (e : Entry) : List Log.Entry :=
  Settlement.entries nofun e.asOf (.ok ⟨e.payments, e.residual⟩) ++
    [{ logger := logger, level := Log.Level.info, template := "portfolio_stepped",
       extras := [("as_of", .date e.asOf), ("payment_count", .int e.payments.length)] }]

/-- All that is logged of a run. -/
def entries (checksum : String) (report : List Entry) : List Log.Entry :=
  started checksum :: report.flatMap stepped

/-- The program behind the loading of its configuration (`run`, with its setting in `main`). -/
def perform (portfolioId checksum : String) (config : Config) (log : Log.State) : Outcome ε :=
  let log := log.configure config.severity.level .standardError
  let (inside, binding) := log.context.enter [(Log.portfolioField, some portfolioId)]
  let printout := printout config.layout (report config.schedule)
  { ending := match printout.fault with
      | some fault => .unprintable fault
      | none => .finished
    printed := printout.text
    written := { log with context := inside }.logAll (entries checksum printout.reached)
    log := { log with context := (inside.leave binding).1 } }

/-- The program (`main`). -/
def run (around : Surroundings ε) (log : Log.State) (arguments : List String) : Outcome ε :=
  match Options.parse arguments with
  | .error fault => ⟨.refused fault, "", [(.standardError, fault.report)], log⟩
  | .ok .help => ⟨.helped, helpText, [], log⟩
  | .ok (.run options) =>
    match options.load around with
    | .error fault => ⟨.unloadable fault, "", [], log⟩
    | .ok loaded =>
      let noted := log.logAll (loaded.loadEntries (options.path around))
      match options.revise loaded with
      | .error fault =>
        let complaint := "error: " ++ fault.message ++ "\n"
        ⟨.misdated fault, "", noted ++ [(.standardError, complaint)], log⟩
      | .ok config =>
        match config.checksum with
        | .error fault => ⟨.unloadable (.unshowable fault), "", noted, log⟩
        | .ok checksum =>
          (perform around.portfolioId checksum config log).after noted

end Program

end TermSheet.Demo
