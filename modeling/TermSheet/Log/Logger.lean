import TermSheet.Log.Line

/-!
# Loggers

A logging state says where records go and which of them. All loggers share it. Until logging is
configured, records of at least warning level go to standard error as their bare message.
Configuring sets a level and one destination, where records go as lines; it has no effect when
logging is configured already. Resetting takes everything back.

A record whose text cannot be made is dropped.

Results:
- `State.logAll_eq_nil`: without a configuration, nothing below a warning is written.
-/

namespace TermSheet.Log

/-- Where records go. -/
inductive Destination
  | standardError
  | stream (index : Nat)
  deriving DecidableEq

/-- The state of logging. -/
structure State where
  level : Level := Level.warning
  destination : Option Destination := none
  context : Context := none
  now : Binary64 := Binary64.zero false

namespace State

/-- Logging before anything is configured. -/
def start : State := {}

/-- Logging with a level and a destination, unless it has one (`configure_logging`). -/
def configure (s : State) (level : Level) (destination : Destination) : State :=
  match s.destination with
  | some _ => s
  | none => { s with level, destination := some destination }

/-- Logging without a destination, at the level of the start (`reset_logging`). -/
def reset (s : State) : State := { s with level := Level.warning, destination := none }

/-- The level that counts. A level of zero is no level, and the one of the start counts. -/
def effectiveLevel (s : State) : Level := if s.level = 0 then Level.warning else s.level

/-- Whether records of a level are made at all. Levels of zero and below are for settings only. -/
def enabled (s : State) (level : Level) : Bool := 0 < level && s.effectiveLevel ≤ level

end State

/-- The prefix of the names of all loggers. -/
def loggerRoot : String := "finance_contracts"

/-- The full name of a logger (`get_logger`). -/
def loggerName (name : String) : String := loggerRoot ++ "." ++ name

/-- What is to be logged. The trace says where the problem came up. -/
structure Entry where
  logger : String
  level : Level
  template : String
  args : List Value := []
  extras : Fields := []
  problem : Option Problem := none
  trace : String := ""

/-- Names that a field of an entry must not have. -/
def reservedNames : List String := "message" :: "asctime" :: Record.ownNames

/-- A field of an entry has the name of an attribute of every record. -/
structure ReservedName where
  name : String
  deriving DecidableEq

/-- The wording of the fault. -/
def ReservedName.message (r : ReservedName) : String :=
  Text.quoted ("Attempt to overwrite " ++ Text.quoted r.name ++ " in LogRecord")

namespace Entry

/-- The record of an entry that is made at a time. -/
def record (now : Binary64) (e : Entry) : Record where
  logger := .text e.logger
  levelName := .text e.level.name
  created := .float now
  template := .text e.template
  args := Record.argsOf e.args
  extras := e.extras
  cause := match e.problem with
    | some p => .caught p
    | none => .value .none
  trace := e.trace

/-- The bare message of an entry, with its trace on a line of its own. -/
def bareText (e : Entry) (now : Binary64) : Except LineFault String :=
  (e.record now).message.map fun message =>
    if e.problem.isSome then
      let separator := if message.toList.getLast? = some '\n' then "" else "\n"
      message ++ separator ++ e.trace ++ "\n"
    else message ++ "\n"

end Entry

/-- A text that goes to a destination. -/
abbrev Output := Destination × String

namespace State

/-- What is written of an entry that is made into a record. -/
def written (s : State) (e : Entry) : Option Output :=
  match s.destination with
  | some destination =>
    ((e.record s.now).line s.context).toOption.map fun line => (destination, line ++ "\n")
  | none =>
    if Level.warning ≤ e.level then
      (e.bareText s.now).toOption.map fun text => (.standardError, text)
    else none

/-- What is written of an entry. An entry whose level is not enabled is not looked at. -/
def log (s : State) (e : Entry) : Except ReservedName (Option Output) :=
  if s.enabled e.level then
    match e.extras.find? (reservedNames.contains ·.1) with
    | some (name, _) => .error ⟨name⟩
    | none => .ok (s.written e)
  else .ok none

/-- What is written of entries whose fields have names of their own. -/
def logAll (s : State) (entries : List Entry) : List Output :=
  entries.filterMap fun e => (s.log e).toOption.join

theorem written_eq_none {s : State} (unconfigured : s.destination = none) {e : Entry}
    (quiet : e.level < Level.warning) : s.written e = none := by
  rw [written, unconfigured]
  exact if_neg (Int.not_le.mpr quiet)

/-- Without a configuration, nothing below a warning is written. -/
theorem logAll_eq_nil {s : State} (unconfigured : s.destination = none) {entries : List Entry}
    (quiet : ∀ e ∈ entries, e.level < Level.warning) : s.logAll entries = [] := by
  rw [logAll, List.filterMap_eq_nil_iff]
  intro e mem
  unfold log
  split
  · split
    · rfl
    · exact written_eq_none unconfigured (quiet e mem)
  · rfl

end State

end TermSheet.Log
