import TermSheet.Log.Record

/-!
# Severities

The five levels that a setting can name.

Results:
- `Severity.ofWord?_word`: a severity is found by its word.
-/

namespace TermSheet.Log

/-- A level with a word of its own that a setting can name (`_LOG_LEVELS`). -/
inductive Severity
  | debug
  | info
  | warning
  | error
  | critical
  deriving DecidableEq, Inhabited

namespace Severity

/-- Every severity, from the least important one on. -/
def all : List Severity := [debug, info, warning, error, critical]

/-- The level of a severity. -/
def level : Severity → Level
  | debug => Level.debug
  | info => Level.info
  | warning => Level.warning
  | error => Level.error
  | critical => Level.critical

/-- The word for a severity. -/
def word (s : Severity) : String := s.level.name

/-- The severity with a word. -/
def ofWord? (word : String) : Option Severity := all.find? (·.word == word)

theorem ofWord?_word (s : Severity) : ofWord? s.word = some s := by
  cases s <;> decide

end Severity

end TermSheet.Log
