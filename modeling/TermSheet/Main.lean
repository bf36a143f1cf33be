import Std.Time.DateTime.Timestamp
import TermSheet.Demo.Identity
import TermSheet.Demo.Program
import TermSheet.Yaml.Document

/-!
# The command line program

Reads the file that the command line names, takes the time and a random identity, and runs the
demonstration with them and with the reader of documents.
-/

namespace TermSheet.Demo

/-- The path that a command line names. -/
def pathOf? (arguments : List String) : Option String :=
  match Options.parse arguments with
  | .ok (.run options) => options.config
  | _ => none

/-- The text of a file, if there is one. -/
def readFile? (path : String) : IO (Option String) := do
  try return some (← IO.FS.readFile path) catch _ => return none

/-- The time now, as a number of seconds. -/
def currentTime : IO Binary64 := do
  let now := (← Std.Time.Timestamp.now).toNanosecondsSinceUnixEpoch.val
  return Binary64.ofRatio (now < 0) now.natAbs (Nat.pow 10 9)

end TermSheet.Demo

open TermSheet TermSheet.Demo in
/-- Runs the demonstration. -/
def main (arguments : List String) : IO UInt32 := do
  let path := pathOf? arguments
  let text ← match path with
    | some path => readFile? path
    | none => pure none
  let files (named : String) : Option String := if path == some named then text else none
  let random := (← IO.getRandomBytes 16).toList.map UInt8.toNat
  let around : Surroundings Yaml.Fault := {
    read := Yaml.Document.read?
    files
    packagedPath := "defaults.yaml"
    portfolioId := Identity.ofBytes random }
  let log : Log.State := { now := ← currentTime }
  let outcome := Program.run around log arguments
  IO.print outcome.printed
  for (_, line) in outcome.written do
    IO.eprint line
  match outcome.ending with
  | .unloadable (.missing path) => IO.eprintln ("error: no file " ++ path)
  | .unloadable (.config fault) => IO.eprintln ("error: " ++ fault.message)
  | .unloadable _ => IO.eprintln "error: the configuration cannot be read"
  | .unprintable _ => IO.eprintln "error: the indentation is too wide"
  | _ => pure ()
  return outcome.ending.status.toUInt32
