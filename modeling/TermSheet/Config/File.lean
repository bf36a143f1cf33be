import TermSheet.Config.Basic
import TermSheet.Log.Logger

/-!
# Configuration files

The text of a configuration file is a document, which a reader of such documents decodes. The reader
is a parameter: nothing is assumed of the format or of the faults of a text. The value of a document
must be a configuration, and the configuration must have a checksum.

A configuration that was loaded is logged with the path of its file and its checksum.
-/

namespace TermSheet

/-- Why a configuration cannot be loaded, where a document has faults in `ε`. -/
inductive LoadFault (ε : Type)
  /-- There is no file. -/
  | missing (path : String)
  | document (fault : ε)
  | config (fault : ConfigFault)
  /-- The configuration has no canonical text. -/
  | unshowable (fault : DisplayFault)

namespace Config

/-- The configuration in the text of a file (`load_config` behind `load_yaml_file`), where `read`
    decodes the text (`safe_load`). -/
def ofText? {ε : Type} (read : String → Except ε Value) (text : String) :
    Except (LoadFault ε) Config := do
  let document ← (read text).mapError LoadFault.document
  let config ← (ofDocument? document).mapError LoadFault.config
  match config.canonicalText with
  | .ok _ => return config
  | .error fault => throw (.unshowable fault)

/-- The logger of configurations. -/
def logger : String := Log.loggerName "config"

/-- What is logged of a configuration that was loaded (`load_config`). A configuration that was
    loaded has a checksum. -/
def loadEntries (path : String) (c : Config) : List Log.Entry :=
  c.checksum.toOption.toList.map fun checksum =>
    { logger, level := Log.Level.debug, template := "config_loaded",
      extras := [("config_path", .text path), ("checksum", .text checksum)] }

/-- The text of the configuration file that comes with the program. -/
def packagedText : String :=
  "# Settings for scripts/demo_bonds.py\nlogging:\n  level: INFO\n\nevaluation:\n" ++
  "  # Observation dates, non-decreasing. The portfolio is stepped at each in turn.\n" ++
  "  as_of_dates:\n    - 2020-12-24\n\noutput:\n  json_indent: 2\n"

end Config

end TermSheet
