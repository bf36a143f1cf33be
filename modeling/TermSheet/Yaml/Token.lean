/-!
# Tokens of YAML documents

The tokens that a document consists of. Indentation is made explicit by tokens that start and end
block collections.
-/

namespace TermSheet.Yaml

/-- A token. -/
inductive Token
  | documentStart
  | documentEnd
  | blockSequenceStart
  | blockMappingStart
  | blockEnd
  | flowSequenceStart
  | flowSequenceEnd
  | flowMappingStart
  | flowMappingEnd
  | blockEntry
  | flowEntry
  | key
  | value
  | scalar (text : String) (plain : Bool)
  deriving DecidableEq

end TermSheet.Yaml
