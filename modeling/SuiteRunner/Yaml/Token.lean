/-!
# Tokens of YAML

The signs, scalars and structure marks that a YAML text is cut into.  Block structure, which the text shows by
indentation alone, has tokens of its own.
-/

namespace SuiteRunner.Yaml

/-- A token; the flag of a scalar holds when it is written without quotes. -/
inductive Token where
  | directive
  | documentStart
  | documentEnd
  | blockSequenceStart
  | blockMappingStart
  | blockEnd
  | flowSequenceStart
  | flowSequenceEnd
  | flowMappingStart
  | flowMappingEnd
  | blockEntry
  | flowEntry
  | key
  | value
  | alias (name : String)
  | anchor (name : String)
  | tag (handle suffix : String)
  | scalar (bare : Bool) (text : String)
  | streamEnd
  deriving DecidableEq, Repr, Inhabited

end SuiteRunner.Yaml
