import Converge.Yaml.Character

/-!
# Tokens of a YAML text

The tokens in which a text is cut: those that are written and those that the
indentation implies.
-/

namespace Converge.Yaml

/-- How a scalar is written. Only a plain one may stand for something other than its
text. -/
inductive Style where
  | plain
  | quoted
deriving DecidableEq, Repr

inductive Token where
  | streamEnd
  | versionDirective (major minor : Nat)
  | tagDirective (handle replacement : String)
  | documentStart
  | documentEnd
  | blockSequenceStart
  | blockMappingStart
  | blockEnd
  | flowSequenceStart
  | flowSequenceEnd
  | flowMappingStart
  | flowMappingEnd
  | blockEntry
  | flowEntry
  | key
  | value
  | alias (name : String)
  | anchor (name : String)
  | tag (handle suffix : String)
  | scalar (text : String) (style : Style)
deriving DecidableEq, Repr

/-- A token and the place where it begins. -/
structure Placed where
  token : Token
  start : Mark
deriving DecidableEq, Repr

end Converge.Yaml
