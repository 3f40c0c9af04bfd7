import DatasetLint.Yaml.Source

/-!
# Tokens

The words of YAML: indicators, the scalars with their style, the properties of a node, and the
tokens that stand for a change of indentation.
-/

namespace DatasetLint.Yaml

/-- How a scalar is written. -/
inductive Style where
  | plain
  | singleQuoted
  | doubleQuoted
  | literal
  | folded
deriving DecidableEq, Repr

namespace Token

inductive Kind where
  | versionDirective (major minor : Nat)
  | tagDirective (handle lead : String)
  | documentStart
  | documentEnd
  | blockSequenceStart
  | blockMappingStart
  | blockEnd
  | flowSequenceStart
  | flowSequenceEnd
  | flowMappingStart
  | flowMappingEnd
  | blockEntry
  | flowEntry
  | key
  | value
  | reference (name : String)
  | anchor (name : String)
  | tag (handle suffix : String)
  | scalar (text : String) (style : Style)
  | streamEnd
deriving DecidableEq, Repr

end Token

/-- A token with the positions at which it starts and behind which it ends. -/
structure Token where
  kind : Token.Kind
  start : Mark
  stop : Mark
deriving DecidableEq, Repr

end DatasetLint.Yaml
