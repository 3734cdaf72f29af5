/-
# `FaasOperator.Yaml.Token` — tokens of YAML

Scalars, the marks around and between them, and the block collections that the indentation of a text
opens and closes.
-/
import FaasOperator.Yaml.Cursor

namespace FaasOperator.Yaml

/-- How a scalar is written: bare, or in one of the ways that make it a text. -/
inductive Style where
  | plain
  | quoted
deriving DecidableEq, Repr

namespace Token

inductive Kind where
  | streamEnd
  | versionDirective (major minor : Nat)
  | tagDirective (handle expansion : String)
  | documentStart
  | documentEnd
  | blockSequenceStart
  | blockMappingStart
  | blockEnd
  | flowSequenceStart
  | flowSequenceEnd
  | flowMappingStart
  | flowMappingEnd
  | blockEntry
  | flowEntry
  | key
  | value
  | alias (name : String)
  | anchor (name : String)
  | tag (handle rest : String)
  | scalar (text : String) (style : Style)
deriving DecidableEq, Repr

end Token

structure Token where
  kind : Token.Kind
  start : Mark
  stop : Mark
deriving DecidableEq, Repr

end FaasOperator.Yaml
