import InstanceScripts.Text.Utf8

/-!
# YAML tokens

The tokens that a YAML text falls into, with the places where they stand.  Tags are
octets, since their escapes can spell any.
-/

namespace InstanceScripts
namespace Yaml

/-- A place in a text: line and column, both counted from zero. -/
structure Mark where
  line : Nat
  column : Nat
  deriving DecidableEq, Repr, Inhabited

/-- How a scalar is written. -/
inductive Style where
  | plain
  | singleQuoted
  | doubleQuoted
  | literal
  | folded
  deriving DecidableEq, Repr

/-- What a token is. -/
inductive Token.Kind where
  | streamEnd
  | versionDirective (major minor : Nat)
  | tagDirective (handle : List Char) (expansion : Octets)
  | documentStart
  | documentEnd
  | blockSequenceStart
  | blockMappingStart
  | blockEnd
  | flowSequenceStart
  | flowSequenceEnd
  | flowMappingStart
  | flowMappingEnd
  | blockEntry
  | flowEntry
  | key
  | value
  | aliasOf (name : List Char)
  | anchor (name : List Char)
  | tag (handle : List Char) (suffix : Octets)
  | scalar (style : Style) (text : List Char)
  deriving DecidableEq, Repr

/-- A token between two places. -/
structure Token where
  kind : Token.Kind
  start : Mark
  stop : Mark
  deriving DecidableEq, Repr

end Yaml
end InstanceScripts
