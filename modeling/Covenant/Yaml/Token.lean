/-!
# Tokens of YAML

What the text of a YAML stream consists of. The block tokens stand for indentation: a block opens
where a line is indented further and ends where one is indented less.
-/

namespace Covenant.Yaml

/-- How a scalar is written. -/
inductive Style where
  | plain | singleQuoted | doubleQuoted | literal | folded
deriving Repr, DecidableEq, Inhabited

/-- A token. A tag is a handle and a suffix; the handle is empty for a tag given in full. -/
inductive Token where
  | versionDirective (major minor : Nat)
  | tagDirective (handle tagPrefix : String)
  | documentStart
  | documentEnd
  | blockSequenceStart
  | blockMappingStart
  | blockEnd
  | flowSequenceStart
  | flowSequenceEnd
  | flowMappingStart
  | flowMappingEnd
  | blockEntry
  | flowEntry
  | key
  | value
  | alias (name : String)
  | anchor (name : String)
  | tag (handle suffix : String)
  | scalar (style : Style) (text : String)
deriving Repr, DecidableEq, Inhabited

end Covenant.Yaml
