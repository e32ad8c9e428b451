/-!
The tokens of YAML text. The starts and ends of block collections are tokens of their own, drawn
from the indentation, so that block and flow collections have the same shape.
-/

namespace MessageCatalog.Yaml

inductive ScalarStyle where
  | plain
  | literal
  | folded
  | quoted
deriving DecidableEq

inductive Token where
  | versionDirective (major minor : Nat)
  | tagDirective (handle stem : List Char)
  | documentStart
  | documentEnd
  | blockSequenceStart
  | blockMappingStart
  | blockEnd
  | flowSequenceStart
  | flowSequenceEnd
  | flowMappingStart
  | flowMappingEnd
  | blockEntry
  | flowEntry
  | key
  | value
  | alias (name : List Char)
  | anchor (name : List Char)
  | tag (handle suffix : List Char)
  | scalar (style : ScalarStyle) (text : List Char)
deriving DecidableEq

end MessageCatalog.Yaml
