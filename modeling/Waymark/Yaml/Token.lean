import Waymark.Yaml.Scalar.Style
import Waymark.Yaml.Tag

/-!
# Tokens

The parts of which a text is made: scalars, the signs between them, and the places where block
collections begin and end, which the indentation tells.
-/

namespace Waymark.Yaml

/-- A part of a text. -/
inductive Token
  | directive (d : Directive)
  | documentStart
  | documentEnd
  | blockSequenceStart
  | blockMappingStart
  /-- The end of the innermost block collection. -/
  | blockEnd
  /-- The dash before an item of a block sequence. -/
  | blockEntry
  | flowSequenceStart
  | flowSequenceEnd
  | flowMappingStart
  | flowMappingEnd
  /-- The comma between two items of a flow collection. -/
  | flowEntry
  /-- The place where a key begins. -/
  | key
  /-- The colon before a value. -/
  | value
  | anchor (name : List Char)
  | alias (name : List Char)
  | tag (t : WrittenTag)
  | scalar (style : ScalarStyle) (text : List Char)
  deriving DecidableEq, Repr

end Waymark.Yaml
