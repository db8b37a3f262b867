/-!
# Styles of scalars

A scalar is plain, stands in quotation marks, or is a block of lines.
-/

namespace Waymark.Yaml

/-- How a scalar is written. -/
inductive ScalarStyle
  | plain
  | singleQuoted
  | doubleQuoted
  | literal
  | folded
  deriving DecidableEq, Repr, Inhabited

end Waymark.Yaml
