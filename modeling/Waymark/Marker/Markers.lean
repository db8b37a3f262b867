/-!
# Markers

Three texts mark places in comments: the start of a region, its end, and a tag. They are patterns
unless they are to be escaped, in which case they stand for themselves.
-/

namespace Waymark

/-- The texts that mark regions and tags. -/
structure Markers where
  regionStart : String := "#region"
  regionEnd : String := "#endregion"
  tag : String := "#tag"
  /-- Whether the texts stand for themselves instead of being patterns. -/
  escape : Bool := false
  deriving DecidableEq, Repr, Inhabited

namespace Markers

/-- Signs that a marker may hold by accident although they mean something in a pattern. -/
def isPatternSign (c : Char) : Bool :=
  ['\\', '.', '+', '*', '?', '(', ')', '|', '[', ']', '{', '}', '^', '$'].contains c

/-- Whether a text holds a sign that means something in a pattern. -/
def hasPatternSigns (text : List Char) : Bool :=
  text.any isPatternSign

end Markers

end Waymark
