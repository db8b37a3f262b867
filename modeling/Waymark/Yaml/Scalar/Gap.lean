import Waymark.Yaml.Char

/-!
# Gaps in scalars

Plain and quoted scalars may go over several lines. What lies between two of their words is a gap:
blanks stand for themselves, and breaks with the blanks around them are folded. A single line feed
folds to a space, and of several line feeds the first one vanishes.
-/

namespace Waymark.Yaml

/-- What lies between the last character of a scalar and the place reached so far. -/
inductive Gap
  /-- Nothing. -/
  | empty
  /-- Blanks on one line. -/
  | blanks (text : List Char)
  /-- The first break, or none if it was escaped, and the breaks after it. -/
  | breaks (first : Option Char) (more : List Char)
  deriving DecidableEq, Repr

namespace Gap

/-- Whether there is a gap at all. -/
def isOpen : Gap → Bool
  | empty => false
  | _ => true

/-- Whether the gap reaches over the end of a line. -/
def isBroken : Gap → Bool
  | breaks _ _ => true
  | _ => false

/-- The gap with a further blank. -/
def addBlank (c : Char) : Gap → Gap
  | empty => blanks [c]
  | blanks text => blanks (text ++ [c])
  | breaks first more => breaks first more

/-- The gap with a further break. -/
def addBreak (c : Char) : Gap → Gap
  | breaks first more => breaks first (more ++ [c])
  | _ => breaks (some c) []

/-- What the gap is in the value of the scalar. -/
def fold : Gap → List Char
  | empty => []
  | blanks text => text
  | breaks (some '\n') [] => [' ']
  | breaks (some '\n') more => more
  | breaks first more => first.toList ++ more

end Gap

end Waymark.Yaml
