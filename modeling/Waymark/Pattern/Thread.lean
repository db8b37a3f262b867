/-!
# Threads

A thread is one way of having matched a pattern so far: where it stands in the text, which group
edges it has crossed, and which gates it has passed since it last took a character. Patterns act on
lists of threads, the preferred one first.
-/

namespace Waymark.Pattern

/-- The opening or the closing edge of a named group. -/
structure Mark where
  group : String
  closing : Bool
  deriving DecidableEq, Repr

/-- One way of having matched so far. -/
structure Thread where
  /-- The character just before, if any. -/
  before : Option Char
  /-- What is left of the text. -/
  rest : List Char
  /-- Number of characters before `rest`. -/
  column : Nat
  /-- The group edges crossed, the latest first, with their columns. -/
  marks : List (Mark × Nat)
  /-- The gates passed since the last character was taken. -/
  passed : List (List Nat)
  deriving DecidableEq, Repr

namespace Thread

/-- The thread that has matched nothing yet. -/
def start (before : Option Char) (column : Nat) (rest : List Char) : Thread :=
  ⟨before, rest, column, [], []⟩

/-- Take the next character if it is acceptable. -/
def advance? (accept : Char → Bool) (t : Thread) : Option Thread :=
  match t.rest with
  | [] => none
  | c :: rest => if accept c then some ⟨some c, rest, t.column + 1, t.marks, []⟩ else none

/-- Note that a group edge was crossed here. -/
def cross (m : Mark) (t : Thread) : Thread :=
  { t with marks := (m, t.column) :: t.marks }

/-- Pass a gate, which lets a thread through once between two characters. -/
def pass? (gate : List Nat) (t : Thread) : Option Thread :=
  if t.passed.contains gate then none else some { t with passed := gate :: t.passed }

end Thread

end Waymark.Pattern
