import Waymark.Json.Basic
import Waymark.Position

/-!
# Spans as JSON

A position is an object with the fields `line` and `column`, and a span one with `start` and `end`.
When read, each may also be a list of exactly these fields in order; fields of other names are passed
over.
-/

namespace Waymark

namespace Json

/-- The two parts of a value: the named fields of an object, or the items of a list of two. -/
def pair? (first second : String) : Json → Option (Json × Json)
  | .arr [a, b] => some (a, b)
  | .obj fields => do return (← fields.lookup first, ← fields.lookup second)
  | _ => none

end Json

/-- The position that a value stands for. -/
def Position.ofJson? (j : Json) : Option Position := do
  let (line, column) ← j.pair? "line" "column"
  return ⟨(← line.word?).toNat, (← column.word?).toNat⟩

/-- The value of a position. -/
def Position.toJson (p : Position) : Json :=
  .obj [("line", .nat p.line), ("column", .nat p.column)]

/-- The span that a value stands for. -/
def Span.ofJson? (j : Json) : Option Span := do
  let (start, stop) ← j.pair? "start" "end"
  return ⟨← Position.ofJson? start, ← Position.ofJson? stop⟩

/-- The value of a span. -/
def Span.toJson (s : Span) : Json :=
  .obj [("start", s.start.toJson), ("end", s.stop.toJson)]

end Waymark
