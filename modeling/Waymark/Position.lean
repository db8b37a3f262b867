/-!
# Positions and spans

A position is a line and a column, both counted from zero, and columns count characters. Positions
are ordered as a reader meets them. A span has a first and a last position.
-/

namespace Waymark

/-- A place in a document. -/
structure Position where
  line : Nat
  column : Nat
  deriving DecidableEq, Repr, Inhabited

namespace Position

instance : LE Position :=
  ⟨fun p q => p.line < q.line ∨ p.line = q.line ∧ p.column ≤ q.column⟩

instance (p q : Position) : Decidable (p ≤ q) :=
  inferInstanceAs (Decidable (_ ∨ _ ∧ _))

theorem le_def {p q : Position} :
    p ≤ q ↔ p.line < q.line ∨ p.line = q.line ∧ p.column ≤ q.column := Iff.rfl

end Position

/-- The stretch between two positions. -/
structure Span where
  start : Position
  stop : Position
  deriving DecidableEq, Repr, Inhabited

namespace Span

/-- The stretch between two columns of one line. -/
def onLine (line start stop : Nat) : Span :=
  ⟨⟨line, start⟩, ⟨line, stop⟩⟩

/-- Whether a position lies in the span; both ends do. -/
def contains (s : Span) (p : Position) : Bool :=
  s.start ≤ p && p ≤ s.stop

/-- Whether the span stays on one line. -/
def isSingleLine (s : Span) : Bool :=
  s.start.line == s.stop.line

end Span

end Waymark
