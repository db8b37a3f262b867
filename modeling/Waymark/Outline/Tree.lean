import Waymark.Forest
import Waymark.Outline.Symbol

/-!
# Outline trees

Symbols are sorted so that one that contains others comes before them, and then each takes the symbols
behind it that it contains, up to the first that it does not.
-/

namespace Waymark

/-- Whether one range lies in another. -/
def Span.encloses (outer inner : Span) : Bool :=
  outer.start ≤ inner.start && inner.stop ≤ outer.stop

theorem Span.encloses_iff {outer inner : Span} :
    outer.encloses inner = true ↔ outer.start ≤ inner.start ∧ inner.stop ≤ outer.stop := by
  simp [encloses]

theorem Span.encloses_trans {a b c : Span} (hab : a.encloses b = true) (hbc : b.encloses c = true) :
    a.encloses c = true := by
  simp only [encloses_iff, Position.le_def] at *
  omega

namespace OutlineSymbol

/-- Whether a symbol may come before another: it starts earlier, or starts with it and ends no
earlier. -/
def comesBefore (a b : OutlineSymbol) : Bool :=
  if a.range.start = b.range.start then b.range.stop ≤ a.range.stop
  else a.range.start ≤ b.range.start

/-- Nest sorted symbols by what contains what. -/
def nest : List OutlineSymbol → Forest OutlineSymbol
  | [] => .nil
  | s :: rest =>
    .node s (nest (rest.takeWhile fun t => s.range.encloses t.range))
      (nest (rest.dropWhile fun t => s.range.encloses t.range))
termination_by symbols => symbols.length
decreasing_by
  · exact Nat.lt_succ_of_le (List.takeWhile_prefix _).length_le
  · exact Nat.lt_succ_of_le (List.dropWhile_suffix _).length_le

end OutlineSymbol

/-- The symbols nested by what contains what, in document order. -/
def Outline.tree (o : Outline) : Forest OutlineSymbol :=
  OutlineSymbol.nest (o.symbols.mergeSort OutlineSymbol.comesBefore)

end Waymark
