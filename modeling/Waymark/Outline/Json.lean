import Waymark.Json.Text
import Waymark.Outline.Tree

/-!
# Outlines as JSON

The text of an outline and of its tree, as a panel that shows them reads it.
-/

namespace Waymark

/-- The value of a range. -/
def Span.toRangeJson (s : Span) : Json :=
  .obj [("start_line", .nat s.start.line), ("start_col", .nat s.start.column),
    ("end_line", .nat s.stop.line), ("end_col", .nat s.stop.column)]

namespace OutlineSymbol

/-- The value of a description, which may be missing. -/
def detailJson (s : OutlineSymbol) : Json :=
  match s.detail with
  | some detail => .str detail
  | none => .null

/-- The value of a symbol. -/
def toJson (s : OutlineSymbol) : Json :=
  .obj [("name", .str s.name), ("detail", s.detailJson), ("kind", .str s.kind.label),
    ("range", s.range.toRangeJson), ("selection_range", s.selectionRange.toRangeJson)]

/-- The values of the trees of a forest, each with what is below it. -/
def treeJson : Forest OutlineSymbol → List Json
  | .nil => []
  | .node s below after =>
    .obj [("kind", .str s.kind.label), ("name", .str s.name), ("detail", s.detailJson),
      ("range", s.range.toRangeJson), ("selection_range", s.selectionRange.toRangeJson),
      ("children", .arr (treeJson below))] :: treeJson after

end OutlineSymbol

namespace Outline

/-- The value of an outline. -/
def toJson (o : Outline) : Json :=
  .obj [("revision", .nat o.revision.toNat), ("symbols", .arr (o.symbols.map OutlineSymbol.toJson)),
    ("folding", .arr (o.folding.map fun f =>
      .obj [("start_line", .nat f.startLine), ("end_line", .nat f.endLine)]))]

/-- The text of the tree. -/
def treeText (o : Outline) : String :=
  (Json.arr (OutlineSymbol.treeJson o.tree)).text

end Outline

/-- Whether each tree of a forest, in pre-order, has something below it and can be collapsed. -/
def Forest.collapsible {α : Type} : Forest α → List Bool
  | .nil => []
  | .node _ below after => (!below.isEmpty) :: (below.collapsible ++ after.collapsible)

end Waymark
