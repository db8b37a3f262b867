import Waymark.Region.Parse

/-!
# Outline symbols

Regions and tags as an outline shows them: symbols with a name, perhaps a description, and ranges, and
spans of lines that can be folded. A symbol's kind and description can also be kept in one text.
-/

namespace Waymark

/-- Whether a symbol is a region or a tag. -/
inductive OutlineKind
  | region | tag
  deriving DecidableEq, Repr

namespace OutlineKind

/-- The kind in words. -/
def label : OutlineKind → String
  | .region => "Region"
  | .tag => "Tag"

/-- What the text of a symbol of this kind begins with. -/
def detailPrefix : OutlineKind → String
  | .region => "__om_Region__"
  | .tag => "__om_Tag__"

/-- What stands behind a beginning of a text. -/
def dropPrefix? : (start text : List Char) → Option (List Char)
  | [], text => some text
  | _ :: _, [] => none
  | a :: start, b :: text => if a = b then dropPrefix? start text else none

/-- The kind and the description that a text holds, if it is the text of a symbol. -/
def decodeDetail? (detail : String) : Option (OutlineKind × String) :=
  [OutlineKind.region, .tag].findSome? fun kind =>
    (dropPrefix? kind.detailPrefix.toList detail.toList).map fun rest => (kind, String.ofList rest)

end OutlineKind

/-- One region or tag in an outline. -/
structure OutlineSymbol where
  name : String
  detail : Option String
  kind : OutlineKind
  /-- A region from its start line to its end line, or the line of a tag. -/
  range : Span
  /-- The name. -/
  selectionRange : Span
  deriving DecidableEq, Repr

namespace OutlineSymbol

/-- The kind and the description in one text. -/
def encodedDetail (s : OutlineSymbol) : String :=
  s.kind.detailPrefix ++ s.detail.getD ""

/-- The symbol of a region. -/
def ofRegion (r : Region) : OutlineSymbol :=
  { name := r.name.text, detail := r.description.map Token.text, kind := .region
    range := ⟨r.start.start, r.stop.stop⟩, selectionRange := r.name.span }

/-- The symbol of a tag. -/
def ofTag (t : Tag) : OutlineSymbol :=
  { name := t.name.text, detail := t.description.map Token.text, kind := .tag
    range := t.line, selectionRange := t.name.span }

end OutlineSymbol

/-- Lines that can be folded. -/
structure FoldingSpan where
  startLine : Nat
  endLine : Nat
  deriving DecidableEq, Repr

/-- The outline of a document. -/
structure Outline where
  revision : UInt64 := 0
  /-- Regions in the order of their ends, then tags in order. -/
  symbols : List OutlineSymbol := []
  /-- One span for each region. -/
  folding : List FoldingSpan := []
  deriving DecidableEq, Repr

namespace Outline

/-- Whether there is nothing in the outline. -/
def isEmpty (o : Outline) : Bool := o.symbols.isEmpty

/-- The outline of a parse. -/
def ofParsed (parsed : ParsedRegions) (revision : UInt64) : Outline where
  revision := revision
  symbols := parsed.regions.map .ofRegion ++ parsed.tags.map .ofTag
  folding := parsed.regions.map fun r => ⟨r.start.start.line, r.stop.stop.line⟩

end Outline

end Waymark
