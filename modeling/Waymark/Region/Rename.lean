import Waymark.Region.Parse

/-!
# Renaming

A name can be renamed where it stands: a region at the name of its start or of its end, which change
together, and a tag at its name.
-/

namespace Waymark

/-- Why nothing can be renamed. -/
inductive RenameError
  /-- No name stands at the position. -/
  | noSymbolAt (position : Position)
  deriving DecidableEq, Repr

/-- The error in words; lines and columns are counted from one. -/
def RenameError.message : RenameError → String
  | .noSymbolAt p =>
    "No region or tag found at line " ++ toString (p.line + 1) ++ ", column "
      ++ toString (p.column + 1)

/-- A replacement of one stretch of text. -/
structure TextEdit where
  span : Span
  newText : String
  deriving DecidableEq, Repr

/-- What a renaming changes. -/
structure RenameTarget where
  /-- The name at the position. -/
  range : Span
  placeholder : String
  /-- All stretches to be replaced. -/
  spans : List Span
  deriving DecidableEq, Repr

namespace RenameTarget

/-- The replacements that give the target another name. -/
def edits (t : RenameTarget) (newName : String) : List TextEdit :=
  t.spans.map fun span => ⟨span, newName⟩

/-- The target of a region's names, if one of them stands at a position. -/
def ofRegion? (p : Position) (r : Region) : Option RenameTarget :=
  let spans := r.name.span :: (r.nameEnd.map Token.span).toList
  if r.name.span.contains p then some ⟨r.name.span, r.name.text, spans⟩
  else
    match r.nameEnd with
    | some name => if name.span.contains p then some ⟨name.span, name.text, spans⟩ else none
    | none => none

/-- The target of a tag's name, if it stands at a position. -/
def ofTag? (p : Position) (t : Tag) : Option RenameTarget :=
  if t.name.span.contains p then some ⟨t.name.span, t.name.text, [t.name.span]⟩ else none

end RenameTarget

namespace ParsedRegions

/-- The name at a position. Regions are tried before tags. -/
def renameTarget (parsed : ParsedRegions) (p : Position) : Except RenameError RenameTarget :=
  match (parsed.regions.findSome? (RenameTarget.ofRegion? p)).orElse fun _ =>
      parsed.tags.findSome? (RenameTarget.ofTag? p) with
  | some target => .ok target
  | none => .error (.noSymbolAt p)

/-- The replacements that give the name at a position another text. -/
def renameEdits (parsed : ParsedRegions) (p : Position) (newName : String) :
    Except RenameError (List TextEdit) :=
  (parsed.renameTarget p).map fun target => target.edits newName

end ParsedRegions

end Waymark
