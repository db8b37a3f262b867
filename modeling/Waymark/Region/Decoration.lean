import Waymark.Region.Parse

/-!
# Decorations

The stretches of a text that an editor sets off: keys, names and descriptions. Hovering over a name
shows the marker, the name and the description.
-/

namespace Waymark

/-- A stretch that is set off, with what is shown on hovering over it. -/
structure Decoration where
  span : Span
  hover : Option String := none
  deriving DecidableEq, Repr

/-- All stretches that are set off, by their role. -/
structure Decorations where
  keys : List Decoration := []
  names : List Decoration := []
  descriptions : List Decoration := []
  deriving DecidableEq, Repr

namespace Decorations

instance : Append Decorations :=
  ⟨fun a b => ⟨a.keys ++ b.keys, a.names ++ b.names, a.descriptions ++ b.descriptions⟩⟩

/-- What is shown on hovering over a name. -/
def hoverText (key name : Token) (description : Option Token) : String :=
  key.text ++ " **" ++ name.text ++ "** " ++ (description.map Token.text).getD ""

/-- The decorations of a description, which may be missing. -/
def ofDescription (description : Option Token) : List Decoration :=
  (description.map fun d => { span := d.span }).toList

/-- The decorations of a region. -/
def ofRegion (r : Region) : Decorations :=
  let hover := some (hoverText r.key r.name r.description)
  { keys := [{ span := r.key.span }, { span := r.keyEnd.span }]
    names := ⟨r.name.span, hover⟩ :: (r.nameEnd.map fun name => ⟨name.span, hover⟩).toList
    descriptions := ofDescription r.description }

/-- The decorations of a tag. -/
def ofTag (t : Tag) : Decorations where
  keys := [{ span := t.key.span }]
  names := [⟨t.name.span, some (hoverText t.key t.name t.description)⟩]
  descriptions := ofDescription t.description

/-- The decorations of a parse: regions first, then tags. -/
def ofParsed (parsed : ParsedRegions) : Decorations :=
  (parsed.regions.map ofRegion ++ parsed.tags.map ofTag).foldl (· ++ ·) {}

end Decorations

end Waymark
