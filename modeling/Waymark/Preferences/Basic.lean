import Waymark.Marker.Markers

/-!
# Preferences

What a user has chosen: the markers and whether they are patterns, what is parsed and shown, and how
fast the outline moves.
-/

namespace Waymark

/-- What a user has chosen. -/
structure Preferences where
  /-- Whether regions and tags are parsed at all. -/
  enabled : Bool := true
  regionStart : String := "#region"
  regionEnd : String := "#endregion"
  tag : String := "#tag"
  /-- Whether the markers stand for themselves instead of being patterns. -/
  escapeMarkers : Bool := false
  /-- Whether keys, names and descriptions are set off. -/
  highlight : Bool := true
  /-- How deep the outline is expanded at first; zero is all of it. -/
  defaultMaxDepth : UInt64 := 0
  /-- Kinds of symbols that the outline leaves out. -/
  hiddenItems : List String := []
  /-- Shortest time between two moves in the outline. -/
  navThrottleMs : UInt64 := 100
  deriving DecidableEq, Repr, Inhabited

namespace Preferences

/-- The markers that were chosen. -/
def markers (p : Preferences) : Markers where
  regionStart := p.regionStart
  regionEnd := p.regionEnd
  tag := p.tag
  escape := p.escapeMarkers

/-- Whether the outline shows symbols of a kind. -/
def isVisible (p : Preferences) (kind : String) : Bool :=
  !p.hiddenItems.contains kind

/-- The names of the fields in order. -/
def fieldNames : List String :=
  ["enabled", "start_region", "end_region", "tag", "escape_markers", "highlight",
    "default_max_depth", "hidden_item", "nav_throttle_ms"]

end Preferences

end Waymark
