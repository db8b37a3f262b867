import Waymark.Marker.Markers
import Waymark.Marker.Token
import Waymark.Pattern.Basic

/-!
# Matching marker lines

Each marker is turned into a pattern for whole lines: behind the marker come blanks, a name, blanks
and a description. The end of a region needs no name and has no description. A line declares what
the first of the patterns for start, end and tag finds in it.
-/

namespace Waymark

open Pattern

/-- A marker with the pattern that was built from it, if that is well formed. -/
structure MarkerPattern where
  marker : String
  pattern : Option Pattern

namespace MarkerPattern

/-- What follows the marker of a start or of a tag. -/
def namedSuffix : String := "[\\t ]+(?P<name>\\S*)[\\t ]*(?P<description>.*)"

/-- What may follow the marker of an end. -/
def endSuffix : String := "([\\t ]+(?P<name>\\S*))?"

/-- The pattern of a marker with a suffix behind it. -/
def build (escape : Bool) (marker suffix : String) : MarkerPattern :=
  let text := if escape then quote marker.toList else marker.toList
  ⟨marker, Pattern.read? false (text ++ suffix.toList)⟩

/-- Where the pattern first matches in a line. -/
def find? (p : MarkerPattern) (line : List Char) : Option Match :=
  p.pattern.bind fun pattern => pattern.find? line

end MarkerPattern

/-- The patterns of a set of markers. -/
structure LineMatcher where
  markers : Markers
  regionStart : MarkerPattern
  regionEnd : MarkerPattern
  tag : MarkerPattern

namespace LineMatcher

/-- Build the patterns of a set of markers. -/
def ofMarkers (m : Markers) : LineMatcher where
  markers := m
  regionStart := .build m.escape m.regionStart MarkerPattern.namedSuffix
  regionEnd := .build m.escape m.regionEnd MarkerPattern.endSuffix
  tag := .build m.escape m.tag MarkerPattern.namedSuffix

/-- How many warnings the patterns of a set of markers call for: one for each marker that holds signs
of patterns and is not escaped, and one for each that gives no pattern. -/
def warnings (m : LineMatcher) : Nat :=
  let patterns := [m.regionStart, m.regionEnd, m.tag]
  let suspicious :=
    if m.markers.escape then 0
    else patterns.countP fun p => Markers.hasPatternSigns p.marker.toList
  suspicious + patterns.countP fun p => p.pattern.isNone

/-- The token of a named group, unless the group took no part or took no characters. -/
def groupToken? (found : Match) (line : List Char) (lineNumber : Nat) (kind : TokenKind)
    (group : String) : Option Token :=
  match found.group? group with
  | none => none
  | some (start, stop) =>
    let text := (line.take stop).drop start
    if text.isEmpty then none
    else some ⟨kind, String.ofList text, .onLine lineNumber start stop⟩

/-- Split a matched line into tokens. The key stands where the match starts and is as long as the
marker. There is no description without a name. -/
def tokens (found : Match) (p : MarkerPattern) (line : List Char) (lineNumber : Nat)
    (kind : MatchKind) : LineMatch :=
  let name := groupToken? found line lineNumber .name "name"
  { kind := kind
    key := ⟨.key, p.marker,
      .onLine lineNumber found.start (found.start + p.marker.toList.length)⟩
    name := name
    description :=
      name.bind fun _ => groupToken? found line lineNumber .description "description" }

/-- What a line declares, if it carries a marker. -/
def matchLine (m : LineMatcher) (line : String) (lineNumber : Nat) : Option LineMatch :=
  let text := line.toList
  [(m.regionStart, MatchKind.regionStart), (m.regionEnd, .regionEnd), (m.tag, .tag)].findSome?
    fun (p, kind) => (p.find? text).map fun found => tokens found p text lineNumber kind

instance : MatchesLines LineMatcher := ⟨matchLine⟩

end LineMatcher

end Waymark
