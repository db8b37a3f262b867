import Waymark.Marker.Matcher
import Waymark.Outline.Symbol
import Waymark.Preferences.Basic
import Waymark.Region.Decoration
import Waymark.Region.Rename
import Waymark.Document

/-!
# Providers

A provider keeps the last parse of a document and answers an editor's questions from it. It parses
again only when the version of the document has changed, and a parse that was cancelled leaves
everything as it was.
-/

namespace Waymark

/-- The last parse of a document, and how it was made. -/
structure Provider (μ : Type) where
  matcher : μ
  /-- The version that was parsed. -/
  version : Option Version := none
  parsed : ParsedRegions := {}
  outline : Outline := {}
  /-- If not set, nothing is parsed and every answer is empty. -/
  enabled : Bool := true
  /-- If not set, nothing is decorated. -/
  highlight : Bool := true

/-- What an update came to: whether the parse was replaced, and the parse it made, if any. -/
structure UpdateResult where
  updated : Bool
  run : Option ParseRun
  deriving DecidableEq, Repr

namespace Provider

variable {μ : Type}

/-- Forget the last parse. -/
def clear (p : Provider μ) : Provider μ :=
  { p with version := none, parsed := {}, outline := {} }

/-- Turn parsing on or off; a change forgets the last parse. -/
def setEnabled (p : Provider μ) (enabled : Bool) : Provider μ :=
  if p.enabled = enabled then p else { p with enabled := enabled }.clear

/-- Turn decorations on or off. -/
def setHighlight (p : Provider μ) (highlight : Bool) : Provider μ :=
  { p with highlight := highlight }

/-- Parse the document, if parsing is on and its version is not the one that was parsed last. -/
def update [MatchesLines μ] (p : Provider μ) (d : Document) (cancel : Cancellation) :
    Provider μ × UpdateResult :=
  if !p.enabled || p.version == some d.version then (p, ⟨false, none⟩)
  else
    let run := ParseRun.ofLines p.matcher cancel d.lines
    match run.outcome.parsed? with
    | none => (p, ⟨false, some run⟩)
    | some parsed =>
      ({ p with version := some d.version, parsed := parsed, outline := .ofParsed parsed d.revision },
        ⟨true, some run⟩)

/-- The name at a position. -/
def prepareRename (p : Provider μ) (position : Position) : Except RenameError RenameTarget :=
  p.parsed.renameTarget position

/-- The replacements that give the name at a position another text. -/
def renameEdits (p : Provider μ) (position : Position) (newName : String) :
    Except RenameError (List TextEdit) :=
  p.parsed.renameEdits position newName

/-- What is set off in the document. -/
def decorations (p : Provider μ) : Decorations :=
  if p.highlight then .ofParsed p.parsed else {}

/-- A provider that has parsed nothing. -/
def ofMarkers (m : Markers) : Provider LineMatcher := { matcher := .ofMarkers m }

/-- A provider as the preferences ask for. -/
def ofPreferences (prefs : Preferences) : Provider LineMatcher :=
  { ofMarkers prefs.markers with enabled := prefs.enabled, highlight := prefs.highlight }

/-- Take other markers. The next update parses again. -/
def setMarkers (p : Provider LineMatcher) (m : Markers) : Provider LineMatcher :=
  if p.matcher.markers = m then p else { p with matcher := .ofMarkers m, version := none }

/-- Take the markers and both switches of other preferences. -/
def applyPreferences (p : Provider LineMatcher) (prefs : Preferences) : Provider LineMatcher :=
  ((p.setMarkers prefs.markers).setEnabled prefs.enabled).setHighlight prefs.highlight

end Provider

end Waymark
