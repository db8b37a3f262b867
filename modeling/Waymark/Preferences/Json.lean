import Waymark.Json.Basic
import Waymark.Preferences.Basic

/-!
# Preferences as JSON

Preferences are read from an object, in which fields may be missing and other fields are passed over, or
from a list that gives the fields in order and may end early. What is missing has its default.
-/

namespace Waymark.Preferences

/-- The named values of an object, or of a list that is not longer than the fields. -/
def jsonFields? : Json → Option (List (String × Json))
  | .obj fields => some fields
  | .arr items => if items.length ≤ fieldNames.length then some (fieldNames.zip items) else none
  | _ => none

/-- Read a field, or take its default if it is missing. -/
def readField {α : Type} (fields : List (String × Json)) (name : String) (read : Json → Option α)
    (default : α) : Option α :=
  match fields.lookup name with
  | none => some default
  | some value => read value

/-- The preferences that a value stands for. -/
def ofJson? (j : Json) : Option Preferences := do
  let fields ← jsonFields? j
  let base : Preferences := {}
  return {
    enabled := ← readField fields "enabled" Json.bool? base.enabled
    regionStart := ← readField fields "start_region" Json.str? base.regionStart
    regionEnd := ← readField fields "end_region" Json.str? base.regionEnd
    tag := ← readField fields "tag" Json.str? base.tag
    escapeMarkers := ← readField fields "escape_markers" Json.bool? base.escapeMarkers
    highlight := ← readField fields "highlight" Json.bool? base.highlight
    defaultMaxDepth := ← readField fields "default_max_depth" Json.word? base.defaultMaxDepth
    hiddenItems := ← readField fields "hidden_item" Json.strs? base.hiddenItems
    navThrottleMs := ← readField fields "nav_throttle_ms" Json.word? base.navThrottleMs }

end Waymark.Preferences
