import Waymark.Preferences.Basic
import Waymark.Yaml.Node.OfTokens
import Waymark.Yaml.Scalar.Write

/-!
# Preferences as YAML

Preferences are written as a mapping with a line for each field, and a line for each kind that is left
out. They are read from a mapping in which fields may be missing and other fields are passed over, but
none may be given twice.
-/

namespace Waymark.Preferences

open Waymark.Yaml

/-- Read a field, or take its default if it is missing. -/
def readNode {α : Type} (fields : List (String × Node)) (name : String) (read : Node → Option α)
    (default : α) : Option α :=
  match fields.lookup name with
  | none => some default
  | some value => read value

/-- Whether none of the fields of preferences is given twice. -/
def areDistinct (fields : List (String × Node)) : Bool :=
  fieldNames.all fun name => (fields.filter (·.1 = name)).length ≤ 1

/-- The preferences that the fields of a mapping stand for. The values may be aliases of nodes in
`root`. -/
def ofFields? (root : Node) (fields : List (String × Node)) : Option Preferences := do
  let base : Preferences := {}
  return {
    enabled := ← readNode fields "enabled" root.bool? base.enabled
    regionStart := ← readNode fields "start_region" root.text? base.regionStart
    regionEnd := ← readNode fields "end_region" root.text? base.regionEnd
    tag := ← readNode fields "tag" root.text? base.tag
    escapeMarkers := ← readNode fields "escape_markers" root.bool? base.escapeMarkers
    highlight := ← readNode fields "highlight" root.bool? base.highlight
    defaultMaxDepth := ← readNode fields "default_max_depth" root.word? base.defaultMaxDepth
    hiddenItems := ← readNode fields "hidden_item" root.texts? base.hiddenItems
    navThrottleMs := ← readNode fields "nav_throttle_ms" root.word? base.navThrottleMs }

/-- The preferences that a text stands for. -/
def ofYaml? (text : List Char) : Option Preferences := do
  let root ← Node.ofText? text
  let fields ← root.fields? root
  if areDistinct fields then ofFields? root fields else none

/-- The line of a field. The value ends its line. -/
def fieldLine (name : String) (value : List Char) : List Char :=
  name.toList ++ ':' :: ' ' :: value

/-- A truth value and the end of its line. -/
def boolLine (b : Bool) : List Char :=
  (if b then "true" else "false").toList ++ ['\n']

/-- A number and the end of its line. -/
def wordLine (n : UInt64) : List Char :=
  Nat.toDigits 10 n.toNat ++ ['\n']

/-- The line of a field that is a list of texts, and the lines of its items. -/
def listLines (name : String) (items : List String) : List Char :=
  if items.isEmpty then fieldLine name ['[', ']', '\n']
  else
    name.toList ++ ':' :: '\n' ::
      items.flatMap fun item => '-' :: ' ' :: Scalar.writeLine item.toList

/-- Preferences as they are written. -/
def toYaml (p : Preferences) : List Char :=
  fieldLine "enabled" (boolLine p.enabled)
    ++ fieldLine "start_region" (Scalar.writeLine p.regionStart.toList)
    ++ fieldLine "end_region" (Scalar.writeLine p.regionEnd.toList)
    ++ fieldLine "tag" (Scalar.writeLine p.tag.toList)
    ++ fieldLine "escape_markers" (boolLine p.escapeMarkers)
    ++ fieldLine "highlight" (boolLine p.highlight)
    ++ fieldLine "default_max_depth" (wordLine p.defaultMaxDepth)
    ++ listLines "hidden_item" p.hiddenItems
    ++ fieldLine "nav_throttle_ms" (wordLine p.navThrottleMs)

end Waymark.Preferences
