import Waymark.Preferences.File
import Waymark.Proofs.Files.Writable
import Waymark.Proofs.Yaml.Node
import Waymark.Proofs.Yaml.Number

/-!
# Saving and loading preferences

Preferences are written as a mapping whose entries are read back one by one, whatever texts are in them, and
the file holds what was written. So what is loaded from a file is what was saved there.
-/

namespace Waymark.Preferences

open Waymark.Yaml

/-! ## The mapping -/

/-- The entries of the mapping that preferences are written as. -/
def entries (p : Preferences) : List WrittenEntry :=
  [⟨"enabled".toList, .asIs (if p.enabled then "true" else "false").toList⟩,
    ⟨"start_region".toList, .styled p.regionStart.toList⟩,
    ⟨"end_region".toList, .styled p.regionEnd.toList⟩,
    ⟨"tag".toList, .styled p.tag.toList⟩,
    ⟨"escape_markers".toList, .asIs (if p.escapeMarkers then "true" else "false").toList⟩,
    ⟨"highlight".toList, .asIs (if p.highlight then "true" else "false").toList⟩,
    ⟨"default_max_depth".toList, .asIs (Nat.toDigits 10 p.defaultMaxDepth.toNat)⟩,
    ⟨"hidden_item".toList, .list (p.hiddenItems.map String.toList)⟩,
    ⟨"nav_throttle_ms".toList, .asIs (Nat.toDigits 10 p.navThrottleMs.toNat)⟩]

/-- The fields of the mapping that preferences are written as. -/
def fields (p : Preferences) : List (String × Node) :=
  p.entries.map fun e => (String.ofList e.name, e.value.node)

end Waymark.Preferences
