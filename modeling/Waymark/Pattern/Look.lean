import Waymark.Unicode.Category
import Waymark.Unicode.Trait
import Waymark.Pattern.Thread

/-!
# Conditions on a place

Anchors and word edges hold or fail at a place in the text and take no character.
-/

namespace Waymark.Pattern

open Waymark.Unicode

/-- The ranges of the entries of a table that carry one of the given names. -/
def rangesNamed (table : List NamedRanges) (names : List String) : List CodeRanges :=
  names.filterMap fun name => (NamedRanges.find? table name).map NamedRanges.ranges

/-- Marks, decimal digits and connectors, which are part of words beside the letters. -/
def wordCategories : List CodeRanges :=
  rangesNamed categories ["mn", "mc", "me", "nd", "pc"]

/-- Letters and the characters that join them. -/
def wordTraits : List CodeRanges :=
  rangesNamed traits ["alphabetic", "joincontrol"]

/-- The ASCII part of the word characters. -/
def isAsciiWord (c : Char) : Bool :=
  ('a' ≤ c && c ≤ 'z') || ('A' ≤ c && c ≤ 'Z') || ('0' ≤ c && c ≤ '9') || c == '_'

/-- Whether a character can be part of a word. -/
def isWord (c : Char) : Bool :=
  if c.toNat < 128 then isAsciiWord c
  else wordTraits.any (·.has c) || wordCategories.any (·.has c)

/-- How the characters on the two sides of a place are compared. -/
inductive WordEdge
  | boundary | interior | wordStart | wordEnd | startHalf | endHalf
  deriving DecidableEq, Repr

/-- A condition on a place. -/
inductive Look
  | textStart | textEnd
  /-- After a line feed or at the start. -/
  | lineStart
  /-- Before a line feed or at the end. -/
  | lineEnd
  /-- As `lineStart`, where carriage returns and their pairs with line feeds end lines too. -/
  | anyLineStart
  /-- As `lineEnd`, where carriage returns and their pairs with line feeds end lines too. -/
  | anyLineEnd
  | word (edge : WordEdge) (unicode : Bool)
  deriving DecidableEq, Repr

/-- Whether the sides of a place, each a word character or not, form the edge. -/
def WordEdge.holds : WordEdge → Bool → Bool → Bool
  | .boundary, left, right => left != right
  | .interior, left, right => left == right
  | .wordStart, left, right => !left && right
  | .wordEnd, left, right => left && !right
  | .startHalf, left, _ => !left
  | .endHalf, _, right => !right

/-- Whether the condition holds where the thread stands. -/
def Look.holds (look : Look) (t : Thread) : Bool :=
  let next := t.rest.head?
  match look with
  | .textStart => t.before.isNone
  | .textEnd => next.isNone
  | .lineStart => t.before.all (· == '\n')
  | .lineEnd => next.all (· == '\n')
  | .anyLineStart =>
    t.before.all fun c => c == '\n' || (c == '\r' && next != some '\n')
  | .anyLineEnd =>
    next.all fun c => c == '\r' || (c == '\n' && t.before != some '\r')
  | .word edge unicode =>
    let isPart := if unicode then isWord else isAsciiWord
    edge.holds (t.before.any isPart) (next.any isPart)

end Waymark.Pattern
