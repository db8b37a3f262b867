import Waymark.Unicode.Blank
import Waymark.Unicode.Fold
import Waymark.Unicode.Script
import Waymark.Unicode.ScriptExtension
import Waymark.Pattern.Look

/-!
# Named classes of characters

The classes a pattern can name: `\d`, `\s` and `\w`, the bracketed ASCII names such as
`[:alpha:]`, and the properties of the Unicode standard behind `\p`. Property names are compared
in loose form, so `\p{Lu}` and `\p{ uppercase letter}` are the same.
-/

namespace Waymark.Pattern

open Waymark.Unicode

/-- A class of characters. -/
abbrev CharClass := Char → Bool

namespace CharClass

/-- The characters from `lo` to `hi`. -/
def range (lo hi : Char) : CharClass := fun c => lo ≤ c && c ≤ hi

/-- One character alone. -/
def single (a : Char) : CharClass := fun c => c == a

/-- The characters outside a class. -/
def compl (cls : CharClass) : CharClass := fun c => !cls c

/-- The characters that a class holds up to case. -/
def upToCase (cls : CharClass) : CharClass := fun c => cls c || (caseVariants c).any cls

/-- The other case of an ASCII letter. -/
def swapAsciiCase (c : Char) : Char :=
  if 'a' ≤ c ∧ c ≤ 'z' then Char.ofNat (c.toNat - 32)
  else if 'A' ≤ c ∧ c ≤ 'Z' then Char.ofNat (c.toNat + 32)
  else c

/-- The characters that a class holds up to the case of ASCII letters. -/
def upToAsciiCase (cls : CharClass) : CharClass := fun c => cls c || cls (swapAsciiCase c)

/-- Decimal digits of all scripts. -/
def digitRanges : List CodeRanges := rangesNamed categories ["nd"]

/-- Decimal digits. -/
def digit (unicode : Bool) : CharClass := fun c =>
  if unicode then digitRanges.any (·.has c) else '0' ≤ c && c ≤ '9'

/-- White space. -/
def space (unicode : Bool) : CharClass := fun c =>
  if unicode then isBlank c else c == ' ' || ('\t' ≤ c && c ≤ '\r')

/-- Word characters. -/
def word (unicode : Bool) : CharClass := fun c =>
  if unicode then isWord c else isAsciiWord c

/-- The class of a bracketed ASCII name. -/
def ascii? : (name : String) → Option CharClass
  | "alnum" => some fun c => c.isAlphanum
  | "alpha" => some fun c => c.isAlpha
  | "ascii" => some fun c => c.toNat < 128
  | "blank" => some fun c => c == '\t' || c == ' '
  | "cntrl" => some fun c => c.toNat < 32 || c.toNat == 127
  | "digit" => some fun c => c.isDigit
  | "graph" => some fun c => '!' ≤ c && c ≤ '~'
  | "lower" => some fun c => c.isLower
  | "print" => some fun c => ' ' ≤ c && c ≤ '~'
  | "punct" => some fun c => '!' ≤ c && c ≤ '~' && !c.isAlphanum
  | "space" => some fun c => c == ' ' || ('\t' ≤ c && c ≤ '\r')
  | "upper" => some fun c => c.isUpper
  | "word" => some isAsciiWord
  | "xdigit" => some fun c =>
      c.isDigit || ('a' ≤ c && c ≤ 'f') || ('A' ≤ c && c ≤ 'F')
  | _ => none

end CharClass

namespace Property

/-- The loose form of a property name: ASCII only and in lower case, without spaces, hyphens,
underscores and a leading `is`. The name `isc` keeps its first letters, for it is no form of `c`. -/
def loose (name : List Char) : String :=
  let isForm := match name with
    | a :: b :: _ => (a == 'i' || a == 'I') && (b == 's' || b == 'S')
    | _ => false
  let kept := (if isForm then name.drop 2 else name).filter fun c =>
    c.toNat < 128 && c != ' ' && c != '_' && c != '-'
  let form := kept.map Char.toLower
  if isForm && form == ['c'] then "isc" else String.ofList form

/-- The categories that belong to a larger group of categories, by the names of the group. -/
def categoryGroups : List (List String × List String) := [
  (["l", "letter"], ["lu", "ll", "lt", "lm", "lo"]),
  (["lc", "casedletter"], ["lu", "ll", "lt"]),
  (["m", "mark", "combiningmark"], ["mn", "mc", "me"]),
  (["n", "number"], ["nd", "nl", "no"]),
  (["p", "punctuation", "punct"], ["pc", "pd", "ps", "pe", "pi", "pf", "po"]),
  (["s", "symbol"], ["sm", "sc", "sk", "so"]),
  (["z", "separator"], ["zs", "zl", "zp"]),
  (["c", "other"], ["cc", "cf", "cn", "co"])]

/-- The class of an entry of a table. -/
def entryClass? (table : List NamedRanges) (name : String) : Option CharClass :=
  (NamedRanges.find? table name).map fun entry =>
    let ranges := entry.ranges
    fun c => ranges.has c

/-- The class of a general category or of a group of categories. -/
def category? (name : String) : Option CharClass :=
  match name with
  | "any" => some fun _ => true
  | "ascii" => some fun c => c.toNat < 128
  | "assigned" => (entryClass? categories "cn").map CharClass.compl
  | _ =>
    match categoryGroups.find? fun group => group.1.contains name with
    | some group =>
      let ranges := rangesNamed categories group.2
      some fun c => ranges.any (·.has c)
    | none => entryClass? categories name

/-- The class of a property given by one name: a two-valued property, a category or a script. Three
short names belong to a category although a property has them too. -/
def byName? (name : List Char) : Option CharClass :=
  let name := loose name
  let trait := if ["cf", "sc", "lc"].contains name then none else entryClass? traits name
  (trait.orElse fun _ => category? name).orElse fun _ => entryClass? scripts name

/-- The class of a property given by its name and its value. -/
def byValue? (name value : List Char) : Option CharClass :=
  let value := loose value
  match loose name with
  | "gc" | "generalcategory" | "category" => category? value
  | "sc" | "script" => entryClass? scripts value
  | "scx" | "scriptextensions" => entryClass? scriptExtensions value
  | _ => none

end Property

end Waymark.Pattern
