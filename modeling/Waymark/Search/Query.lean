import Waymark.Pattern.Basic
import Waymark.Text.Column
import Waymark.Unicode.Lower

/-!
# Search queries

A query is a pattern with the way it is to be read: as plain text, as a pattern, or as letters that
occur in order. Case matters if and only if the pattern is not in lower case.
-/

namespace Waymark.Search

/-- How the pattern of a query is read. -/
inductive SearchMode
  /-- Plain text. -/
  | literal
  /-- A regular expression. -/
  | regex
  /-- Characters in order, with anything between them. -/
  | fuzzy
  deriving DecidableEq, Repr

namespace SearchMode

/-- The mode that a first character asks for. -/
def ofPrefix? : Char → Option SearchMode
  | '/' => some .literal
  | '=' => some .regex
  | '?' => some .fuzzy
  | _ => none

/-- The first character that asks for a mode. -/
def toPrefix : SearchMode → Char
  | .literal => '/'
  | .regex => '='
  | .fuzzy => '?'

end SearchMode

/-- What to search for. -/
structure Query where
  pattern : String
  mode : SearchMode := .literal
  /-- If given, only items of this kind may match. -/
  kindFilter : Option String := none
  deriving DecidableEq, Repr

/-- A compiled query. -/
inductive Predicate
  /-- Plain text in which case matters. -/
  | literal (needle : List Char)
  | pattern (p : Pattern)
  /-- The query has no reading, and nothing matches. -/
  | never

/-- A stretch of a label, in bytes of its UTF-8 form. -/
structure ByteRange where
  start : Nat
  stop : Nat
  deriving DecidableEq, Repr

/-- The column where a text first occurs. -/
def occurrence? (needle : List Char) : List Char → Option Nat
  | [] => if needle.isEmpty then some 0 else none
  | c :: rest =>
    if needle.isPrefixOf (c :: rest) then some 0 else (occurrence? needle rest).map (· + 1)

namespace Predicate

/-- The columns between which the predicate first matches. -/
def columns? (p : Predicate) (text : List Char) : Option (Nat × Nat) :=
  match p with
  | .literal needle => (occurrence? needle text).map fun start => (start, start + needle.length)
  | .pattern p => (p.find? text).map fun found => (found.start, found.stop)
  | .never => none

/-- The stretch where the predicate first matches. -/
def find? (p : Predicate) (text : String) : Option ByteRange :=
  (p.columns? text.toList).map fun (start, stop) =>
    ⟨Text.byteOfColumn text.toList start, Text.byteOfColumn text.toList stop⟩

/-- Whether the predicate matches anywhere. -/
def isMatch (p : Predicate) (text : String) : Bool :=
  (p.find? text).isSome

end Predicate

namespace Query

/-- Read what was typed: a character that asks for a mode, if there is one, and the pattern. Without
such a character the search is for plain text, and nothing typed is no query. -/
def ofInput? (input : String) : Option Query :=
  match input.toList with
  | [] => none
  | c :: rest =>
    match SearchMode.ofPrefix? c with
    | some mode => some { pattern := String.ofList rest, mode := mode }
    | none => some { pattern := input }

/-- Whether case matters: the pattern has something that lower case would change. -/
def caseSensitive (q : Query) : Bool :=
  Unicode.lower q.pattern.toList != q.pattern.toList

/-- Whether everything that `previous` rejects is rejected by the query too, as far as the two
queries alone can tell: they are read alike, and the pattern has grown at its end. -/
def narrows (q previous : Query) : Bool :=
  q.mode == previous.mode && q.mode != .regex && q.kindFilter == previous.kindFilter
    && previous.pattern.toList.isPrefixOf q.pattern.toList

/-- The pattern of characters in order, as few others between them as possible. -/
def fuzzyText (pattern : List Char) : List Char :=
  (".*?".toList).intercalate (pattern.map fun c => Pattern.quote [c])

/-- The predicate of a pattern's text, which matches nothing if it has no reading. -/
def ofPatternText (ignoreCase : Bool) (text : List Char) : Predicate :=
  match Pattern.read? ignoreCase text with
  | some p => .pattern p
  | none => .never

/-- The predicate of a query. An empty pattern has none. -/
def compile? (q : Query) : Option Predicate :=
  let pattern := q.pattern.toList
  if pattern.isEmpty then none
  else
    let ignoreCase := !q.caseSensitive
    some <|
      match q.mode with
      | .literal =>
        if ignoreCase then ofPatternText true (Pattern.quote pattern) else .literal pattern
      | .regex => ofPatternText ignoreCase pattern
      | .fuzzy => ofPatternText ignoreCase (fuzzyText pattern)

end Query

end Waymark.Search
