import Waymark.Position

/-!
# Tokens of a marker line

A line that carries a marker declares the start or the end of a region, or a tag. It is split into
tokens: the marker as its key, a name, and a description.
-/

namespace Waymark

/-- The role of a token. -/
inductive TokenKind
  | key | name | description
  deriving DecidableEq, Repr

/-- A piece of a marker line. -/
structure Token where
  kind : TokenKind
  text : String
  span : Span
  deriving DecidableEq, Repr

/-- What a marker line declares. -/
inductive MatchKind
  | regionStart | regionEnd | tag
  deriving DecidableEq, Repr

/-- A line that carries a marker. -/
structure LineMatch where
  kind : MatchKind
  key : Token
  name : Option Token
  description : Option Token
  deriving DecidableEq, Repr

/-- Something that tells what a line declares. -/
class MatchesLines (μ : Type) where
  matchLine : μ → (line : String) → (lineNumber : Nat) → Option LineMatch

end Waymark
