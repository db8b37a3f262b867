import Waymark.Pattern.Run

/-!
# Patterns

A pattern is read from text and then finds its first match in a text: the match that starts earliest,
and of those the one the pattern prefers. `quote` writes a text as the pattern that matches it.
-/

namespace Waymark

open Pattern

/-- A pattern that has been read. -/
structure Pattern where
  node : Pattern.Node

namespace Pattern

/-- A match: the columns where it starts and stops, and the edges of the groups it went through. -/
structure Match where
  start : Nat
  stop : Nat
  marks : List (Mark × Nat)
  deriving DecidableEq, Repr

/-- The column where the match last crossed an edge. -/
def Match.edge? (m : Match) (mark : Mark) : Option Nat :=
  (m.marks.find? fun crossed => crossed.1 == mark).map Prod.snd

/-- The columns between which a named group matched, if it took part. -/
def Match.group? (m : Match) (name : String) : Option (Nat × Nat) :=
  match m.edge? ⟨name, false⟩, m.edge? ⟨name, true⟩ with
  | some start, some stop => some (start, stop)
  | _, _ => none

/-- The preferred match of a node that starts at a place. -/
def Node.matchAt? (node : Node) (before : Option Char) (column : Nat) (rest : List Char) :
    Option Match :=
  (node.run [Thread.start before column rest]).head?.map fun t => ⟨column, t.column, t.marks⟩

/-- The first match of a node that starts at a place or behind it. -/
def Node.findFrom (node : Node) (before : Option Char) (column : Nat) :
    List Char → Option Match
  | [] => node.matchAt? before column []
  | c :: rest =>
    (node.matchAt? before column (c :: rest)).orElse fun _ =>
      node.findFrom (some c) (column + 1) rest

/-- Read a pattern. -/
def read? (ignoreCase : Bool) (text : List Char) : Option Pattern :=
  (Expr.read? { ignoreCase := ignoreCase } text).map fun e => ⟨e.compile false []⟩

/-- The first match in a text. -/
def find? (p : Pattern) (text : List Char) : Option Match :=
  p.node.findFrom none 0 text

/-- The pattern that stands for a text: every sign with a meaning gets a backslash. -/
def quote (text : List Char) : List Char :=
  text.flatMap fun c => if Escape.isMeta c then ['\\', c] else [c]

end Pattern

end Waymark
