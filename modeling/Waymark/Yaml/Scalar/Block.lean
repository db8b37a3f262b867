import Waymark.Yaml.Char

/-!
# Block scalars

A block scalar is the lines below its header that are indented far enough. Literal ones keep their
breaks, folded ones turn a single line feed between two lines that are not indented further into a
space. The header tells how the breaks at the end are kept, and how far the block is indented if its
first line does not show that.
-/

namespace Waymark.Yaml.Block

/-- Which of the breaks at the end of a block belong to it. -/
inductive Chomping
  /-- None. -/
  | strip
  /-- The one that ends the last line. -/
  | clip
  /-- All of them. -/
  | keep
  deriving DecidableEq, Repr, Inhabited

/-- What the header of a block tells. -/
structure Header where
  chomping : Chomping := .clip
  /-- How much further than its parent the block is indented, from 1 to 9. -/
  indent : Option Nat := none
  deriving DecidableEq, Repr

namespace Header

/-- The sign of a chomping. -/
def chomping? : Char → Option Chomping
  | '+' => some .keep
  | '-' => some .strip
  | _ => none

/-- Read an indentation, which is not zero. -/
def indent? (c : Char) : Option Nat :=
  if '1' ≤ c && c ≤ '9' then some (c.toNat - '0'.toNat) else none

/-- Read a header: the two signs may come in either order. The sign of a zero is left in place, where
it is an error. -/
def read : List Char → Header × List Char
  | [] => ({}, [])
  | c :: cs =>
    match chomping? c, indent? c with
    | some chomping, _ =>
      match cs.head?.bind indent? with
      | some n => ({ chomping := chomping, indent := some n }, cs.tail)
      | none => ({ chomping := chomping }, cs)
    | none, some n =>
      match cs.head?.bind chomping? with
      | some chomping => ({ chomping := chomping, indent := some n }, cs.tail)
      | none => ({ indent := some n }, cs)
    | none, none => ({}, c :: cs)

end Header

/-- The widest indentation among the first lines of a block: the blank ones and the one after them. A
tab must not indent. -/
def widest? : (best column : Nat) → List Char → Option Nat
  | best, column, [] => some (max best column)
  | best, column, c :: cs =>
    if c = ' ' then widest? best (column + 1) cs
    else if c = '\t' then none
    else if isBreak c then widest? (max best column) 0 cs
    else some (max best column)

/-- Where in a block reading is. -/
inductive Stage
  /-- In the indentation of a line. -/
  | margin (column : Nat)
  /-- In the line itself. -/
  | line
  deriving DecidableEq, Repr

/-- The breaks that are read and not yet part of the value. -/
structure Pending where
  /-- The break of the last line that was not blank. -/
  first : Option Char := none
  /-- The breaks of blank lines after it. -/
  more : List Char := []
  /-- Whether the last line began with a blank. -/
  afterBlank : Bool := false
  deriving DecidableEq, Repr

namespace Pending

/-- What the breaks are in the value when a line follows that begins with `c`. -/
def join (folded : Bool) (p : Pending) (c : Char) : List Char :=
  if folded && p.first = some '\n' && !p.afterBlank && !isBlank c then
    (if p.more.isEmpty then [' '] else []) ++ p.more
  else p.first.toList ++ p.more

/-- What the breaks are in the value when nothing follows. -/
def chomp (p : Pending) : Chomping → List Char
  | .strip => []
  | .clip => p.first.toList
  | .keep => p.first.toList ++ p.more

end Pending

/-- The value of a block whose lines are indented by `indent`, and what follows it. -/
def readLines? (folded : Bool) (chomping : Chomping) (indent : Nat) :
    Stage → Pending → List Char → Option (List Char × List Char)
  | _, p, [] => some (p.chomp chomping, [])
  | .margin column, p, c :: cs =>
    if column < indent && c = ' ' then
      readLines? folded chomping indent (.margin (column + 1)) p cs
    else if column < indent && c = '\t' then none
    else if isBreak c then
      readLines? folded chomping indent (.margin 0) { p with more := p.more ++ [c] } cs
    else if column = indent then
      (readLines? folded chomping indent .line { afterBlank := isBlank c } cs).map
        fun (text, rest) => (p.join folded c ++ c :: text, rest)
    else some (p.chomp chomping, c :: cs)
  | .line, p, c :: cs =>
    if isBreak c then
      readLines? folded chomping indent (.margin 0) { p with first := some c } cs
    else
      (readLines? folded chomping indent .line p cs).map fun (text, rest) => (c :: text, rest)

/-- The value of a block after the sign that begins it, and what follows the block. `parent` is the
column of the innermost block collection, if there is one. -/
def read? (folded : Bool) (parent : Option Nat) (cs : List Char) : Option (List Char × List Char) := do
  let (header, cs) := Header.read cs
  let cs ← endLine? cs
  let indent ← match header.indent with
    | some n => some (parent.getD 0 + n)
    | none => (widest? 0 0 cs).map fun column => max column (max (parent.elim 0 (· + 1)) 1)
  readLines? folded header.chomping indent (.margin 0) {} cs

/-- The chomping with which the breaks at the end of a text are read back. -/
def chompingOf (text : List Char) : Chomping :=
  match text.reverse with
  | [] => .strip
  | [c] => if isBreak c then .keep else .strip
  | c :: d :: _ => if isBreak c then if isBreak d then .keep else .clip else .strip

/-- The header under which a text is read back, indented by `margin`. -/
def header (margin : Nat) (text : List Char) : List Char :=
  (if text.head?.any fun c => c = ' ' || isBreak c then [Nat.digitChar margin] else [])
    ++ match chompingOf text with
      | .strip => ['-']
      | .clip => []
      | .keep => ['+']

/-- The lines of a text, those that are not empty indented by `margin` spaces. -/
def lines (margin : Nat) : (broken : Bool) → List Char → List Char
  | _, [] => []
  | broken, c :: cs =>
    if isBreak c then c :: lines margin true cs
    else (if broken then List.replicate margin ' ' else []) ++ c :: lines margin false cs

/-- A text as a literal block, without a break after its last line. -/
def write (margin : Nat) (text : List Char) : List Char :=
  '|' :: header margin text ++ '\n' :: lines margin true text

end Waymark.Yaml.Block
