/-!
# Ranges of code points

A property of characters is kept as ascending, inclusive ranges of code points. Tables hold the
ranges as text in hexadecimal, which keeps them readable next to the standard's own data files;
`CodeRanges.ofText` reads that form and `CodeRanges.contains` looks a code point up.
-/

namespace Waymark.Unicode

/-- Inclusive ranges of code points in ascending order. -/
structure CodeRanges where
  bounds : Array (Nat × Nat)
  deriving Inhabited

namespace CodeRanges

/-- The value of a hexadecimal digit. -/
def hexDigit? (c : Char) : Option Nat :=
  if '0' ≤ c ∧ c ≤ '9' then some (c.toNat - '0'.toNat)
  else if 'A' ≤ c ∧ c ≤ 'F' then some (c.toNat - 'A'.toNat + 10)
  else if 'a' ≤ c ∧ c ≤ 'f' then some (c.toNat - 'a'.toNat + 10)
  else none

/-- State of the table reader: the number being read, the lower bound waiting for its upper bound,
and the ranges read so far. -/
structure Reading where
  number : Option Nat := none
  first : Option Nat := none
  bounds : Array (Nat × Nat) := #[]

/-- Close the range being read, if there is one. -/
def Reading.close (r : Reading) : Reading :=
  match r.number with
  | none => r
  | some last => ⟨none, none, r.bounds.push (r.first.getD last, last)⟩

/-- Read one character of a table: a digit extends the number, a hyphen ends a lower bound, and
anything else ends a range. -/
def Reading.feed (r : Reading) (c : Char) : Reading :=
  match hexDigit? c with
  | some d => { r with number := some (16 * r.number.getD 0 + d) }
  | none => if c = '-' then { r with number := none, first := r.number } else r.close

/-- Read ranges such as `41-5A 61-7A AA`. -/
def ofText (text : String) : CodeRanges :=
  ⟨(text.toList.foldl Reading.feed {}).close.bounds⟩

/-- Halve the candidate ranges until one is left. -/
def containsBetween (r : CodeRanges) (code lo hi : Nat) : Bool :=
  if lo < hi then
    match r.bounds[(lo + hi) / 2]? with
    | none => false
    | some (first, last) =>
      if code < first then containsBetween r code lo ((lo + hi) / 2)
      else if last < code then containsBetween r code ((lo + hi) / 2 + 1) hi
      else true
  else false
termination_by hi - lo

/-- Whether a code point lies in one of the ranges. -/
def contains (r : CodeRanges) (code : Nat) : Bool :=
  r.containsBetween code 0 r.bounds.size

/-- Whether a character lies in one of the ranges. -/
def has (r : CodeRanges) (c : Char) : Bool :=
  r.contains c.toNat

end CodeRanges

/-- Ranges under one or more names. -/
structure NamedRanges where
  names : List String
  text : String

/-- The first entry of a table that carries a name. -/
def NamedRanges.find? (table : List NamedRanges) (name : String) : Option NamedRanges :=
  List.find? (fun entry => entry.names.contains name) table

/-- The ranges of an entry. -/
def NamedRanges.ranges (entry : NamedRanges) : CodeRanges :=
  CodeRanges.ofText entry.text

end Waymark.Unicode
