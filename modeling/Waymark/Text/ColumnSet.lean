/-!
# Sets of columns

A finite set of columns, kept as the bits of a number. Searches over a text use it to remember the
places they have already left.
-/

namespace Waymark.Text

/-- A finite set of columns. -/
structure ColumnSet where
  bits : Nat
  deriving DecidableEq

namespace ColumnSet

/-- The set with no column. -/
def empty : ColumnSet := ⟨0⟩

/-- Whether a column is in the set. -/
def has (s : ColumnSet) (column : Nat) : Bool :=
  s.bits.testBit column

/-- The set with one more column. -/
def insert (s : ColumnSet) (column : Nat) : ColumnSet :=
  ⟨s.bits ||| 1 <<< column⟩

@[simp] theorem has_empty (column : Nat) : empty.has column = false := by
  simp [empty, has]

@[simp] theorem has_insert (s : ColumnSet) (a b : Nat) :
    (s.insert a).has b = (s.has b || decide (a = b)) := by
  simp only [has, insert, Nat.testBit_or, Nat.one_shiftLeft, Nat.testBit_two_pow]

end ColumnSet

end Waymark.Text
