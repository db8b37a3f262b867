/-!
# Columns and byte offsets

A place in a text is counted in characters (a column) or in bytes of its UTF-8 form (an offset).
`columnOfByte` goes from offsets to columns for any offset, and `byteOfColumn` goes back on the
boundaries of characters.
-/

namespace Waymark.Text

/-- Number of bytes in the UTF-8 form of a text. -/
def byteLength : List Char → Nat
  | [] => 0
  | c :: rest => c.utf8Size + byteLength rest

/-- Number of characters that begin before a byte offset. An offset inside a character counts that
character as passed, and one past the end counts all of them. -/
def columnOfByte : List Char → Nat → Nat
  | [], _ => 0
  | c :: rest, offset => if offset = 0 then 0 else 1 + columnOfByte rest (offset - c.utf8Size)

/-- The byte offset at which a column begins. -/
def byteOfColumn (text : List Char) (column : Nat) : Nat :=
  byteLength (text.take column)

@[simp] theorem byteLength_nil : byteLength [] = 0 := rfl

@[simp] theorem byteLength_cons (c : Char) (text : List Char) :
    byteLength (c :: text) = c.utf8Size + byteLength text := rfl

theorem byteLength_append (a b : List Char) :
    byteLength (a ++ b) = byteLength a + byteLength b := by
  induction a with
  | nil => simp
  | cons c rest ih => rw [List.cons_append, byteLength_cons, byteLength_cons, ih, Nat.add_assoc]

end Waymark.Text
