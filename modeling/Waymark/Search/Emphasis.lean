import Waymark.Search.Query

/-!
# Emphasis

The matched part of a label is shown between two markers. A stretch that does not fit the label, or
that cuts a character in two, is not shown.
-/

namespace Waymark.Search

/-- What stands before the emphasised part. -/
def emphasisOpen : String := "<b>"

/-- What stands behind the emphasised part. -/
def emphasisClose : String := "</b>"

/-- Split a text at a byte offset, if a character begins or the text ends there. -/
def splitAtByte? : (offset : Nat) → List Char → Option (List Char × List Char)
  | 0, text => some ([], text)
  | _ + 1, [] => none
  | offset + 1, c :: rest =>
    if c.utf8Size ≤ offset + 1 then
      (splitAtByte? (offset + 1 - c.utf8Size) rest).map fun (before, behind) => (c :: before, behind)
    else none

/-- The three parts of a text that a stretch makes, if it fits the text. -/
def ByteRange.parts? (r : ByteRange) (text : List Char) :
    Option (List Char × List Char × List Char) :=
  if r.start ≤ r.stop then do
    let (before, behind) ← splitAtByte? r.start text
    let (inside, behind) ← splitAtByte? (r.stop - r.start) behind
    return (before, inside, behind)
  else none

/-- A label with a stretch of it emphasised. -/
def emphasise (label : String) (highlight : Option ByteRange) : String :=
  match highlight.bind fun r => r.parts? label.toList with
  | some (before, inside, behind) =>
    String.ofList <|
      before ++ emphasisOpen.toList ++ inside ++ emphasisClose.toList ++ behind
  | none => label

end Waymark.Search
