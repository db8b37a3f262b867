import Waymark.Yaml.Scalar.Gap

/-!
# Plain scalars

A scalar without quotation marks ends before a comment, before a colon with a gap after it, before a
line that is not indented enough, and in a flow collection before the signs of the collection.
-/

namespace Waymark.Yaml.Plain

/-- A plain scalar that was read. -/
structure Reading where
  text : List Char
  /-- Whether a line ended between the scalar and what follows. -/
  broken : Bool
  rest : List Char
  deriving DecidableEq, Repr

/-- The signs that part and close flow collections. -/
def isFlowSign (c : Char) : Bool :=
  [',', '[', ']', '{', '}'].contains c

/-- The signs that begin something other than a plain scalar. -/
def isIndicator (c : Char) : Bool :=
  ['-', '?', ':', ',', '[', ']', '{', '}', '#', '&', '*', '!', '|', '>', '\'', '"', '%', '@', '\x60'].contains c

/-- Whether a plain scalar can begin here. -/
def canStart (inFlow : Bool) : List Char → Bool
  | [] => false
  | c :: cs =>
    !isBlank c && !isBreak c && !isIndicator c
      || c = '-' && (cs.head?.map isBlank) != some true
      || !inFlow && (c = '?' || c = ':') && !atGap cs

/-- Whether a plain scalar ends before its next character, which is not a blank or a break. -/
def endsBefore (inFlow : Bool) : List Char → Bool
  | [] => true
  | c :: cs => c = ':' && atGap cs || inFlow && isFlowSign c

/-- Whether a colon is where a flow collection has no place for one. -/
def isStrayColon (inFlow : Bool) : List Char → Bool
  | ':' :: c :: _ => inFlow && (c = '?' || isFlowSign c)
  | _ => false

/-- Read a plain scalar whose lines after the first begin at `margin` or further right. -/
def read? (inFlow : Bool) (margin : Nat) : (column : Nat) → Gap → List Char → Option Reading
  | _, gap, [] => some ⟨[], gap.isBroken, []⟩
  | column, gap, c :: cs =>
    if isBlank c then
      if c = '\t' && gap.isBroken && column < margin then none
      else read? inFlow margin (column + 1) (gap.addBlank c) cs
    else if isBreak c then read? inFlow margin 0 (gap.addBreak c) cs
    else if gap.isOpen
        && (!inFlow && column < margin || column = 0 && atDocumentMark (c :: cs) || c = '#') then
      some ⟨[], gap.isBroken, c :: cs⟩
    else if isStrayColon inFlow (c :: cs) then none
    else if endsBefore inFlow (c :: cs) then some ⟨[], gap.isBroken, c :: cs⟩
    else
      (read? inFlow margin (column + 1) .empty cs).map fun r => { r with text := gap.fold ++ c :: r.text }

end Waymark.Yaml.Plain
