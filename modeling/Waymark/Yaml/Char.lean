/-!
# Characters of YAML texts

Which characters a text may hold, which of them part words and lines, and which are shown as they are
when a text is written. A text is read with its breaks made uniform: of the five breaks of YAML only
the line separator and the paragraph separator keep their own character.
-/

namespace Waymark.Yaml

/-- Whether a text may hold the character: all but most control characters and two codes that are no
characters. -/
def isAccepted (c : Char) : Bool :=
  c = '\t' || c = '\n' || c = '\r' || c = '\u0085' || (0x20 ≤ c.toNat && c.toNat ≤ 0x7E)
    || (0xA0 ≤ c.toNat && c.toNat ≠ 0xFFFE && c.toNat ≠ 0xFFFF)

/-- Whether the character is written as it is: what is accepted, less the tab, the carriage return,
the next-line sign and the byte order mark. -/
def isPrintable (c : Char) : Bool :=
  c = '\n' || (0x20 ≤ c.toNat && c.toNat ≤ 0x7E)
    || (0xA0 ≤ c.toNat && c.toNat ≠ 0xFEFF && c.toNat ≠ 0xFFFE && c.toNat ≠ 0xFFFF)

/-- Whether the character parts words within a line. -/
def isBlank (c : Char) : Bool :=
  c = ' ' || c = '\t'

/-- Whether the character ends a line, in a text with uniform breaks. -/
def isBreak (c : Char) : Bool :=
  c = '\n' || c = '\u2028' || c = '\u2029'

/-- Whether the character may stand in the name of an anchor, a directive or a tag handle. -/
def isWord (c : Char) : Bool :=
  c.isAlphanum || c = '_' || c = '-'

/-- Whether a text starts with a blank or a break, or is at its end. -/
def atGap : List Char → Bool
  | [] => true
  | c :: _ => isBlank c || isBreak c

/-- Whether a text starts with the mark that begins or ends a document. -/
def atDocumentMark : List Char → Bool
  | '-' :: '-' :: '-' :: cs => atGap cs
  | '.' :: '.' :: '.' :: cs => atGap cs
  | _ => false

/-- A text in which a carriage return, a carriage return with a line feed and the next-line sign are
line feeds. -/
def uniformBreaks : List Char → List Char
  | [] => []
  | '\r' :: '\n' :: cs => '\n' :: uniformBreaks cs
  | c :: cs => (if c = '\r' || c = '\u0085' then '\n' else c) :: uniformBreaks cs

/-- What follows the blanks and the comment at the end of a line, and the break. There must be nothing
else on the line. -/
def endLine? (cs : List Char) : Option (List Char) :=
  let cs := cs.dropWhile isBlank
  let cs := if cs.head? = some '#' then cs.dropWhile (!isBreak ·) else cs
  match cs with
  | [] => some []
  | c :: cs => if isBreak c then some cs else none

/-- The value of a hexadecimal digit. -/
def hexValue? (c : Char) : Option Nat :=
  if '0' ≤ c && c ≤ '9' then some (c.toNat - '0'.toNat)
  else if 'a' ≤ c && c ≤ 'f' then some (c.toNat - 'a'.toNat + 10)
  else if 'A' ≤ c && c ≤ 'F' then some (c.toNat - 'A'.toNat + 10)
  else none

/-- The character with a given code, if there is one. -/
def charOfCode? (code : Nat) : Option Char :=
  if code.isValidChar then some (Char.ofNat code) else none

end Waymark.Yaml
