import Waymark.Yaml.Number
import Waymark.Yaml.Scalar.Block
import Waymark.Yaml.Scalar.Plain
import Waymark.Yaml.Scalar.Quoted
import Waymark.Yaml.Scalar.Style

/-!
# Writing scalars

A text of several lines is written as a literal block, and another one plain unless it would be read as
something else. Where that style cannot show the text, the text stands in single quotation marks, and
where those cannot, in double ones.
-/

namespace Waymark.Yaml.Scalar

/-- How far scalars are indented. -/
def margin : Nat := 2

/-- Whether a space and a break follow each other somewhere in a text, in this order. -/
def hasSpaceBeforeBreak : List Char → Bool
  | c :: d :: cs => c = ' ' && isBreak d || hasSpaceBeforeBreak (d :: cs)
  | _ => false

/-- Whether a break and a space follow each other somewhere in a text, in this order. -/
def hasSpaceAfterBreak : List Char → Bool
  | c :: d :: cs => isBreak c && d = ' ' || hasSpaceAfterBreak (d :: cs)
  | _ => false

/-- Whether a text begins with a sign that a plain scalar cannot begin with. A dash, a question mark
and a colon are such signs if a gap follows. -/
def startsWithIndicator : List Char → Bool
  | [] => false
  | c :: cs => if c = '-' || c = '?' || c = ':' then atGap cs else Plain.isIndicator c

/-- Whether a text has a colon with a gap after it or a number sign with a gap before it, its first
character apart. -/
def hasInnerIndicator : List Char → Bool
  | c :: d :: cs => d = ':' && atGap cs || d = '#' && atGap [c] || hasInnerIndicator (d :: cs)
  | _ => false

/-- Whether a text begins like the mark of a document. -/
def startsLikeMark : List Char → Bool
  | '-' :: '-' :: '-' :: _ => true
  | '.' :: '.' :: '.' :: _ => true
  | _ => false

/-- Whether the characters of a text let it be a plain scalar. Whether the scalar would be read as a
text is another question. -/
def allowsPlain (text : List Char) : Bool :=
  text.all (fun c => isPrintable c && !isBreak c) && text.head? != some ' ' && text.getLast? != some ' '
    && !startsLikeMark text && !startsWithIndicator text && !hasInnerIndicator text

/-- Whether a text can stand in single quotation marks. -/
def allowsSingleQuoted (text : List Char) : Bool :=
  text.all isPrintable && !hasSpaceBeforeBreak text && !hasSpaceAfterBreak text

/-- Whether a text can be a literal block. -/
def allowsLiteral (text : List Char) : Bool :=
  text.all isPrintable && !hasSpaceBeforeBreak text && text.getLast? != some ' '

/-- The style in which a text is written. -/
def styleOf (text : List Char) : ScalarStyle :=
  if text.contains '\n' then if allowsLiteral text then .literal else .doubleQuoted
  else if allowsPlain text && !Number.isTaken text then .plain
  else if allowsSingleQuoted text then .singleQuoted
  else .doubleQuoted

/-- A text in the style that it is written in. -/
def write (text : List Char) : List Char :=
  match styleOf text with
  | .plain => text
  | .singleQuoted => SingleQuoted.write margin text
  | .doubleQuoted => DoubleQuoted.write text
  | _ => Block.write margin text

/-- A text in the style that it is written in, and the end of its line. A block that ends with a break
has ended its line already. -/
def writeLine (text : List Char) : List Char :=
  let written := write text
  if styleOf text = .literal && written.getLast?.any isBreak then written else written ++ ['\n']

end Waymark.Yaml.Scalar
