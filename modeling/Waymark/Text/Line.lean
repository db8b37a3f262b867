import Waymark.Unicode.Blank

/-!
# Lines

A text is broken into lines after a line feed, a carriage return (with a line feed that follows it),
a vertical tab, a form feed, a next-line sign and the line and paragraph separators. A line keeps the
characters that end it, and the text is the lines put together; `trimLine` drops a final line feed
with its carriage return and leaves every other ending in place.
-/

namespace Waymark.Text

/-- Whether a line ends after the character. -/
def isLineBreak (c : Char) : Bool :=
  ['\n', '\r', '\x0B', '\x0C', '\u0085', '\u2028', '\u2029'].contains c

/-- The lines of a text, each with the characters that end it. The last line has no end, and is empty
if the text ends with a break. -/
def breakLines : List Char → List (List Char)
  | [] => [[]]
  | '\r' :: '\n' :: rest => ['\r', '\n'] :: breakLines rest
  | c :: rest =>
    if isLineBreak c then [c] :: breakLines rest
    else
      match breakLines rest with
      | [] => [[c]]
      | line :: more => (c :: line) :: more

/-- A line without a final line feed and the carriage return before that. -/
def trimLine (line : List Char) : List Char :=
  match line.reverse with
  | '\n' :: '\r' :: kept => kept.reverse
  | '\n' :: kept => kept.reverse
  | _ => line

/-- Whether a line holds nothing but white space. -/
def isBlankLine (line : List Char) : Bool :=
  line.all Unicode.isBlank

/-- A text without white space at its ends. -/
def trim (text : List Char) : List Char :=
  ((text.dropWhile Unicode.isBlank).reverse.dropWhile Unicode.isBlank).reverse

theorem breakLines_ne_nil (text : List Char) : breakLines text ≠ [] := by
  fun_induction breakLines text <;> simp

/-- Breaking a text into lines loses nothing. -/
theorem flatten_breakLines (text : List Char) : (breakLines text).flatten = text := by
  fun_induction breakLines text <;> simp_all

end Waymark.Text
