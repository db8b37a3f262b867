import Waymark.Yaml.Scalar.Gap

/-!
# Quoted scalars

In single quotation marks a quotation mark is written twice and all else stands for itself. In double
quotation marks a backslash begins an escape. In both, breaks are folded, and a mark of a document at
the head of a line is an error.
-/

namespace Waymark.Yaml

namespace SingleQuoted

/-- The value of a scalar after its opening quotation mark, and what follows the closing one. -/
def read? : (column : Nat) → Gap → List Char → Option (List Char × List Char)
  | _, _, [] => none
  | column, gap, '\'' :: '\'' :: cs =>
    (read? (column + 2) .empty cs).map fun (text, rest) => (gap.fold ++ '\'' :: text, rest)
  | _, gap, '\'' :: cs => some (gap.fold, cs)
  | column, gap, c :: cs =>
    if isBlank c then read? (column + 1) (gap.addBlank c) cs
    else if isBreak c then read? 0 (gap.addBreak c) cs
    else if gap.isOpen && column = 0 && atDocumentMark (c :: cs) then none
    else (read? (column + 1) .empty cs).map fun (text, rest) => (gap.fold ++ c :: text, rest)

/-- A text without and within its lines: a line that goes on after a break is indented by `margin`
spaces. -/
def body (margin : Nat) : (broken : Bool) → List Char → List Char
  | broken, [] => if broken then List.replicate margin ' ' else []
  | broken, c :: cs =>
    if isBreak c then c :: body margin true cs
    else
      (if broken then List.replicate margin ' ' else [])
        ++ (if c = '\'' then ['\'', '\''] else [c]) ++ body margin false cs

/-- A text in single quotation marks. -/
def write (margin : Nat) (text : List Char) : List Char :=
  '\'' :: body margin false text ++ ['\'']

end SingleQuoted

namespace DoubleQuoted

/-- Where in a scalar reading is: after a gap, which may be empty, after a backslash, or among
hexadecimal digits with so many to come and this value so far. -/
inductive Stage
  | gap (g : Gap)
  | escape
  | hex (left value : Nat)
  deriving DecidableEq, Repr

/-- The characters that have an escape of one letter, which comes first. -/
def letters : List (Char × Char) :=
  [('0', '\x00'), ('a', '\x07'), ('b', '\x08'), ('t', '\t'), ('n', '\n'), ('v', '\x0B'), ('f', '\x0C'),
    ('r', '\r'), ('e', '\x1B'), ('"', '"'), ('\\', '\\'), ('N', '\u0085'), ('L', '\u2028'),
    ('P', '\u2029')]

/-- Escapes that are read and not written. -/
def moreLetters : List (Char × Char) :=
  [('\t', '\t'), (' ', ' '), ('/', '/'), ('_', '\u00A0')]

/-- How many digits follow a letter that begins a character code. -/
def hexDigits? : Char → Option Nat
  | 'x' => some 2
  | 'u' => some 4
  | 'U' => some 8
  | _ => none

/-- The value of a scalar after its opening quotation mark, and what follows the closing one. -/
def read? : (column : Nat) → Stage → List Char → Option (List Char × List Char)
  | _, _, [] => none
  | column, .escape, c :: cs =>
    if isBreak c then read? 0 (.gap (.breaks none [])) cs
    else
      match hexDigits? c, (letters ++ moreLetters).lookup c with
      | some left, _ => read? (column + 1) (.hex left 0) cs
      | none, some meant =>
        (read? (column + 1) (.gap .empty) cs).map fun (text, rest) => (meant :: text, rest)
      | none, none => none
  | column, .hex left value, c :: cs => do
    let value := 16 * value + (← hexValue? c)
    if left ≤ 1 then
      let meant ← charOfCode? value
      (read? (column + 1) (.gap .empty) cs).map fun (text, rest) => (meant :: text, rest)
    else read? (column + 1) (.hex (left - 1) value) cs
  | column, .gap g, c :: cs =>
    if isBlank c then read? (column + 1) (.gap (g.addBlank c)) cs
    else if isBreak c then read? 0 (.gap (g.addBreak c)) cs
    else if g.isOpen && column = 0 && atDocumentMark (c :: cs) then none
    else if c = '"' then some (g.fold, cs)
    else if c = '\\' then
      (read? (column + 1) .escape cs).map fun (text, rest) => (g.fold ++ text, rest)
    else
      (read? (column + 1) (.gap .empty) cs).map fun (text, rest) => (g.fold ++ c :: text, rest)

/-- A hexadecimal digit in upper case. -/
def upperHex (n : Nat) : Char :=
  if n < 10 then Char.ofNat ('0'.toNat + n) else Char.ofNat ('A'.toNat + (n - 10))

/-- So many hexadecimal digits of a number, the last ones. -/
def hexText : (digits : Nat) → Nat → List Char
  | 0, _ => []
  | digits + 1, n => hexText digits (n / 16) ++ [upperHex (n % 16)]

/-- Whether a character has to be escaped. -/
def isEscaped (c : Char) : Bool :=
  !isPrintable c || isBreak c || c = '"' || c = '\\'

/-- A character after the backslash that escapes it. -/
def escape (c : Char) : List Char :=
  match letters.find? (·.2 = c) with
  | some (letter, _) => [letter]
  | none =>
    if c.toNat ≤ 0xFF then 'x' :: hexText 2 c.toNat
    else if c.toNat ≤ 0xFFFF then 'u' :: hexText 4 c.toNat
    else 'U' :: hexText 8 c.toNat

/-- A text within its quotation marks. -/
def body (text : List Char) : List Char :=
  text.flatMap fun c => if isEscaped c then '\\' :: escape c else [c]

/-- A text in double quotation marks. -/
def write (text : List Char) : List Char :=
  '"' :: body text ++ ['"']

end DoubleQuoted

end Waymark.Yaml
