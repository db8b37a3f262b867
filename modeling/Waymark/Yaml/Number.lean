import Waymark.Yaml.Char

/-!
# Numbers, truth values and nulls

Which texts a plain scalar must not be, because they would be read as something else: numbers, truth
values and nulls. Whole numbers may be hexadecimal, octal or binary, and one that begins with a needless
zero is a text, though it looks like a number.
-/

namespace Waymark.Yaml.Number

/-- The truth value that a text stands for. -/
def bool? (text : List Char) : Option Bool :=
  if ["true", "True", "TRUE"].contains (String.ofList text) then some true
  else if ["false", "False", "FALSE"].contains (String.ofList text) then some false
  else none

/-- Whether a text stands for no value. -/
def isNull (text : List Char) : Bool :=
  ["", "~", "null", "Null", "NULL"].contains (String.ofList text)

/-- Whether the character is a sign of a number. -/
def isSign (c : Char) : Bool :=
  c = '+' || c = '-'

/-- A text without the sign that it begins with. -/
def unsigned : List Char → List Char
  | c :: cs => if isSign c then cs else c :: cs
  | [] => []

/-- The number that digits stand for, at least one of them and all of them below the base. -/
def digits? (base : Nat) (text : List Char) : Option Nat :=
  if text.isEmpty then none
  else text.foldlM (fun n c => (hexValue? c).bind fun d => if d < base then some (base * n + d) else none) 0

/-- Whether a text is only digits, a sign apart, and the first of several is zero. -/
def hasNeedlessZero (text : List Char) : Bool :=
  match unsigned text with
  | '0' :: d :: ds => (d :: ds).all Char.isDigit
  | _ => false

/-- The base that the beginning of a number names, and its digits. -/
def based? : List Char → Option (Nat × List Char)
  | '0' :: 'x' :: ds => some (16, ds)
  | '0' :: 'o' :: ds => some (8, ds)
  | '0' :: 'b' :: ds => some (2, ds)
  | _ => none

/-- The number that a text stands for, if it is a whole number and not negative. -/
def nat? (text : List Char) : Option Nat :=
  let body := if text.head? = some '+' then text.tail else text
  match based? body with
  | some (base, ds) => digits? base ds
  | none => if hasNeedlessZero text then none else digits? 10 body

/-- The size of the negative number that a text stands for, if it names a base. -/
def negativeBased? : List Char → Option Nat
  | '-' :: cs => (based? cs).bind fun (base, ds) => digits? base ds
  | _ => none

/-- A decimal number: all its digits, and the exponent of ten that they are multiplied with. -/
structure Decimal where
  digits : List Char
  exponent : Int
  deriving DecidableEq, Repr

/-- Read the exponent of a number, which may be missing. -/
def exponent? : List Char → Option Int
  | [] => some 0
  | c :: cs =>
    if c = 'e' || c = 'E' then
      (digits? 10 (unsigned cs)).map fun n => if cs.head? = some '-' then -(n : Int) else n
    else none

/-- Read a decimal number without a sign. There must be a digit before the exponent. -/
def decimal? (text : List Char) : Option Decimal := do
  let whole := text.takeWhile Char.isDigit
  let rest := text.dropWhile Char.isDigit
  let (fraction, rest) := match rest with
    | '.' :: cs => (cs.takeWhile Char.isDigit, cs.dropWhile Char.isDigit)
    | cs => ([], cs)
  if whole.isEmpty && fraction.isEmpty then none
  return ⟨whole ++ fraction, (← exponent? rest) - fraction.length⟩

/-- The least number that is infinite when rounded to a binary number of 64 bits. -/
def leastInfinite : Nat := Nat.pow 2 1024 - Nat.pow 2 970

/-- Whether a decimal number stays finite when rounded to a binary number of 64 bits. The sizes at
which the number of digits settles the question are decided by it. -/
def Decimal.isFinite (d : Decimal) : Bool :=
  let digits := d.digits.dropWhile (· = '0')
  let size : Int := digits.length + d.exponent
  if digits.isEmpty || size ≤ 308 then true
  else if 309 < size then false
  else
    match digits? 10 digits with
    | none => true
    | some n =>
      n * Nat.pow 10 d.exponent.toNat < leastInfinite * Nat.pow 10 (-d.exponent).toNat

/-- Whether a text stands for a number with a fraction or an exponent, for an infinite one, or for what
is no number. -/
def isFloat (text : List Char) : Bool :=
  let body := if text.head? = some '+' then text.tail else text
  [".inf", ".Inf", ".INF"].contains (String.ofList body)
    || ["-.inf", "-.Inf", "-.INF", ".nan", ".NaN", ".NAN"].contains (String.ofList text)
    || (decimal? (unsigned text)).any Decimal.isFinite

/-- Whether a plain scalar with this text would be read as something else than a text. -/
def isTaken (text : List Char) : Bool :=
  isNull text || (bool? text).isSome || (nat? text).any (· < Nat.pow 2 128)
    || (negativeBased? text).any (· ≤ Nat.pow 2 127) || hasNeedlessZero text || isFloat text

end Waymark.Yaml.Number
