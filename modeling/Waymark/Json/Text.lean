import Waymark.Json.Basic

/-!
# JSON text

The compact text of a value: no spaces, fields in the order given, and of all characters only the
quotation mark, the backslash and the control characters escaped.
-/

namespace Waymark.Json

/-- A hexadecimal digit in lower case. -/
def hexDigit (n : Nat) : Char := (Nat.digitChar n)

/-- A character as it stands inside quotation marks. -/
def escapeChar (c : Char) : List Char :=
  match c with
  | '"' => ['\\', '"']
  | '\\' => ['\\', '\\']
  | '\n' => ['\\', 'n']
  | '\r' => ['\\', 'r']
  | '\t' => ['\\', 't']
  | '\x08' => ['\\', 'b']
  | '\x0C' => ['\\', 'f']
  | c =>
    if c.toNat < 32 then
      ['\\', 'u', '0', '0', hexDigit (c.toNat / 16), hexDigit (c.toNat % 16)]
    else [c]

/-- A text in quotation marks. -/
def quoted (s : String) : List Char :=
  '"' :: s.toList.flatMap escapeChar ++ ['"']

mutual

/-- The compact text of a value. -/
def chars : Json → List Char
  | .null => "null".toList
  | .bool b => (if b then "true" else "false").toList
  | .int n => (toString n).toList
  | .decimal mantissa places => (toString mantissa ++ "e-" ++ toString places).toList
  | .str s => quoted s
  | .arr items => '[' :: itemChars items ++ [']']
  | .obj fields => '{' :: fieldChars fields ++ ['}']

/-- The items of a list with commas between them. -/
def itemChars : List Json → List Char
  | [] => []
  | [item] => item.chars
  | item :: items => item.chars ++ ',' :: itemChars items

/-- The fields of an object with commas between them. -/
def fieldChars : List (String × Json) → List Char
  | [] => []
  | [(name, value)] => quoted name ++ ':' :: value.chars
  | (name, value) :: fields => quoted name ++ ':' :: value.chars ++ ',' :: fieldChars fields

end

/-- The compact text of a value. -/
def text (j : Json) : String := String.ofList j.chars

end Waymark.Json
