/-!
# JSON values

Values that outlines are written as and that preferences and spans are read from. A number is kept as
an integer or, if it was written with a fraction, as an integer and the number of decimal places.
-/

namespace Waymark

/-- A JSON value. -/
inductive Json
  | null
  | bool (b : Bool)
  | int (n : Int)
  | decimal (mantissa : Int) (places : Nat)
  | str (s : String)
  | arr (items : List Json)
  | obj (fields : List (String × Json))
  deriving Inhabited

namespace Json

/-- The natural number of a value. -/
def nat (n : Nat) : Json := .int n

/-- The field of an object. -/
def field? (name : String) : Json → Option Json
  | .obj fields => fields.lookup name
  | _ => none

/-- A value that is a whole number of at most 64 bits. -/
def word? : Json → Option UInt64
  | .int (.ofNat n) => if h : n < UInt64.size then some (UInt64.ofNatLT n h) else none
  | _ => none

/-- A value that is a truth value. -/
def bool? : Json → Option Bool
  | .bool b => some b
  | _ => none

/-- A value that is a text. -/
def str? : Json → Option String
  | .str s => some s
  | _ => none

/-- A value that is a list of texts. -/
def strs? : Json → Option (List String)
  | .arr items => items.mapM str?
  | _ => none

end Json

end Waymark
