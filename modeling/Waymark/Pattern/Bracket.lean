import Waymark.Pattern.Escape

/-!
# Bracketed classes

A class in brackets lists characters, ranges and other classes, may nest, and may combine what stands
on its left with what stands on its right by `&&`, `--` and `~~`, from left to right. The reader keeps
the brackets and operators it is inside of on a stack.
-/

namespace Waymark.Pattern

namespace Bracket

/-- What has been listed since the last bracket or operator. -/
structure Listing where
  accept : CharClass := fun _ => false
  count : Nat := 0
  height : Nat := 0

/-- List one more item, which nests `height` levels deep. -/
def Listing.add (l : Listing) (item : CharClass) (height : Nat) : Listing :=
  ⟨fun c => l.accept c || item c, l.count + 1, Nat.max l.height height⟩

/-- Levels of nesting of the listing as a whole. -/
def Listing.depth (l : Listing) : Nat :=
  if l.count ≤ 1 then l.height else l.height + 1

/-- How two classes are combined. -/
inductive Operator
  | intersection | difference | symmetricDifference
  deriving DecidableEq, Repr

/-- The combination of two classes. -/
def Operator.apply : Operator → CharClass → CharClass → CharClass
  | .intersection, a, b => fun c => a c && b c
  | .difference, a, b => fun c => a c && !b c
  | .symmetricDifference, a, b => fun c => a c != b c

/-- What the reader is inside of: a bracket, with what is listed outside it, or the right side of an
operator. -/
inductive Frame
  | bracket (outer : Listing) (negated : Bool)
  | operator (op : Operator) (left : CharClass) (height : Nat)

/-- A class that has been read. -/
structure Result where
  accept : CharClass
  /-- Number of items listed, as an estimate of its size. -/
  count : Nat
  height : Nat
  rest : List Char

/-- One character or escape of a class. -/
def readAtom (flags : Flags) : List Char → Option (Atom × List Char)
  | [] => none
  | '\\' :: rest => Escape.read flags rest
  | c :: rest => some (.char c false, rest)

/-- Without Unicode a class may list ASCII characters only. -/
def allowed (flags : Flags) (c : Char) : Bool :=
  flags.unicode || c.toNat < 128

/-- The class of an atom that stands alone. -/
def itemClass? (flags : Flags) : Atom → Option CharClass
  | .char c _ => if allowed flags c then some (CharClass.single c) else none
  | .cls accept _ => some accept
  | .look _ => none

/-- The class of the range between two atoms, which have to be characters. -/
def rangeClass? (flags : Flags) : Atom → Atom → Option CharClass
  | .char lo _, .char hi _ =>
    if lo ≤ hi && allowed flags lo && allowed flags hi then some (CharClass.range lo hi) else none
  | _, _ => none

/-- An item of a class: an atom, or a range if a hyphen follows that is neither the last sign of the
class nor half of an operator. -/
def readItem (flags : Flags) (cs : List Char) : Option (CharClass × List Char) := do
  let (first, rest) ← readAtom flags cs
  match flags.skip rest with
  | [] => none
  | '-' :: more =>
    let next := flags.peekAfter more
    if next = some ']' ∨ next = some '-' then
      return (← itemClass? flags first, '-' :: more)
    else
      match flags.skip more with
      | [] => none
      | more =>
        let (last, rest) ← readAtom flags more
        return (← rangeClass? flags first last, rest)
  | rest => return (← itemClass? flags first, rest)

/-- A named ASCII class such as `[:alpha:]` or `[:^digit:]`, after its first bracket. Anything else
is read as a nested class. -/
def readNamed? (flags : Flags) (cs : List Char) : Option (CharClass × List Char) := do
  let ':' :: cs := cs | none
  let (negated, cs) := match cs with
    | '^' :: rest => (true, rest)
    | _ => (false, cs)
  let name := cs.takeWhile (· != ':')
  let ':' :: ']' :: rest := cs.dropWhile (· != ':') | none
  let cls ← CharClass.ascii? (String.ofList name)
  return (Escape.finish flags negated cls, rest)

/-- Hyphens at the start of a class stand for themselves. -/
def leadingHyphens (flags : Flags) (l : Listing) (cs : List Char) : Listing × List Char :=
  match cs with
  | '-' :: rest => leadingHyphens flags (l.add (CharClass.single '-') 0) (flags.skip rest)
  | cs => (l, cs)
termination_by cs.length
decreasing_by exact Nat.lt_succ_of_le (flags.length_skip_le rest)

/-- Open a class, after its bracket: whether it is negated, and what its first signs list. A closing
bracket in the first place stands for itself. -/
def openClass (flags : Flags) (cs : List Char) : Option (Bool × Listing × List Char) := do
  let (negated, cs) := match flags.skip cs with
    | '^' :: rest => (true, flags.skip rest)
    | cs => (false, cs)
  let (listing, cs) := leadingHyphens flags {} cs
  match cs with
  | [] => none
  | ']' :: rest =>
    if listing.count = 0 then
      let rest := flags.skip rest
      if rest.isEmpty then none
      else return (negated, listing.add (CharClass.single ']') 0, rest)
    else return (negated, listing, cs)
  | cs => return (negated, listing, cs)

/-- Apply the operator that waits for its right side, if there is one. -/
def applyOperator (flags : Flags) (accept : CharClass) (height : Nat) (stack : List Frame) :
    CharClass × Nat × List Frame :=
  match stack with
  | .operator op left leftHeight :: stack =>
    (op.apply (Escape.applyCase flags left) (Escape.applyCase flags accept),
      Nat.max leftHeight height + 1, stack)
  | stack => (accept, height, stack)

/-- An operator at the front of a text. -/
def readOperator? : List Char → Option (Operator × List Char)
  | '&' :: '&' :: rest => some (.intersection, rest)
  | '-' :: '-' :: rest => some (.difference, rest)
  | '~' :: '~' :: rest => some (.symmetricDifference, rest)
  | _ => none

/-- Read on inside a class until the bracket that was opened first is closed. -/
def readInside (flags : Flags) (stack : List Frame) (listing : Listing) (total : Nat)
    (cs : List Char) : Option Result :=
  match flags.skip cs with
  | [] => none
  | '[' :: rest =>
    match readNamed? flags rest with
    | some (cls, rest) =>
      if _ : rest.length < cs.length then
        readInside flags stack (listing.add cls 0) (total + 1) rest
      else none
    | none =>
      match openClass flags rest with
      | none => none
      | some (negated, inner, rest) =>
        if _ : rest.length < cs.length then
          readInside flags (.bracket listing negated :: stack) inner (total + 1) rest
        else none
  | ']' :: rest =>
    match applyOperator flags listing.accept listing.depth stack with
    | (accept, height, .bracket outer negated :: stack) =>
      let accept := Escape.finish flags negated accept
      if stack.isEmpty then some ⟨accept, total, height + 1, rest⟩
      else if _ : rest.length < cs.length then
        readInside flags stack (outer.add accept (height + 1)) total rest
      else none
    | _ => none
  | cs' =>
    match readOperator? cs' with
    | some (op, rest) =>
      let (left, height, stack) := applyOperator flags listing.accept listing.depth stack
      if _ : rest.length < cs.length then
        readInside flags (.operator op left height :: stack) {} total rest
      else none
    | none =>
      match readItem flags cs' with
      | none => none
      | some (cls, rest) =>
        if _ : rest.length < cs.length then
          readInside flags stack (listing.add cls 0) (total + 1) rest
        else none
termination_by cs.length

/-- Read a class, after its first bracket. Without Unicode it must keep to ASCII in the end. -/
def read (flags : Flags) (cs : List Char) : Option Result := do
  let (negated, listing, rest) ← openClass flags cs
  let result ← readInside flags [.bracket {} negated] listing 0 rest
  if !flags.unicode && result.accept '\u0080' then none
  return result

end Bracket

end Waymark.Pattern
