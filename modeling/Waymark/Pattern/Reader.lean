import Waymark.Pattern.Bracket
import Waymark.Pattern.Expr

/-!
# Reading the parts of a pattern

The text of a pattern is read from left to right, one part at a time. The reader keeps the parts of
the alternative it is in, the alternatives before it, and the groups around it.
-/

namespace Waymark.Pattern

open Waymark.Unicode

/-- A part of an alternative: an expression, or a flag directive, which matches nothing and cannot be
repeated. `height` counts the levels of nesting. -/
structure Item where
  expr : Option Expr
  height : Nat

/-- Items one after the other, given in reverse. -/
structure Alternative where
  items : List Item := []

namespace Alternative

/-- Add a part at the end. -/
def add (a : Alternative) (item : Item) : Alternative := ⟨item :: a.items⟩

/-- What the alternative says. -/
def expr (a : Alternative) : Expr :=
  Expr.catAll (a.items.reverse.filterMap Item.expr)

/-- The deepest of some levels of nesting. -/
def deepest (heights : List Nat) : Nat := heights.foldl Nat.max 0

/-- Levels of nesting: a sequence of two or more parts is a level of its own. -/
def height (a : Alternative) : Nat :=
  deepest (a.items.map Item.height) + (if a.items.length ≤ 1 then 0 else 1)

end Alternative

/-- What a group holds so far: the alternative being read and those before it, in reverse. -/
structure Body where
  current : Alternative := {}
  earlier : List Alternative := []

namespace Body

/-- Add a part to the alternative being read. -/
def add (b : Body) (item : Item) : Body := { b with current := b.current.add item }

/-- Begin the next alternative. -/
def next (b : Body) : Body := ⟨{}, b.current :: b.earlier⟩

/-- All alternatives joined. -/
def close (b : Body) : Item :=
  let height := Alternative.deepest ((b.current :: b.earlier).map Alternative.height)
  match b.earlier.reverse with
  | [] => ⟨some b.current.expr, height⟩
  | first :: more =>
    ⟨some (Expr.altAll first.expr ((more ++ [b.current]).map Alternative.expr)), height + 1⟩

end Body

/-- A group that has been opened: its name, the flags to go back to, and what stands before it. -/
structure Opened where
  name : Option String
  flags : Flags
  outer : Body

/-- Where the reader stands. -/
structure Reading where
  flags : Flags
  body : Body := {}
  groups : List Opened := []
  names : List String := []

namespace Reading

/-- Add a part that stands for an expression. -/
def push (r : Reading) (e : Expr) (height : Nat) : Reading :=
  { r with body := r.body.add ⟨some e, height⟩ }

/-- The expression of one character, up to case as the flags say. -/
def literal (flags : Flags) (c : Char) : Expr :=
  let accept : CharClass :=
    if !flags.ignoreCase then CharClass.single c
    else if flags.unicode then fun d => sameUpToCase d c
    else fun d => d == c || d == CharClass.swapAsciiCase c
  .one accept c.utf8Size

/-- The expression of an atom outside brackets. Without Unicode, neither bytes that are no
character nor classes beyond ASCII are allowed. -/
def atom? (flags : Flags) : Atom → Option Expr
  | .char c asByte =>
    if asByte && !flags.unicode && 128 ≤ c.toNat then none else some (literal flags c)
  | .cls accept cost =>
    if !flags.unicode && accept '\u0080' then none else some (.one accept cost)
  | .look l => some (.look l)

/-- The expression of a dot. -/
def dot? (flags : Flags) : Option Expr :=
  if !flags.unicode then none
  else if flags.dotAll then some (.one (fun _ => true) 23)
  else if flags.anyLineEnd then some (.one (fun c => c != '\n' && c != '\r') 25)
  else some (.one (fun c => c != '\n') 24)

/-- The condition of a caret. -/
def caret (flags : Flags) : Look :=
  if !flags.multiLine then .textStart else if flags.anyLineEnd then .anyLineStart else .lineStart

/-- The condition of a dollar sign. -/
def dollar (flags : Flags) : Look :=
  if !flags.multiLine then .textEnd else if flags.anyLineEnd then .anyLineEnd else .lineEnd

/-- Repeat the last part, which has to be an expression. -/
def repeatLast? (r : Reading) (min : Nat) (max : Option Nat) (greedy : Bool) : Option Reading :=
  match r.body.current.items with
  | ⟨some e, height⟩ :: items =>
    let repeated := Expr.repeated e min max (greedy != r.flags.swapGreed)
    some { r with body := { r.body with current := ⟨⟨some repeated, height + 1⟩ :: items⟩ } }
  | _ => none

/-- A question mark after a repetition makes it prefer fewer rounds. -/
def readGreedy : List Char → Bool × List Char
  | '?' :: rest => (false, rest)
  | cs => (true, cs)

/-- Decimal digits, with space skipped after each. -/
def readDigits (flags : Flags) (cs : List Char) : List Char × List Char :=
  match cs with
  | [] => ([], [])
  | c :: rest =>
    if c.isDigit then
      let (digits, rest) := readDigits flags (flags.skip rest)
      (c :: digits, rest)
    else ([], cs)
termination_by cs.length
decreasing_by exact Nat.lt_succ_of_le (flags.length_skip_le rest)

/-- Skip white space, and after each of it what means nothing. -/
def skipBlanks (flags : Flags) (cs : List Char) : List Char :=
  match cs with
  | [] => []
  | c :: rest => if isBlank c then skipBlanks flags (flags.skip rest) else cs
termination_by cs.length
decreasing_by exact Nat.lt_succ_of_le (flags.length_skip_le rest)

/-- The value of decimal digits. -/
def decimalValue (digits : List Char) : Nat :=
  digits.foldl (fun value c => 10 * value + (c.toNat - '0'.toNat)) 0

/-- A decimal number of at most 32 bits, with white space around it. -/
def readDecimal (flags : Flags) (cs : List Char) : Option (Nat × List Char) :=
  let (digits, rest) := readDigits flags (cs.dropWhile isBlank)
  if digits.isEmpty || UInt32.size ≤ decimalValue digits then none
  else some (decimalValue digits, skipBlanks flags rest)

/-- A count in braces, after the opening brace: its bounds and whether it is greedy. -/
def readCount (flags : Flags) (cs : List Char) :
    Option (Nat × Option Nat × Bool × List Char) := do
  let (min, rest) ← readDecimal flags (flags.skip cs)
  let (max, rest) ← match rest with
    | ',' :: rest =>
      match flags.skip rest with
      | [] => none
      | '}' :: rest => some (none, '}' :: rest)
      | rest => (readDecimal flags rest).map fun (max, rest) => (some max, rest)
    | rest => some (some min, rest)
  let '}' :: rest := rest | none
  if max.any (· < min) then none
  let (greedy, rest) := readGreedy (flags.skip rest)
  return (min, max, greedy, rest)

/-- Letters that a group name may begin with. -/
def isNameStart (c : Char) : Bool :=
  c == '_' || c.isAlpha || (128 ≤ c.toNat && wordTraits.head?.any (·.has c))

/-- Numbers of all kinds. -/
def numberRanges : List CodeRanges := rangesNamed categories ["nd", "nl", "no"]

/-- Characters that a group name may go on with. -/
def isNamePart (c : Char) : Bool :=
  isNameStart c || c == '.' || c == '[' || c == ']' || numberRanges.any (·.has c)

/-- A group name and the angle that closes it. -/
def readName (cs : List Char) : Option (String × List Char) := do
  let name := cs.takeWhile (· != '>')
  let '>' :: rest := cs.dropWhile (· != '>') | none
  match name with
  | [] => none
  | c :: more =>
    if isNameStart c && more.all isNamePart then return (String.ofList name, rest) else none

/-- Flag letters up to a colon or a closing parenthesis. A letter may occur once, and so may the
hyphen, which turns the letters after it off and may not come last. -/
def readFlags (flags : Flags) (on : Bool) (used : List Char) :
    List Char → Option (Flags × Bool × List Char)
  | [] => none
  | ':' :: rest => if used.head? = some '-' then none else some (flags, used.isEmpty, ':' :: rest)
  | ')' :: rest => if used.head? = some '-' then none else some (flags, used.isEmpty, ')' :: rest)
  | c :: rest =>
    if used.contains c then none
    else if c = '-' then readFlags flags false (c :: used) rest
    else (flags.set? on c).bind fun flags => readFlags flags on (c :: used) rest

/-- Open a group. -/
def openGroup (r : Reading) (name : Option String) (flags : Flags) : Reading :=
  { r with flags := flags, body := {}, groups := ⟨name, r.flags, r.body⟩ :: r.groups }

/-- Close the innermost group. -/
def closeGroup? (r : Reading) : Option Reading :=
  match r.groups with
  | [] => none
  | ⟨name, flags, outer⟩ :: groups =>
    let inner := r.body.close
    let expr := match name, inner.expr with
      | some name, some e => some (Expr.group name e)
      | _, e => e
    some { r with flags := flags, groups := groups, body := outer.add ⟨expr, inner.height + 1⟩ }

/-- Open a named group, after the angle before its name. No name may be used twice. -/
def openNamed? (r : Reading) (cs : List Char) : Option (Reading × List Char) := do
  let (name, rest) ← readName cs
  if r.names.contains name then none
  return ({ r with names := name :: r.names }.openGroup (some name) r.flags, rest)

/-- What an opening parenthesis begins: a group or a flag directive. Looking around is not part of
the language. -/
def readGroup (r : Reading) (cs : List Char) : Option (Reading × List Char) :=
  match r.flags.skip cs with
  | '?' :: '=' :: _ | '?' :: '!' :: _ | '?' :: '<' :: '=' :: _ | '?' :: '<' :: '!' :: _ => none
  | '?' :: 'P' :: '<' :: rest => r.openNamed? rest
  | '?' :: '<' :: rest => r.openNamed? rest
  | '?' :: rest => do
    let (flags, unchanged, rest) ← readFlags r.flags true [] rest
    match rest with
    | ':' :: rest => return (r.openGroup none flags, rest)
    | _ :: rest =>
      if unchanged then none
      else return ({ r with flags := flags, body := r.body.add ⟨none, 0⟩ }, rest)
    | [] => none
  | rest => some (r.openGroup none r.flags, rest)

/-- Read the part that begins with a character. -/
def step (r : Reading) (c : Char) (rest : List Char) : Option (Reading × List Char) :=
  let pushed (e : Option Expr) (height : Nat) (rest : List Char) : Option (Reading × List Char) :=
    e.map fun e => (r.push e height, rest)
  let repeated (min : Nat) (max : Option Nat) : Option (Reading × List Char) :=
    let (greedy, rest) := readGreedy rest
    (r.repeatLast? min max greedy).map fun r => (r, rest)
  match c with
  | '(' => r.readGroup rest
  | ')' => r.closeGroup?.map fun r => (r, rest)
  | '|' => some ({ r with body := r.body.next }, rest)
  | '[' => do
    let cls ← Bracket.read r.flags rest
    pushed (some (.one cls.accept (2 * cls.count + 2))) cls.height cls.rest
  | '?' => repeated 0 (some 1)
  | '*' => repeated 0 none
  | '+' => repeated 1 none
  | '{' => do
    let (min, max, greedy, rest) ← readCount r.flags rest
    let r ← r.repeatLast? min max greedy
    return (r, rest)
  | '\\' => do
    let (atom, rest) ← Escape.read r.flags rest
    pushed (atom? r.flags atom) 0 rest
  | '.' => pushed (dot? r.flags) 0 rest
  | '^' => pushed (some (.look (caret r.flags))) 0 rest
  | '$' => pushed (some (.look (dollar r.flags))) 0 rest
  | c => pushed (some (literal r.flags c)) 0 rest

end Reading

end Waymark.Pattern
