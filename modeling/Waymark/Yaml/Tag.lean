import Waymark.Yaml.Char

/-!
# Tags

A tag is written in full between angle brackets, or as a handle and the rest of it, where the handle
stands for a text that a directive gave to it. A tag is a sequence of octets, some of which may be
written as a percent sign and two digits.
-/

namespace Waymark.Yaml

/-- A tag, or a part of one. -/
abbrev Tag := List UInt8

/-- A tag as it stands in a text. -/
structure WrittenTag where
  /-- The handle with its exclamation marks, empty for a tag that is written in full. -/
  handle : List Char
  rest : Tag
  deriving DecidableEq, Repr

namespace Tag

/-- The tag of an ASCII text. -/
def ofAscii (s : String) : Tag :=
  s.toList.map fun c => UInt8.ofNat c.toNat

/-- The tag that says that a tag was left open. -/
def nonSpecific : Tag := ofAscii "!"

/-- The tag of truth values. -/
def bool : Tag := ofAscii "tag:yaml.org,2002:bool"

/-- The tag of whole numbers. -/
def int : Tag := ofAscii "tag:yaml.org,2002:int"

/-- What the handles stand for unless a directive says otherwise. -/
def defaultHandles : List (List Char × Tag) :=
  [(['!'], ofAscii "!"), (['!', '!'], ofAscii "tag:yaml.org,2002:")]

/-- Whether a tag may hold the character as it is. The last three may only be in a tag that is written
in full. -/
def isUriChar (inFull : Bool) (c : Char) : Bool :=
  isWord c
    || [';', '/', '?', ':', '@', '&', '=', '+', '$', '.', '!', '~', '*', '\'', '(', ')'].contains c
    || inFull && [',', '[', ']'].contains c

/-- How many octets follow the first octet of a character in UTF-8. -/
def following? (octet : Nat) : Option Nat :=
  if octet < 0x80 then some 0
  else if octet / 0x20 = 0x6 then some 1
  else if octet / 0x10 = 0xE then some 2
  else if octet / 0x08 = 0x1E then some 3
  else none

/-- Read the longest part of a tag. `left` octets of a character are still to come. -/
def readUri? (inFull : Bool) : (left : Nat) → List Char → Option (Tag × List Char)
  | left, [] => if left = 0 then some ([], []) else none
  | left, '%' :: high :: low :: cs => do
    let octet := 16 * (← hexValue? high) + (← hexValue? low)
    let left ← if left = 0 then following? octet
      else if octet / 0x40 = 0x2 then some (left - 1) else none
    let (uri, rest) ← readUri? inFull left cs
    return (UInt8.ofNat octet :: uri, rest)
  | left, c :: cs =>
    if c = '%' || left ≠ 0 then none
    else if isUriChar inFull c then
      (readUri? inFull 0 cs).map fun (uri, rest) => (UInt8.ofNat c.toNat :: uri, rest)
    else some ([], c :: cs)

/-- Read a part of a tag that is not empty. A zero octet ends it early. -/
def readNonempty? (inFull : Bool) (cs : List Char) : Option (Tag × List Char) := do
  let (uri, rest) ← readUri? inFull 0 cs
  if uri.isEmpty then none
  return (uri.takeWhile (· ≠ 0), rest)

/-- Read a tag after its first exclamation mark. -/
def readBody? (cs : List Char) : Option (WrittenTag × List Char) :=
  match cs with
  | '<' :: cs => do
    let (uri, rest) ← readNonempty? true cs
    match rest with
    | '>' :: rest => return (⟨[], uri⟩, rest)
    | _ => none
  | cs =>
    let name := cs.takeWhile isWord
    match cs.dropWhile isWord with
    | '!' :: cs => do
      let (uri, rest) ← readNonempty? false cs
      return (⟨'!' :: name ++ ['!'], uri⟩, rest)
    | cs => do
      let (uri, rest) ← readUri? false 0 cs
      let whole := (ofAscii (String.ofList name) ++ uri).takeWhile (· ≠ 0)
      return (if whole.isEmpty then ⟨[], nonSpecific⟩ else ⟨['!'], whole⟩, rest)

/-- Read a tag after its first exclamation mark. A gap must follow it, or a comma in a flow
collection. -/
def read? (inFlow : Bool) (cs : List Char) : Option (WrittenTag × List Char) := do
  let (tag, rest) ← readBody? cs
  if atGap rest || inFlow && rest.head? = some ',' then return (tag, rest) else none

/-- Read the name of an anchor. A gap or a sign that cannot go on with the name must follow it. -/
def readAnchor? (cs : List Char) : Option (List Char × List Char) :=
  let rest := cs.dropWhile isWord
  let ends := atGap rest || rest.head?.any ['?', ':', ',', ']', '}', '%', '@', '\x60'].contains
  if (cs.takeWhile isWord).isEmpty || !ends then none else some (cs.takeWhile isWord, rest)

/-- What a tag stands for, given what the handles stand for. -/
def resolve? (handles : List (List Char × Tag)) (tag : WrittenTag) : Option Tag :=
  if tag.handle.isEmpty then some tag.rest
  else ((handles ++ defaultHandles).lookup tag.handle).map (· ++ tag.rest)

end Tag

/-- A line that says something about the document that follows. -/
inductive Directive
  | version (major minor : Nat)
  | handle (name : List Char) (tag : Tag)
  deriving DecidableEq, Repr

namespace Directive

/-- Read a number of at most nine digits. -/
def readNumber? (cs : List Char) : Option (Nat × List Char) :=
  let digits := cs.takeWhile Char.isDigit
  if digits.isEmpty || 9 < digits.length then none
  else some (digits.foldl (fun n c => 10 * n + (c.toNat - '0'.toNat)) 0, cs.dropWhile Char.isDigit)

/-- Read a version. -/
def readVersion? (cs : List Char) : Option (Directive × List Char) := do
  let (major, cs) ← readNumber? cs
  match cs with
  | '.' :: cs => do
    let (minor, rest) ← readNumber? cs
    return (.version major minor, rest)
  | _ => none

/-- Read a handle and what it stands for. -/
def readHandle? (cs : List Char) : Option (Directive × List Char) :=
  match cs with
  | '!' :: cs => do
    let name := cs.takeWhile isWord
    let (written, cs) ← match cs.dropWhile isWord with
      | '!' :: cs => some ('!' :: name ++ ['!'], cs)
      | cs => if name.isEmpty then some (['!'], cs) else none
    if !cs.head?.any isBlank then none
    let (tag, rest) ← Tag.readNonempty? true (cs.dropWhile isBlank)
    if atGap rest then return (.handle written tag, rest) else none
  | _ => none

/-- Read a directive after the percent sign, to the end of its line. -/
def read? (cs : List Char) : Option (Directive × List Char) := do
  let name := cs.takeWhile isWord
  let after := cs.dropWhile isWord
  if !atGap after then none
  let (directive, rest) ←
    if name = ['Y', 'A', 'M', 'L'] then readVersion? (after.dropWhile isBlank)
    else if name = ['T', 'A', 'G'] then readHandle? (after.dropWhile isBlank)
    else none
  return (directive, ← endLine? rest)

end Directive

end Waymark.Yaml
