import Waymark.Pattern.ClassName
import Waymark.Pattern.Flags

/-!
# Escapes

What a backslash and the characters after it stand for: a character, a class of characters, or a
condition on a place. Letters without a meaning are refused, so that they can gain one; ASCII signs
stand for themselves.
-/

namespace Waymark.Pattern

open Waymark.Unicode

/-- A part of a pattern that is not put together from smaller parts. -/
inductive Atom
  /-- A character; `asByte` when written as two hexadecimal digits. -/
  | char (c : Char) (asByte : Bool)
  /-- A class, with an estimate of the size of its description. -/
  | cls (accept : CharClass) (cost : Nat)
  | look (at_ : Look)

namespace Escape

/-- The signs that a pattern uses, each of which a backslash makes plain. -/
def isMeta (c : Char) : Bool :=
  ['\\', '.', '+', '*', '?', '(', ')', '|', '[', ']', '{', '}', '^', '$', '#', '&', '-', '~'].contains c

/-- Whether a backslash before the character makes it stand for itself. -/
def isPlain (c : Char) : Bool :=
  c.toNat < 128 && !c.isAlphanum && c != '<' && c != '>'

/-- Exactly `count` hexadecimal digits. -/
def fixedHex (flags : Flags) : (count : Nat) → (value : Nat) → List Char → Option (Nat × List Char)
  | 0, value, cs => some (value, cs)
  | count + 1, value, cs =>
    match cs with
    | [] => none
    | c :: rest =>
      (CodeRanges.hexDigit? c).bind fun d => fixedHex flags count (16 * value + d) (flags.skip rest)

/-- Hexadecimal digits up to a closing brace, with space skipped after each. -/
def bracedHex (flags : Flags) (cs : List Char) : Option (List Nat × List Char) :=
  match _h : flags.skip cs with
  | [] => none
  | c :: rest =>
    if c = '}' then some ([], flags.skip rest)
    else do
      let digit ← CodeRanges.hexDigit? c
      let (digits, rest) ← bracedHex flags rest
      return (digit :: digits, rest)
termination_by cs.length
decreasing_by exact Flags.length_lt_of_skip_eq_cons _h

/-- The character with a given code point, if there is one. -/
def charOf? (code : Nat) : Option Char :=
  if code.isValidChar then some (Char.ofNat code) else none

/-- A character by its code point, after the letter that tells the number of digits. -/
def hex (flags : Flags) (count : Nat) (cs : List Char) : Option (Atom × List Char) :=
  match flags.skip cs with
  | [] => none
  | '{' :: rest => do
    let (digits, rest) ← bracedHex flags rest
    if digits.isEmpty then none
    let c ← charOf? (digits.foldl (fun value digit => 16 * value + digit) 0)
    return (.char c false, rest)
  | cs => do
    let (code, rest) ← fixedHex flags count 0 cs
    let c ← charOf? code
    return (.char c (count == 2), rest)

/-- The text up to a closing brace, with space skipped after each character. -/
def braced (flags : Flags) (cs : List Char) : Option (List Char × List Char) :=
  match _h : flags.skip cs with
  | [] => none
  | c :: rest =>
    if c = '}' then some ([], rest)
    else do
      let (name, rest) ← braced flags rest
      return (c :: name, rest)
termination_by cs.length
decreasing_by exact Flags.length_lt_of_skip_eq_cons _h

/-- Split a text at the first place where a separator occurs. -/
def splitAt? (separator : List Char) : List Char → Option (List Char × List Char)
  | [] => none
  | c :: rest =>
    if separator.isPrefixOf (c :: rest) then some ([], (c :: rest).drop separator.length)
    else (splitAt? separator rest).map fun parts => (c :: parts.1, parts.2)

/-- The class a property expression names, and whether the expression says no to it. -/
def propertyClass? (name : List Char) : Option (CharClass × Bool) :=
  match splitAt? ['!', '='] name with
  | some (property, value) => (Property.byValue? property value).map (·, true)
  | none =>
    match (splitAt? [':'] name).orElse fun _ => splitAt? ['='] name with
    | some (property, value) => (Property.byValue? property value).map (·, false)
    | none => (Property.byName? name).map (·, false)

/-- A class up to case as the flags say. -/
def applyCase (flags : Flags) (cls : CharClass) : CharClass :=
  if flags.ignoreCase then
    if flags.unicode then CharClass.upToCase cls else CharClass.upToAsciiCase cls
  else cls

/-- A class up to case as the flags say, and then its complement if that is asked for. -/
def finish (flags : Flags) (negated : Bool) (cls : CharClass) : CharClass :=
  if negated then CharClass.compl (applyCase flags cls) else applyCase flags cls

/-- Estimated size of the description of a Unicode property. -/
def propertyCost : Nat := 600

/-- A class by a Unicode property. -/
def property (flags : Flags) (negated : Bool) (cs : List Char) : Option (Atom × List Char) := do
  let (name, rest) ←
    match flags.skip cs with
    | [] => none
    | '{' :: rest => braced flags rest
    | c :: rest => if c = '\\' then none else some ([c], flags.skip rest)
  if !flags.unicode then none
  let (cls, opposite) ← propertyClass? name
  return (.cls (finish flags (negated != opposite) cls) propertyCost, rest)

/-- Letters and hyphens, with space skipped after each. -/
def edgeName (flags : Flags) (cs : List Char) : List Char × List Char :=
  match cs with
  | [] => ([], [])
  | c :: rest =>
    if c.isAlpha || c == '-' then
      let (name, rest) := edgeName flags (flags.skip rest)
      (c :: name, rest)
    else ([], cs)
termination_by cs.length
decreasing_by exact Nat.lt_succ_of_le (flags.length_skip_le rest)

/-- A word edge in braces such as `{start}`. Braces that do not open with a letter or a hyphen are a
count and are left alone. -/
def wordEdge (flags : Flags) (cs : List Char) : Option (WordEdge × List Char) :=
  match cs with
  | '{' :: rest =>
    match flags.skip rest with
    | [] => none
    | c :: more =>
      if c.isAlpha || c == '-' then
        match edgeName flags (c :: more) with
        | (name, '}' :: rest) =>
          match String.ofList name with
          | "start" => some (.wordStart, rest)
          | "end" => some (.wordEnd, rest)
          | "start-half" => some (.startHalf, rest)
          | "end-half" => some (.endHalf, rest)
          | _ => none
        | _ => none
      else some (.boundary, cs)
  | _ => some (.boundary, cs)

/-- Estimated sizes of the descriptions of the classes of one letter. -/
def letterCost (flags : Flags) (c : Char) : Nat :=
  if !flags.unicode then 1
  else match c.toLower with
    | 'w' => 1500
    | 'd' => 400
    | _ => 55

/-- Read what follows a backslash. -/
def read (flags : Flags) (cs : List Char) : Option (Atom × List Char) :=
  match cs with
  | [] => none
  | c :: rest =>
    let cls (accept : CharClass) : Option (Atom × List Char) :=
      some (.cls accept (letterCost flags c), rest)
    let unicode := flags.unicode
    match c with
    | 'x' => hex flags 2 rest
    | 'u' => hex flags 4 rest
    | 'U' => hex flags 8 rest
    | 'p' => property flags false rest
    | 'P' => property flags true rest
    | 'd' => cls (CharClass.digit unicode)
    | 'D' => cls (CharClass.digit unicode).compl
    | 's' => cls (CharClass.space unicode)
    | 'S' => cls (CharClass.space unicode).compl
    | 'w' => cls (CharClass.word unicode)
    | 'W' => cls (CharClass.word unicode).compl
    | 'a' => some (.char '\x07' false, rest)
    | 'f' => some (.char '\x0C' false, rest)
    | 't' => some (.char '\t' false, rest)
    | 'n' => some (.char '\n' false, rest)
    | 'r' => some (.char '\r' false, rest)
    | 'v' => some (.char '\x0B' false, rest)
    | 'A' => some (.look .textStart, rest)
    | 'z' => some (.look .textEnd, rest)
    | 'b' => do
      let (edge, rest) ← wordEdge flags rest
      return (.look (.word edge unicode), rest)
    | 'B' => some (.look (.word .interior unicode), rest)
    | '<' => some (.look (.word .wordStart unicode), rest)
    | '>' => some (.look (.word .wordEnd unicode), rest)
    | c => if isPlain c then some (.char c false, rest) else none

end Escape

end Waymark.Pattern
