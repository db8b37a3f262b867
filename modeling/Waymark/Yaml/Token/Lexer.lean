import Waymark.Position
import Waymark.Yaml.Scalar.Block
import Waymark.Yaml.Scalar.Plain
import Waymark.Yaml.Scalar.Quoted
import Waymark.Yaml.Token

/-!
# The tokens of a text

A text is read from left to right. Whether something is a key shows only at the colon after it, so
the last place where a key may have begun is remembered, and the tokens that begin a key and a mapping
are put there afterwards. A key lies on one line and is at most 1024 characters long.
-/

namespace Waymark.Yaml

/-- The place after some characters. -/
def advance (p : Position) (cs : List Char) : Position :=
  cs.foldl (fun p c => if isBreak c then ⟨p.line + 1, 0⟩ else ⟨p.line, p.column + 1⟩) p

@[simp] theorem advance_nil (p : Position) : advance p [] = p := rfl

theorem advance_append (p : Position) (xs ys : List Char) :
    advance p (xs ++ ys) = advance (advance p xs) ys := by
  simp [advance]

/-- A place where a key may have begun. -/
structure PossibleKey where
  /-- How many tokens come before it. -/
  before : Nat
  place : Position
  /-- Whether there must be a key: nothing else can begin where a key of the innermost block mapping
  would. -/
  required : Bool
  deriving DecidableEq, Repr

namespace PossibleKey

/-- Whether the key, if it is one, is too long at a place. -/
def isStale (k : PossibleKey) (here : Position) : Bool :=
  k.place.line < here.line || k.place.column + 1024 < here.column

end PossibleKey

/-- How far the tokens of a text are known. -/
structure Lexer where
  rest : List Char
  place : Position := ⟨0, 0⟩
  /-- The columns of the open block collections, innermost first. -/
  columns : List Nat := []
  /-- Whether a key may begin here. -/
  keyAllowed : Bool := true
  possibleKey : Option PossibleKey := none
  /-- The possible keys that the open flow collections are part of, innermost first. -/
  outerKeys : List (Option PossibleKey) := []
  /-- The tokens so far, last first. -/
  tokens : List Token := []
  deriving Repr

namespace Lexer

/-- The beginning of a text. A byte order mark is passed over. -/
def ofText : List Char → Lexer
  | '\uFEFF' :: cs => { rest := cs, place := ⟨0, 1⟩ }
  | cs => { rest := cs }

/-- Whether a flow collection is open. -/
def inFlow (l : Lexer) : Bool :=
  !l.outerKeys.isEmpty

/-- The column of the innermost block collection, if there is one. -/
def column? (l : Lexer) : Option Nat :=
  l.columns.head?

/-- Go on to what is left of the text. -/
def moveTo (l : Lexer) (rest : List Char) : Lexer :=
  { l with rest := rest, place := advance l.place (l.rest.take (l.rest.length - rest.length)) }

/-- Add a token. -/
def emit (l : Lexer) (t : Token) : Lexer :=
  { l with tokens := t :: l.tokens }

/-- Add a token after the first `before` ones. -/
def insert (l : Lexer) (before : Nat) (t : Token) : Lexer :=
  let since := l.tokens.length - before
  { l with tokens := l.tokens.take since ++ t :: l.tokens.drop since }

/-- Pass over blanks, comments and breaks. Tabs are passed over only where nothing can depend on the
indentation. -/
def gapEnd (inFlow : Bool) : (inComment keyAllowed : Bool) → List Char → Bool × List Char
  | _, keyAllowed, [] => (keyAllowed, [])
  | inComment, keyAllowed, c :: cs =>
    if isBreak c then gapEnd inFlow false (keyAllowed || !inFlow) cs
    else if inComment || c = ' ' || c = '\t' && (inFlow || !keyAllowed) then
      gapEnd inFlow inComment keyAllowed cs
    else if c = '#' then gapEnd inFlow true keyAllowed cs
    else (keyAllowed, c :: cs)

/-- Pass over blanks, comments and breaks. -/
def skipGap (l : Lexer) : Lexer :=
  let (keyAllowed, rest) := gapEnd l.inFlow false l.keyAllowed l.rest
  { l.moveTo rest with keyAllowed := keyAllowed }

/-- Give up a possible key, which must not be required. -/
def dropKey? (l : Lexer) : Option Lexer :=
  if l.possibleKey.any (·.required) then none else some { l with possibleKey := none }

/-- Give up a possible key that has become too long. -/
def dropStaleKey? (l : Lexer) : Option Lexer :=
  if l.possibleKey.any (·.isStale l.place) then l.dropKey? else some l

/-- Remember that a key may begin here, if one may. -/
def noteKey? (l : Lexer) : Option Lexer :=
  if !l.keyAllowed then some l
  else do
    let l ← l.dropKey?
    return { l with possibleKey := some {
      before := l.tokens.length, place := l.place
      required := !l.inFlow && l.column? = some l.place.column } }

/-- Close the innermost block collections as long as they are at a column that `closes` accepts. -/
def closeWhile (closes : Nat → Bool) (l : Lexer) : Lexer :=
  if l.inFlow then l
  else
    let closed := l.columns.takeWhile closes
    { l with
      columns := l.columns.dropWhile closes
      tokens := List.replicate closed.length .blockEnd ++ l.tokens }

/-- Open a block collection at a column, unless the innermost one is there already or further right.
Its token stands after the first `before` ones, or is the last one. -/
def openAt (l : Lexer) (column : Nat) (t : Token) (before : Option Nat := none) : Lexer :=
  if l.inFlow || l.column?.any (column ≤ ·) then l
  else
    { l.insert (before.getD l.tokens.length) t with columns := column :: l.columns }

/-- Begin an item or a key or a value of a block collection here, where a key could begin too. -/
def openHere? (l : Lexer) (t : Token) : Option Lexer :=
  if l.inFlow then some l
  else if l.keyAllowed then some (l.openAt l.place.column t)
  else none

/-- Add a token that reaches to `rest`. -/
def take (l : Lexer) (t : Token) (rest : List Char) (keyAllowed : Bool) : Lexer :=
  { (l.emit t).moveTo rest with keyAllowed := keyAllowed }

/-- Close all block collections before a directive or the mark of a document. -/
def closeAll? (l : Lexer) : Option Lexer :=
  (l.closeWhile fun _ => true).dropKey?

/-- A flow collection begins. -/
def openFlow? (l : Lexer) (t : Token) (rest : List Char) : Option Lexer := do
  let l ← l.noteKey?
  let l := l.take t rest true
  return { l with outerKeys := l.possibleKey :: l.outerKeys, possibleKey := none }

/-- A flow collection ends. -/
def closeFlow? (l : Lexer) (t : Token) (rest : List Char) : Option Lexer := do
  let l ← l.dropKey?
  let l := l.take t rest false
  return { l with outerKeys := l.outerKeys.tail, possibleKey := l.outerKeys.head?.join }

/-- A dash begins an item. -/
def dash? (l : Lexer) (rest : List Char) : Option Lexer := do
  let l ← l.openHere? .blockSequenceStart
  return (← l.dropKey?).take .blockEntry rest true

/-- A question mark begins a key. -/
def key? (l : Lexer) (rest : List Char) : Option Lexer := do
  let l ← l.openHere? .blockMappingStart
  return (← l.dropKey?).take .key rest !l.inFlow

/-- A colon begins a value. If a key may have begun before, it did. -/
def value? (l : Lexer) (rest : List Char) : Option Lexer :=
  match l.possibleKey with
  | some k =>
    let l := (l.insert k.before .key).openAt k.place.column .blockMappingStart (some k.before)
    some ({ l with possibleKey := none }.take .value rest false)
  | none => do
    let l ← l.openHere? .blockMappingStart
    return l.take .value rest !l.inFlow

/-- A part of a node that may begin a key. -/
def nodePart? (l : Lexer) (t : Token) (rest : List Char) : Option Lexer := do
  return (← l.noteKey?).take t rest false

/-- A plain scalar. If it ends at the end of a line, a key may begin after it. -/
def plain? (l : Lexer) (cs : List Char) : Option Lexer := do
  let r ← Plain.read? l.inFlow (l.column?.elim 0 (· + 1)) l.place.column .empty cs
  return (← l.noteKey?).take (.scalar .plain r.text) r.rest r.broken

/-- A block scalar. -/
def block? (l : Lexer) (style : ScalarStyle) (cs : List Char) : Option Lexer := do
  let (text, rest) ← Block.read? (style = .folded) l.column? cs
  return (← l.dropKey?).take (.scalar style text) rest true

/-- Read the token that begins with `c`. -/
def readToken? (l : Lexer) (c : Char) (cs : List Char) : Option Lexer :=
  if l.place.column = 0 && c = '%' then do
    let (d, rest) ← Directive.read? cs
    return (← l.closeAll?).take (.directive d) rest false
  else if l.place.column = 0 && atDocumentMark (c :: cs) then do
    return (← l.closeAll?).take (if c = '-' then .documentStart else .documentEnd) (cs.drop 2) false
  else if c = '[' then l.openFlow? .flowSequenceStart cs
  else if c = '{' then l.openFlow? .flowMappingStart cs
  else if c = ']' then l.closeFlow? .flowSequenceEnd cs
  else if c = '}' then l.closeFlow? .flowMappingEnd cs
  else if c = ',' then do return (← l.dropKey?).take .flowEntry cs true
  else if c = '-' && atGap cs then l.dash? cs
  else if c = '?' && (l.inFlow || atGap cs) then l.key? cs
  else if c = ':' && (l.inFlow || atGap cs) then l.value? cs
  else if c = '*' then do
    let (name, rest) ← Tag.readAnchor? cs
    l.nodePart? (.alias name) rest
  else if c = '&' then do
    let (name, rest) ← Tag.readAnchor? cs
    l.nodePart? (.anchor name) rest
  else if c = '!' then do
    let (tag, rest) ← Tag.read? l.inFlow cs
    l.nodePart? (.tag tag) rest
  else if c = '|' && !l.inFlow then l.block? .literal cs
  else if c = '>' && !l.inFlow then l.block? .folded cs
  else if c = '\'' then do
    let (text, rest) ← SingleQuoted.read? (l.place.column + 1) .empty cs
    l.nodePart? (.scalar .singleQuoted text) rest
  else if c = '"' then do
    let (text, rest) ← DoubleQuoted.read? (l.place.column + 1) (.gap .empty) cs
    l.nodePart? (.scalar .doubleQuoted text) rest
  else if Plain.canStart l.inFlow (c :: cs) then l.plain? (c :: cs)
  else none

/-- The tokens of the whole text, if it is well formed. A token takes at least one character, so
reading comes to the end. -/
def tokens? (l : Lexer) : Option (List Token) :=
  match l.skipGap.dropStaleKey? with
  | none => none
  | some here =>
    let here := here.closeWhile (here.place.column < ·)
    match here.rest with
    | [] => here.closeAll?.map (·.tokens.reverse)
    | c :: cs =>
      match here.readToken? c cs with
      | none => none
      | some next => if next.rest.length < l.rest.length then next.tokens? else none
termination_by l.rest.length

end Lexer

/-- The tokens of a text, if it is well formed and holds only characters that are accepted. -/
def Token.ofText? (text : List Char) : Option (List Token) :=
  if text.all isAccepted then (Lexer.ofText (uniformBreaks text)).tokens? else none

end Waymark.Yaml
