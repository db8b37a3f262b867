import Waymark.Marker.Token
import Waymark.Text.Line

/-!
# Pairing regions

The lines of a text are gone through in order. Starts wait on a stack. An end with a name closes the
latest waiting start of that name, and an end without one closes the latest start; an end that finds
none is passed over, and so is a start that is never closed. A start or a tag without a name declares
nothing.

A parse can be cancelled. That is looked at before every line, and takes effect once the matcher has
been called a given number of times.
-/

namespace Waymark

/-- A tag, or a start that waits for its end. -/
structure Tag where
  key : Token
  name : Token
  description : Option Token
  /-- The whole line. -/
  line : Span
  deriving DecidableEq, Repr

/-- A start with its end. -/
structure Region where
  key : Token
  keyEnd : Token
  name : Token
  /-- The name on the end line, if there is one. -/
  nameEnd : Option Token
  description : Option Token
  /-- The whole start line. -/
  start : Span
  /-- The whole end line. -/
  stop : Span
  deriving DecidableEq, Repr

/-- The regions in the order of their ends, and the tags in order. -/
structure ParsedRegions where
  regions : List Region := []
  tags : List Tag := []
  deriving DecidableEq, Repr

/-- When a parse is to stop: after so many more calls of the matcher, or never. -/
structure Cancellation where
  callsLeft : Option Nat := none
  deriving DecidableEq, Repr

namespace Cancellation

/-- A parse that is never cancelled. -/
def never : Cancellation := ⟨none⟩

/-- A parse that is cancelled from the start. -/
def already : Cancellation := ⟨some 0⟩

/-- Whether the parse is to stop now. -/
def isTripped (c : Cancellation) : Bool := c.callsLeft == some 0

/-- The cancellation after some calls of the matcher. -/
def spend (c : Cancellation) (calls : Nat) : Cancellation := ⟨c.callsLeft.map (· - calls)⟩

end Cancellation

/-- What has been found so far. -/
structure Pairing where
  /-- Starts without an end, the latest first. -/
  unpaired : List Tag := []
  parsed : ParsedRegions := {}
  deriving DecidableEq, Repr

namespace Pairing

/-- Whether an end of a given name, or of none, can close a start. -/
def closes (name : Option Token) (start : Tag) : Bool :=
  name.all fun name => start.name.text == name.text

/-- The region made of a start and the line of its end. -/
def region (start : Tag) (found : LineMatch) (line : Span) : Region :=
  { key := start.key, keyEnd := found.key, name := start.name, nameEnd := found.name
    description := start.description, start := start.line, stop := line }

/-- Take what a line declares into account. -/
def feed (s : Pairing) (found : LineMatch) (line : Span) : Pairing :=
  match found.kind, found.name with
  | .regionStart, some name =>
    { s with unpaired := ⟨found.key, name, found.description, line⟩ :: s.unpaired }
  | .tag, some name =>
    { s with parsed.tags := s.parsed.tags ++ [⟨found.key, name, found.description, line⟩] }
  | .regionStart, none => s
  | .tag, none => s
  | .regionEnd, name =>
    match s.unpaired.find? (closes name) with
    | none => s
    | some start =>
      { unpaired := s.unpaired.eraseP (closes name)
        parsed.regions := s.parsed.regions ++ [region start found line]
        parsed.tags := s.parsed.tags }

end Pairing

/-- How a parse ended. -/
inductive ParseOutcome
  /-- It was cancelled before a line. -/
  | cancelled (line lineCount : Nat)
  /-- It came to the end, with some starts left without an end. -/
  | complete (parsed : ParsedRegions) (lineCount dropped : Nat)
  deriving DecidableEq, Repr

namespace ParseOutcome

/-- The result of a parse that came to the end. -/
def parsed? : ParseOutcome → Option ParsedRegions
  | .cancelled _ _ => none
  | .complete parsed _ _ => some parsed

/-- What is logged of a parse that was cancelled. -/
def cancelledText (line lineCount : Nat) : String :=
  "Region parse cancelled at line " ++ toString line ++ "/" ++ toString lineCount

end ParseOutcome

/-- A parse with the number of times it called the matcher. -/
structure ParseRun where
  calls : Nat
  outcome : ParseOutcome
  deriving DecidableEq, Repr

namespace ParseRun

/-- Go on from a line. -/
def resume (matchLine : String → Nat → Option LineMatch) (cancel : Cancellation) (lineCount : Nat) :
    (i calls : Nat) → Pairing → List String → ParseRun
  | _, calls, s, [] => ⟨calls, .complete s.parsed lineCount s.unpaired.length⟩
  | i, calls, s, line :: rest =>
    if (cancel.spend calls).isTripped then ⟨calls, .cancelled i lineCount⟩
    else if Text.isBlankLine line.toList then
      resume matchLine cancel lineCount (i + 1) calls s rest
    else
      let s := match matchLine line i with
        | none => s
        | some found => s.feed found (.onLine i 0 line.toList.length)
      resume matchLine cancel lineCount (i + 1) (calls + 1) s rest

/-- Parse the lines of a text. -/
def ofLines {μ : Type} [MatchesLines μ] (matcher : μ) (cancel : Cancellation)
    (lines : List String) : ParseRun :=
  resume (MatchesLines.matchLine matcher) cancel lines.length 0 0 {} lines

end ParseRun

end Waymark
