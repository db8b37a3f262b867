import Waymark.Text.ColumnSet
import Waymark.Pattern.Look

/-!
# Matching

A pattern is compiled to a `Node`, and a node turns a list of threads, the preferred one first, into
the list of the threads that have also matched the node, again in order of preference. The meaning
is compositional: `seq` composes the two maps, and what a thread can still do depends on its column
only, so of two threads that have come to one column the later can be dropped. That keeps lists
short, whatever the pattern.

Repetition must not run in circles without taking characters. A body that can match the empty text
carries gates, which stop a thread that comes to a choice twice at one place.
-/

namespace Waymark.Pattern

open Waymark.Text

/-- A compiled pattern. -/
inductive Node
  /-- Matches the empty text. -/
  | empty
  /-- Takes one acceptable character. -/
  | one (accept : Char → Bool)
  /-- Holds at the place. -/
  | look (at_ : Look)
  /-- Notes the edge of a group. -/
  | mark (m : Mark)
  /-- Lets each thread through once between two characters. -/
  | gate (label : List Nat)
  /-- One after the other. -/
  | seq (first second : Node)
  /-- Either, the first preferred. -/
  | alt (preferred other : Node)
  /-- Any number of times; greedy prefers more. -/
  | star (greedy : Bool) (body : Node)
  /-- At most `limit` times; greedy prefers more. -/
  | upTo (limit : Nat) (greedy : Bool) (body : Node)

/-- Keep the first thread of each column that is not in `seen`. -/
def firstPerColumnAfter (seen : ColumnSet) : List Thread → List Thread
  | [] => []
  | t :: ts =>
    if seen.has t.column then firstPerColumnAfter seen ts
    else t :: firstPerColumnAfter (seen.insert t.column) ts

/-- Keep the first thread of each column. -/
def firstPerColumn (ts : List Thread) : List Thread :=
  firstPerColumnAfter .empty ts

/-- Go through threads in order, collecting what each gives and the columns left behind. -/
def collect (visit : Thread → ColumnSet → List Thread × ColumnSet) :
    List Thread → ColumnSet → List Thread × ColumnSet
  | [], seen => ([], seen)
  | t :: ts, seen =>
    let (here, seen) := visit t seen
    let (more, seen) := collect visit ts seen
    (here ++ more, seen)

/-- Repeat `step` from a thread, not coming twice to one column. A round that takes no character
ends the repetition, so `room`, the length of what is left, bounds the rounds. -/
def rounds (step : Thread → List Thread) (greedy : Bool) :
    (room : Nat) → Thread → ColumnSet → List Thread × ColumnSet
  | room, t, seen =>
    if seen.has t.column then ([], seen)
    else
      match room with
      | 0 => ([t], seen.insert t.column)
      | room + 1 =>
        let onward := (step t).filter fun next => next.rest.length < t.rest.length
        let (again, seen) := collect (rounds step greedy room) onward (seen.insert t.column)
        (if greedy then again ++ [t] else t :: again, seen)

/-- Repeat `step` from a thread at most `left` times more. A thread that comes to a column with as
many rounds left as an earlier one is dropped; `seen` keeps column and rounds in one number. -/
def climbs (step : Thread → List Thread) (greedy : Bool) (limit : Nat) :
    (left : Nat) → Thread → ColumnSet → List Thread × ColumnSet
  | 0, t, seen => ([t], seen)
  | left + 1, t, seen =>
    let place := t.column * (limit + 1) + left
    if seen.has place then ([], seen)
    else
      let (again, seen) := collect (climbs step greedy limit left) (step t) (seen.insert place)
      (if greedy then again ++ [t] else t :: again, seen)

/-- The threads that have also matched the node, the preferred one first. -/
def Node.run : Node → List Thread → List Thread
  | .empty, ts => ts
  | .one accept, ts => ts.filterMap (Thread.advance? accept)
  | .look l, ts => ts.filter l.holds
  | .mark m, ts => ts.map (Thread.cross m)
  | .gate label, ts => ts.filterMap (Thread.pass? label)
  | .seq first second, ts => second.run (first.run ts)
  | .alt preferred other, ts =>
    firstPerColumn (ts.flatMap fun t => preferred.run [t] ++ other.run [t])
  | .star greedy body, ts =>
    (collect (fun t => rounds (fun s => body.run [s]) greedy t.rest.length t) ts .empty).1
  | .upTo limit greedy body, ts =>
    firstPerColumn
      (collect (climbs (fun s => body.run [s]) greedy limit limit) ts .empty).1

end Waymark.Pattern
