import Waymark.Proofs.Pattern.Remainder

/-!
# Reading patterns

A pattern is read part by part until nothing of its text is left. A text that is not well formed, is
nested too deeply or says too much has no reading.
-/

namespace Waymark.Pattern

namespace Reading

/-- Read to the end of the pattern. -/
def run (r : Reading) (cs : List Char) : Option Reading :=
  match _ : r.flags.skip cs with
  | [] => some r
  | c :: rest =>
    match _ : r.step c rest with
    | none => none
    | some (r, rest) => r.run rest
termination_by cs.length
decreasing_by exact length_lt_of_step ‹_› ‹_›

theorem run_eq (r : Reading) (cs : List Char) :
    r.run cs = match r.flags.skip cs with
      | [] => some r
      | c :: rest => (r.step c rest).bind fun next => next.1.run next.2 := by
  rw [run]
  split
  case h_1 hskip => rw [hskip]
  case h_2 c rest hskip =>
      rw [hskip]
      dsimp only
      split
      case h_1 hstep => rw [hstep, Option.bind_none]
      case h_2 r' more hstep => rw [hstep, Option.bind_some]

/-- The deepest nesting a pattern may have. -/
def maxHeight : Nat := 250

/-- The largest size of a pattern with its repetitions written out: ten mebibytes, if a state of the
matcher takes 32 bytes. -/
def maxCost : Nat := 327680

/-- What the pattern says, once all groups are closed and if it is neither too deep nor too large. -/
def result? (r : Reading) : Option Expr :=
  if r.groups.isEmpty then
    let whole := r.body.close
    match whole.expr with
    | none => none
    | some e => if whole.height ≤ maxHeight && e.cost ≤ maxCost then some e else none
  else none

end Reading

/-- What a pattern says, if it is well formed. -/
def Expr.read? (flags : Flags) (text : List Char) : Option Expr :=
  (Reading.run { flags := flags } text).bind Reading.result?

end Waymark.Pattern
