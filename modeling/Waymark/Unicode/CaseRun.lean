/-!
# Case mappings in runs

Most letters that change with case lie in runs that move together: `A` to `Z` by 32 places, or
every second letter of a block by one. A case mapping is kept as a list of such runs.
-/

namespace Waymark.Unicode

/-- The code points `lo`, `lo + step`, up to `hi`, sent in order to those from `image` on. -/
structure CaseRun where
  lo : Nat
  hi : Nat
  step : Nat
  image : Nat
  deriving DecidableEq

namespace CaseRun

/-- Where a run sends a code point. -/
def image? (run : CaseRun) (code : Nat) : Option Nat :=
  if run.lo ≤ code ∧ code ≤ run.hi ∧ (code - run.lo) % run.step = 0 then
    some (run.image + (code - run.lo))
  else none

/-- The code point that a run sends to the given one. -/
def source? (run : CaseRun) (code : Nat) : Option Nat :=
  if run.image ≤ code ∧ code ≤ run.image + (run.hi - run.lo)
      ∧ (code - run.image) % run.step = 0 then
    some (run.lo + (code - run.image))
  else none

/-- Where a mapping sends a code point; those in none of its runs stay. -/
def apply (runs : List CaseRun) (code : Nat) : Nat :=
  (runs.findSome? (·.image? code)).getD code

/-- All code points that a mapping moves to the given one. -/
def sources (runs : List CaseRun) (code : Nat) : List Nat :=
  runs.filterMap (·.source? code)

end CaseRun

end Waymark.Unicode
