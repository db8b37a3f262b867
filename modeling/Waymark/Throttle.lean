/-!
# Throttle

Events that come in quick succession are thinned out: after one is let through, others are held back
until an interval has passed. The first event always passes, and a clock that steps back counts as
one that stands still.
-/

namespace Waymark

/-- A gate for events. Times are in nanoseconds. -/
structure Throttle where
  interval : Nat
  /-- When an event was last let through. -/
  last : Option Nat := none
  deriving DecidableEq, Repr

namespace Throttle

/-- The throttle with an interval in milliseconds. -/
def ofMillis (ms : Nat) : Throttle := ⟨ms * 1000000, none⟩

/-- The interval in whole milliseconds. -/
def millis (t : Throttle) : Nat := t.interval / 1000000

/-- Whether an event at a time is let through, and the throttle after it. An event that is held back
leaves no trace. -/
def readyAt (t : Throttle) (now : Nat) : Bool × Throttle :=
  match t.last with
  | some last => if now - last < t.interval then (false, t) else (true, { t with last := some now })
  | none => (true, { t with last := some now })

/-- Forget the last event. -/
def reset (t : Throttle) : Throttle := { t with last := none }

end Throttle

end Waymark
