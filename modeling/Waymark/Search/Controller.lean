import Waymark.Search.Session
import Waymark.Throttle

/-!
# Search controllers

A controller turns what is typed into a search box, and keys that are pressed, into actions on a
session. While nothing is searched, arrow keys move the selection; while a search is shown, the enter
key hands out jump keys if there are matches; and once there are jump keys the next key uses them up.
-/

namespace Waymark.Search

/-- Where an arrow key points. -/
inductive Direction
  | up | down | left | right
  deriving DecidableEq, Repr

/-- A key that is pressed. -/
inductive KeyPress
  | char (c : Char)
  | arrow (direction : Direction)
  | enter
  | escape
  deriving DecidableEq, Repr

/-- What is to be done after a key press. -/
inductive Action
  | none
  /-- Move the selection. -/
  | navigate (direction : Direction)
  /-- Go to an item. -/
  | jump (item : Handle)
  /-- The search has ended and the view is plain. -/
  | stopped
  deriving DecidableEq, Repr

/-- What a controller is about. -/
inductive ControllerState
  | navigating | searching | quickNav
  deriving DecidableEq, Repr

/-- A controller. -/
structure Controller where
  session : Option Session := none
  quickNav : Option JumpMap := none
  lastOutcome : SearchOutcome := {}
  throttle : Throttle
  deriving DecidableEq

namespace Controller

/-- The controller that lets an arrow key through every so many milliseconds. -/
def ofMillis (ms : Nat) : Controller := { throttle := .ofMillis ms }

/-- What the controller is about. -/
def state (c : Controller) : ControllerState :=
  match c.session, c.quickNav with
  | none, _ => .navigating
  | some _, none => .searching
  | some _, some _ => .quickNav

/-- End the search, if there is one. -/
def stop (c : Controller) (v : View) : Controller × View :=
  ({ c with session := none, quickNav := none, lastOutcome := {} },
    match c.session with
    | some s => s.teardown v
    | none => v)

/-- Take the text of the search box. Jump keys are given up, and no text ends the search. -/
def input (c : Controller) (v : View) (root : Handle) (text : String) :
    Controller × View × Option SearchOutcome :=
  match Query.ofInput? text with
  | none =>
    let (c, v) := c.stop v
    (c, v, none)
  | some query =>
    let (s, v, outcome) := match c.session with
      | some s => s.search v root query
      | none => Session.start v root query
    ({ c with session := some s, quickNav := none, lastOutcome := outcome }, v, some outcome)

/-- Take a key that is pressed at a time. -/
def press (c : Controller) (v : View) (now : Nat) (key : KeyPress) :
    Controller × View × Action :=
  match c.session, c.quickNav with
  | some _, some jumps =>
    let target := match key with
      | .char k => jumps.get? k
      | _ => none
    let (c, v) := c.stop v
    (c, v, match target with
      | some item => .jump item
      | none => .stopped)
  | some s, none =>
    match key with
    | .enter =>
      if c.lastOutcome.foundAny then
        let (s, v, jumps) := s.assignJumpKeys v
        ({ c with session := some s, quickNav := some jumps }, v, .none)
      else (c, v, .none)
    | .escape =>
      let (c, v) := c.stop v
      (c, v, .stopped)
    | _ => (c, v, .none)
  | none, _ =>
    match key with
    | .arrow direction =>
      let (ready, throttle) := c.throttle.readyAt now
      ({ c with throttle := throttle }, v, if ready then .navigate direction else .none)
    | _ => (c, v, .none)

end Controller

end Waymark.Search
