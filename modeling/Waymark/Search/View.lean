/-!
# Outline views

A view shows the items of an outline. Each item has a label, perhaps a kind, and items below it, and it
shows what a search has found: two flags, the label with emphasis, and a jump key. An item is known by
its place in the view. Items may be shared, but none may be below itself.
-/

namespace Waymark.Search

/-- An item of a view, by its place. -/
abbrev Handle := Nat

/-- What a search shows on an item. -/
structure Display where
  matched : Bool := false
  descendantMatched : Bool := false
  markup : String
  key : Option Char := none
  deriving DecidableEq, Repr

/-- An item with what it shows. -/
structure ViewItem where
  label : String
  kind : Option String := none
  children : List Handle := []
  display : Display := { markup := label }
  deriving DecidableEq, Repr

/-- A change to what an item shows. -/
inductive Write
  | matched (item : Handle) (value : Bool)
  | descendantMatched (item : Handle) (value : Bool)
  | markup (item : Handle) (text : String)
  | key (item : Handle) (value : Option Char)
  deriving DecidableEq, Repr

namespace Write

/-- The item that is changed. -/
def item : Write → Handle
  | matched item _ | descendantMatched item _ | markup item _ | key item _ => item

/-- What the item shows after the change. -/
def apply : Write → Display → Display
  | matched _ value, d => { d with matched := value }
  | descendantMatched _ value, d => { d with descendantMatched := value }
  | markup _ text, d => { d with markup := text }
  | key _ value, d => { d with key := value }

end Write

/-- The items of an outline and all changes made to what they show, in order. -/
structure View where
  items : Array ViewItem
  writes : Array Write := #[]
  deriving DecidableEq, Repr

namespace View

/-- An item that is not in the view is blank and has nothing below it. -/
def item (v : View) (h : Handle) : ViewItem :=
  v.items.getD h { label := "" }

/-- The label of an item. -/
def label (v : View) (h : Handle) : String := (v.item h).label

/-- The kind of an item. -/
def kind (v : View) (h : Handle) : Option String := (v.item h).kind

/-- The items below an item, in order. -/
def children (v : View) (h : Handle) : List Handle := (v.item h).children

/-- What an item shows. -/
def display (v : View) (h : Handle) : Display := (v.item h).display

/-- Make one change and note it. -/
def write (v : View) (w : Write) : View :=
  { items := v.items.modify w.item fun i => { i with display := w.apply i.display }
    writes := v.writes.push w }

/-- Make changes in order. -/
def writeAll (v : View) (ws : List Write) : View :=
  ws.foldl write v

/-- Change an item itself. -/
def edit (v : View) (h : Handle) (f : ViewItem → ViewItem) : View :=
  { v with items := v.items.modify h f }

/-- Give an item another label, which it shows plainly. -/
def setLabel (v : View) (h : Handle) (label : String) : View :=
  v.edit h fun i => { i with label := label, display := { i.display with markup := label } }

/-- Give an item another kind. -/
def setKind (v : View) (h : Handle) (kind : Option String) : View :=
  v.edit h fun i => { i with kind := kind }

/-- Put other items below an item. -/
def setChildren (v : View) (h : Handle) (children : List Handle) : View :=
  v.edit h fun i => { i with children := children }

/-- Add an item as the last one below another. -/
def add (v : View) (parent : Handle) (label : String) (kind : Option String) : View :=
  let added := { v with items := v.items.push { label := label, kind := kind } }
  added.edit parent fun i => { i with children := i.children ++ [v.items.size] }

end View

end Waymark.Search
