import Waymark.Forest
import Waymark.Search.Emphasis
import Waymark.Search.View

/-!
# Snapshots

A snapshot copies the part of a view that is searched: a forest with one tree, in which an item that is
shared in the view occurs once for each way to it. Matching changes the snapshot alone; `renderWrites`
and `keyWrites` say what the view has to show afterwards, and `plainWrites` what it shows without a
search.
-/

namespace Waymark.Search

/-- What is known about a node in one respect. -/
inductive MatchState
  | unknown | matched | unmatched
  deriving DecidableEq, Repr

/-- The state of something that has been decided. -/
def MatchState.ofBool (b : Bool) : MatchState := if b then .matched else .unmatched

/-- Whether the state is that of a match. -/
def MatchState.isMatched (s : MatchState) : Bool := s == .matched

/-- How a node was judged. -/
inductive Evaluation
  /-- It had been rejected before. -/
  | memoized
  /-- It was rejected for its kind or for want of a label. -/
  | rejected
  /-- The predicate was run. -/
  | evaluated (matched : Bool)
  deriving DecidableEq, Repr

/-- Whether the predicate was run and matched. -/
def Evaluation.matched (e : Evaluation) : Bool := e == .evaluated true

/-- A node of a snapshot. -/
structure SnapshotNode where
  handle : Handle
  label : String
  kind : Option String
  selfMatch : MatchState := .unknown
  descendantMatch : MatchState := .unknown
  /-- The part of the label to emphasise. -/
  highlight : Option ByteRange := none
  key : Option Char := none
  deriving DecidableEq, Repr

namespace SnapshotNode

/-- Whether a search has reached the node. -/
def isWalked (n : SnapshotNode) : Bool :=
  n.selfMatch != .unknown || n.descendantMatch != .unknown

/-- The label with its highlight emphasised. -/
def markup (n : SnapshotNode) : String :=
  emphasise n.label n.highlight

/-- Whether the kind filter lets the node pass. -/
def hasKind (n : SnapshotNode) (kindFilter : Option String) : Bool :=
  kindFilter.all fun kind => n.kind == some kind

/-- Judge the node itself. One that was rejected stays rejected and the predicate is not run. -/
def judge (n : SnapshotNode) (p : Predicate) (kindFilter : Option String) :
    SnapshotNode × Evaluation :=
  if n.selfMatch = .unmatched then (n, .memoized)
  else if !n.hasKind kindFilter || n.label.isEmpty then
    ({ n with selfMatch := .unmatched, highlight := none }, .rejected)
  else
    let found := p.find? n.label
    ({ n with selfMatch := .ofBool found.isSome, highlight := found }, .evaluated found.isSome)

/-- What the item has to show once the node has been judged. -/
def matchWrites (n : SnapshotNode) : List Write :=
  [.matched n.handle n.selfMatch.isMatched,
    .descendantMatched n.handle n.descendantMatch.isMatched,
    .markup n.handle n.markup]

/-- What the item shows without a search. -/
def plainWrites (n : SnapshotNode) : List Write :=
  [.matched n.handle false, .descendantMatched n.handle false, .markup n.handle n.label,
    .key n.handle none]

end SnapshotNode

/-- The copied part of a view. -/
abbrev Snapshot := Forest SnapshotNode

namespace Snapshot

/-- The node of an item that has not been searched. -/
def freshNode (v : View) (h : Handle) : SnapshotNode :=
  { handle := h, label := v.label h, kind := v.kind h }

/-- Copy an item and everything below it. No item is below itself, so no tree is higher than the
number of items, an unknown one at the bottom included. -/
def build (v : View) (root : Handle) : Snapshot :=
  Forest.unfold (freshNode v) v.children (v.items.size + 1) [root]

/-- The number of the first node that copies an item. -/
def find? (m : Snapshot) (h : Handle) : Option Nat :=
  m.preorder.findIdx? fun n => n.handle == h

/-- What the nodes that a search has reached have to show, except for their keys. -/
def renderWrites (m : Snapshot) : List Write :=
  (m.preorder.filter SnapshotNode.isWalked).flatMap SnapshotNode.matchWrites

/-- The keys of the nodes that a search has reached. -/
def keyWrites (m : Snapshot) : List Write :=
  (m.preorder.filter SnapshotNode.isWalked).map fun n => .key n.handle n.key

/-- What all items of the snapshot show without a search. -/
def plainWrites (m : Snapshot) : List Write :=
  m.preorder.flatMap SnapshotNode.plainWrites

/-- Show what a search has found. -/
def render (m : Snapshot) (v : View) : View := v.writeAll m.renderWrites

/-- Show the jump keys. -/
def renderKeys (m : Snapshot) (v : View) : View := v.writeAll m.keyWrites

/-- Undo everything that the snapshot has made the view show. Nothing is left of the snapshot. -/
def teardown (m : Snapshot) (v : View) : Snapshot × View := (.nil, v.writeAll m.plainWrites)

end Snapshot

end Waymark.Search
