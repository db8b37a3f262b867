import Waymark.Search.Snapshot

/-!
# Search sessions

A session owns a snapshot and the last query. A query that only narrows the last one is run on the same
snapshot, where nodes that were rejected are passed over; for any other the snapshot is taken anew.
-/

namespace Waymark.Search

/-- Work done by one walk over a snapshot. -/
structure SearchStats where
  /-- Nodes on which the predicate was run. -/
  evaluated : Nat := 0
  /-- Nodes that were rejected without running it. -/
  skipped : Nat := 0
  deriving DecidableEq, Repr

namespace SearchStats

instance : Add SearchStats := ⟨fun a b => ⟨a.evaluated + b.evaluated, a.skipped + b.skipped⟩⟩

/-- The work of judging one node. -/
def ofEvaluation : Evaluation → SearchStats
  | .evaluated _ => ⟨1, 0⟩
  | .memoized | .rejected => ⟨0, 1⟩

end SearchStats

/-- What a search has come to. -/
structure SearchOutcome where
  /-- Whether some node matched. -/
  foundAny : Bool := false
  /-- Whether the snapshot was taken for this search. -/
  rebuilt : Bool := false
  stats : SearchStats := {}
  deriving DecidableEq, Repr

/-- The result of a walk over part of a snapshot. -/
structure Walk where
  forest : Snapshot
  /-- Whether a node in it matched. -/
  found : Bool
  stats : SearchStats
  deriving DecidableEq

/-- Judge every node. All that is below a node is judged before it. -/
def Snapshot.walk (p : Predicate) (kindFilter : Option String) : Snapshot → Walk
  | .nil => ⟨.nil, false, {}⟩
  | .node n below after =>
    let inside := Snapshot.walk p kindFilter below
    let (n, evaluation) :=
      { n with descendantMatch := .ofBool inside.found }.judge p kindFilter
    let behind := Snapshot.walk p kindFilter after
    ⟨.node n inside.forest behind.forest, evaluation.matched || inside.found || behind.found,
      inside.stats + .ofEvaluation evaluation + behind.stats⟩

/-- Jump keys in the order they are handed out. -/
def jumpKeys : String := "1234567890abcdefghijklmnopqrstuvwxyzABCDEFGHIJKLMNOPQRSTUVWXYZ"

/-- Jump keys with their items, in the order they were handed out. -/
structure JumpMap where
  entries : List (Char × Handle) := []
  deriving DecidableEq, Repr

namespace JumpMap

/-- The item of a key. -/
def get? (m : JumpMap) (key : Char) : Option Handle :=
  m.entries.lookup key

/-- Number of keys. -/
def size (m : JumpMap) : Nat := m.entries.length

/-- Whether no key was handed out. -/
def isEmpty (m : JumpMap) : Bool := m.entries.isEmpty

end JumpMap

/-- Hand out keys to matched nodes in pre-order, as long as there are any, and only go below nodes that
have a match below them. The result is the snapshot with its keys, the entries made, and the keys left. -/
def Snapshot.assignKeys : (keys : List Char) → Snapshot → Snapshot × List (Char × Handle) × List Char
  | keys, .nil => (.nil, [], keys)
  | keys, .node n below after =>
    let key := if n.selfMatch = .matched then keys.head? else none
    let keys := if n.selfMatch = .matched then keys.tail else keys
    let (below, inside, keys) :=
      if n.descendantMatch = .matched then Snapshot.assignKeys keys below else (below, [], keys)
    let (after, behind, keys) := Snapshot.assignKeys keys after
    (.node { n with key := key } below after,
      (key.map fun k => (k, n.handle)).toList ++ inside ++ behind, keys)

/-- One live search over a view. -/
structure Session where
  snapshot : Snapshot
  query : Query
  foundAny : Bool := false
  deriving DecidableEq

namespace Session

/-- Run the query of the session on its snapshot and show the result. Keys handed out before are taken
back. -/
def run (s : Session) (v : View) : Session × View × SearchOutcome :=
  let walk := match s.query.compile? with
    | some p => s.snapshot.walk p s.query.kindFilter
    | none => ⟨s.snapshot, false, {}⟩
  let snapshot := walk.forest.map fun n => { n with key := none }
  ({ s with snapshot := snapshot, foundAny := walk.found },
    snapshot.renderKeys (snapshot.render v),
    { foundAny := walk.found, stats := walk.stats })

/-- Copy a view below an item and run the first query. -/
def start (v : View) (root : Handle) (query : Query) : Session × View × SearchOutcome :=
  let (s, v, outcome) := run { snapshot := .build v root, query := query } v
  (s, v, { outcome with rebuilt := true })

/-- Run another query. If it narrows the last one the snapshot is kept, otherwise the view is made plain
and copied anew. -/
def search (s : Session) (v : View) (root : Handle) (query : Query) :
    Session × View × SearchOutcome :=
  if query.narrows s.query then run { s with query := query } v
  else
    let (_, v) := s.snapshot.teardown v
    let (s, v, outcome) := run { s with snapshot := .build v root, query := query } v
    (s, v, { outcome with rebuilt := true })

/-- Hand out jump keys and show them. -/
def assignJumpKeys (s : Session) (v : View) : Session × View × JumpMap :=
  let (snapshot, entries, _) := s.snapshot.assignKeys jumpKeys.toList
  ({ s with snapshot := snapshot }, snapshot.renderKeys v, ⟨entries⟩)

/-- End the session; the view is plain again. -/
def teardown (s : Session) (v : View) : View :=
  (s.snapshot.teardown v).2

end Session

end Waymark.Search
