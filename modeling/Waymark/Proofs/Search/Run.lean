import Waymark.Proofs.Forest
import Waymark.Proofs.Search.View
import Waymark.Proofs.Search.Walk

/-!
# Runs of a session

A session is searched again and again, hands out jump keys, and meanwhile the view it was started on
may change. What it holds after a search is nevertheless what one search on a fresh copy gives: a
snapshot that is kept reflects the last query on its source, and a narrower query makes it reflect that
query.
-/

namespace Waymark.Search

namespace Snapshot

open SnapshotNode

/-! ## Jump keys do not matter to a walk -/

/-- The snapshot without its jump keys. -/
def clearKeys (m : Snapshot) : Snapshot := m.map clearKey

theorem judge_clearKey (n : SnapshotNode) (p : Predicate) (kindFilter : Option String) :
    n.clearKey.judge p kindFilter =
      ((n.judge p kindFilter).1.clearKey, (n.judge p kindFilter).2) := by
  have hkind : n.clearKey.hasKind kindFilter = n.hasKind kindFilter := rfl
  simp only [judge, hkind]
  change (if n.selfMatch = .unmatched then _ else if _ || n.label.isEmpty then _ else _) = _
  split
  · rfl
  · split <;> rfl

theorem walk_clearKeys (p : Predicate) (kindFilter : Option String) (m : Snapshot) :
    (Snapshot.walk p kindFilter (clearKeys m)).forest =
        clearKeys (Snapshot.walk p kindFilter m).forest ∧
      (Snapshot.walk p kindFilter (clearKeys m)).found = (Snapshot.walk p kindFilter m).found := by
  induction m with
  | nil => exact ⟨rfl, rfl⟩
  | node n below after ihb iha =>
      obtain ⟨hforestB, hfoundB⟩ := ihb
      obtain ⟨hforestA, hfoundA⟩ := iha
      have hclear : ∀ d, ({ n.clearKey with descendantMatch := d } : SnapshotNode) =
          clearKey { n with descendantMatch := d } := fun _ => rfl
      have hnode : clearKeys (.node n below after) =
          .node n.clearKey (clearKeys below) (clearKeys after) := rfl
      rw [hnode]
      simp only [Snapshot.walk, hforestB, hfoundB, hforestA, hfoundA, hclear, judge_clearKey]
      exact ⟨rfl, trivial⟩

theorem clearKeys_assignKeys (keys : List Char) (m : Snapshot) :
    clearKeys (m.assignKeys keys).1 = clearKeys m := by
  induction m generalizing keys with
  | nil => rfl
  | node n below after ihb iha =>
      have hnode : ∀ m m' : Snapshot, clearKeys m = clearKeys below → clearKeys m' = clearKeys after →
          ∀ key, clearKeys (.node { n with key := key } m m') = clearKeys (.node n below after) := by
        intro m m' hm hm' key
        change Forest.node n.clearKey (clearKeys m) (clearKeys m') = _
        rw [hm, hm']
        rfl
      have hinside : ∀ keys, clearKeys (if n.descendantMatch = .matched then
          assignKeys keys below else (below, [], keys)).1 = clearKeys below := by
        intro keys
        split
        · exact ihb keys
        · rfl
      simp only [assignKeys]
      exact hnode _ _ (hinside _) (iha _) _

/-! ## One search -/

/-- The snapshot after a search that comes to all its nodes first. Nothing is searched for an empty
pattern. -/
def searched (q : Query) (m : Snapshot) : Snapshot :=
  match q.compile? with
  | some p => settle p q.kindFilter m
  | none => m

/-- Whether a search finds something in the snapshot. -/
def findsQuery (q : Query) (m : Snapshot) : Bool :=
  match q.compile? with
  | some p => finds p q.kindFilter m
  | none => false

theorem clearKeys_settle (p : Predicate) (kindFilter : Option String) (m : Snapshot) :
    clearKeys (settle p kindFilter m) = settle p kindFilter (clearKeys m) := by
  induction m with
  | nil => rfl
  | node n below after ihb iha =>
      have hfinds : finds p kindFilter (clearKeys below) = finds p kindFilter below := by
        simp only [finds, clearKeys, Forest.preorder_map, List.any_map]
        rfl
      change Forest.node (clearKey _) (clearKeys (settle p kindFilter below))
          (clearKeys (settle p kindFilter after)) =
        Forest.node (settled n.clearKey (.ofBool (finds p kindFilter (clearKeys below))) p kindFilter)
          (settle p kindFilter (clearKeys below)) (settle p kindFilter (clearKeys after))
      rw [ihb, iha, hfinds]
      rfl

/-- A node of a copy has not been searched. -/
theorem exists_handle_of_mem_build {v : View} {root : Handle} {n : SnapshotNode}
    (h : n ∈ (build v root).preorder) : ∃ i, n = freshNode v i :=
  Forest.exists_seed_of_mem_unfold h

theorem isOpen_build (v : View) (root : Handle) : IsOpen (build v root) := by
  intro n hn
  obtain ⟨i, rfl⟩ := exists_handle_of_mem_build hn
  simp [SnapshotNode.IsOpen, freshNode]

theorem clearKeys_build (v : View) (root : Handle) : clearKeys (build v root) = build v root := by
  apply Forest.map_id_of_forall
  intro n hn
  obtain ⟨i, rfl⟩ := exists_handle_of_mem_build hn
  rfl

end Snapshot

/-! ## One step of a session -/

namespace Session

open Snapshot

/-- The session after one search on a fresh snapshot. -/
def ofSource (q : Query) (m : Snapshot) : Session := ⟨searched q m, q, findsQuery q m⟩

/-- Apart from its jump keys, the session is what one search for its query on a fresh snapshot
gives. -/
structure Reflects (s : Session) (m : Snapshot) : Prop where
  snapshot_eq : clearKeys s.snapshot = searched s.query m
  foundAny_eq : s.foundAny = findsQuery s.query m

theorem run_of_compile?_some {s : Session} {p : Predicate} (v : View)
    (hp : s.query.compile? = some p) :
    (s.run v).1 = ⟨clearKeys (Snapshot.walk p s.query.kindFilter s.snapshot).forest, s.query,
      (Snapshot.walk p s.query.kindFilter s.snapshot).found⟩ := by
  simp [run, hp, clearKeys]
  rfl

theorem run_of_compile?_none {s : Session} (v : View) (hp : s.query.compile? = none) :
    (s.run v).1 = ⟨clearKeys s.snapshot, s.query, false⟩ := by
  simp [run, hp, clearKeys]
  rfl

/-- What a query comes to on a snapshot that no query has been run on, apart from jump keys. -/
theorem run_of_isOpen {s : Session} {m : Snapshot} (v : View) (hm : IsOpen m)
    (hs : clearKeys s.snapshot = m) : (s.run v).1 = ofSource s.query m := by
  cases hp : s.query.compile? with
  | none => simp [run_of_compile?_none v hp, ofSource, searched, findsQuery, hp, hs]
  | some p =>
      obtain ⟨hforest, hfound⟩ := walk_clearKeys p s.query.kindFilter s.snapshot
      obtain ⟨hforest', hfound'⟩ := walk_of_isOpen p s.query.kindFilter hm
      rw [hs] at hforest hfound
      rw [run_of_compile?_some v hp, ← hforest, ← hfound, hforest', hfound']
      simp [ofSource, searched, findsQuery, hp]

/-- A narrower query comes to what it would come to on the fresh snapshot. -/
theorem run_of_reflects {s : Session} {m : Snapshot} {q : Query} (v : View) (hm : IsOpen m)
    (hs : s.Reflects m) (hnarrows : q.Narrows s.query) (hq : q.Readable)
    (hprevious : s.query.Readable) : (run { s with query := q } v).1 = ofSource q m := by
  cases hp : s.query.compile? with
  | none =>
      have hsnapshot : clearKeys s.snapshot = m := by
        rw [hs.snapshot_eq, searched, hp]
      exact run_of_isOpen v hm hsnapshot
  | some p =>
      have hsnapshot : clearKeys s.snapshot = settle p s.query.kindFilter m := by
        rw [hs.snapshot_eq, searched, hp]
      cases hp' : q.compile? with
      | none =>
          rw [hnarrows.compile?_eq_none hp'] at hp
          cases hp
      | some p' =>
          have hwider : ∀ label, (p'.find? label).isSome = true → (p.find? label).isSome = true :=
            fun label hfound => hnarrows.isSome_find? hq hprevious hp hp' hfound
          obtain ⟨hforest, hfound⟩ := walk_clearKeys p' q.kindFilter s.snapshot
          obtain ⟨hforest', hfound'⟩ := walk_settle s.query.kindFilter m hwider
          rw [hsnapshot, ← hnarrows.kindFilter_eq] at hforest hfound
          rw [← hnarrows.kindFilter_eq] at hforest' hfound'
          rw [run_of_compile?_some v hp', ← hforest, ← hfound, hforest', hfound']
          simp [ofSource, searched, findsQuery, hp']

/-- A session just searched reflects its snapshot's source. -/
theorem reflects_ofSource (q : Query) {m : Snapshot} (hm : clearKeys m = m) :
    (ofSource q m).Reflects m := by
  refine ⟨?_, rfl⟩
  cases hp : q.compile? with
  | none => simp [ofSource, searched, hp, hm]
  | some p => simp [ofSource, searched, hp, clearKeys_settle, hm]

theorem start_fst (v : View) (root : Handle) (q : Query) :
    (start v root q).1 = ofSource q (build v root) :=
  run_of_isOpen v (isOpen_build v root) (clearKeys_build v root)

theorem assignJumpKeys_reflects {s : Session} {m : Snapshot} (v : View) (hs : s.Reflects m) :
    (s.assignJumpKeys v).1.Reflects m := by
  refine ⟨?_, hs.foundAny_eq⟩
  change clearKeys (s.snapshot.assignKeys jumpKeys.toList).1 = searched s.query m
  rw [clearKeys_assignKeys]
  exact hs.snapshot_eq

theorem search_of_narrows {s : Session} {q : Query} (v : View) (root : Handle)
    (h : q.narrows s.query = true) : s.search v root q = run { s with query := q } v := by
  simp [search, h]

/-- A query that narrows nothing makes the view plain and starts anew. -/
theorem search_of_not_narrows {s : Session} {q : Query} (v : View) (root : Handle)
    (h : q.narrows s.query = false) : s.search v root q = start (s.teardown v) root q := by
  simp only [search, h, Bool.false_eq_true, if_false]
  rfl

theorem sameItems_teardown (s : Session) (v : View) : v.SameItems (s.teardown v) :=
  View.sameItems_writeAll v s.snapshot.plainWrites

/-- A query that narrows nothing gives the session that would be started with it. -/
theorem search_fst_of_not_narrows {s : Session} {q : Query} (v : View) (root : Handle)
    (h : q.narrows s.query = false) : (s.search v root q).1 = ofSource q (build v root) := by
  rw [search_of_not_narrows v root h, start_fst, ← build_congr (s.sameItems_teardown v)]

end Session

end Waymark.Search
