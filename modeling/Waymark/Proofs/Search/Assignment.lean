import Waymark.Proofs.Search.Controller
import Waymark.Proofs.Search.History

/-!
# Which matches get a jump key

Keys are handed out on the way through the snapshot, and what has no match is passed over. Along every
history a node with a match below it says so and only matches have keys, and then the way through the
snapshot comes to its pre-order: the matches get the keys in order, and no other node has one.
-/

namespace Waymark.Search

namespace Snapshot

/-! ## Matches in pre-order -/

/-- The nodes with a match, in pre-order. -/
def matchedNodes (m : Snapshot) : List SnapshotNode :=
  m.preorder.filter fun n => n.selfMatch == .matched

/-- Give the keys to the matches of a list, in order, and take them back from the other nodes. -/
def handOut : List Char → List SnapshotNode → List SnapshotNode
  | _, [] => []
  | keys, n :: nodes =>
    if n.selfMatch = .matched then { n with key := keys.head? } :: handOut keys.tail nodes
    else n.clearKey :: handOut keys nodes

theorem handOut_append (keys : List Char) (nodes more : List SnapshotNode) :
    handOut keys (nodes ++ more) = handOut keys nodes ++
      handOut (keys.drop (nodes.filter fun n => n.selfMatch == .matched).length) more := by
  induction nodes generalizing keys with
  | nil => rfl
  | cons n nodes ih =>
      by_cases hself : n.selfMatch = .matched
      · simp [handOut, hself, ih, ← List.drop_one, Nat.add_comm]
      · simp [handOut, hself, ih]

theorem handOut_of_no_match (keys : List Char) {nodes : List SnapshotNode}
    (hnone : ∀ n ∈ nodes, n.selfMatch ≠ .matched ∧ n.key = none) : handOut keys nodes = nodes := by
  induction nodes with
  | nil => rfl
  | cons n nodes ih =>
      obtain ⟨hself, hkey⟩ := hnone n List.mem_cons_self
      have hclear : n.clearKey = n := by
        cases n
        simp_all [SnapshotNode.clearKey]
      rw [handOut, if_neg hself, hclear, ih fun n' hn' => hnone n' (List.mem_cons_of_mem n hn')]

/-- The i-th match of the list gets the i-th key. -/
theorem key_handOut {keys : List Char} {nodes : List SnapshotNode} {i : Nat} {n : SnapshotNode}
    (hn : ((handOut keys nodes).filter fun n => n.selfMatch == .matched)[i]? = some n) :
    n.key = keys[i]? := by
  induction nodes generalizing keys i with
  | nil => simp [handOut] at hn
  | cons first nodes ih =>
      by_cases hself : first.selfMatch = .matched
      · simp only [handOut, hself, if_true, List.filter_cons, beq_self_eq_true] at hn
        cases i with
        | zero =>
            obtain rfl := Option.some.inj hn
            rw [← List.head?_eq_getElem?]
        | succ i =>
            rw [ih hn, List.getElem?_tail]
      · have hskip : (first.clearKey.selfMatch == MatchState.matched) = false := by
          simpa [SnapshotNode.clearKey] using hself
        simp only [handOut, hself, if_false, List.filter_cons, hskip, Bool.false_eq_true] at hn
        exact ih hn

/-- The entries that come of it pair the keys with the matches. -/
theorem entries_handOut (keys : List Char) (nodes : List SnapshotNode) :
    ((handOut keys nodes).filterMap fun n => n.key.map fun k => (k, n.handle)) =
      keys.zip ((nodes.filter fun n => n.selfMatch == .matched).map (·.handle)) := by
  induction nodes generalizing keys with
  | nil => simp [handOut]
  | cons n nodes ih =>
      by_cases hself : n.selfMatch = .matched
      · cases keys with
        | nil => simpa [handOut, hself] using ih []
        | cons k keys => simp [handOut, hself, ih]
      · simp [handOut, hself, ih, SnapshotNode.clearKey]

/-- Handing out keys comes to the pre-order, although what has no match is passed over. -/
theorem preorder_assignKeys (keys : List Char) {m : Snapshot} (hm : m.Guided)
    (hkeys : m.KeysOnMatches) :
    (m.assignKeys keys).1.preorder = handOut keys m.preorder ∧
      (m.assignKeys keys).2.2 = keys.drop m.matchedNodes.length := by
  induction m generalizing keys with
  | nil => exact ⟨rfl, rfl⟩
  | node n below after ihb iha =>
      obtain ⟨_, hbelow, hafter⟩ := keysOnMatches_node.mp hkeys
      -- the forest below, whether it is gone through or passed over
      have hinside : ∀ keys, (if n.descendantMatch = .matched then
          assignKeys keys below else (below, [], keys)).1.preorder = handOut keys below.preorder ∧
          (if n.descendantMatch = .matched then
          assignKeys keys below else (below, [], keys)).2.2 =
            keys.drop (matchedNodes below).length := by
        intro keys
        split
        case isTrue => exact ihb keys hm.2.1 hbelow
        case isFalse hdescend =>
          have hnone := hm.passed_over hdescend
          have hnokeys := hbelow.noKeys hnone
          have hnomatch : ∀ n ∈ below.preorder, n.selfMatch ≠ .matched := by
            intro n hn hself
            rw [hasMatch_iff.mpr ⟨n, hn, hself⟩] at hnone
            cases hnone
          have hmatched : matchedNodes below = [] := by
            simpa [matchedNodes] using hnomatch
          exact ⟨(handOut_of_no_match keys fun n hn => ⟨hnomatch n hn, hnokeys n hn⟩).symm,
            by simp [hmatched]⟩
      simp only [assignKeys, Forest.preorder, (hinside _).1, (hinside _).2,
        (iha _ hm.2.2 hafter).1, (iha _ hm.2.2 hafter).2]
      by_cases hself : n.selfMatch = .matched
      · simp [handOut, hself, handOut_append, matchedNodes, Forest.preorder, ← List.drop_one]
        omega
      · simp [handOut, hself, handOut_append, matchedNodes, Forest.preorder, SnapshotNode.clearKey]

/-- Handing out keys again changes nothing. -/
theorem assignKeys_again (keys : List Char) (m : Snapshot) :
    (m.assignKeys keys).1.assignKeys keys = m.assignKeys keys := by
  induction m generalizing keys with
  | nil => rfl
  | node n below after ihb iha =>
      by_cases hdescend : n.descendantMatch = .matched <;> simp [assignKeys, hdescend, ihb, iha]

/-- Where nothing matches and no node has a key, nothing is handed out. -/
theorem assignKeys_of_no_match (keys : List Char) {m : Snapshot} (hnone : m.hasMatch = false)
    (hkeys : m.NoKeys) : m.assignKeys keys = (m, [], keys) := by
  induction m with
  | nil => rfl
  | node n below after ihb iha =>
      simp only [hasMatch_node, Bool.or_eq_false_iff] at hnone
      obtain ⟨⟨hself, hnoneB⟩, hnoneA⟩ := hnone
      obtain ⟨hkey, hkeysB, hkeysA⟩ := noKeys_node.mp hkeys
      have hunmatched : n.selfMatch ≠ .matched := by simpa using hself
      have hnode : ({ n with key := none } : SnapshotNode) = n := by
        cases n
        simp_all
      simp [assignKeys, hunmatched, ihb hnoneB hkeysB, iha hnoneA hkeysA, hnode]

end Snapshot

namespace Session

open Snapshot

variable {s : Session} {w : View}

/-! ## Sessions in which only matches have keys -/

/-- Settled, and only matches have keys. -/
structure Keyed (s : Session) : Prop where
  settled : s.Settled
  onMatches : s.snapshot.KeysOnMatches

theorem keyed_run (w : View) (hidle : s.query.compile? = none → s.snapshot.walked = []) :
    (s.run w).1.Keyed :=
  ⟨settled_run w hidle, (noKeys_run s w).keysOnMatches⟩

theorem keyed_start (v : View) (root : Handle) (q : Query) : (Session.start v root q).1.Keyed :=
  keyed_run (s := { snapshot := build v root, query := q }) v fun _ => walked_build v root

theorem Keyed.search (hs : s.Keyed) (w : View) (root : Handle) (q : Query) :
    (s.search w root q).1.Keyed := by
  cases hnarrows : q.narrows s.query with
  | true =>
      rw [search_of_narrows w root hnarrows]
      exact keyed_run (s := { s with query := q }) w (hs.settled.walked_of_narrows hnarrows)
  | false =>
      rw [search_of_not_narrows w root hnarrows]
      exact keyed_start _ root q

theorem Keyed.assignJumpKeys (hs : s.Keyed) (w : View) : (s.assignJumpKeys w).1.Keyed :=
  ⟨hs.settled.assignJumpKeys w, hs.onMatches.assignKeys jumpKeys.toList⟩

/-! ## What is handed out -/

/-- The matches get the keys in pre-order, as long as there are any, and no other node has one. -/
structure HandsOut (s : Session) (w : View) : Prop where
  entries_eq : (s.assignJumpKeys w).2.2.entries =
    jumpKeys.toList.zip (s.snapshot.matchedNodes.map (·.handle))
  size_eq : (s.assignJumpKeys w).2.2.size = min 62 s.snapshot.matchedNodes.length
  /-- Nothing but keys has changed in the session. -/
  kept : { (s.assignJumpKeys w).1 with snapshot := clearKeys (s.assignJumpKeys w).1.snapshot } =
    { s with snapshot := clearKeys s.snapshot }
  key_match : ∀ (i : Nat) (n : SnapshotNode),
    (s.assignJumpKeys w).1.snapshot.matchedNodes[i]? = some n → n.key = jumpKeys.toList[i]?
  key_other : ∀ n ∈ (s.assignJumpKeys w).1.snapshot.preorder, n.selfMatch ≠ .matched → n.key = none
  /-- Handing out keys again makes the same session and the same map, whatever the view is then. -/
  again : ∀ w', ((s.assignJumpKeys w).1.assignJumpKeys w').1 = (s.assignJumpKeys w).1 ∧
    ((s.assignJumpKeys w).1.assignJumpKeys w').2.2 = (s.assignJumpKeys w).2.2
  /-- If no item has two nodes, an item shows the key that leads to it. -/
  shown : (s.snapshot.preorder.map (·.handle)).Nodup → ∀ h < w.items.size,
    (h ∈ s.snapshot.preorder.map (·.handle) ∨ (w.display h).key = none) → ∀ k,
      ((s.assignJumpKeys w).2.1.display h).key = some k ↔ (s.assignJumpKeys w).2.2.get? k = some h

theorem Keyed.entries_eq (hs : s.Keyed) (w : View) : (s.assignJumpKeys w).2.2.entries =
    jumpKeys.toList.zip (s.snapshot.matchedNodes.map (·.handle)) := by
  have hguided := hs.settled.guided
  calc (s.assignJumpKeys w).2.2.entries
      = (s.snapshot.assignKeys jumpKeys.toList).1.keyEntries :=
        entries_assignKeys jumpKeys.toList hguided hs.onMatches
    _ = jumpKeys.toList.zip (s.snapshot.matchedNodes.map (·.handle)) := by
        rw [keyEntries, (preorder_assignKeys jumpKeys.toList hguided hs.onMatches).1,
          entries_handOut]
        rfl

theorem Keyed.key_shown_iff (hs : s.Keyed) (hquery : s.query.compile? ≠ none)
    (hnodup : (s.snapshot.preorder.map (·.handle)).Nodup) {h : Handle} (hsize : h < w.items.size)
    (hother : h ∈ s.snapshot.preorder.map (·.handle) ∨ (w.display h).key = none) (k : Char) :
    ((s.assignJumpKeys w).2.1.display h).key = some k ↔
      (s.assignJumpKeys w).2.2.get? k = some h := by
  have hcopies : (s.assignJumpKeys w).1.snapshot.copies = s.snapshot.copies :=
    copies_assignKeys jumpKeys.toList s.snapshot
  have hhandles : ∀ m : Snapshot, m.copies.map Prod.fst = m.preorder.map (·.handle) := by
    intro m
    rw [copies, List.map_map]
    rfl
  have hnodup' : ((s.assignJumpKeys w).1.snapshot.copies.map Prod.fst).Nodup := by
    rw [hcopies, hhandles]
    exact hnodup
  have hother' : (∀ n ∈ (s.assignJumpKeys w).1.snapshot.preorder, n.handle ≠ h) →
      (w.display h).key = none := by
    intro hnot
    refine hother.resolve_left fun hmem => ?_
    rw [← hhandles, ← hcopies, hhandles] at hmem
    obtain ⟨n, hn, heq⟩ := List.mem_map.mp hmem
    exact hnot n hn heq
  have hentries : (s.assignJumpKeys w).2.2.entries = (s.assignJumpKeys w).1.snapshot.keyEntries :=
    entries_assignKeys jumpKeys.toList hs.settled.guided hs.onMatches
  cases (hs.assignJumpKeys w).settled with
  | idle hnone _ _ => exact absurd hnone hquery
  | searched _ hwalked _ _ =>
      rw [JumpMap.get?_eq_some_iff (nodup_keys_assignKeys s.snapshot), hentries]
      refine (key_keyWrites hnodup' hwalked hother' k).trans ?_
      exact ⟨fun hpair => hpair.2, fun hmem => ⟨hsize, hmem⟩⟩

theorem Keyed.handsOut (hs : s.Keyed) (hquery : s.query.compile? ≠ none) (w : View) :
    s.HandsOut w := by
  have hguided := hs.settled.guided
  have hpreorder : (s.assignJumpKeys w).1.snapshot.preorder =
      handOut jumpKeys.toList s.snapshot.preorder :=
    (preorder_assignKeys jumpKeys.toList hguided hs.onMatches).1
  have honMatches := (hs.assignJumpKeys w).onMatches
  refine ⟨hs.entries_eq w, ?_, ?_, ?_, ?_, ?_, fun hnodup _ hsize hother k =>
    hs.key_shown_iff hquery hnodup hsize hother k⟩
  · rw [JumpMap.size, hs.entries_eq w, List.length_zip, List.length_map]
    rfl
  · have hclear : clearKeys (s.assignJumpKeys w).1.snapshot = clearKeys s.snapshot :=
      clearKeys_assignKeys jumpKeys.toList s.snapshot
    rw [hclear]
    rfl
  · intro i n hn
    rw [matchedNodes, hpreorder] at hn
    exact key_handOut hn
  · intro n hn hself
    by_contra hkey
    exact hself (honMatches n hn hkey)
  · intro w'
    have hagain := assignKeys_again jumpKeys.toList s.snapshot
    exact ⟨by simp only [Session.assignJumpKeys, hagain], by simp only [Session.assignJumpKeys, hagain]⟩

/-- Without anything to search for nothing is handed out or written. -/
theorem Keyed.assignJumpKeys_of_idle (hs : s.Keyed) (hquery : s.query.compile? = none) (w : View) :
    s.assignJumpKeys w = (s, w, {}) := by
  have hnone := hs.settled.hasMatch_of_idle hquery
  have hwrites : s.snapshot.keyWrites = [] := by
    cases hs.settled with
    | searched hsome _ _ _ => exact absurd hquery hsome
    | idle _ hwalked _ => rw [keyWrites, List.map_eq_nil_iff.mp hwalked, List.map_nil]
  simp only [Session.assignJumpKeys, assignKeys_of_no_match jumpKeys.toList hnone
    (hs.onMatches.noKeys hnone), renderKeys, hwrites]
  rfl

end Session

namespace History

/-! ## Along a history -/

theorem keyed_after {r : History} (hr : r.session.Keyed) (ops : List Op) :
    (r.after ops).session.Keyed :=
  session_after_keeps (fun _ hs => hs.search) (fun _ hs => hs.assignJumpKeys) hr ops

/-- Whatever has happened to a session, it hands out keys to its matches in pre-order, and to nothing if
its pattern is empty. -/
theorem jumpKeys_of_matches (v : View) (root : Handle) (q : Query) (ops : List Op) :
    let r := (start v root q).after ops
    (r.session.query.pattern ≠ "" → r.session.HandsOut r.view) ∧
      (r.session.query.pattern = "" → r.session.assignJumpKeys r.view = (r.session, r.view, {})) := by
  intro r
  have hkeyed : r.session.Keyed := keyed_after (Session.keyed_start v root q) ops
  have hempty : r.session.query.compile? = none ↔ r.session.query.pattern = "" :=
    (Query.compile?_eq_none_iff _).trans String.toList_eq_nil_iff
  refine ⟨fun hsome => ?_, fun hnone => ?_⟩
  · exact hkeyed.handsOut (fun hnone => hsome (hempty.mp hnone)) r.view
  · exact hkeyed.assignJumpKeys_of_idle (hempty.mpr hnone) r.view

/-- With one match gone since the first search, the key goes to the other one, below an item without a
match. -/
theorem jumpKeys_of_matches_narrowed :
    let v : View := ⟨#[{ label := "Notes", children := [1, 2] }, { label := "may" },
      { label := "map" }], #[]⟩
    let ops : List Op := [.search 0 { pattern := "map" }, .assignKeys]
    let r := (start v 0 { pattern := "m" }).after ops
    r.session.query.pattern ≠ "" ∧ (r.session.assignJumpKeys r.view).2.2.entries = [('1', 2)] := by
  intro v ops r
  have hsome : r.session.query.pattern ≠ "" := by decide +kernel
  have hmatches : r.session.snapshot.matchedNodes.map (·.handle) = [2] := by decide +kernel
  have hhandsOut : r.session.HandsOut r.view := by
    have hr : (start v 0 { pattern := "m" }).after ops = r := rfl
    have hboth := jumpKeys_of_matches v 0 { pattern := "m" } ops
    rw [hr] at hboth
    exact hboth.1 hsome
  refine ⟨hsome, ?_⟩
  calc (r.session.assignJumpKeys r.view).2.2.entries
      = jumpKeys.toList.zip (r.session.snapshot.matchedNodes.map (·.handle)) := hhandsOut.entries_eq
    _ = [('1', 2)] := by
      rw [hmatches]
      rfl

end History

end Waymark.Search
