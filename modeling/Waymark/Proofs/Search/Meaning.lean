import Waymark.Proofs.Search.Emphasis
import Waymark.Proofs.Search.Shown

/-!
# What a view shows along a history

As long as a view is not edited, what it shows after a search is said by the query just given and by the
items alone. Nothing of an earlier query is left, no key and no emphasis, and nothing outside the part
that is searched is ever written to.
-/

namespace Waymark.Search

open Snapshot

/-! ## The meaning of a search -/

/-- A query lets an item match: the kind is the one asked for, if any, and the predicate finds
something in the label. -/
def Query.Admits (q : Query) (p : Predicate) (v : View) (h : Handle) : Prop :=
  (∀ kind, q.kindFilter = some kind → v.kind h = some kind) ∧
    v.label h ≠ "" ∧ (p.find? (v.label h)).isSome = true

/-- What an item has to show. -/
structure ItemShown (v : View) (q : Query) (p : Predicate) (h : Handle) (d : Display) : Prop where
  matched_iff : d.matched = true ↔ q.Admits p v h
  descendantMatched_iff : d.descendantMatched = true ↔ ∃ i, v.Below h i ∧ q.Admits p v i
  markup_of_admits : q.Admits p v h →
    ∃ r, p.find? (v.label h) = some r ∧ Emphasises (v.label h) r d.markup
  markup_of_not_admits : ¬ q.Admits p v h → d.markup = v.label h
  key_eq : d.key = none

/-- Nothing is shown that does not belong to the items themselves. -/
def View.Plain (v : View) : Prop := ∀ h, v.display h = { markup := v.label h }

theorem View.plain_of_forall_lt {v : View}
    (hplain : ∀ h < v.items.size, v.display h = { markup := v.label h }) : v.Plain := by
  intro h
  by_cases hsize : h < v.items.size
  · exact hplain h hsize
  · rw [display_of_size_le (Nat.not_lt.mp hsize), label_of_size_le (Nat.not_lt.mp hsize)]

/-- What a history has come to right after a search of `v` below `root`. -/
structure History.Shown (v : View) (root : Handle) (q : Query) (r : History) : Prop where
  items : q.pattern ≠ "" → ∃ p, q.compile? = some p ∧
    ∀ h, v.Reaches root h → ItemShown v q p h (r.view.display h)
  foundAny_iff : r.outcome.foundAny = true ↔
    ∃ h, v.Reaches root h ∧ (r.view.display h).matched = true
  plain : q.pattern = "" → r.outcome.foundAny = false ∧
    ∀ h, r.view.display h = { markup := v.label h }
  untouched : ∀ h, ¬ v.Reaches root h → r.view.display h = v.display h
  written : ∃ ws : List Write, r.view.writes = v.writes ++ ws.toArray ∧
    ∀ w ∈ ws, v.Reaches root w.item

theorem passes_freshNode_iff (q : Query) (p : Predicate) (v : View) (h : Handle) :
    (freshNode v h).passes p q.kindFilter = true ↔ q.Admits p v h := by
  cases hkind : q.kindFilter with
  | none => simp [SnapshotNode.passes, SnapshotNode.hasKind, freshNode, Query.Admits, hkind]
  | some kind =>
      simp [SnapshotNode.passes, SnapshotNode.hasKind, freshNode, Query.Admits, hkind, and_assoc]

theorem itemShown_settledNode (q : Query) (p : Predicate) (v : View) (h : Handle) :
    ItemShown v q p h (settledNode v p q.kindFilter h).shows := by
  have hpass := passes_freshNode_iff q p v h
  have hbelow : PassesBelow v p q.kindFilter h ↔ ∃ i, v.Below h i ∧ q.Admits p v i := by
    simp only [PassesBelow, passes_freshNode_iff]
  have hisMatched : ∀ b, (MatchState.ofBool b).isMatched = b := by decide
  refine ⟨?_, ?_, ?_, ?_, rfl⟩
  · rw [← hpass]
    simp [SnapshotNode.shows, settledNode, SnapshotNode.settled, hisMatched]
  · rw [← hbelow]
    simp [SnapshotNode.shows, settledNode, SnapshotNode.settled, hisMatched]
  · intro hadmits
    have htrue := hpass.mpr hadmits
    obtain ⟨r, hr⟩ := Option.isSome_iff_exists.mp hadmits.2.2
    have hmarkup : (settledNode v p q.kindFilter h).shows.markup = emphasise (v.label h) (some r) := by
      rw [← hr]
      simp only [SnapshotNode.shows, SnapshotNode.markup, settledNode, SnapshotNode.settled, htrue,
        if_true]
      rfl
    refine ⟨r, hr, ?_⟩
    rw [hmarkup]
    exact emphasises_find? hr
  · intro hadmits
    have hfalse : (freshNode v h).passes p q.kindFilter = false := by
      rw [← Bool.not_eq_true, hpass]
      exact hadmits
    simp only [SnapshotNode.shows, SnapshotNode.markup, settledNode, SnapshotNode.settled, hfalse,
      Bool.false_eq_true, if_false]
    rfl

/-! ## Where a session writes -/

namespace Snapshot

theorem plainWrites_clearKeys (m : Snapshot) : (clearKeys m).plainWrites = m.plainWrites := by
  rw [plainWrites, clearKeys, Forest.preorder_map, List.flatMap_map]
  rfl

theorem plainWrites_settle (p : Predicate) (kindFilter : Option String) (m : Snapshot) :
    (settle p kindFilter m).plainWrites = m.plainWrites := by
  induction m with
  | nil => rfl
  | node n below after ihb iha =>
      simp only [plainWrites] at ihb iha
      simp only [plainWrites, settle, Forest.preorder, List.cons_append, List.flatMap_cons,
        List.flatMap_append, ihb, iha]
      rfl

theorem plainWrites_searched (q : Query) (m : Snapshot) :
    (searched q m).plainWrites = m.plainWrites := by
  cases hp : q.compile? with
  | none => rw [searched, hp]
  | some p =>
      rw [searched, hp]
      exact plainWrites_settle p q.kindFilter m

theorem handle_of_mem_showWrites {m : Snapshot} {w : Write} (hw : w ∈ m.showWrites) :
    ∃ n ∈ m.preorder, w.item = n.handle := by
  rcases List.mem_append.mp hw with hw | hw
  · obtain ⟨n, hn, hwn⟩ := List.mem_flatMap.mp hw
    exact ⟨n, (List.mem_filter.mp hn).1,
      SnapshotNode.item_of_mem_showWrites (List.mem_append_left _ hwn)⟩
  · obtain ⟨n, hn, rfl⟩ := List.mem_map.mp hw
    exact ⟨n, (List.mem_filter.mp hn).1, rfl⟩

theorem reaches_of_mem_searched {v : View} {root : Handle} (hacyclic : v.AcyclicFrom root)
    (q : Query) {n : SnapshotNode} (hn : n ∈ (searched q (build v root)).preorder) :
    v.Reaches root n.handle := by
  cases hp : q.compile? with
  | none =>
      rw [searched, hp] at hn
      obtain ⟨h, hreach, rfl⟩ := (mem_unfold_iff hacyclic).mp hn
      exact hreach
  | some p =>
      simp only [searched, hp, settle_build hacyclic] at hn
      obtain ⟨h, hreach, rfl⟩ := (mem_unfold_iff hacyclic).mp hn
      exact hreach

theorem reaches_of_mem_of_reflects {v : View} {root : Handle} (hacyclic : v.AcyclicFrom root)
    {s : Session} (hs : s.Reflects (build v root)) {n : SnapshotNode}
    (hn : n ∈ s.snapshot.preorder) : v.Reaches root n.handle := by
  have hmem : n.clearKey ∈ (clearKeys s.snapshot).preorder := by
    rw [clearKeys, Forest.preorder_map]
    exact List.mem_map_of_mem hn
  rw [hs.snapshot_eq] at hmem
  have hreach : v.Reaches root n.clearKey.handle := reaches_of_mem_searched hacyclic s.query hmem
  exact hreach

theorem reaches_of_mem_plainWrites {v : View} {root : Handle} (hacyclic : v.AcyclicFrom root)
    {w : Write} (hw : w ∈ (build v root).plainWrites) : v.Reaches root w.item := by
  obtain ⟨n, hn, hwn⟩ := List.mem_flatMap.mp hw
  obtain ⟨h, hreach, rfl⟩ := (mem_unfold_iff hacyclic).mp hn
  rw [plainWrites_freshNode] at hwn
  rw [SnapshotNode.item_of_mem_showWrites hwn]
  exact hreach

end Snapshot

/-! ## What a history keeps -/

namespace View

/-- One view has become another by writes to what an item reaches. -/
def WrittenBelow (v : View) (root : Handle) (v' : View) : Prop :=
  ∃ ws, v' = v.writeAll ws ∧ ∀ w ∈ ws, v.Reaches root w.item

variable {v v' : View} {root : Handle}

theorem WrittenBelow.writeAll (hv : v.WrittenBelow root v') {ws : List Write}
    (hws : ∀ w ∈ ws, v.Reaches root w.item) : v.WrittenBelow root (v'.writeAll ws) := by
  obtain ⟨first, rfl, hfirst⟩ := hv
  refine ⟨first ++ ws, (writeAll_append v first ws).symm, ?_⟩
  intro w hw
  rcases List.mem_append.mp hw with hw | hw
  · exact hfirst w hw
  · exact hws w hw

theorem WrittenBelow.sameItems (hv : v.WrittenBelow root v') : v.SameItems v' := by
  obtain ⟨ws, rfl, _⟩ := hv
  exact sameItems_writeAll v ws

theorem WrittenBelow.display_eq (hv : v.WrittenBelow root v') {h : Handle}
    (hreach : ¬ v.Reaches root h) : v'.display h = v.display h := by
  obtain ⟨ws, rfl, hws⟩ := hv
  apply display_writeAll_of_ne
  intro w hw hitem
  exact hreach (hitem ▸ hws w hw)

end View

namespace Session

theorem run_view (s : Session) (v : View) :
    (s.run v).2.1 = v.writeAll (s.run v).1.snapshot.showWrites := by
  rw [showWrites, View.writeAll_append]
  rfl

end Session

namespace History

variable {v : View} {root : Handle}

/-- What the steps of a history keep while nothing is edited. -/
structure Tidy (v : View) (root : Handle) (r : History) : Prop where
  coherent : r.Coherent
  at_source : r.At v root
  written : v.WrittenBelow root r.view
  plain : r.session.query.compile? = none → ∀ h, r.view.display h = { markup := v.label h }

theorem findsQuery_iff (hacyclic : v.AcyclicFrom root) {q : Query} {p : Predicate}
    (hp : q.compile? = some p) :
    findsQuery q (build v root) = true ↔ ∃ h, v.Reaches root h ∧ q.Admits p v h := by
  have hroot : ∀ seed ∈ [root], v.DepthLT (v.items.size + 1) seed := by
    intro seed hseed
    rw [List.mem_singleton.mp hseed]
    exact hacyclic.depthLT
  simp only [findsQuery, hp, build]
  rw [finds_unfold_iff hroot]
  simp only [passes_freshNode_iff, List.mem_singleton, exists_eq_left]

/-- A search has shown what it found, if it wrote to a view on which a search for nothing would have
had nothing to take back. -/
theorem shown_of_base (hacyclic : v.AcyclicFrom root) {q : Query} {r : History} {base : View}
    (hsession : r.session = Session.ofSource q (build v root))
    (hview : r.view = base.writeAll r.session.snapshot.showWrites)
    (houtcome : r.outcome.foundAny = r.session.foundAny) (hbase : v.WrittenBelow root base)
    (hplain : q.compile? = none → ∀ h, base.display h = { markup := v.label h }) :
    r.Shown v root q ∧ v.WrittenBelow root r.view := by
  have hsnapshot : r.session.snapshot = searched q (build v root) := by rw [hsession]; rfl
  have hfound : r.outcome.foundAny = findsQuery q (build v root) := by
    rw [houtcome, hsession]
    rfl
  have hwritten : v.WrittenBelow root r.view := by
    rw [hview]
    apply hbase.writeAll
    intro w hw
    obtain ⟨n, hn, hitem⟩ := Snapshot.handle_of_mem_showWrites hw
    rw [hsnapshot] at hn
    rw [hitem]
    exact Snapshot.reaches_of_mem_searched hacyclic q hn
  have hlog : ∃ ws : List Write, r.view.writes = v.writes ++ ws.toArray ∧
      ∀ w ∈ ws, v.Reaches root w.item := by
    obtain ⟨ws, heq, hws⟩ := hwritten
    exact ⟨ws, by rw [heq, View.writes_writeAll], hws⟩
  have hempty : q.pattern = "" ↔ q.compile? = none := by
    rw [Query.compile?_eq_none_iff, String.toList_eq_nil_iff]
  refine ⟨?_, hwritten⟩
  cases hp : q.compile? with
  | none =>
      have hview' : r.view = base := by
        rw [hview, hsnapshot, searched, hp,
          showWrites_of_not_isWalked fun n hn => isWalked_of_mem_build hn]
        rfl
      have hnone : r.outcome.foundAny = false := by rw [hfound, findsQuery, hp]
      have hshown : ∀ h, r.view.display h = { markup := v.label h } := by
        rw [hview']
        exact hplain hp
      refine ⟨fun hpattern => absurd (hempty.mpr hp) hpattern, ?_, fun _ => ⟨hnone, hshown⟩,
        fun h hreach => hwritten.display_eq hreach, hlog⟩
      simp [hnone, hshown]
  | some p =>
      have hitem : ∀ h, v.Reaches root h → ItemShown v q p h (r.view.display h) := by
        intro h hreach
        have hdisplay : r.view.display h = (settledNode v p q.kindFilter h).shows := by
          rw [hview, hsnapshot, searched, hp]
          exact display_showWrites_settle hacyclic hbase.sameItems hreach
        rw [hdisplay]
        exact itemShown_settledNode q p v h
      have hpattern : q.pattern ≠ "" := by
        rw [Ne, hempty, hp]
        exact Option.some_ne_none p
      refine ⟨fun _ => ⟨p, hp.symm ▸ rfl, hitem⟩, ?_, fun hnone => absurd hnone hpattern,
        fun h hreach => hwritten.display_eq hreach, hlog⟩
      rw [hfound, findsQuery_iff hacyclic hp]
      constructor
      · intro hleft
        obtain ⟨h, hreach, hadmits⟩ := hleft
        exact ⟨h, hreach, (hitem h hreach).matched_iff.mpr hadmits⟩
      · intro hright
        obtain ⟨h, hreach, hmatched⟩ := hright
        exact ⟨h, hreach, (hitem h hreach).matched_iff.mp hmatched⟩

theorem tidy_of_shown {q : Query} {r : History} (hcoherent : r.Coherent) (hat : r.At v root)
    (hquery : r.session.query = q) (hshown : r.Shown v root q)
    (hwritten : v.WrittenBelow root r.view) : r.Tidy v root := by
  refine ⟨hcoherent, hat, hwritten, ?_⟩
  intro hnone
  rw [hquery, Query.compile?_eq_none_iff, String.toList_eq_nil_iff] at hnone
  exact (hshown.plain hnone).2

theorem start_spec (hacyclic : v.AcyclicFrom root) (hplain : v.Plain) {q : Query}
    (hq : q.Readable) :
    (start v root q).Shown v root q ∧ (start v root q).Tidy v root := by
  have hsession : (start v root q).session = Session.ofSource q (build v root) :=
    Session.start_fst v root q
  obtain ⟨hshown, hwritten⟩ := shown_of_base hacyclic hsession (Session.run_view _ v) rfl
    ⟨[], rfl, by simp⟩ fun _ => hplain
  exact ⟨hshown, tidy_of_shown (coherent_start v root hq) (at_start v root q)
    (by rw [hsession]; rfl) hshown hwritten⟩

/-- Taking a search back leaves a plain view. -/
theorem Tidy.display_teardown {r : History} (h : r.Tidy v root) (hacyclic : v.AcyclicFrom root)
    (hplain : v.Plain) :
    v.WrittenBelow root (r.session.snapshot.teardown r.view).2 ∧
      ∀ i, (r.session.snapshot.teardown r.view).2.display i = { markup := v.label i } := by
  have hsource : build r.source r.root = build v root := by
    rw [h.at_source.root_eq, build_congr h.at_source.source_same]
  have hwrites : r.session.snapshot.plainWrites = (build v root).plainWrites := by
    rw [← Snapshot.plainWrites_clearKeys, h.coherent.reflects.snapshot_eq,
      Snapshot.plainWrites_searched, hsource]
  have hview : (r.session.snapshot.teardown r.view).2 =
      r.view.writeAll (build v root).plainWrites := by rw [teardown, hwrites]
  have hwritten : v.WrittenBelow root (r.view.writeAll (build v root).plainWrites) :=
    h.written.writeAll fun w hw => Snapshot.reaches_of_mem_plainWrites hacyclic hw
  rw [hview]
  refine ⟨hwritten, ?_⟩
  intro i
  by_cases hreach : v.Reaches root i
  · exact display_plainWrites_build hacyclic h.written.sameItems hreach
  · rw [hwritten.display_eq hreach]
    exact hplain i

theorem step_search_spec {r : History} (h : r.Tidy v root) (hacyclic : v.AcyclicFrom root)
    (hplain : v.Plain) {q : Query} (hq : q.Readable) :
    (r.step (.search root q)).Shown v root q ∧ (r.step (.search root q)).Tidy v root := by
  have hcoherent : (r.step (.search root q)).Coherent := coherent_step h.coherent hq
  have hat : (r.step (.search root q)).At v root := at_step h.at_source rfl
  have hsession : (r.step (.search root q)).session = Session.ofSource q (build v root) := by
    rw [step_search_session h.coherent root hq, hat.root_eq, build_congr hat.source_same]
  have hspec : (r.step (.search root q)).Shown v root q ∧
      v.WrittenBelow root (r.step (.search root q)).view := by
    cases hnarrows : q.narrows r.session.query with
    | true =>
        have hsearch := Session.search_of_narrows r.view root hnarrows
        have hstep : r.step (.search root q) =
            ⟨(Session.run { r.session with query := q } r.view).1,
              (Session.run { r.session with query := q } r.view).2.1,
              (Session.run { r.session with query := q } r.view).2.2, r.source, r.root⟩ := by
          simp only [step, hnarrows, if_true, hsearch]
        refine shown_of_base hacyclic hsession ?_ ?_ h.written ?_
        · rw [hstep]
          exact Session.run_view _ r.view
        · rw [hstep]
          rfl
        · -- an empty pattern narrows nothing but an empty one
          intro hnone
          exact h.plain (((Query.narrows_iff q _).mp hnarrows).compile?_eq_none hnone)
    | false =>
        obtain ⟨hwritten, hteardown⟩ := h.display_teardown hacyclic hplain
        refine shown_of_base hacyclic hsession ?_ ?_ hwritten fun _ => hteardown
        · simp only [step, hnarrows, Bool.false_eq_true, if_false, Session.search]
          exact Session.run_view _ _
        · simp only [step, hnarrows, Bool.false_eq_true, if_false, Session.search]
          rfl
  have hquery : (r.step (.search root q)).session.query = q := by rw [hsession]; rfl
  exact ⟨hspec.1, tidy_of_shown hcoherent hat hquery hspec.1 hspec.2⟩

theorem tidy_step {r : History} (h : r.Tidy v root) (hacyclic : v.AcyclicFrom root)
    (hplain : v.Plain) {op : Op} (hop : op.Readable) (hstay : op.StaysAt root) :
    (r.step op).Tidy v root := by
  cases op with
  | search root' q =>
      have hroot : root' = root := hstay
      rw [hroot]
      exact (step_search_spec h hacyclic hplain hop).2
  | assignKeys =>
      have hcoherent : (r.step .assignKeys).Coherent := coherent_step h.coherent hop
      have hat : (r.step .assignKeys).At v root := at_step h.at_source hstay
      have hsource : build (r.step .assignKeys).source (r.step .assignKeys).root = build v root := by
        rw [hat.root_eq, build_congr hat.source_same]
      have hreflects := hcoherent.reflects
      rw [hsource] at hreflects
      have hview : (r.step .assignKeys).view =
          r.view.writeAll (r.step .assignKeys).session.snapshot.keyWrites := rfl
      refine ⟨hcoherent, hat, ?_, ?_⟩
      · rw [hview]
        apply h.written.writeAll
        intro w hw
        obtain ⟨n, hn, hitem⟩ := Snapshot.handle_of_mem_showWrites (List.mem_append_right _ hw)
        rw [hitem]
        exact Snapshot.reaches_of_mem_of_reflects hacyclic hreflects hn
      · -- no key is shown on nodes that no walk has come to
        intro hnone
        have hnowrites : (r.step .assignKeys).session.snapshot.showWrites = [] := by
          apply showWrites_of_not_isWalked
          intro n hn
          have hmem : n.clearKey ∈ (clearKeys (r.step .assignKeys).session.snapshot).preorder := by
            rw [clearKeys, Forest.preorder_map]
            exact List.mem_map_of_mem hn
          rw [hreflects.snapshot_eq, searched, hnone] at hmem
          have hwalked : n.clearKey.isWalked = false := isWalked_of_mem_build hmem
          exact hwalked
        rw [hview, (List.append_eq_nil_iff.mp hnowrites).2]
        exact h.plain hnone
  | edit change => exact hstay.elim

theorem tidy_after {r : History} (h : r.Tidy v root) (hacyclic : v.AcyclicFrom root)
    (hplain : v.Plain) {ops : List Op} (hops : ∀ op ∈ ops, op.Readable ∧ op.StaysAt root) :
    (r.after ops).Tidy v root :=
  after_keeps (I := (·.Tidy v root))
    (fun _ hr op hop => tidy_step hr hacyclic hplain (hops op hop).1 (hops op hop).2) h

/-- Right after the start, and right after every search, the view shows what the query just given
says. -/
theorem shown_after_search (v : View) (root : Handle) (q : Query) (hacyclic : v.AcyclicFrom root)
    (hplain : v.Plain) (hq : q.Readable) :
    (start v root q).Shown v root q ∧
      ∀ (ops : List Op) (q' : Query), (∀ op ∈ ops, op.Readable ∧ op.StaysAt root) → q'.Readable →
        ((start v root q).after (ops ++ [.search root q'])).Shown v root q' := by
  obtain ⟨hshown, htidy⟩ := start_spec hacyclic hplain hq
  refine ⟨hshown, ?_⟩
  intro ops q' hops hq'
  rw [after_search]
  exact (step_search_spec (tidy_after htidy hacyclic hplain hops) hacyclic hplain hq').1

theorem shown_after_search_shared_item :
    let v : View := ⟨#[{ label := "Notes", children := [1, 2] }, { label := "map", children := [3] },
      { label := "May", children := [3] }, { label := "mast" }], #[]⟩
    ((start v 0 { pattern := "m" }).after ([.assignKeys] ++ [.search 0 { pattern := "ma" }])).Shown
      v 0 { pattern := "ma" } := by
  intro v
  have hacyclic : v.AcyclicFrom 0 := View.acyclicFrom_of_lt (by decide) 0
  have hplain : v.Plain := View.plain_of_forall_lt (by decide)
  have hm : Query.Readable { pattern := "m" } := Query.readable_of_byteLength rfl (by decide)
  have hma : Query.Readable { pattern := "ma" } := Query.readable_of_byteLength rfl (by decide)
  apply (shown_after_search v 0 { pattern := "m" } hacyclic hplain hm).2 _ _ _ hma
  intro op hop
  rw [List.mem_singleton.mp hop]
  exact ⟨trivial, trivial⟩

end History

end Waymark.Search
