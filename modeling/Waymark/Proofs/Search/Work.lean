import Waymark.Proofs.Search.Trace

/-!
# The work of a search

A walk runs the predicate on the nodes that no earlier walk has rejected and that have a label and a kind
that passes; it passes over the others. What an earlier walk has rejected can be told only as long as the
states of all nodes are of one age: either a walk has come to every node, or none has come to any. That is
so at any time, and hence a query that narrows another one is run on the matches of that one alone.
-/

namespace Waymark.Search

/-! ## Walks -/

namespace SnapshotNode

/-- Whether the node has a label, and the kind filter lets it pass. -/
def isAdmitted (n : SnapshotNode) (kindFilter : Option String) : Bool :=
  n.hasKind kindFilter && !n.label.isEmpty

/-- Whether a walk runs its predicate on the node. -/
def isEvaluated (n : SnapshotNode) (kindFilter : Option String) : Bool :=
  n.selfMatch != .unmatched && n.isAdmitted kindFilter

/-- A walk has come to the node, and both its states are known. -/
structure Known (n : SnapshotNode) : Prop where
  selfMatch_ne : n.selfMatch ≠ .unknown
  descendantMatch_ne : n.descendantMatch ≠ .unknown

/-- No walk has come to the node. -/
structure Untouched (n : SnapshotNode) : Prop where
  selfMatch_eq : n.selfMatch = .unknown
  descendantMatch_eq : n.descendantMatch = .unknown

theorem Known.not_untouched {n : SnapshotNode} (h : n.Known) : ¬ n.Untouched :=
  fun huntouched => h.selfMatch_ne huntouched.selfMatch_eq

theorem Known.isWalked {n : SnapshotNode} (h : n.Known) : n.isWalked = true := by
  simp [SnapshotNode.isWalked, h.selfMatch_ne]

theorem Untouched.isWalked {n : SnapshotNode} (h : n.Untouched) : n.isWalked = false := by
  simp [SnapshotNode.isWalked, h.selfMatch_eq, h.descendantMatch_eq]

theorem Untouched.isEvaluated {n : SnapshotNode} (h : n.Untouched) (kindFilter : Option String) :
    n.isEvaluated kindFilter = n.isAdmitted kindFilter := by
  simp [SnapshotNode.isEvaluated, h.selfMatch_eq]

variable (n : SnapshotNode) (p : Predicate) (kindFilter : Option String)

theorem ofEvaluation_judge :
    SearchStats.ofEvaluation (n.judge p kindFilter).2 =
      if n.isEvaluated kindFilter = true then ⟨1, 0⟩ else ⟨0, 1⟩ := by
  unfold judge
  split
  case isTrue hrejected => simp [isEvaluated, hrejected, SearchStats.ofEvaluation]
  case isFalse hopen =>
    split
    case isTrue hrefused =>
      have hnot : n.isAdmitted kindFilter = false := by
        cases hkind : n.hasKind kindFilter <;> simp_all [isAdmitted]
      simp [isEvaluated, hnot, SearchStats.ofEvaluation]
    case isFalse hpass =>
      have hadmitted : n.isAdmitted kindFilter = true := by
        cases hkind : n.hasKind kindFilter <;> simp_all [isAdmitted]
      simp [isEvaluated, hopen, hadmitted, SearchStats.ofEvaluation]

theorem isAdmitted_judge (kindFilter' : Option String) :
    (n.judge p kindFilter).1.isAdmitted kindFilter' = n.isAdmitted kindFilter' := by
  unfold judge
  split
  · rfl
  · split <;> rfl

/-- A node that has been judged is a match or none, and a match only if its label and kind pass. -/
theorem judge_states :
    (n.judge p kindFilter).1.selfMatch ≠ .unknown ∧
      ((n.judge p kindFilter).1.selfMatch = .matched → n.isAdmitted kindFilter = true) := by
  unfold judge
  split
  case isTrue hrejected => simp [hrejected]
  case isFalse =>
    split
    case isTrue => simp
    case isFalse hpass =>
      have hadmitted : n.isAdmitted kindFilter = true := by
        cases hkind : n.hasKind kindFilter <;> simp_all [isAdmitted]
      cases p.find? n.label <;> simp [MatchState.ofBool, hadmitted]

end SnapshotNode

namespace Snapshot

open SnapshotNode

variable (p : Predicate) (kindFilter : Option String) (m : Snapshot)

/-- Number of nodes that have a label and a kind that passes. -/
def admittedCount : Nat := m.preorder.countP fun n => n.isAdmitted kindFilter

/-- Number of nodes that match. -/
def matchCount : Nat := m.preorder.countP fun n => n.selfMatch == .matched

/-- What a walk does on a snapshot. -/
theorem stats_walk :
    (Snapshot.walk p kindFilter m).stats =
      ⟨m.preorder.countP fun n => n.isEvaluated kindFilter,
        m.preorder.countP fun n => !n.isEvaluated kindFilter⟩ := by
  induction m with
  | nil => rfl
  | node n below after ihb iha =>
      have hjudge := ofEvaluation_judge
        { n with descendantMatch := .ofBool (Snapshot.walk p kindFilter below).found } p kindFilter
      have hown : isEvaluated
          { n with descendantMatch := .ofBool (Snapshot.walk p kindFilter below).found } kindFilter =
            n.isEvaluated kindFilter := rfl
      rw [hown] at hjudge
      have hstats : (Snapshot.walk p kindFilter (.node n below after)).stats =
          (Snapshot.walk p kindFilter below).stats +
            (if n.isEvaluated kindFilter = true then ⟨1, 0⟩ else ⟨0, 1⟩) +
              (Snapshot.walk p kindFilter after).stats := by
        rw [← hjudge]
        rfl
      have hadd : ∀ a b c d : Nat, (⟨a, b⟩ + ⟨c, d⟩ : SearchStats) = ⟨a + c, b + d⟩ :=
        fun _ _ _ _ => rfl
      rw [hstats, ihb, iha, Forest.preorder, List.cons_append]
      cases heval : n.isEvaluated kindFilter <;>
        simp [heval, hadd, List.countP_append] <;> omega

theorem known_walk : ∀ n ∈ (Snapshot.walk p kindFilter m).forest.preorder,
    n.Known ∧ (n.selfMatch = .matched → n.isAdmitted kindFilter = true) := by
  induction m with
  | nil => simp [Snapshot.walk, Forest.preorder]
  | node n below after ihb iha =>
      let told : SnapshotNode :=
        { n with descendantMatch := .ofBool (Snapshot.walk p kindFilter below).found }
      obtain ⟨_, _, hbelow⟩ := judge_keeps told p kindFilter
      obtain ⟨hknown, hmatched⟩ := judge_states told p kindFilter
      simp only [Snapshot.walk, Forest.preorder, List.cons_append, List.forall_mem_cons,
        List.forall_mem_append]
      refine ⟨⟨⟨hknown, ?_⟩, ?_⟩, ihb, iha⟩
      · rw [hbelow]
        cases hfound : (Snapshot.walk p kindFilter below).found <;>
          simp [told, hfound, MatchState.ofBool]
      · rw [isAdmitted_judge]
        exact hmatched

theorem admittedCount_walk (kindFilter' : Option String) :
    (Snapshot.walk p kindFilter m).forest.admittedCount kindFilter' = m.admittedCount kindFilter' := by
  induction m with
  | nil => rfl
  | node n below after ihb iha =>
      let told : SnapshotNode :=
        { n with descendantMatch := .ofBool (Snapshot.walk p kindFilter below).found }
      have hown : (told.judge p kindFilter).1.isAdmitted kindFilter' = n.isAdmitted kindFilter' :=
        isAdmitted_judge told p kindFilter kindFilter'
      simp only [admittedCount] at ihb iha
      simp only [admittedCount, Snapshot.walk, Forest.preorder, List.cons_append, List.countP_cons,
        List.countP_append, ihb, iha]
      rw [hown]

theorem admittedCount_clearKeys : (clearKeys m).admittedCount kindFilter = m.admittedCount kindFilter := by
  rw [admittedCount, clearKeys, Forest.preorder_map, List.countP_map]
  rfl

theorem size_eq_of_copies_eq {m m' : Snapshot} (h : m.copies = m'.copies) : m.size = m'.size := by
  have hlength := congrArg List.length h
  simpa [copies] using hlength

/-! ## Writes -/

theorem length_showWrites_of_isWalked (hwalked : ∀ n ∈ m.preorder, n.isWalked = true) :
    m.showWrites.length = 4 * m.size := by
  have hall : m.preorder.filter isWalked = m.preorder := List.filter_eq_self.mpr hwalked
  have hthree : ∀ n : SnapshotNode, n.matchWrites.length = 3 := fun _ => rfl
  rw [showWrites, renderWrites, keyWrites, hall, List.length_append, List.length_flatMap,
    List.length_map, ← Forest.length_preorder]
  simp only [hthree, List.map_const', List.sum_replicate_nat]
  omega

theorem length_plainWrites : m.plainWrites.length = 4 * m.size := by
  have hfour : ∀ n : SnapshotNode, n.plainWrites.length = 4 := fun _ => rfl
  rw [Snapshot.plainWrites, List.length_flatMap, ← Forest.length_preorder]
  simp only [hfour, List.map_const', List.sum_replicate_nat]
  omega

theorem build_ne_nil (v : View) (root : Handle) : (build v root).preorder ≠ [] := by
  rw [build, Forest.unfold_cons]
  simp [Forest.preorder]

theorem untouched_build (v : View) (root : Handle) : ∀ n ∈ (build v root).preorder, n.Untouched := by
  intro n hn
  obtain ⟨i, rfl⟩ := exists_handle_of_mem_build hn
  exact ⟨rfl, rfl⟩

end Snapshot

theorem View.size_writes_writeAll (v : View) (ws : List Write) :
    (v.writeAll ws).writes.size = v.writes.size + ws.length := by
  rw [writes_writeAll]
  simp

/-! ## Sessions -/

theorem Query.compile?_eq_none_iff_empty (q : Query) : q.compile? = none ↔ q.pattern = "" :=
  (compile?_eq_none_iff q).trans String.toList_eq_nil_iff

/-- The states of all nodes are of one age: a walk for the query has come to every node, or there was
nothing to walk for. What matches has a label and a kind that passes. -/
structure Snapshot.Uniform (q : Query) (m : Snapshot) : Prop where
  nonempty : m.preorder ≠ []
  known : q.pattern ≠ "" → ∀ n ∈ m.preorder,
    n.Known ∧ (n.selfMatch = .matched → n.isAdmitted q.kindFilter = true)
  untouched : q.pattern = "" → ∀ n ∈ m.preorder, n.Untouched

namespace Snapshot.Uniform

open SnapshotNode

variable {q : Query} {m : Snapshot}

theorem clearKeys_iff : Uniform q (clearKeys m) ↔ Uniform q m := by
  have hknown : ∀ n : SnapshotNode, n.clearKey.Known ↔ n.Known :=
    fun n => ⟨fun h => ⟨h.1, h.2⟩, fun h => ⟨h.1, h.2⟩⟩
  have huntouched : ∀ n : SnapshotNode, n.clearKey.Untouched ↔ n.Untouched :=
    fun n => ⟨fun h => ⟨h.1, h.2⟩, fun h => ⟨h.1, h.2⟩⟩
  have hmatched : ∀ n : SnapshotNode,
      (n.clearKey.selfMatch = .matched → n.clearKey.isAdmitted q.kindFilter = true) ↔
        (n.selfMatch = .matched → n.isAdmitted q.kindFilter = true) := fun _ => Iff.rfl
  constructor
  · rintro ⟨hnonempty, hall, hnone⟩
    simp only [clearKeys, Forest.preorder_map, List.forall_mem_map, hknown, hmatched, huntouched,
      ne_eq, List.map_eq_nil_iff] at hnonempty hall hnone
    exact ⟨hnonempty, hall, hnone⟩
  · rintro ⟨hnonempty, hall, hnone⟩
    constructor
    all_goals
      simp only [clearKeys, Forest.preorder_map, List.forall_mem_map, hknown, hmatched, huntouched,
        ne_eq, List.map_eq_nil_iff]
      assumption

/-- A snapshot has nodes, so its states tell whether there was anything to walk for. -/
theorem states_iff (h : Uniform q m) :
    ((∀ n ∈ m.preorder, n.Known) ↔ q.pattern ≠ "") ∧
      ((∀ n ∈ m.preorder, n.Untouched) ↔ q.pattern = "") := by
  obtain ⟨n, hn⟩ := List.exists_mem_of_ne_nil _ h.nonempty
  constructor
  · constructor
    · exact fun hall hempty => (hall n hn).not_untouched (h.untouched hempty n hn)
    · exact fun hpattern n hn => (h.known hpattern n hn).1
  · constructor
    · intro hall
      by_contra hpattern
      exact (h.known hpattern n hn).1.not_untouched (hall n hn)
    · exact h.untouched

/-- Where a query has been run, the next walk runs its predicate on what matches. -/
theorem countP_isEvaluated (h : Uniform q m) (hpattern : q.pattern ≠ "") :
    (m.preorder.countP fun n => n.isEvaluated q.kindFilter) = m.matchCount := by
  apply List.countP_congr
  intro n hn
  obtain ⟨hknown, hmatched⟩ := h.known hpattern n hn
  cases hself : n.selfMatch with
  | unknown => exact absurd hself hknown.selfMatch_ne
  | matched => simp [isEvaluated, hself, hmatched hself]
  | unmatched => simp [isEvaluated, hself]

end Snapshot.Uniform

/-- Where no walk has been, a predicate is run on all nodes that have a label and a kind that passes. -/
theorem Snapshot.countP_isEvaluated_of_untouched {m : Snapshot}
    (h : ∀ n ∈ m.preorder, n.Untouched) (kindFilter : Option String) :
    (m.preorder.countP fun n => n.isEvaluated kindFilter) = m.admittedCount kindFilter := by
  apply List.countP_congr
  intro n hn
  rw [(h n hn).isEvaluated]

/-- What a call comes to that searches a snapshot of `size` nodes, on `evaluated` of which the predicate is
run. Without a pattern there is nothing to do. -/
structure SearchOutcome.Costs (o : SearchOutcome) (q : Query) (size evaluated : Nat) : Prop where
  idle : q.pattern = "" → o.stats.evaluated = 0 ∧ o.stats.skipped = 0
  evaluated_eq : q.pattern ≠ "" → o.stats.evaluated = evaluated
  total_eq : q.pattern ≠ "" → o.stats.evaluated + o.stats.skipped = size

/-- Number of writes that show a search for a query on a snapshot of some size. -/
def Query.showCost (q : Query) (size : Nat) : Nat := if q.pattern = "" then 0 else 4 * size

namespace Session

open Snapshot

variable {s : Session}

theorem snapshot_run (s : Session) (w : View) :
    (s.run w).1.snapshot = clearKeys (match s.query.compile? with
      | some p => (Snapshot.walk p s.query.kindFilter s.snapshot).forest
      | none => s.snapshot) := by
  cases hp : s.query.compile? with
  | none => rw [run_of_compile?_none w hp]
  | some p => rw [run_of_compile?_some w hp]

theorem size_run (s : Session) (w : View) : (s.run w).1.snapshot.size = s.snapshot.size :=
  size_eq_of_copies_eq (copies_run s w)

theorem admittedCount_run (s : Session) (w : View) (kindFilter : Option String) :
    (s.run w).1.snapshot.admittedCount kindFilter = s.snapshot.admittedCount kindFilter := by
  rw [snapshot_run, admittedCount_clearKeys]
  cases s.query.compile? with
  | none => rfl
  | some p => exact admittedCount_walk p s.query.kindFilter s.snapshot kindFilter

theorem uniform_run (w : View) (hnonempty : s.snapshot.preorder ≠ [])
    (hidle : s.query.pattern = "" → ∀ n ∈ s.snapshot.preorder, n.Untouched) :
    (s.run w).1.snapshot.Uniform s.query := by
  have hrun := size_run s w
  rw [snapshot_run] at hrun ⊢
  refine Uniform.clearKeys_iff.mpr ?_
  rw [← Forest.length_preorder, ← Forest.length_preorder, clearKeys, Forest.preorder_map,
    List.length_map] at hrun
  cases hp : s.query.compile? with
  | none =>
      have hpattern := (Query.compile?_eq_none_iff_empty _).mp hp
      exact ⟨hnonempty, fun hne => absurd hpattern hne, hidle⟩
  | some p =>
      have hpattern : s.query.pattern ≠ "" := fun hempty => by
        rw [(Query.compile?_eq_none_iff_empty _).mpr hempty] at hp
        cases hp
      rw [hp] at hrun
      refine ⟨?_, fun _ => known_walk p s.query.kindFilter s.snapshot,
        fun hempty => absurd hempty hpattern⟩
      intro hnil
      rw [hnil] at hrun
      exact hnonempty (List.length_eq_zero_iff.mp hrun.symm)

theorem costs_run (s : Session) (w : View) :
    (s.run w).2.2.Costs s.query s.snapshot.size
      (s.snapshot.preorder.countP fun n => n.isEvaluated s.query.kindFilter) := by
  cases hp : s.query.compile? with
  | none =>
      have hpattern := (Query.compile?_eq_none_iff_empty _).mp hp
      have hstats : (s.run w).2.2.stats = {} := by simp [run, hp]
      exact ⟨fun _ => by simp [hstats], fun hne => absurd hpattern hne, fun hne => absurd hpattern hne⟩
  | some p =>
      have hpattern : s.query.pattern ≠ "" := fun hempty => by
        rw [(Query.compile?_eq_none_iff_empty _).mpr hempty] at hp
        cases hp
      have hstats : (s.run w).2.2.stats = (Snapshot.walk p s.query.kindFilter s.snapshot).stats := by
        simp [run, hp]
      rw [stats_walk] at hstats
      refine ⟨fun hempty => absurd hempty hpattern, fun _ => by rw [hstats], fun _ => ?_⟩
      have hsplit := List.length_eq_countP_add_countP (l := s.snapshot.preorder)
        fun n => n.isEvaluated s.query.kindFilter
      rw [hstats, ← Forest.length_preorder, hsplit]
      simp

/-- A run writes to an item four times for each of its nodes, and not at all if there is no pattern. -/
theorem size_writes_run (w : View) (hs : (s.run w).1.snapshot.Uniform s.query) :
    (s.run w).2.1.writes.size = w.writes.size + s.query.showCost (s.run w).1.snapshot.size := by
  rw [run_view, View.size_writes_writeAll, Query.showCost]
  split
  case isTrue hpattern =>
    rw [showWrites_of_not_isWalked fun n hn => (hs.untouched hpattern n hn).isWalked, List.length_nil]
  case isFalse hpattern =>
    rw [length_showWrites_of_isWalked _ fun n hn => (hs.known hpattern n hn).1.isWalked]

/-- What a run comes to on a snapshot that no walk has been on. -/
theorem run_of_untouched (w : View) (hnonempty : s.snapshot.preorder ≠ [])
    (huntouched : ∀ n ∈ s.snapshot.preorder, n.Untouched) :
    (s.run w).1.snapshot.Uniform s.query ∧
      (s.run w).2.2.Costs s.query (s.run w).1.snapshot.size
        ((s.run w).1.snapshot.admittedCount s.query.kindFilter) ∧
      (s.run w).2.1.writes.size = w.writes.size + s.query.showCost (s.run w).1.snapshot.size := by
  have huniform := uniform_run w hnonempty fun _ => huntouched
  have hcosts := costs_run s w
  rw [countP_isEvaluated_of_untouched huntouched, ← size_run s w, ← admittedCount_run s w] at hcosts
  exact ⟨huniform, hcosts, size_writes_run w huniform⟩

/-- What the run of a narrower query comes to where one has been run before. -/
theorem run_of_narrows (hs : s.snapshot.Uniform s.query) {q : Query} (hnarrows : q.Narrows s.query)
    (hprevious : s.query.pattern ≠ "") (w : View) :
    (run { s with query := q } w).1.snapshot.Uniform q ∧
      (run { s with query := q } w).2.2.Costs q (run { s with query := q } w).1.snapshot.size
        s.snapshot.matchCount ∧
      (run { s with query := q } w).2.1.writes.size =
        w.writes.size + q.showCost (run { s with query := q } w).1.snapshot.size := by
  have hpattern : q.pattern ≠ "" := by
    rw [ne_eq, ← Query.compile?_eq_none_iff_empty] at hprevious ⊢
    exact fun hnone => hprevious (hnarrows.compile?_eq_none hnone)
  have huniform := uniform_run (s := { s with query := q }) w hs.nonempty
    fun hempty => absurd hempty hpattern
  have hcosts := costs_run { s with query := q } w
  have hmatches := hs.countP_isEvaluated hprevious
  rw [← hnarrows.kindFilter_eq] at hmatches
  rw [hmatches, ← size_run { s with query := q } w] at hcosts
  exact ⟨huniform, hcosts, size_writes_run w huniform⟩

theorem start_costs (v : View) (root : Handle) (q : Query) :
    (start v root q).1.snapshot.Uniform q ∧
      (start v root q).2.2.Costs q (start v root q).1.snapshot.size
        ((start v root q).1.snapshot.admittedCount q.kindFilter) ∧
      (start v root q).2.1.writes.size =
        v.writes.size + q.showCost (start v root q).1.snapshot.size := by
  obtain ⟨huniform, hcosts, hwrites⟩ := run_of_untouched (s := { snapshot := build v root, query := q })
    v (build_ne_nil v root) (untouched_build v root)
  exact ⟨huniform, ⟨hcosts.1, hcosts.2, hcosts.3⟩, hwrites⟩

/-- What a search comes to after another one. The snapshot is taken back if the query does not narrow the
last one. -/
theorem search_costs (hs : s.snapshot.Uniform s.query) (w : View) (root : Handle) (q : Query) :
    (s.search w root q).1.snapshot.Uniform q ∧
      (s.search w root q).2.2.rebuilt = !q.narrows s.query ∧
      (s.search w root q).2.2.Costs q (s.search w root q).1.snapshot.size
        (if (s.search w root q).2.2.rebuilt = true ∨ s.query.pattern = "" then
          (s.search w root q).1.snapshot.admittedCount q.kindFilter
        else s.snapshot.matchCount) ∧
      (s.search w root q).2.1.writes.size =
        w.writes.size + (if (s.search w root q).2.2.rebuilt = true then 4 * s.snapshot.size else 0) +
          q.showCost (s.search w root q).1.snapshot.size := by
  cases hnarrows : q.narrows s.query with
  | true =>
      have hrebuilt : (run { s with query := q } w).2.2.rebuilt = false := rfl
      rw [search_of_narrows w root hnarrows, hrebuilt]
      simp only [Bool.false_eq_true, false_or, if_false, Nat.add_zero, Bool.not_true, true_and]
      by_cases hprevious : s.query.pattern = ""
      · rw [if_pos hprevious]
        exact run_of_untouched (s := { s with query := q }) w hs.nonempty (hs.untouched hprevious)
      · rw [if_neg hprevious]
        exact run_of_narrows hs ((q.narrows_iff _).mp hnarrows) hprevious w
  | false =>
      obtain ⟨huniform, hcosts, hwrites⟩ := start_costs (s.teardown w) root q
      have hrebuilt : (start (s.teardown w) root q).2.2.rebuilt = true := rfl
      have hteardown : (s.teardown w).writes.size = w.writes.size + 4 * s.snapshot.size := by
        rw [← length_plainWrites]
        exact View.size_writes_writeAll w _
      rw [hteardown] at hwrites
      rw [search_of_not_narrows w root hnarrows, hrebuilt]
      simp only [true_or, if_true, Bool.not_false, true_and]
      exact ⟨huniform, hcosts, hwrites⟩

theorem uniform_assignJumpKeys (hs : s.snapshot.Uniform s.query) (w : View) :
    (s.assignJumpKeys w).1.snapshot.Uniform s.query := by
  change (s.snapshot.assignKeys jumpKeys.toList).1.Uniform s.query
  rw [← Uniform.clearKeys_iff, clearKeys_assignKeys, Uniform.clearKeys_iff]
  exact hs

end Session

namespace History

open Snapshot

theorem uniform_after {r : History} (h : r.session.snapshot.Uniform r.session.query) (ops : List Op) :
    (r.after ops).session.snapshot.Uniform (r.after ops).session.query := by
  refine session_after_keeps (I := fun s => s.snapshot.Uniform s.query) (fun s hs w root q => ?_)
    (fun _ hs => Session.uniform_assignJumpKeys hs) h ops
  have hquery : (s.search w root q).1.query = q := by
    simp only [Session.search]
    split <;> rfl
  rw [hquery]
  exact (Session.search_costs hs w root q).1

theorem outcome_step_search (r : History) (root : Handle) (q : Query) :
    (r.step (.search root q)).outcome = (r.session.search r.view root q).2.2 := by
  simp only [step]
  split <;> rfl

/-- At any time a walk has come to all nodes or to none, as there is a pattern or not. A start runs the
predicate on the nodes that have a label and a kind that passes, and so does a search that takes a new
snapshot or comes after one without a pattern; any other runs it on the last matches. All other nodes are
passed over. Each node is shown by four writes, and made plain by four. -/
theorem work_after (v : View) (root : Handle) (q : Query) :
    let first := start v root q
    first.outcome.Costs q first.session.snapshot.size
      (first.session.snapshot.admittedCount q.kindFilter) ∧
    first.view.writes.size = v.writes.size + q.showCost first.session.snapshot.size ∧
    ∀ ops : List Op,
      let r := first.after ops
      ((∀ n ∈ r.session.snapshot.preorder, n.Known) ↔ r.session.query.pattern ≠ "") ∧
      ((∀ n ∈ r.session.snapshot.preorder, n.Untouched) ↔ r.session.query.pattern = "") ∧
      ∀ (root' : Handle) (q' : Query),
        let next := r.step (.search root' q')
        next.outcome.rebuilt = !q'.narrows r.session.query ∧
        next.outcome.Costs q' next.session.snapshot.size
          (if next.outcome.rebuilt = true ∨ r.session.query.pattern = "" then
            next.session.snapshot.admittedCount q'.kindFilter
          else r.session.snapshot.matchCount) ∧
        next.view.writes.size = r.view.writes.size +
          (if next.outcome.rebuilt = true then 4 * r.session.snapshot.size else 0) +
            q'.showCost next.session.snapshot.size := by
  intro first
  obtain ⟨hstart, hcosts, hwrites⟩ := Session.start_costs v root q
  refine ⟨hcosts, hwrites, fun ops => ?_⟩
  have huniform := uniform_after (r := first) hstart ops
  refine ⟨huniform.states_iff.1, huniform.states_iff.2, fun root' q' => ?_⟩
  obtain ⟨hsession, hview⟩ := session_step_search (first.after ops) root' q'
  simp only [hsession, hview, outcome_step_search]
  exact (Session.search_costs huniform _ root' q').2

/-- One more letter is looked for in the two matches only, after keys were handed out and a label was
changed. -/
theorem work_after_narrowed :
    let v : View := ⟨#[{ label := "Notes", children := [1, 2, 3] }, { label := "May" }, { label := "" },
      { label := "mast" }], #[]⟩
    let r := (start v 0 { pattern := "ma" }).after [.assignKeys, .edit fun w => w.setLabel 1 "June"]
    let q : Query := { pattern := "mas" }
    let next := r.step (.search 0 q)
    r.outcome.stats = ⟨3, 1⟩ ∧ r.session.snapshot.matchCount = 2 ∧ next.outcome.rebuilt = false ∧
      next.outcome.Costs q 4 2 := by
  intro v
  have hcosts := (((work_after v 0 { pattern := "ma" }).2.2
    [.assignKeys, .edit fun w => w.setLabel 1 "June"]).2.2 0 { pattern := "mas" }).2.1
  generalize hr : (start v 0 { pattern := "ma" }).after
    [.assignKeys, .edit fun w => w.setLabel 1 "June"] = r at hcosts ⊢
  have hclosed : r.outcome.stats = ⟨3, 1⟩ ∧ r.session.query.pattern = "ma" ∧
      r.session.snapshot.matchCount = 2 := by
    rw [← hr]
    decide +kernel
  have hnext : (r.step (.search 0 { pattern := "mas" })).outcome.rebuilt = false ∧
      (r.step (.search 0 { pattern := "mas" })).session.snapshot.size = 4 := by
    rw [← hr]
    decide +kernel
  obtain ⟨hstats, hpattern, hmatches⟩ := hclosed
  obtain ⟨hkept, hsize⟩ := hnext
  rw [hkept, hpattern, hsize, hmatches] at hcosts
  exact ⟨hstats, hmatches, hkept, hcosts⟩

end History

end Waymark.Search
