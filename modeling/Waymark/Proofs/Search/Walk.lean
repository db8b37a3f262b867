import Waymark.Proofs.Search.Predicate
import Waymark.Search.Session

/-!
# Walks over a snapshot

A walk judges each node by its label and kind, and by what was found below it. What an earlier walk
rejected it passes over. Hence a walk over the result of a wider one comes to the same nodes as a walk
over the snapshot as it was taken: everything passed over would have been rejected anew.
-/

namespace Waymark.Search

/-! ## Judging a node -/

namespace SnapshotNode

variable {p p' : Predicate} {kindFilter : Option String}

/-- The node without its jump key. -/
def clearKey (n : SnapshotNode) : SnapshotNode := { n with key := none }

/-- Whether the label and the kind of a node pass a predicate. -/
def passes (n : SnapshotNode) (p : Predicate) (kindFilter : Option String) : Bool :=
  n.hasKind kindFilter && !n.label.isEmpty && (p.find? n.label).isSome

/-- A node as a walk leaves it that has not rejected it before. -/
def settled (n : SnapshotNode) (below : MatchState) (p : Predicate) (kindFilter : Option String) :
    SnapshotNode :=
  { n with
    selfMatch := .ofBool (n.passes p kindFilter)
    descendantMatch := below
    highlight := if n.passes p kindFilter then p.find? n.label else none }

/-- Whether no walk has rejected the node. -/
def IsOpen (n : SnapshotNode) : Prop := n.selfMatch ≠ .unmatched

theorem judge_of_isOpen (p : Predicate) (kindFilter : Option String) {n : SnapshotNode}
    (h : n.IsOpen) (below : MatchState) :
    ({ n with descendantMatch := below }.judge p kindFilter).1 = n.settled below p kindFilter ∧
      ({ n with descendantMatch := below }.judge p kindFilter).2.matched =
        n.passes p kindFilter := by
  have hopen : ¬ ({ n with descendantMatch := below } : SnapshotNode).selfMatch = .unmatched := h
  unfold judge
  rw [if_neg hopen]
  by_cases hkind : n.hasKind kindFilter = true
  · by_cases hlabel : n.label.isEmpty = true
    · have hpass : n.passes p kindFilter = false := by simp [passes, hlabel]
      rw [if_pos (by simp [hlabel])]
      simp [settled, hpass, MatchState.ofBool, Evaluation.matched]
    · have hpass : n.passes p kindFilter = (p.find? n.label).isSome := by
        simp [passes, hkind, hlabel]
      have hjudged : ¬ (!hasKind { n with descendantMatch := below } kindFilter ||
          n.label.isEmpty) = true := by
        have hkind' : hasKind { n with descendantMatch := below } kindFilter = true := hkind
        simp [hlabel, hkind']
      rw [if_neg hjudged]
      cases hfind : p.find? n.label <;> simp [settled, hpass, hfind, Evaluation.matched]
  · have hpass : n.passes p kindFilter = false := by simp [passes, hkind]
    have hkind' : ¬ hasKind { n with descendantMatch := below } kindFilter = true := hkind
    rw [if_pos (by simp [hkind'])]
    simp [settled, hpass, MatchState.ofBool, Evaluation.matched]

theorem judge_of_not_isOpen {n : SnapshotNode} (h : ¬ n.IsOpen) :
    n.judge p kindFilter = (n, .memoized) := by
  unfold judge
  rw [if_pos (Decidable.not_not.mp h)]

/-- A node that a wider predicate has settled is judged as if it had not been. -/
theorem judge_settled (kindFilter : Option String) {n : SnapshotNode} (below below' : MatchState)
    (hwider : (p'.find? n.label).isSome = true → (p.find? n.label).isSome = true) :
    ({ n.settled below p kindFilter with descendantMatch := below' }.judge p' kindFilter).1 =
        n.settled below' p' kindFilter ∧
      ({ n.settled below p kindFilter with descendantMatch := below' }.judge p' kindFilter).2.matched =
        n.passes p' kindFilter := by
  cases hpass : n.passes p kindFilter with
  | true =>
      have hopen : (n.settled below p kindFilter).IsOpen := by
        simp [IsOpen, settled, hpass, MatchState.ofBool]
      exact judge_of_isOpen p' kindFilter hopen below'
  | false =>
      have hclosed : ¬ ({ n.settled below p kindFilter with
          descendantMatch := below' } : SnapshotNode).IsOpen := by
        simp [IsOpen, settled, hpass, MatchState.ofBool]
      have hpass' : n.passes p' kindFilter = false := by
        rw [Bool.eq_false_iff] at hpass ⊢
        intro h'
        apply hpass
        simp only [passes, Bool.and_eq_true] at h' ⊢
        exact ⟨h'.1, hwider h'.2⟩
      rw [judge_of_not_isOpen hclosed, hpass']
      simp [settled, hpass, hpass', Evaluation.matched]

end SnapshotNode

/-! ## Walking -/

namespace Snapshot

open SnapshotNode

variable {p p' : Predicate} {kindFilter : Option String}

/-- No node of the snapshot has been rejected. -/
def IsOpen (m : Snapshot) : Prop := ∀ n ∈ m.preorder, n.IsOpen

theorem isOpen_node {n : SnapshotNode} {below after : Snapshot} :
    IsOpen (.node n below after) ↔ n.IsOpen ∧ IsOpen below ∧ IsOpen after := by
  simp [IsOpen, Forest.preorder, or_imp, forall_and]

/-- Whether some node of the snapshot passes a predicate. -/
def finds (p : Predicate) (kindFilter : Option String) (m : Snapshot) : Bool :=
  m.preorder.any fun n => n.passes p kindFilter

/-- A snapshot with every node settled by the predicate and by what is below it. -/
def settle (p : Predicate) (kindFilter : Option String) : Snapshot → Snapshot
  | .nil => .nil
  | .node n below after =>
    .node (n.settled (.ofBool (finds p kindFilter below)) p kindFilter) (settle p kindFilter below)
      (settle p kindFilter after)

theorem finds_node (n : SnapshotNode) (below after : Snapshot) :
    finds p kindFilter (.node n below after) =
      (n.passes p kindFilter || finds p kindFilter below || finds p kindFilter after) := by
  simp [finds, Forest.preorder, Bool.or_assoc]

/-- A walk over a snapshot in which nothing was rejected settles every node. -/
theorem walk_of_isOpen (p : Predicate) (kindFilter : Option String) {m : Snapshot}
    (h : IsOpen m) :
    (Snapshot.walk p kindFilter m).forest = settle p kindFilter m ∧
      (Snapshot.walk p kindFilter m).found = finds p kindFilter m := by
  induction m with
  | nil => exact ⟨rfl, rfl⟩
  | node n below after ihb iha =>
      obtain ⟨hn, hbelow, hafter⟩ := isOpen_node.mp h
      obtain ⟨hforestB, hfoundB⟩ := ihb hbelow
      obtain ⟨hforestA, hfoundA⟩ := iha hafter
      obtain ⟨hnode, hmatched⟩ := judge_of_isOpen p kindFilter hn
        (.ofBool (finds p kindFilter below))
      rw [finds_node, settle]
      simp only [Snapshot.walk, hforestB, hfoundB, hforestA, hfoundA, hnode, hmatched]
      exact ⟨trivial, trivial⟩

/-- A walk over a snapshot that a wider predicate has settled comes to what it would have come to
without that. -/
theorem walk_settle (kindFilter : Option String) (m : Snapshot)
    (hwider : ∀ label, (p'.find? label).isSome = true → (p.find? label).isSome = true) :
    (Snapshot.walk p' kindFilter (settle p kindFilter m)).forest = settle p' kindFilter m ∧
      (Snapshot.walk p' kindFilter (settle p kindFilter m)).found = finds p' kindFilter m := by
  induction m with
  | nil => exact ⟨rfl, rfl⟩
  | node n below after ihb iha =>
      obtain ⟨hforestB, hfoundB⟩ := ihb
      obtain ⟨hforestA, hfoundA⟩ := iha
      obtain ⟨hnode, hmatched⟩ := judge_settled kindFilter
        (.ofBool (finds p kindFilter below)) (.ofBool (finds p' kindFilter below)) (hwider n.label)
      rw [finds_node, settle, settle]
      simp only [Snapshot.walk, hforestB, hfoundB, hforestA, hfoundA, hnode, hmatched]
      exact ⟨trivial, trivial⟩

end Snapshot

end Waymark.Search
