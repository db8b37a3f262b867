import Waymark.Proofs.Search.Emphasis
import Waymark.Proofs.Search.History

/-!
# Highlights

After a search a node is highlighted exactly if it matches, and then where the query first matches its label.
A walk need not look at what an earlier one rejected, since nothing is highlighted there; and whatever else
happens to a session leaves labels, matches and highlights alone.
-/

namespace Waymark.Search

/-- A node is highlighted where the query first matches its label if it is a match, and nowhere if not. -/
structure SnapshotNode.Highlighted (q : Query) (n : SnapshotNode) : Prop where
  of_matched : n.selfMatch = .matched →
    ∃ p r, q.compile? = some p ∧ p.find? n.label = some r ∧ n.highlight = some r
  of_not_matched : n.selfMatch ≠ .matched → n.highlight = none

namespace Snapshot

/-- Every node is highlighted as the query asks for. -/
def Highlighted (q : Query) (m : Snapshot) : Prop := ∀ n ∈ m.preorder, n.Highlighted q

/-- Nothing but matches is highlighted. -/
def OnlyMatches (m : Snapshot) : Prop :=
  ∀ n ∈ m.preorder, n.selfMatch ≠ .matched → n.highlight = none

theorem Highlighted.onlyMatches {q : Query} {m : Snapshot} (h : Highlighted q m) : OnlyMatches m :=
  fun n hn => (h n hn).of_not_matched

theorem highlighted_clearKeys (q : Query) (m : Snapshot) :
    Highlighted q (clearKeys m) ↔ Highlighted q m := by
  have hnode : ∀ n : SnapshotNode, n.clearKey.Highlighted q ↔ n.Highlighted q :=
    fun n => ⟨fun h => ⟨h.1, h.2⟩, fun h => ⟨h.1, h.2⟩⟩
  simp only [Highlighted, clearKeys, Forest.preorder_map, List.forall_mem_map, hnode]

variable {q : Query} {p : Predicate} {kindFilter : Option String}

theorem highlighted_judge (hp : q.compile? = some p) {n : SnapshotNode}
    (hn : n.selfMatch ≠ .matched → n.highlight = none) :
    (n.judge p kindFilter).1.Highlighted q := by
  unfold SnapshotNode.judge
  split
  case isTrue hrejected => exact ⟨by simp [hrejected], fun hnot => hn hnot⟩
  case isFalse =>
    split
    case isTrue => exact ⟨by simp, fun _ => rfl⟩
    case isFalse =>
      cases hfound : p.find? n.label with
      | none => exact ⟨by simp [MatchState.ofBool], fun _ => rfl⟩
      | some r => exact ⟨fun _ => ⟨p, r, hp, hfound, rfl⟩, by simp [MatchState.ofBool]⟩

theorem highlighted_walk (hp : q.compile? = some p) {m : Snapshot} (hm : OnlyMatches m) :
    Highlighted q (Snapshot.walk p kindFilter m).forest := by
  induction m with
  | nil => simp [Highlighted, Snapshot.walk, Forest.preorder]
  | node n below after ihb iha =>
      simp only [OnlyMatches, Forest.preorder, List.cons_append, List.forall_mem_cons,
        List.forall_mem_append] at hm
      simp only [Highlighted, Snapshot.walk, Forest.preorder, List.cons_append, List.forall_mem_cons,
        List.forall_mem_append]
      exact ⟨highlighted_judge hp hm.1, ihb hm.2.1, iha hm.2.2⟩

theorem highlighted_build (q : Query) (v : View) (root : Handle) : Highlighted q (build v root) := by
  intro n hn
  obtain ⟨h, rfl⟩ := exists_handle_of_mem_build hn
  exact ⟨fun hmatched => by simp [freshNode] at hmatched, fun _ => rfl⟩

/-- Where a query without characters has been run there is no match to take back. -/
theorem Highlighted.of_narrows {previous : Query} {m : Snapshot} (h : Highlighted previous m)
    (hnarrows : q.Narrows previous) (hq : q.compile? = none) : Highlighted q m := by
  intro n hn
  refine ⟨?_, (h n hn).of_not_matched⟩
  intro hmatched
  obtain ⟨p, _, hp, _⟩ := (h n hn).of_matched hmatched
  rw [hnarrows.compile?_eq_none hq] at hp
  cases hp

end Snapshot

namespace Session

open Snapshot

variable {s : Session} {w : View}

/-- Every node of the snapshot is highlighted as the query of the session asks for. -/
def Highlighted (s : Session) : Prop := s.snapshot.Highlighted s.query

theorem highlighted_run (w : View) (honly : s.snapshot.OnlyMatches)
    (hidle : s.query.compile? = none → s.Highlighted) : (s.run w).1.Highlighted := by
  cases hp : s.query.compile? with
  | none =>
      rw [run_of_compile?_none w hp]
      exact (highlighted_clearKeys _ _).mpr (hidle hp)
  | some p =>
      rw [run_of_compile?_some w hp]
      exact (highlighted_clearKeys _ _).mpr (highlighted_walk hp honly)

theorem highlighted_start (v : View) (root : Handle) (q : Query) :
    (start v root q).1.Highlighted :=
  highlighted_run (s := { snapshot := build v root, query := q }) v (highlighted_build q v root).onlyMatches
    fun _ => highlighted_build q v root

theorem Highlighted.search (hs : s.Highlighted) (w : View) (root : Handle) (q : Query) :
    (s.search w root q).1.Highlighted := by
  cases hnarrows : q.narrows s.query with
  | true =>
      rw [search_of_narrows w root hnarrows]
      exact highlighted_run (s := { s with query := q }) w hs.onlyMatches
        fun hq => hs.of_narrows ((q.narrows_iff _).mp hnarrows) hq
  | false =>
      rw [search_of_not_narrows w root hnarrows]
      exact highlighted_start _ root q

theorem Highlighted.assignJumpKeys (hs : s.Highlighted) (w : View) :
    (s.assignJumpKeys w).1.Highlighted := by
  change Snapshot.Highlighted s.query (s.snapshot.assignKeys jumpKeys.toList).1
  rw [← highlighted_clearKeys, clearKeys_assignKeys, highlighted_clearKeys]
  exact hs

end Session

namespace History

theorem highlighted_after {r : History} (hr : r.session.Highlighted) (ops : List Op) :
    (r.after ops).session.Highlighted :=
  session_after_keeps (fun _ hs => hs.search) (fun _ hs => hs.assignJumpKeys) hr ops

/-- A slice exists on a stretch that lies in the text and cuts no character, and emphasising takes no other.
It sets off such a stretch of the label, and otherwise leaves the label as it is. Whatever has happened to a
session, its matches are set off where its query first matches their label, and the markup of every other
node is its label. -/
theorem markup_after :
    (∀ (text : List Char) (r : ByteRange), (slice? text r).isSome = true ↔ r.Fits text) ∧
    (∀ (label : String) (highlight : Option ByteRange),
      emphasiseBySlices? label highlight = some (emphasise label highlight) ∧
      (∀ r, highlight = some r → r.Fits label.toList →
        Emphasises label r (emphasise label highlight)) ∧
      ((∀ r, highlight = some r → ¬ r.Fits label.toList) → emphasise label highlight = label)) ∧
    ∀ (v : View) (root : Handle) (q : Query) (ops : List Op),
      let s := ((start v root q).after ops).session
      ∀ n ∈ s.snapshot.preorder,
        (n.selfMatch = .matched → ∃ p r, s.query.compile? = some p ∧ p.find? n.label = some r ∧
          n.highlight = some r ∧ r.Fits n.label.toList ∧ Emphasises n.label r n.markup) ∧
        (n.selfMatch ≠ .matched → n.highlight = none ∧ n.markup = n.label) := by
  refine ⟨fun text r => isSome_slice?_iff,
    fun label highlight => ⟨emphasiseBySlices?_eq label highlight, ?_, emphasise_of_not_fits⟩, ?_⟩
  · intro r hr hfits
    rw [hr]
    exact emphasises_of_fits hfits
  · intro v root q ops s n hn
    have hs : s.Highlighted := highlighted_after (Session.highlighted_start v root q) ops
    refine ⟨?_, ?_⟩
    · intro hmatched
      obtain ⟨p, r, hp, hfound, hhighlight⟩ := (hs n hn).of_matched hmatched
      refine ⟨p, r, hp, hfound, hhighlight, fits_of_find? hfound, ?_⟩
      rw [SnapshotNode.markup, hhighlight]
      exact emphasises_find? hfound
    · intro hnot
      have hnone := (hs n hn).of_not_matched hnot
      exact ⟨hnone, by rw [SnapshotNode.markup, hnone]; rfl⟩

/-- One more letter rejects the first of two matches, and its highlight is taken back. -/
theorem markup_after_narrowed :
    let v : View := ⟨#[{ label := "Notes", children := [1, 2] }, { label := "May" },
      { label := "mast" }], #[]⟩
    let r := start v 0 { pattern := "ma" }
    let s := (r.after [.search 0 { pattern := "mas" }]).session
    r.session.snapshot.preorder.map SnapshotNode.highlight = [none, some ⟨0, 2⟩, some ⟨0, 2⟩] ∧
      s.snapshot.preorder.map SnapshotNode.markup = ["Notes", "May", "<b>mas</b>t"] ∧
      ∀ n ∈ s.snapshot.preorder, n.selfMatch ≠ .matched → n.highlight = none ∧ n.markup = n.label := by
  intro v r s
  obtain ⟨_, _, hsession⟩ := markup_after
  refine ⟨by decide +kernel, by decide +kernel, ?_⟩
  intro n hn hnot
  exact (hsession v 0 { pattern := "ma" } [.search 0 { pattern := "mas" }] n hn).2 hnot

end History

end Waymark.Search
