import Waymark.Proofs.Search.Run

/-!
# Histories of a session

A history is one start followed by searches, jump keys and edits of the view in any order. It keeps the
view and the item that the snapshot was last taken from. What carries an induction along a history is
that the session reflects its last query on that source, and that the query is readable.
-/

namespace Waymark.Search

/-- What happens to a session or to its view. -/
inductive Op
  | search (root : Handle) (q : Query)
  | assignKeys
  | edit (change : View → View)

namespace Op

/-- Plain text and letters that are searched for are not too large. -/
def Readable : Op → Prop
  | .search _ q => q.Readable
  | .assignKeys | .edit _ => True

/-- The view is not edited, and the search starts from the same item. -/
def StaysAt (root : Handle) : Op → Prop
  | .search root' _ => root' = root
  | .assignKeys => True
  | .edit _ => False

end Op

/-- A session with its view, and where its snapshot was last taken from. -/
structure History where
  session : Session
  view : View
  outcome : SearchOutcome
  /-- The view as it was when the snapshot was taken. -/
  source : View
  /-- The item below which it was taken. -/
  root : Handle

namespace History

open Snapshot

def start (v : View) (root : Handle) (q : Query) : History :=
  let (s, v', outcome) := Session.start v root q
  ⟨s, v', outcome, v, root⟩

/-- Only a query that narrows nothing takes a new snapshot. -/
def step (r : History) : Op → History
  | .search root q =>
    let (s, v, outcome) := r.session.search r.view root q
    if q.narrows r.session.query then ⟨s, v, outcome, r.source, r.root⟩
    else ⟨s, v, outcome, r.view, root⟩
  | .assignKeys =>
    let (s, v, _) := r.session.assignJumpKeys r.view
    { r with session := s, view := v }
  | .edit change => { r with view := change r.view }

def after (r : History) (ops : List Op) : History := ops.foldl step r

theorem after_append (r : History) (ops more : List Op) :
    r.after (ops ++ more) = (r.after ops).after more := by
  rw [after, after, after, List.foldl_append]

theorem after_cons (r : History) (op : Op) (ops : List Op) :
    r.after (op :: ops) = (r.step op).after ops := rfl

theorem after_search (r : History) (ops : List Op) (root : Handle) (q : Query) :
    r.after (ops ++ [.search root q]) = (r.after ops).step (.search root q) := by
  rw [after_append, after_cons]
  rfl

/-! ## What a history keeps -/

theorem session_step_search (r : History) (root : Handle) (q : Query) :
    (r.step (.search root q)).session = (r.session.search r.view root q).1 ∧
      (r.step (.search root q)).view = (r.session.search r.view root q).2.1 := by
  simp only [step]
  split <;> exact ⟨rfl, rfl⟩

/-- What every step keeps, a history keeps. -/
theorem after_keeps {I : History → Prop} {ops : List Op}
    (hstep : ∀ r, I r → ∀ op ∈ ops, I (r.step op)) {r : History} (h : I r) : I (r.after ops) :=
  List.foldlRecOn ops step h hstep

/-- What searches and jump keys keep of a session, a history keeps of its session. -/
theorem session_after_keeps {I : Session → Prop}
    (hsearch : ∀ s, I s → ∀ w root q, I (s.search w root q).1)
    (hkeys : ∀ s, I s → ∀ w, I (s.assignJumpKeys w).1) {r : History} (h : I r.session)
    (ops : List Op) : I (r.after ops).session := by
  refine after_keeps (I := fun r => I r.session) (fun r hr op _ => ?_) h
  cases op with
  | search root q =>
      rw [(r.session_step_search root q).1]
      exact hsearch r.session hr r.view root q
  | assignKeys => exact hkeys r.session hr r.view
  | edit change => exact hr

structure Coherent (r : History) : Prop where
  reflects : r.session.Reflects (build r.source r.root)
  readable : r.session.query.Readable

theorem coherent_start (v : View) (root : Handle) {q : Query} (hq : q.Readable) :
    (start v root q).Coherent := by
  have hsession : (start v root q).session = Session.ofSource q (build v root) :=
    Session.start_fst v root q
  refine ⟨?_, ?_⟩
  · rw [hsession]
    exact Session.reflects_ofSource q (clearKeys_build v root)
  · rw [hsession]
    exact hq

/-- A search leaves the session that a start on the source leaves, whichever way it went. -/
theorem step_search_session {r : History} (h : r.Coherent) (root : Handle) {q : Query}
    (hq : q.Readable) :
    (r.step (.search root q)).session =
      Session.ofSource q
        (build (r.step (.search root q)).source (r.step (.search root q)).root) := by
  cases hnarrows : q.narrows r.session.query with
  | true =>
      have hsession : (r.session.search r.view root q).1 =
          Session.ofSource q (build r.source r.root) := by
        rw [Session.search_of_narrows r.view root hnarrows]
        exact Session.run_of_reflects r.view (isOpen_build r.source r.root) h.reflects
          ((Query.narrows_iff q _).mp hnarrows) hq h.readable
      simpa [step, hnarrows] using hsession
  | false =>
      simpa [step, hnarrows] using Session.search_fst_of_not_narrows r.view root hnarrows

theorem coherent_step {r : History} (h : r.Coherent) {op : Op} (hop : op.Readable) :
    (r.step op).Coherent := by
  cases op with
  | search root q =>
      have hsession := step_search_session h root hop
      refine ⟨?_, ?_⟩
      · rw [hsession]
        exact Session.reflects_ofSource q (clearKeys_build _ _)
      · rw [hsession]
        exact hop
  | assignKeys => exact ⟨Session.assignJumpKeys_reflects r.view h.reflects, h.readable⟩
  | edit change => exact ⟨h.reflects, h.readable⟩

theorem coherent_after {r : History} (h : r.Coherent) {ops : List Op}
    (hops : ∀ op ∈ ops, op.Readable) : (r.after ops).Coherent :=
  after_keeps (I := Coherent) (fun _ hr op hop => coherent_step hr (hops op hop)) h

/-- Without edits the items of a view stay as they are, and so does what is copied. -/
structure At (r : History) (v : View) (root : Handle) : Prop where
  view_same : v.SameItems r.view
  source_same : v.SameItems r.source
  root_eq : r.root = root

theorem run_view_same (s : Session) (v : View) : v.SameItems (s.run v).2.1 :=
  (View.sameItems_writeAll v _).trans (View.sameItems_writeAll _ _)

theorem search_view_same (s : Session) (v : View) (root : Handle) (q : Query) :
    v.SameItems (s.search v root q).2.1 := by
  cases hnarrows : q.narrows s.query with
  | true =>
      rw [Session.search_of_narrows v root hnarrows]
      exact run_view_same _ v
  | false =>
      rw [Session.search_of_not_narrows v root hnarrows]
      exact (s.sameItems_teardown v).trans (run_view_same _ _)

theorem at_start (v : View) (root : Handle) (q : Query) : (start v root q).At v root :=
  ⟨run_view_same _ v, .refl v, rfl⟩

theorem at_step {r : History} {v : View} {root : Handle} (h : r.At v root) {op : Op}
    (hop : op.StaysAt root) : (r.step op).At v root := by
  cases op with
  | search root' q =>
      have hroot : root' = root := hop
      have hview := h.view_same.trans (search_view_same r.session r.view root' q)
      cases hnarrows : q.narrows r.session.query with
      | true =>
          simp only [step, hnarrows, if_true]
          exact ⟨hview, h.source_same, h.root_eq⟩
      | false =>
          simp only [step, hnarrows, Bool.false_eq_true, if_false]
          exact ⟨hview, h.view_same, hroot⟩
  | assignKeys => exact ⟨h.view_same.trans (View.sameItems_writeAll _ _), h.source_same, h.root_eq⟩
  | edit change => exact hop.elim

theorem at_after {r : History} {v : View} {root : Handle} (h : r.At v root) {ops : List Op}
    (hops : ∀ op ∈ ops, op.StaysAt root) : (r.after ops).At v root :=
  after_keeps (I := (·.At v root)) (fun _ hr op hop => at_step hr (hops op hop)) h

/-! ## Every search refines a start -/

/-- After every search the session is the one that a start with the last query gives on the view and
the item as they were when the snapshot was last taken. Where nothing was edited these are the first
ones. -/
theorem session_eq_start (v : View) (root : Handle) (q : Query) (ops : List Op) (root' : Handle)
    (q' : Query) (hq : q.Readable) (hops : ∀ op ∈ ops, op.Readable) (hq' : q'.Readable) :
    let r := (start v root q).after (ops ++ [.search root' q'])
    r.session = (Session.start r.source r.root q').1 ∧
      ((∀ op ∈ ops ++ [.search root' q'], op.StaysAt root) →
        r.session = (Session.start v root q').1) := by
  intro r
  have hr : r = ((start v root q).after ops).step (.search root' q') :=
    after_search (start v root q) ops root' q'
  have hsession : r.session = (Session.start r.source r.root q').1 := by
    have hcoherent := coherent_after (coherent_start v root hq) hops
    rw [Session.start_fst, hr]
    exact step_search_session hcoherent root' hq'
  refine ⟨hsession, ?_⟩
  intro hstay
  have hat : r.At v root := at_after (at_start v root q) hstay
  rw [hsession, Session.start_fst, Session.start_fst, hat.root_eq, build_congr hat.source_same]

theorem session_eq_start_twice_narrowed :
    let v : View := ⟨#[{ label := "Notes", children := [1, 2] }, { label := "map" }, { label := "May" }], #[]⟩
    let ops : List Op := [.search 0 { pattern := "ma" }, .assignKeys]
    ((start v 0 { pattern := "m" }).after (ops ++ [.search 0 { pattern := "may" }])).session =
      (Session.start v 0 { pattern := "may" }).1 := by
  intro v ops
  have hm : Query.Readable { pattern := "m" } := Query.readable_of_byteLength rfl (by decide)
  have hma : Query.Readable { pattern := "ma" } := Query.readable_of_byteLength rfl (by decide)
  have hmay : Query.Readable { pattern := "may" } := Query.readable_of_byteLength rfl (by decide)
  have hops : ∀ op ∈ ops, op.Readable := by
    intro op hop
    simp only [ops, List.mem_cons, List.not_mem_nil, or_false] at hop
    rcases hop with rfl | rfl
    · exact hma
    · exact trivial
  refine (session_eq_start v 0 { pattern := "m" } ops 0 { pattern := "may" } hm hops hmay).2 ?_
  intro op hop
  simp only [ops, List.cons_append, List.nil_append, List.mem_cons, List.not_mem_nil, or_false] at hop
  rcases hop with rfl | rfl | rfl
  · rfl
  · trivial
  · rfl

end History

end Waymark.Search
