import Waymark.Proofs.Search.Meaning

/-!
# What a session leaves on its view

Whatever happens to the view meanwhile, an item that shows something of a search belongs to a node of the
snapshot that a walk has come to. Hence taking the session back makes every item plain, also those that
were moved or detached. Only the markup of an item whose label was edited is not spoken for.
-/

namespace Waymark.Search

/-! ## Copies and walked nodes -/

namespace Snapshot

/-- The items of the nodes with the labels they had when they were copied. -/
def copies (m : Snapshot) : List (Handle × String) := m.preorder.map fun n => (n.handle, n.label)

/-- The items of the nodes that a walk has come to. -/
def walked (m : Snapshot) : List Handle := (m.preorder.filter SnapshotNode.isWalked).map (·.handle)

theorem mem_copies {m : Snapshot} {h : Handle} {label : String} :
    (h, label) ∈ m.copies ↔ ∃ n ∈ m.preorder, n.handle = h ∧ n.label = label := by
  simp [copies]

theorem mem_walked {m : Snapshot} {h : Handle} :
    h ∈ m.walked ↔ ∃ n ∈ m.preorder, n.isWalked = true ∧ n.handle = h := by
  simp [walked, and_assoc]

theorem copies_clearKeys (m : Snapshot) : (clearKeys m).copies = m.copies := by
  rw [copies, clearKeys, Forest.preorder_map, List.map_map]
  rfl

theorem walked_clearKeys (m : Snapshot) : (clearKeys m).walked = m.walked := by
  rw [walked, clearKeys, Forest.preorder_map, List.filter_map, List.map_map]
  rfl

theorem copies_assignKeys (keys : List Char) (m : Snapshot) :
    (m.assignKeys keys).1.copies = m.copies := by
  rw [← copies_clearKeys, clearKeys_assignKeys, copies_clearKeys]

theorem walked_assignKeys (keys : List Char) (m : Snapshot) :
    (m.assignKeys keys).1.walked = m.walked := by
  rw [← walked_clearKeys, clearKeys_assignKeys, walked_clearKeys]

theorem judge_keeps (n : SnapshotNode) (p : Predicate) (kindFilter : Option String) :
    (n.judge p kindFilter).1.handle = n.handle ∧ (n.judge p kindFilter).1.label = n.label ∧
      (n.judge p kindFilter).1.descendantMatch = n.descendantMatch := by
  unfold SnapshotNode.judge
  split
  · simp
  · split <;> simp

theorem copies_walk (p : Predicate) (kindFilter : Option String) (m : Snapshot) :
    (Snapshot.walk p kindFilter m).forest.copies = m.copies := by
  induction m with
  | nil => rfl
  | node n below after ihb iha =>
      obtain ⟨hhandle, hlabel, _⟩ := judge_keeps
        { n with descendantMatch := .ofBool (Snapshot.walk p kindFilter below).found } p kindFilter
      simp only [copies] at ihb iha
      simp [copies, Snapshot.walk, Forest.preorder, ihb, iha, hhandle, hlabel]

theorem isWalked_of_mem_walk {p : Predicate} {kindFilter : Option String} {m : Snapshot}
    {n : SnapshotNode} (hn : n ∈ (Snapshot.walk p kindFilter m).forest.preorder) :
    n.isWalked = true := by
  induction m with
  | nil => simp [Snapshot.walk, Forest.preorder] at hn
  | node first below after ihb iha =>
      simp only [Snapshot.walk, Forest.preorder, List.cons_append, List.mem_cons,
        List.mem_append] at hn
      rcases hn with hn | hn | hn
      · have hbelow : n.descendantMatch = .ofBool (Snapshot.walk p kindFilter below).found := by
          rw [hn, (judge_keeps _ p kindFilter).2.2]
        cases hfound : (Snapshot.walk p kindFilter below).found <;>
          simp [SnapshotNode.isWalked, hbelow, hfound, MatchState.ofBool]
      · exact ihb hn
      · exact iha hn

theorem walked_eq_of_forall {m : Snapshot} (hwalked : ∀ n ∈ m.preorder, n.isWalked = true) :
    m.walked = m.copies.map Prod.fst := by
  rw [walked, List.filter_eq_self.mpr hwalked, copies, List.map_map]
  rfl

theorem walked_subset_copies (m : Snapshot) : m.walked ⊆ m.copies.map Prod.fst := by
  intro h hh
  obtain ⟨n, hn, _, rfl⟩ := mem_walked.mp hh
  exact List.mem_map_of_mem (mem_copies.mpr ⟨n, hn, rfl, rfl⟩)

theorem walked_build (v : View) (root : Handle) : (build v root).walked = [] := by
  rw [walked, List.map_eq_nil_iff, List.filter_eq_nil_iff]
  intro n hn
  simp [isWalked_of_mem_build hn]

theorem item_mem_walked_of_showWrites {m : Snapshot} {w : Write} (hw : w ∈ m.showWrites) :
    w.item ∈ m.walked := by
  simp only [showWrites, renderWrites, keyWrites, List.mem_append, List.mem_flatMap,
    List.mem_map] at hw
  rcases hw with ⟨n, hn, hw⟩ | ⟨n, hn, rfl⟩
  · have hitem : w.item = n.handle := SnapshotNode.item_of_mem_showWrites (List.mem_append_left _ hw)
    rw [hitem]
    exact List.mem_map_of_mem hn
  · exact List.mem_map_of_mem hn

end Snapshot

namespace Session

open Snapshot

theorem copies_run (s : Session) (v : View) : (s.run v).1.snapshot.copies = s.snapshot.copies := by
  cases hp : s.query.compile? with
  | none => rw [run_of_compile?_none v hp, copies_clearKeys]
  | some p => rw [run_of_compile?_some v hp, copies_clearKeys, copies_walk]

theorem walked_subset_run (s : Session) (v : View) :
    s.snapshot.walked ⊆ (s.run v).1.snapshot.walked := by
  cases hp : s.query.compile? with
  | none =>
      rw [run_of_compile?_none v hp, walked_clearKeys]
      exact List.Subset.refl _
  | some p =>
      rw [run_of_compile?_some v hp, walked_clearKeys,
        walked_eq_of_forall fun n hn => isWalked_of_mem_walk hn, copies_walk]
      exact walked_subset_copies s.snapshot

end Session

/-! ## Owning what is shown -/

namespace View

/-- Nothing of a search is shown on an item, where the markup counts only if the label was not edited. -/
structure PlainAt (w : View) (edited : Handle → Prop) (h : Handle) : Prop where
  matched_eq : (w.display h).matched = false
  descendantMatched_eq : (w.display h).descendantMatched = false
  key_eq : (w.display h).key = none
  markup_eq : ¬ edited h → (w.display h).markup = w.label h

variable {w : View} {edited : Handle → Prop} {h : Handle}

theorem plainAt_of_display (hdisplay : w.display h = { markup := w.label h }) : w.PlainAt edited h := by
  constructor <;> simp [hdisplay]

theorem plainAt_of_size_le (hsize : w.items.size ≤ h) : w.PlainAt edited h :=
  plainAt_of_display (by rw [display_of_size_le hsize, label_of_size_le hsize])

theorem PlainAt.writeAll (hplain : w.PlainAt edited h) {ws : List Write}
    (hne : ∀ change ∈ ws, change.item ≠ h) : (w.writeAll ws).PlainAt edited h := by
  have hdisplay := w.display_writeAll_of_ne hne
  have hlabel := (w.sameItems_writeAll ws).label_eq h
  obtain ⟨hmatched, hbelow, hkey, hmarkup⟩ := hplain
  constructor <;> simpa [hdisplay, ← hlabel]

end View

/-- Everything that shows on a view belongs to a walked node of the session, and the labels of its nodes
are those of the items, as long as they were not edited. -/
structure Session.Owns (s : Session) (w : View) (edited : Handle → Prop) : Prop where
  label_eq : ∀ h label, (h, label) ∈ s.snapshot.copies → ¬ edited h → label = w.label h
  trace : ∀ h, w.PlainAt edited h ∨ h ∈ s.snapshot.walked

namespace Session.Owns

open Snapshot

variable {s s' : Session} {w : View} {edited : Handle → Prop}

theorem writeAll (hs : s.Owns w edited) (hcopies : s'.snapshot.copies = s.snapshot.copies)
    (hwalked : s.snapshot.walked ⊆ s'.snapshot.walked) {ws : List Write}
    (hws : ∀ change ∈ ws, change.item ∈ s'.snapshot.walked) : s'.Owns (w.writeAll ws) edited := by
  refine ⟨?_, ?_⟩
  · intro h label hmem hedited
    rw [← (w.sameItems_writeAll ws).label_eq h]
    exact hs.label_eq h label (hcopies ▸ hmem) hedited
  · intro h
    by_cases hmem : h ∈ s'.snapshot.walked
    · exact .inr hmem
    · have hplain := (hs.trace h).resolve_right fun hold => hmem (hwalked hold)
      refine .inl (hplain.writeAll ?_)
      intro change hchange hitem
      exact hmem (hitem ▸ hws change hchange)

theorem run (hs : s.Owns w edited) : (s.run w).1.Owns (s.run w).2.1 edited := by
  rw [run_view]
  exact hs.writeAll (copies_run s w) (walked_subset_run s w)
    fun _ hchange => item_mem_walked_of_showWrites hchange

theorem assignJumpKeys (hs : s.Owns w edited) :
    (s.assignJumpKeys w).1.Owns (s.assignJumpKeys w).2.1 edited := by
  have hsnapshot : (s.assignJumpKeys w).1.snapshot =
      (s.snapshot.assignKeys jumpKeys.toList).1 := rfl
  have hview : (s.assignJumpKeys w).2.1 =
      w.writeAll (s.assignJumpKeys w).1.snapshot.keyWrites := rfl
  rw [hview]
  refine hs.writeAll ?_ ?_ ?_
  · rw [hsnapshot, copies_assignKeys]
  · rw [hsnapshot, walked_assignKeys]
    exact List.Subset.refl _
  · intro change hchange
    exact item_mem_walked_of_showWrites (List.mem_append_right _ hchange)

/-- The writes that make an item plain. -/
def plainWritesOf (h : Handle) (label : String) : List Write :=
  [.matched h false, .descendantMatched h false, .markup h label, .key h none]

theorem mem_plainWrites {m : Snapshot} {change : Write} :
    change ∈ m.plainWrites ↔ ∃ h label, (h, label) ∈ m.copies ∧ change ∈ plainWritesOf h label := by
  simp [Snapshot.plainWrites, SnapshotNode.plainWrites, copies, plainWritesOf]

theorem item_of_mem_plainWritesOf {h : Handle} {label : String} {change : Write}
    (hchange : change ∈ plainWritesOf h label) : change.item = h := by
  simp only [plainWritesOf, List.mem_cons, List.not_mem_nil, or_false] at hchange
  rcases hchange with rfl | rfl | rfl | rfl <;> rfl

/-- A part of what an item shows that is set by the writes for one of its nodes, and that those for the
others do not set to anything else. -/
theorem part_teardown {β : Type} {part : Display → β} {t : β} {h : Handle} {label : String}
    (hsize : h < w.items.size) (hcopy : (h, label) ∈ s.snapshot.copies)
    (hagree : ∀ label, (h, label) ∈ s.snapshot.copies → ∀ change ∈ plainWritesOf h label,
      ∀ d, part (change.apply d) = part d ∨ part (change.apply d) = t)
    (hset : ∃ change ∈ plainWritesOf h label, ∀ d, part (change.apply d) = t) :
    part ((s.teardown w).display h) = t := by
  obtain ⟨change, hchange, hset⟩ := hset
  refine w.writeAll_sets hsize ?_ (mem_plainWrites.mpr ⟨h, label, hcopy, hchange⟩)
    (item_of_mem_plainWritesOf hchange) hset
  intro other hother hitem
  obtain ⟨i, label, hcopied, hmem⟩ := mem_plainWrites.mp hother
  have hi : i = h := (item_of_mem_plainWritesOf hmem).symm.trans hitem
  subst hi
  exact hagree label hcopied other hmem

/-- Taking a session back leaves nothing of it on the view. -/
theorem teardown (hs : s.Owns w edited) (h : Handle) : (s.teardown w).PlainAt edited h := by
  have hview : s.teardown w = w.writeAll s.snapshot.plainWrites := rfl
  have hsame := w.sameItems_writeAll s.snapshot.plainWrites
  by_cases hmem : ∃ label, (h, label) ∈ s.snapshot.copies
  case neg =>
    have hplain := (hs.trace h).resolve_right fun hwalked => by
      obtain ⟨n, hn, _, hhandle⟩ := mem_walked.mp hwalked
      exact hmem ⟨n.label, mem_copies.mpr ⟨n, hn, hhandle, rfl⟩⟩
    rw [hview]
    refine hplain.writeAll ?_
    intro change hchange hitem
    obtain ⟨i, label, hcopy, hmemI⟩ := mem_plainWrites.mp hchange
    have hi : i = h := (item_of_mem_plainWritesOf hmemI).symm.trans hitem
    exact hmem ⟨label, hi ▸ hcopy⟩
  obtain ⟨label, hcopy⟩ := hmem
  by_cases hsize : h < w.items.size
  case neg =>
    rw [hview]
    exact View.plainAt_of_size_le (hsame.size_eq ▸ Nat.not_lt.mp hsize)
  refine ⟨?_, ?_, ?_, ?_⟩
  · exact part_teardown hsize hcopy (by simp [plainWritesOf, Write.apply])
      ⟨.matched h false, by simp [plainWritesOf], fun _ => rfl⟩
  · exact part_teardown hsize hcopy (by simp [plainWritesOf, Write.apply])
      ⟨.descendantMatched h false, by simp [plainWritesOf], fun _ => rfl⟩
  · exact part_teardown hsize hcopy (by simp [plainWritesOf, Write.apply])
      ⟨.key h none, by simp [plainWritesOf], fun _ => rfl⟩
  · intro hedited
    have hlabel : ∀ label, (h, label) ∈ s.snapshot.copies → label = w.label h :=
      fun label hcopied => hs.label_eq h label hcopied hedited
    rw [hview, ← hsame.label_eq h, ← hview]
    refine part_teardown hsize hcopy ?_ ⟨.markup h label, by simp [plainWritesOf], ?_⟩
    · intro other hcopied
      simp [plainWritesOf, Write.apply, hlabel other hcopied]
    · intro d
      exact hlabel label hcopy

/-- A fresh copy of a view that shows nothing of a search owns what is shown. -/
theorem of_plain {root : Handle} (hplain : ∀ h, w.PlainAt edited h)
    (hsnapshot : s.snapshot = build w root) : s.Owns w edited := by
  refine ⟨?_, fun h => .inl (hplain h)⟩
  intro h label hmem _
  rw [hsnapshot] at hmem
  obtain ⟨n, hn, rfl, rfl⟩ := mem_copies.mp hmem
  obtain ⟨i, rfl⟩ := exists_handle_of_mem_build hn
  rfl

theorem start (hplain : ∀ h, w.PlainAt edited h) (root : Handle) (q : Query) :
    (Session.start w root q).1.Owns (Session.start w root q).2.1 edited :=
  (of_plain (s := { snapshot := build w root, query := q }) hplain rfl).run

theorem search (hs : s.Owns w edited) (root : Handle) (q : Query) :
    (s.search w root q).1.Owns (s.search w root q).2.1 edited := by
  cases hnarrows : q.narrows s.query with
  | true =>
      have hquery : Session.Owns { s with query := q } w edited := ⟨hs.label_eq, hs.trace⟩
      rw [search_of_narrows w root hnarrows]
      exact hquery.run
  | false =>
      rw [search_of_not_narrows w root hnarrows]
      exact Owns.start hs.teardown root q

end Session.Owns

/-! ## Edits of the view -/

namespace View

/-- One view has become another by edits. What a search shows on an item is left alone, the markup at
least if the label is not edited, and new items are plain. -/
structure EditedTo (w w' : View) (relabelled : Handle → Prop) : Prop where
  size_le : w.items.size ≤ w'.items.size
  matched_eq : ∀ h < w.items.size, (w'.display h).matched = (w.display h).matched
  descendantMatched_eq : ∀ h < w.items.size,
    (w'.display h).descendantMatched = (w.display h).descendantMatched
  key_eq : ∀ h < w.items.size, (w'.display h).key = (w.display h).key
  label_eq : ∀ h < w.items.size, ¬ relabelled h →
    w'.label h = w.label h ∧ (w'.display h).markup = (w.display h).markup
  added : ∀ h, w.items.size ≤ h → w'.PlainAt relabelled h

variable {w w' w'' : View} {edited relabelled relabelled' : Handle → Prop} {h : Handle}

theorem PlainAt.mono (hplain : w.PlainAt edited h) (hmore : edited h → relabelled h) :
    w.PlainAt relabelled h :=
  ⟨hplain.matched_eq, hplain.descendantMatched_eq, hplain.key_eq,
    fun hnot => hplain.markup_eq fun hedited => hnot (hmore hedited)⟩

theorem EditedTo.plainAt (he : w.EditedTo w' relabelled) (hplain : w.PlainAt edited h) :
    w'.PlainAt (fun i => edited i ∨ relabelled i) h := by
  by_cases hsize : h < w.items.size
  · refine ⟨?_, ?_, ?_, ?_⟩
    · rw [he.matched_eq h hsize, hplain.matched_eq]
    · rw [he.descendantMatched_eq h hsize, hplain.descendantMatched_eq]
    · rw [he.key_eq h hsize, hplain.key_eq]
    · intro hnot
      obtain ⟨hedited, hrelabelled⟩ := not_or.mp hnot
      obtain ⟨hlabel, hmarkup⟩ := he.label_eq h hsize hrelabelled
      rw [hlabel, hmarkup, hplain.markup_eq hedited]
  · exact (he.added h (Nat.not_lt.mp hsize)).mono .inr

theorem EditedTo.trans (he : w.EditedTo w' relabelled) (he' : w'.EditedTo w'' relabelled') :
    w.EditedTo w'' fun i => relabelled i ∨ relabelled' i := by
  have hlt : ∀ h < w.items.size, h < w'.items.size := fun h hh => Nat.lt_of_lt_of_le hh he.size_le
  refine ⟨Nat.le_trans he.size_le he'.size_le, ?_, ?_, ?_, ?_, ?_⟩
  · intro h hh
    rw [he'.matched_eq h (hlt h hh), he.matched_eq h hh]
  · intro h hh
    rw [he'.descendantMatched_eq h (hlt h hh), he.descendantMatched_eq h hh]
  · intro h hh
    rw [he'.key_eq h (hlt h hh), he.key_eq h hh]
  · intro h hh hnot
    obtain ⟨hnot, hnot'⟩ := not_or.mp hnot
    obtain ⟨hlabel, hmarkup⟩ := he.label_eq h hh hnot
    obtain ⟨hlabel', hmarkup'⟩ := he'.label_eq h (hlt h hh) hnot'
    exact ⟨hlabel'.trans hlabel, hmarkup'.trans hmarkup⟩
  · intro h hh
    exact he'.plainAt (he.added h hh)

theorem item_edit (w : View) (h i : Handle) (f : ViewItem → ViewItem) :
    (w.edit h f).item i = if h = i ∧ i < w.items.size then f (w.item i) else w.item i := by
  unfold item edit
  simp only [Array.getD_eq_getD_getElem?, Array.getElem?_modify]
  by_cases hi : h = i <;> by_cases hsize : i < w.items.size <;> simp [hi, hsize]

theorem size_edit (w : View) (h : Handle) (f : ViewItem → ViewItem) :
    (w.edit h f).items.size = w.items.size := by
  simp [edit]

/-- An edit of one item that leaves alone what a search shows there. -/
theorem editedTo_edit (w : View) (h : Handle) {f : ViewItem → ViewItem}
    (hmatched : ∀ i, (f i).display.matched = i.display.matched)
    (hbelow : ∀ i, (f i).display.descendantMatched = i.display.descendantMatched)
    (hkey : ∀ i, (f i).display.key = i.display.key)
    (hlabel : ¬ relabelled h → ∀ i, (f i).label = i.label ∧ (f i).display.markup = i.display.markup) :
    w.EditedTo (w.edit h f) relabelled := by
  refine ⟨Nat.le_of_eq (size_edit w h f).symm, ?_, ?_, ?_, ?_, ?_⟩
  · intro i _
    rw [display, item_edit]
    split
    · exact hmatched _
    · rfl
  · intro i _
    rw [display, item_edit]
    split
    · exact hbelow _
    · rfl
  · intro i _
    rw [display, item_edit]
    split
    · exact hkey _
    · rfl
  · intro i _ hnot
    rw [display, label, item_edit]
    split
    case isTrue hi => exact hlabel (hi.1 ▸ hnot) _
    case isFalse => exact ⟨rfl, rfl⟩
  · intro i hi
    exact plainAt_of_size_le (by rw [size_edit]; exact hi)

theorem editedTo_setLabel (w : View) (h : Handle) (text : String) :
    w.EditedTo (w.setLabel h text) (· = h) :=
  editedTo_edit w h (fun _ => rfl) (fun _ => rfl) (fun _ => rfl) fun hne => absurd rfl hne

theorem editedTo_setKind (w : View) (h : Handle) (kind : Option String) :
    w.EditedTo (w.setKind h kind) fun _ => False :=
  editedTo_edit w h (fun _ => rfl) (fun _ => rfl) (fun _ => rfl) fun _ _ => ⟨rfl, rfl⟩

theorem editedTo_setChildren (w : View) (h : Handle) (children : List Handle) :
    w.EditedTo (w.setChildren h children) fun _ => False :=
  editedTo_edit w h (fun _ => rfl) (fun _ => rfl) (fun _ => rfl) fun _ _ => ⟨rfl, rfl⟩

theorem editedTo_add (w : View) (parent : Handle) (text : String) (kind : Option String) :
    w.EditedTo (w.add parent text kind) fun _ => False := by
  let pushed : View := { w with items := w.items.push { label := text, kind := kind } }
  have hitem : ∀ i < w.items.size, pushed.item i = w.item i := by
    intro i hi
    simp [item, pushed, Array.getElem_push_lt hi, Nat.lt_succ_of_lt hi, hi]
  have hpushed : w.EditedTo pushed fun _ => False := by
    refine ⟨by simp [pushed], ?_, ?_, ?_, ?_, ?_⟩
    · intro i hi
      rw [display, hitem i hi, display]
    · intro i hi
      rw [display, hitem i hi, display]
    · intro i hi
      rw [display, hitem i hi, display]
    · intro i hi _
      rw [display, label, hitem i hi]
      exact ⟨rfl, rfl⟩
    · intro i hi
      by_cases hnew : i = w.items.size
      · apply plainAt_of_display
        simp [display, label, item, pushed, hnew]
      · apply plainAt_of_size_le
        simp only [pushed, Array.size_push]
        omega
  have hparent : pushed.EditedTo (w.add parent text kind) fun _ => False :=
    editedTo_edit pushed parent (fun _ => rfl) (fun _ => rfl) (fun _ => rfl) fun _ _ => ⟨rfl, rfl⟩
  have hadd := hpushed.trans hparent
  simp only [or_self] at hadd
  exact hadd

/-- Something of a search shows on an item. -/
def TracedAt (w : View) (edited : Handle → Prop) (h : Handle) : Prop :=
  (w.display h).matched = true ∨ (w.display h).descendantMatched = true ∨
    (w.display h).key ≠ none ∨ ¬ edited h ∧ (w.display h).markup ≠ w.label h

theorem not_tracedAt_iff : ¬ w.TracedAt edited h ↔ w.PlainAt edited h := by
  simp only [TracedAt, not_or, Bool.not_eq_true, not_and, not_not]
  constructor
  · intro hnot
    exact ⟨hnot.1, hnot.2.1, hnot.2.2.1, hnot.2.2.2⟩
  · intro hplain
    exact ⟨hplain.matched_eq, hplain.descendantMatched_eq, hplain.key_eq, hplain.markup_eq⟩

/-- Every item that is named is in the view, and none is below itself. -/
structure IsOutline (w : View) : Prop where
  closed : ∀ h c, c ∈ w.children h → c < w.items.size
  acyclic : ∀ h, ¬ w.Below h h

theorem isOutline_of_lt
    (hlt : ∀ h < w.items.size, ∀ c ∈ w.children h, h < c ∧ c < w.items.size) : w.IsOutline := by
  refine ⟨?_, ?_⟩
  · intro h c hc
    by_cases hsize : h < w.items.size
    · exact (hlt h hsize c hc).2
    · rw [children_of_size_le (Nat.not_lt.mp hsize)] at hc
      cases hc
  · intro h
    exact acyclicFrom_of_lt (fun h hsize c hc => (hlt h hsize c hc).1) h h Relation.ReflTransGen.refl

/-- Items that are taken out leave an outline. -/
theorem IsOutline.of_subset (ho : w.IsOutline) (hsize : w.items.size = w'.items.size)
    (hsub : ∀ h, w'.children h ⊆ w.children h) : w'.IsOutline := by
  refine ⟨?_, ?_⟩
  · intro h c hc
    rw [← hsize]
    exact ho.closed h c (hsub h hc)
  · intro h hbelow
    exact ho.acyclic h (Relation.TransGen.mono (fun i c hc => hsub i hc) h h hbelow)

theorem IsOutline.of_sameItems (ho : w.IsOutline) (hsame : w.SameItems w') : w'.IsOutline :=
  ho.of_subset hsame.size_eq fun h => by rw [hsame.children_eq h]; exact List.Subset.refl _

theorem IsOutline.setLabel (ho : w.IsOutline) (h : Handle) (text : String) :
    (w.setLabel h text).IsOutline := by
  refine ho.of_subset (size_edit w h _).symm ?_
  intro i
  rw [View.setLabel, children, item_edit]
  split <;> exact List.Subset.refl _

theorem IsOutline.setChildren (ho : w.IsOutline) {kept : List Handle} (hkept : kept ⊆ w.children h) :
    (w.setChildren h kept).IsOutline := by
  refine ho.of_subset (size_edit w h _).symm ?_
  intro i
  rw [View.setChildren, children, item_edit]
  split
  case isTrue hi => exact hi.1 ▸ hkept
  case isFalse => exact List.Subset.refl _

theorem IsOutline.lt_of_reaches (ho : w.IsOutline) {root : Handle} (hroot : root < w.items.size)
    (hreach : w.Reaches root h) : h < w.items.size := by
  rcases Relation.ReflTransGen.cases_tail hreach with rfl | ⟨i, _, hc⟩
  · exact hroot
  · exact ho.closed i h hc

end View

/-! ## Every reachable state -/

open Snapshot

/-- All nodes of the session are of items in the view. -/
def Session.InView (s : Session) (w : View) : Prop :=
  ∀ h label, (h, label) ∈ s.snapshot.copies → h < w.items.size

theorem Session.Owns.edit {s : Session} {w w' : View} {edited relabelled : Handle → Prop}
    (hs : s.Owns w edited) (hin : s.InView w) (he : w.EditedTo w' relabelled) :
    s.Owns w' fun h => edited h ∨ relabelled h := by
  refine ⟨?_, ?_⟩
  · intro h label hmem hnot
    obtain ⟨hedited, hrelabelled⟩ := not_or.mp hnot
    rw [(he.label_eq h (hin h label hmem) hrelabelled).1]
    exact hs.label_eq h label hmem hedited
  · intro h
    rcases hs.trace h with hplain | hwalked
    · exact .inl (he.plainAt hplain)
    · exact .inr hwalked

theorem Snapshot.lt_of_mem_build {w : View} {root h : Handle} {label : String} (ho : w.IsOutline)
    (hroot : root < w.items.size) (hmem : (h, label) ∈ (build w root).copies) : h < w.items.size := by
  obtain ⟨n, hn, rfl, _⟩ := mem_copies.mp hmem
  obtain ⟨seed, hseed, i, hreach, rfl⟩ := reaches_of_mem_unfold hn
  rw [List.mem_singleton.mp hseed] at hreach
  exact ho.lt_of_reaches hroot hreach

namespace Session

variable {s : Session} {w : View} {root : Handle}

theorem inView_start (ho : w.IsOutline) (hroot : root < w.items.size) (q : Query) :
    (Session.start w root q).1.InView (Session.start w root q).2.1 := by
  intro h label hmem
  have hcopies := copies_run { snapshot := build w root, query := q } w
  have hsame : w.SameItems (Session.start w root q).2.1 := History.run_view_same _ w
  rw [← hsame.size_eq]
  exact lt_of_mem_build ho hroot (hcopies ▸ hmem)

theorem InView.search (hin : s.InView w) (ho : w.IsOutline) (hroot : root < w.items.size)
    (q : Query) : (s.search w root q).1.InView (s.search w root q).2.1 := by
  cases hnarrows : q.narrows s.query with
  | true =>
      intro h label hmem
      rw [← (History.search_view_same s w root q).size_eq]
      rw [search_of_narrows w root hnarrows, copies_run] at hmem
      exact hin h label hmem
  | false =>
      have hsame := s.sameItems_teardown w
      rw [search_of_not_narrows w root hnarrows]
      exact inView_start (ho.of_sameItems hsame) (hsame.size_eq ▸ hroot) q

end Session

namespace History

/-- The states that a history comes to from a view, each with the items whose label has been edited. -/
inductive Reachable (v : View) : (Handle → Prop) → History → Prop
  | start {root : Handle} (hroot : root < v.items.size) (q : Query) :
    Reachable v (fun _ => False) (start v root q)
  | search {edited : Handle → Prop} {r : History} (hr : Reachable v edited r) {root : Handle}
    (hroot : root < r.view.items.size) (q : Query) : Reachable v edited (r.step (.search root q))
  | assignKeys {edited : Handle → Prop} {r : History} (hr : Reachable v edited r) :
    Reachable v edited (r.step .assignKeys)
  | edit {edited relabelled : Handle → Prop} {r : History} (hr : Reachable v edited r)
    (change : View → View) (hedit : r.view.EditedTo (change r.view) relabelled)
    (houtline : (change r.view).IsOutline) :
    Reachable v (fun h => edited h ∨ relabelled h) (r.step (.edit change))

variable {v : View} {edited : Handle → Prop} {r : History}

/-- What every step keeps. -/
theorem Reachable.owns (houtline : v.IsOutline) (hplain : v.Plain) (hr : Reachable v edited r) :
    r.session.Owns r.view edited ∧ r.session.InView r.view ∧ r.view.IsOutline := by
  induction hr with
  | @start root hroot q =>
      have hsame : v.SameItems (History.start v root q).view := run_view_same _ v
      exact ⟨.start (fun h => View.plainAt_of_display (hplain h)) root q,
        Session.inView_start houtline hroot q, houtline.of_sameItems hsame⟩
  | @search edited r hr root hroot q ih =>
      obtain ⟨howns, hin, ho⟩ := ih
      obtain ⟨hsession, hview⟩ := session_step_search r root q
      have hsame := search_view_same r.session r.view root q
      rw [hsession, hview]
      exact ⟨howns.search root q, hin.search ho hroot q, ho.of_sameItems hsame⟩
  | @assignKeys edited r hr ih =>
      obtain ⟨howns, hin, ho⟩ := ih
      have hsame : r.view.SameItems (r.step .assignKeys).view := View.sameItems_writeAll r.view _
      refine ⟨howns.assignJumpKeys, ?_, ho.of_sameItems hsame⟩
      intro h label hmem
      rw [← hsame.size_eq]
      have hcopies : (r.step .assignKeys).session.snapshot.copies = r.session.snapshot.copies :=
        copies_assignKeys jumpKeys.toList r.session.snapshot
      exact hin h label (hcopies ▸ hmem)
  | @edit edited relabelled r hr change hedit houtline ih =>
      obtain ⟨howns, hin, _⟩ := ih
      refine ⟨howns.edit hin hedit, ?_, houtline⟩
      intro h label hmem
      exact Nat.lt_of_lt_of_le (hin h label hmem) hedit.size_le

/-- At any time everything that shows belongs to a node of the snapshot, and taking the session back
leaves every item plain. -/
theorem Reachable.traces_owned (houtline : v.IsOutline) (hplain : v.Plain)
    (hr : Reachable v edited r) :
    (∀ h, r.view.TracedAt edited h → ∃ n ∈ r.session.snapshot.preorder, n.handle = h) ∧
      ∀ h, (r.session.teardown r.view).PlainAt edited h := by
  obtain ⟨howns, _, _⟩ := hr.owns houtline hplain
  refine ⟨?_, howns.teardown⟩
  intro h htraced
  rcases howns.trace h with hnone | hwalked
  · exact absurd htraced (View.not_tracedAt_iff.mpr hnone)
  · obtain ⟨n, hn, _, hhandle⟩ := mem_walked.mp hwalked
    exact ⟨n, hn, hhandle⟩

theorem traces_owned_of_detached_item :
    let v : View := ⟨#[{ label := "Notes", children := [1, 2] }, { label := "map", children := [3] },
      { label := "May" }, { label := "mast" }], #[]⟩
    let r := (start v 0 { pattern := "m" }).after [.assignKeys, .edit fun w => w.setChildren 0 [2],
      .edit fun w => w.setLabel 2 "June", .search 2 { pattern := "u" }]
    (∀ h, r.view.TracedAt (· = 2) h → ∃ n ∈ r.session.snapshot.preorder, n.handle = h) ∧
      ∀ h, (r.session.teardown r.view).PlainAt (· = 2) h := by
  intro v r
  have houtline : v.IsOutline := View.isOutline_of_lt (by decide)
  have hplain : v.Plain := View.plain_of_forall_lt (by decide)
  obtain ⟨k, hk⟩ : ∃ k, k = (start v 0 { pattern := "m" }).step .assignKeys := ⟨_, rfl⟩
  have hkeys : Reachable v (fun _ => False) k := hk ▸ (Reachable.start (by decide) _).assignKeys
  have hsame : v.SameItems k.view :=
    hk ▸ (at_start v 0 { pattern := "m" }).view_same.trans (View.sameItems_writeAll _ _)
  obtain ⟨_, _, ho⟩ := hkeys.owns houtline hplain
  have hkept : [2] ⊆ k.view.children 0 := by
    rw [← hsame.children_eq 0]
    decide
  have hdetached := hkeys.edit (fun w => w.setChildren 0 [2]) (View.editedTo_setChildren _ 0 [2])
    (ho.setChildren hkept)
  have hrelabelled := hdetached.edit (fun w => w.setLabel 2 "June") (View.editedTo_setLabel _ 2 "June")
    ((ho.setChildren hkept).setLabel 2 "June")
  have hsize : 2 < ((k.view.setChildren 0 [2]).setLabel 2 "June").items.size := by
    rw [View.setLabel, View.size_edit, View.setChildren, View.size_edit, ← hsame.size_eq]
    decide
  have hr : r = ((k.step (.edit fun w => w.setChildren 0 [2])).step
      (.edit fun w => w.setLabel 2 "June")).step (.search 2 { pattern := "u" }) := by
    simp only [r, History.after, List.foldl_cons, List.foldl_nil, hk]
  have howned := (hrelabelled.search hsize { pattern := "u" }).traces_owned houtline hplain
  simp only [or_self, false_or] at howned
  rw [hr]
  exact howned

end History

end Waymark.Search
