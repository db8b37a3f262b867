import Waymark.Proofs.Search.Below
import Waymark.Proofs.Search.History

/-!
# What a search shows

Every node of a snapshot that was searched is a function of its item alone, so an item that is copied
several times is written to several times but always with the same values. What an item shows after a
search is therefore decided by the last query and the item, whatever was shown before.
-/

namespace Waymark.Search

/-! ## Showing a node -/

namespace SnapshotNode

/-- Everything the node makes its item show. -/
def shows (n : SnapshotNode) : Display :=
  { matched := n.selfMatch.isMatched
    descendantMatched := n.descendantMatch.isMatched
    markup := n.markup
    key := n.key }

def showWrites (n : SnapshotNode) : List Write := n.matchWrites ++ [.key n.handle n.key]

theorem item_of_mem_showWrites {n : SnapshotNode} {w : Write} (hw : w ∈ n.showWrites) :
    w.item = n.handle := by
  simp only [showWrites, matchWrites, List.cons_append, List.nil_append, List.mem_cons,
    List.not_mem_nil, or_false] at hw
  rcases hw with rfl | rfl | rfl | rfl <;> rfl

end SnapshotNode

/-- An item whose node is written in full shows that node, as long as all other writes are those of
nodes of the same kind. -/
theorem View.display_writeAll_of_shows {node : Handle → SnapshotNode}
    (hhandle : ∀ i, (node i).handle = i) (v : View) {ws : List Write} {h : Handle}
    (hsize : h < v.items.size) (hfrom : ∀ w ∈ ws, ∃ i, w ∈ (node i).showWrites)
    (hall : ∀ w ∈ (node h).showWrites, w ∈ ws) : (v.writeAll ws).display h = (node h).shows := by
  have hown : ∀ w ∈ ws, w.item = h → w ∈ (node h).showWrites := by
    intro w hw hitem
    obtain ⟨i, hi⟩ := hfrom w hw
    have hih : i = h := by
      rw [← hhandle i, ← SnapshotNode.item_of_mem_showWrites hi, hitem]
    rw [← hih]
    exact hi
  -- each of the four parts is set by one of the four writes and left by the others
  have hpart : ∀ {β : Type} (part : Display → β) (w : Write), w ∈ (node h).showWrites →
      (∀ d, part (w.apply d) = part (node h).shows) →
      (∀ w' ∈ (node h).showWrites, ∀ d,
        part (w'.apply d) = part d ∨ part (w'.apply d) = part (node h).shows) →
      part ((v.writeAll ws).display h) = part (node h).shows := by
    intro β part w hw hset hkeep
    have hitem : w.item = h := (SnapshotNode.item_of_mem_showWrites hw).trans (hhandle h)
    exact v.writeAll_sets hsize (fun w' hw' hi => hkeep w' (hown w' hw' hi)) (hall w hw) hitem hset
  have hmatched := hpart Display.matched (.matched (node h).handle (node h).selfMatch.isMatched)
    (by simp [SnapshotNode.showWrites, SnapshotNode.matchWrites]) (fun _ => rfl)
    (by simp [SnapshotNode.showWrites, SnapshotNode.matchWrites, Write.apply, SnapshotNode.shows])
  have hbelow := hpart Display.descendantMatched
    (.descendantMatched (node h).handle (node h).descendantMatch.isMatched)
    (by simp [SnapshotNode.showWrites, SnapshotNode.matchWrites]) (fun _ => rfl)
    (by simp [SnapshotNode.showWrites, SnapshotNode.matchWrites, Write.apply, SnapshotNode.shows])
  have hmarkup := hpart Display.markup (.markup (node h).handle (node h).markup)
    (by simp [SnapshotNode.showWrites, SnapshotNode.matchWrites]) (fun _ => rfl)
    (by simp [SnapshotNode.showWrites, SnapshotNode.matchWrites, Write.apply, SnapshotNode.shows])
  have hkey := hpart Display.key (.key (node h).handle (node h).key)
    (by simp [SnapshotNode.showWrites, SnapshotNode.matchWrites]) (fun _ => rfl)
    (by simp [SnapshotNode.showWrites, SnapshotNode.matchWrites, Write.apply, SnapshotNode.shows])
  cases hd : (v.writeAll ws).display h with
  | mk matched descendantMatched markup key =>
      rw [hd] at hmatched hbelow hmarkup hkey
      cases hn : (node h).shows
      simp_all

/-! ## Copies of one item -/

namespace Snapshot

open SnapshotNode

variable {v : View} {p : Predicate} {kindFilter : Option String}

/-- Whether something strictly below an item passes. -/
def PassesBelow (v : View) (p : Predicate) (kindFilter : Option String) (h : Handle) : Prop :=
  ∃ i, v.Below h i ∧ (freshNode v i).passes p kindFilter = true

open Classical in
/-- What every copy of an item comes to. -/
noncomputable def settledNode (v : View) (p : Predicate) (kindFilter : Option String) (h : Handle) :
    SnapshotNode :=
  (freshNode v h).settled (.ofBool (decide (PassesBelow v p kindFilter h))) p kindFilter

theorem finds_unfold_iff {depth : Nat} {seeds : List Handle}
    (hdepth : ∀ seed ∈ seeds, v.DepthLT depth seed) :
    finds p kindFilter (Forest.unfold (freshNode v) v.children depth seeds) = true ↔
      ∃ seed ∈ seeds, ∃ h, v.Reaches seed h ∧ (freshNode v h).passes p kindFilter = true := by
  rw [finds, List.any_eq_true]
  constructor
  · intro hleft
    obtain ⟨n, hn, hpass⟩ := hleft
    obtain ⟨seed, hseed, h, hreach, rfl⟩ := reaches_of_mem_unfold hn
    exact ⟨seed, hseed, h, hreach, hpass⟩
  · intro hright
    obtain ⟨seed, hseed, h, hreach, hpass⟩ := hright
    exact ⟨freshNode v h, mem_unfold_of_reaches (hdepth seed hseed) hseed hreach, hpass⟩

theorem finds_children {depth : Nat} {h : Handle} (hdepth : v.DepthLT (depth + 1) h) :
    finds p kindFilter (Forest.unfold (freshNode v) v.children depth (v.children h)) = true ↔
      PassesBelow v p kindFilter h := by
  rw [finds_unfold_iff hdepth]
  constructor
  · intro hleft
    obtain ⟨c, hc, i, hreach, hpass⟩ := hleft
    exact ⟨i, View.below_of_child hc hreach, hpass⟩
  · intro hright
    obtain ⟨i, hbelow, hpass⟩ := hright
    obtain ⟨c, hc, hreach⟩ := hbelow.exists_child
    exact ⟨c, hc, i, hreach, hpass⟩

open Classical in
/-- A settled copy is the copy of what its items come to. -/
theorem settle_unfold {depth : Nat} {seeds : List Handle}
    (hdepth : ∀ seed ∈ seeds, v.DepthLT depth seed) :
    settle p kindFilter (Forest.unfold (freshNode v) v.children depth seeds) =
      Forest.unfold (settledNode v p kindFilter) v.children depth seeds := by
  induction depth generalizing seeds with
  | zero => rfl
  | succ depth ihd =>
      induction seeds with
      | nil => rfl
      | cons seed seeds ihs =>
          have hseed : v.DepthLT (depth + 1) seed := hdepth seed List.mem_cons_self
          have hbelow := ihd hseed
          have hafter := ihs fun s hs => hdepth s (List.mem_cons_of_mem seed hs)
          have hfinds : finds p kindFilter
              (Forest.unfold (freshNode v) v.children depth (v.children seed)) =
                decide (PassesBelow v p kindFilter seed) := by
            rw [Bool.eq_iff_iff, finds_children hseed, decide_eq_true_iff]
          rw [Forest.unfold_cons, Forest.unfold_cons, settle, hbelow, hafter, hfinds]
          rfl

theorem settle_build {root : Handle} (hacyclic : v.AcyclicFrom root) :
    settle p kindFilter (build v root) =
      Forest.unfold (settledNode v p kindFilter) v.children (v.items.size + 1) [root] := by
  apply settle_unfold
  intro seed hseed
  rw [List.mem_singleton.mp hseed]
  exact hacyclic.depthLT

theorem isWalked_settledNode (h : Handle) : (settledNode v p kindFilter h).isWalked = true := by
  cases hpass : (freshNode v h).passes p kindFilter <;>
    simp [isWalked, settledNode, settled, hpass, MatchState.ofBool]

theorem passes_of_size_le {h : Handle} (hsize : v.items.size ≤ h) :
    (freshNode v h).passes p kindFilter = false := by
  simp [passes, freshNode, View.label_of_size_le hsize]

theorem not_passesBelow_of_size_le {h : Handle} (hsize : v.items.size ≤ h) :
    ¬ PassesBelow v p kindFilter h := by
  intro hpasses
  obtain ⟨i, hbelow, _⟩ := hpasses
  obtain ⟨c, hc, _⟩ := hbelow.exists_child
  rw [View.children_of_size_le hsize] at hc
  cases hc

/-- An item that is not in the view has nothing to show. -/
theorem shows_settledNode_of_size_le {h : Handle} (hsize : v.items.size ≤ h) :
    (settledNode v p kindFilter h).shows = { markup := "" } := by
  have hpass : (freshNode v h).passes p kindFilter = false := passes_of_size_le hsize
  have hbelow : ¬ PassesBelow v p kindFilter h := not_passesBelow_of_size_le hsize
  simp only [settledNode, settled, hpass, hbelow, decide_false, shows, markup, Bool.false_eq_true,
    if_false]
  change (⟨false, false, emphasise (v.label h) none, none⟩ : Display) = _
  rw [View.label_of_size_le hsize]
  rfl

/-! ## What is written -/

/-- Everything that a search writes. -/
def showWrites (m : Snapshot) : List Write := m.renderWrites ++ m.keyWrites

theorem mem_showWrites_of_isWalked {m : Snapshot} (hwalked : ∀ n ∈ m.preorder, n.isWalked = true)
    {w : Write} : w ∈ m.showWrites ↔ ∃ n ∈ m.preorder, w ∈ n.showWrites := by
  have hall : m.preorder.filter isWalked = m.preorder := List.filter_eq_self.mpr hwalked
  simp only [showWrites, renderWrites, keyWrites, hall, List.mem_append, List.mem_flatMap,
    List.mem_map, SnapshotNode.showWrites, List.mem_singleton]
  constructor
  · intro hleft
    rcases hleft with ⟨n, hn, hw⟩ | ⟨n, hn, rfl⟩
    · exact ⟨n, hn, .inl hw⟩
    · exact ⟨n, hn, .inr rfl⟩
  · intro hright
    obtain ⟨n, hn, hw | rfl⟩ := hright
    · exact .inl ⟨n, hn, hw⟩
    · exact .inr ⟨n, hn, rfl⟩

theorem showWrites_of_not_isWalked {m : Snapshot}
    (hwalked : ∀ n ∈ m.preorder, n.isWalked = false) : m.showWrites = [] := by
  have hnone : m.preorder.filter isWalked = [] := by
    rw [List.filter_eq_nil_iff]
    intro n hn
    simp [hwalked n hn]
  simp [showWrites, renderWrites, keyWrites, hnone]

theorem isWalked_of_mem_build {root : Handle} {n : SnapshotNode}
    (hn : n ∈ (build v root).preorder) : n.isWalked = false := by
  obtain ⟨h, rfl⟩ := exists_handle_of_mem_build hn
  rfl

theorem plainWrites_freshNode (h : Handle) : (freshNode v h).plainWrites = (freshNode v h).showWrites :=
  rfl

/-- After a search an item shows what its node comes to. -/
theorem display_showWrites_settle {v' : View} {root h : Handle} (hacyclic : v.AcyclicFrom root)
    (hsame : v.SameItems v') (hreach : v.Reaches root h) :
    (v'.writeAll (settle p kindFilter (build v root)).showWrites).display h =
      (settledNode v p kindFilter h).shows := by
  have hmem : ∀ n, n ∈ (settle p kindFilter (build v root)).preorder ↔
      ∃ i, v.Reaches root i ∧ n = settledNode v p kindFilter i := by
    intro n
    rw [settle_build hacyclic]
    exact mem_unfold_iff hacyclic
  have hwalked : ∀ n ∈ (settle p kindFilter (build v root)).preorder, n.isWalked = true := by
    intro n hn
    obtain ⟨i, _, rfl⟩ := (hmem n).mp hn
    exact isWalked_settledNode i
  by_cases hsize : h < v'.items.size
  · refine View.display_writeAll_of_shows (fun _ => rfl) v' hsize ?_ ?_
    · intro w hw
      obtain ⟨n, hn, hwn⟩ := (mem_showWrites_of_isWalked hwalked).mp hw
      obtain ⟨i, _, rfl⟩ := (hmem n).mp hn
      exact ⟨i, hwn⟩
    · intro w hw
      exact (mem_showWrites_of_isWalked hwalked).mpr ⟨_, (hmem _).mpr ⟨h, hreach, rfl⟩, hw⟩
  · have hle : v'.items.size ≤ h := Nat.not_lt.mp hsize
    have hle' : v.items.size ≤ h := hsame.size_eq ▸ hle
    rw [View.display_writeAll_of_size_le v' _ hle, View.display_of_size_le hle,
      shows_settledNode_of_size_le hle']

/-- Taking a search back makes everything below its root plain. -/
theorem display_plainWrites_build {v' : View} {root h : Handle} (hacyclic : v.AcyclicFrom root)
    (hsame : v.SameItems v') (hreach : v.Reaches root h) :
    (v'.writeAll (build v root).plainWrites).display h = { markup := v.label h } := by
  have hmem : ∀ n, n ∈ (build v root).preorder ↔ ∃ i, v.Reaches root i ∧ n = freshNode v i :=
    fun n => mem_unfold_iff hacyclic
  by_cases hsize : h < v'.items.size
  · have hshows : (freshNode v h).shows = { markup := v.label h } := rfl
    rw [← hshows]
    refine View.display_writeAll_of_shows (fun _ => rfl) v' hsize ?_ ?_
    · intro w hw
      obtain ⟨n, hn, hwn⟩ := List.mem_flatMap.mp hw
      obtain ⟨i, _, rfl⟩ := (hmem n).mp hn
      exact ⟨i, plainWrites_freshNode i ▸ hwn⟩
    · intro w hw
      exact List.mem_flatMap.mpr
        ⟨_, (hmem _).mpr ⟨h, hreach, rfl⟩, (plainWrites_freshNode h).symm ▸ hw⟩
  · have hle : v'.items.size ≤ h := Nat.not_lt.mp hsize
    have hle' : v.items.size ≤ h := hsame.size_eq ▸ hle
    rw [View.display_writeAll_of_size_le v' _ hle, View.display_of_size_le hle,
      View.label_of_size_le hle']

end Snapshot

end Waymark.Search
