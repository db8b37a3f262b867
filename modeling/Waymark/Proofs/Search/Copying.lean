import Waymark.Proofs.Forest.Numbered
import Waymark.Proofs.Search.Below

/-!
# Copying a view

A copy can be taken item by item, from a list of those that are still to be copied: each is listed at its
parent when its turn comes, and its own children go in front of what is left. This ends with the numbered
unfolding of the view, because no item is below itself. An item has one node for each way that leads to it
from the root.
-/

namespace Waymark.Search

open Forest

/-- The nodes copied so far, and the items still to be copied with the number of their parent. -/
structure Copying where
  pending : List (Handle × Option Nat)
  nodes : List (Numbered SnapshotNode)

namespace Copying

/-- List further children at a node. -/
def link (parent : Option Nat) (children : List Nat) (nodes : List (Numbered SnapshotNode)) :
    List (Numbered SnapshotNode) :=
  match parent with
  | none => nodes
  | some p => nodes.modify p fun n => { n with children := n.children ++ children }

/-- Copy the next item, list it at its parent, and turn to its children. -/
def step? (v : View) (s : Copying) : Option Copying :=
  match s.pending with
  | [] => none
  | (h, parent) :: rest =>
    let number := s.nodes.length
    some {
      pending := (v.children h).map (·, some number) ++ rest
      nodes := link parent [number] (s.nodes ++ [⟨number, parent, [], Snapshot.freshNode v h⟩]) }

/-- Some steps lead from one state to another. -/
def Leads (v : View) : Copying → Copying → Prop := Relation.ReflTransGen fun s s' => step? v s = some s'

theorem leads_refl (v : View) (s : Copying) : Leads v s s := Relation.ReflTransGen.refl

theorem Leads.trans {v : View} {s s' s'' : Copying} (h : Leads v s s') (h' : Leads v s' s'') :
    Leads v s s'' :=
  Relation.ReflTransGen.trans h h'

theorem leads_of_step {v : View} {s s' : Copying} (h : step? v s = some s') : Leads v s s' := by
  rw [Leads]
  exact .single h

/-- Whatever state a run comes to on its way, it goes on from there to the state where it ends. -/
theorem Leads.onward {v : View} {s s' s'' : Copying} (h : Leads v s s'') (hend : step? v s'' = none)
    (h' : Leads v s s') : Leads v s' s'' := by
  have hunique : Relator.RightUnique fun s s' : Copying => step? v s = some s' :=
    fun _ _ _ hs hs' => Option.some.inj (hs.symm.trans hs')
  rcases Relation.ReflTransGen.total_of_right_unique hunique h' h with honward | hbehind
  · exact honward
  · rcases Relation.ReflTransGen.cases_head hbehind with rfl | ⟨_, hstep, _⟩
    · exact leads_refl v _
    · cases hend.symm.trans hstep

variable {parent : Option Nat} {nodes : List (Numbered SnapshotNode)}

@[simp] theorem link_nil (parent : Option Nat) (nodes : List (Numbered SnapshotNode)) :
    link parent [] nodes = nodes := by
  cases parent with
  | none => rfl
  | some p =>
      have hid : (fun n : Numbered SnapshotNode => { n with children := n.children ++ [] }) = id := by
        funext n
        simp
      rw [link, hid, List.modify_id]

@[simp] theorem length_link (parent : Option Nat) (children : List Nat)
    (nodes : List (Numbered SnapshotNode)) : (link parent children nodes).length = nodes.length := by
  cases parent with
  | none => rfl
  | some p => simp [link]

theorem link_link (parent : Option Nat) (children more : List Nat)
    (nodes : List (Numbered SnapshotNode)) :
    link parent more (link parent children nodes) = link parent (children ++ more) nodes := by
  cases parent with
  | none => rfl
  | some p => simp [link, List.modify_modify_eq, Function.comp_def, List.append_assoc]

/-- Listing children at an earlier node leaves the later ones as they are. -/
theorem link_append (hparent : ∀ p, parent = some p → p < nodes.length) (children : List Nat)
    (later : List (Numbered SnapshotNode)) :
    link parent children (nodes ++ later) = link parent children nodes ++ later := by
  cases parent with
  | none => rfl
  | some p =>
      have hlt := hparent p rfl
      apply List.ext_getElem?
      intro i
      simp only [link, List.getElem?_modify, List.getElem?_append, List.length_modify]
      by_cases hi : i < nodes.length
      · simp [hi]
      · have hne : p ≠ i := by omega
        simp [hi, hne]

theorem link_last (children : List Nat) (nodes : List (Numbered SnapshotNode))
    (n : Numbered SnapshotNode) :
    link (some nodes.length) children (nodes ++ [n]) =
      nodes ++ [{ n with children := n.children ++ children }] := by
  simp [link, List.modify_eq_take_drop]

/-! ## From seeds to their trees -/

/-- The items in front of the list are copied with everything below them, and then it is the turn of the
rest. -/
theorem leads_unfold {v : View} {depth : Nat} {seeds : List Handle}
    (hdepth : ∀ h ∈ seeds, v.DepthLT depth h) (rest : List (Handle × Option Nat))
    (nodes : List (Numbered SnapshotNode)) (parent : Option Nat)
    (hparent : ∀ p, parent = some p → p < nodes.length) :
    Leads v ⟨seeds.map (·, parent) ++ rest, nodes⟩
      ⟨rest, link parent ((unfold (Snapshot.freshNode v) v.children depth seeds).rootNumbers nodes.length)
          nodes ++
        (unfold (Snapshot.freshNode v) v.children depth seeds).numberedFrom parent nodes.length⟩ := by
  induction depth generalizing seeds parent nodes rest with
  | zero =>
      cases seeds with
      | nil => simpa [unfold, rootNumbers, numberedFrom] using leads_refl v ⟨rest, nodes⟩
      | cons h seeds => exact (hdepth h List.mem_cons_self).elim
  | succ depth ihd =>
      induction seeds generalizing nodes with
      | nil => simpa [unfold_nil, rootNumbers, numberedFrom] using leads_refl v ⟨rest, nodes⟩
      | cons h seeds ihs =>
          let below := unfold (Snapshot.freshNode v) v.children depth (v.children h)
          let listed := link parent [nodes.length] nodes
          let node (children : List Nat) : Numbered SnapshotNode :=
            ⟨nodes.length, parent, children, Snapshot.freshNode v h⟩
          have hlisted : listed.length = nodes.length := length_link _ _ _
          have hstep : step? v ⟨(h :: seeds).map (·, parent) ++ rest, nodes⟩ =
              some ⟨(v.children h).map (·, some nodes.length) ++ (seeds.map (·, parent) ++ rest),
                listed ++ [node []]⟩ := by
            simp only [step?, List.map_cons, List.cons_append, link_append hparent]
            rfl
          have hbelow := ihd (hdepth h List.mem_cons_self) (seeds.map (·, parent) ++ rest)
            (listed ++ [node []]) (some nodes.length) (by simp [hlisted])
          have hlast := link_last (below.rootNumbers (nodes.length + 1)) listed (node [])
          rw [hlisted] at hlast
          rw [List.length_append, hlisted, List.length_singleton, hlast, List.append_assoc] at hbelow
          let copied := listed ++ ([node (below.rootNumbers (nodes.length + 1))] ++
            below.numberedFrom (some nodes.length) (nodes.length + 1))
          have hlength : copied.length = nodes.length + 1 + below.size := by
            simp [copied, hlisted, Nat.add_assoc, Nat.add_comm 1]
          have hearlier : ∀ p, parent = some p → p < copied.length := by
            intro p hp
            have := hparent p hp
            omega
          have hlater := ihs (fun s hs => hdepth s (List.mem_cons_of_mem h hs)) copied hearlier
          rw [hlength, link_append (by rw [hlisted]; exact hparent), link_link, List.append_assoc] at hlater
          rw [unfold_cons]
          exact ((leads_of_step hstep).trans hbelow).trans hlater

end Copying

/-! ## What the nodes are -/

/-- The trees of an unfolding hold what is below their items, if it is deep enough. -/
theorem roots_unfold {α : Type} {v : View} (entry : Handle → α) {depth : Nat} {seeds : List Handle}
    (hdepth : ∀ h ∈ seeds, v.DepthLT depth h) :
    (unfold entry v.children depth seeds).roots = seeds.map entry := by
  induction seeds with
  | nil => simp [unfold_nil, roots]
  | cons h seeds ih =>
      cases depth with
      | zero => exact (hdepth h List.mem_cons_self).elim
      | succ depth =>
          rw [unfold_cons, roots, List.map_cons, ih fun s hs => hdepth s (List.mem_cons_of_mem h hs)]

theorem allTrees_unfold {v : View} {depth : Nat} {seeds : List Handle}
    (hdepth : ∀ h ∈ seeds, v.DepthLT depth h) :
    (unfold (Snapshot.freshNode v) v.children depth seeds).AllTrees fun n below =>
      n = Snapshot.freshNode v n.handle ∧
        below.roots = (v.children n.handle).map (Snapshot.freshNode v) := by
  induction depth generalizing seeds with
  | zero => trivial
  | succ depth ihd =>
      induction seeds with
      | nil => trivial
      | cons h seeds ihs =>
          have hbelow := hdepth h List.mem_cons_self
          rw [unfold_cons]
          exact ⟨⟨rfl, roots_unfold _ hbelow⟩, ihd hbelow,
            ihs fun s hs => hdepth s (List.mem_cons_of_mem h hs)⟩

/-- The item that the node of a number copies. -/
def handleAt? (nodes : List (Numbered SnapshotNode)) (i : Nat) : Option Handle :=
  nodes[i]?.map fun n => n.entry.handle

/-- The children of the node of a number. -/
def childrenAt (nodes : List (Numbered SnapshotNode)) (i : Nat) : List Nat :=
  nodes[i]?.elim [] Numbered.children

/-- Where one comes to by going down, if at each step it is given which child is next. -/
def follow (children : Nat → List Nat) (start : Nat) (way : List Nat) : Option Nat :=
  way.foldlM (fun i k => (children i)[k]?) start

/-- The nodes copy the items below a root, with the labels and kinds they have. The children of a node copy
those of its item, in order; each node but the first is listed by its parent only, and once. The nodes are
numbered in pre-order: parents before their children, these in order, and what hangs below a node right
behind it. -/
structure Unfolds (v : View) (root : Handle) (nodes : List (Numbered SnapshotNode)) : Prop where
  root : ∃ n, nodes[0]? = some n ∧ n.parent = none ∧ n.entry.handle = root
  number_eq : ∀ {i : Nat} {n : Numbered SnapshotNode}, nodes[i]? = some n → n.number = i
  entry_eq : ∀ n ∈ nodes, n.entry = Snapshot.freshNode v n.entry.handle
  children_eq : ∀ n ∈ nodes, n.children.map (handleAt? nodes) = (v.children n.entry.handle).map some
  parent_lt : ∀ n ∈ nodes, n.number = 0 ∨ ∃ p, n.parent = some p ∧ p < n.number
  count_children : ∀ n ∈ nodes, ∀ m ∈ nodes,
    m.children.count n.number = if n.parent = some m.number then 1 else 0
  ordered : ∀ n ∈ nodes, n.children.Pairwise (· < ·)
  block : ∀ n ∈ nodes, ∃ stop, stop ≤ nodes.length ∧
    ∀ i, HangsBelow nodes n.number i ↔ n.number ≤ i ∧ i < stop

theorem depthLT_of_mem_singleton {v : View} {root : Handle} (hacyclic : v.AcyclicFrom root) :
    ∀ h ∈ [root], v.DepthLT (v.items.size + 1) h := by
  intro h hh
  rw [List.mem_singleton.mp hh]
  exact hacyclic.depthLT

theorem build_eq (v : View) (root : Handle) :
    Snapshot.build v root = .node (Snapshot.freshNode v root)
      (unfold (Snapshot.freshNode v) v.children v.items.size (v.children root)) .nil := by
  rw [Snapshot.build, unfold_cons, unfold_nil]

theorem unfolds_build {v : View} {root : Handle} (hacyclic : v.AcyclicFrom root) :
    Unfolds v root (Snapshot.build v root).numbered := by
  have htrees : (Snapshot.build v root).AllTrees fun n below =>
      n = Snapshot.freshNode v n.handle ∧
        below.roots = (v.children n.handle).map (Snapshot.freshNode v) :=
    allTrees_unfold (depthLT_of_mem_singleton hacyclic)
  constructor
  case root =>
    rw [build_eq]
    exact ⟨_, rfl, rfl, rfl⟩
  case number_eq =>
    intro i n hn
    exact (getElem?_numbered_iff.mp hn).2
  case entry_eq =>
    intro n hn
    obtain ⟨_, hcopy, _⟩ := exists_lists htrees hn
    exact hcopy.1
  case children_eq =>
    intro n hn
    obtain ⟨below, hcopy, hlists⟩ := exists_lists htrees hn
    have hhandles : List.Forall₂ (fun c a => handleAt? (Snapshot.build v root).numbered c =
        some a.handle) n.children below.roots := by
      refine hlists.entries.imp ?_
      intro c a hleft
      obtain ⟨m, hm, hnumber, _, rfl⟩ := hleft
      have hget : (Snapshot.build v root).numbered[c]? = some m :=
        getElem?_numbered_iff.mpr ⟨hm, hnumber⟩
      rw [handleAt?, hget, Option.map_some]
    rw [hcopy.2, List.forall₂_map_right_iff] at hhandles
    rw [← List.forall₂_eq_eq_eq, List.forall₂_map_left_iff, List.forall₂_map_right_iff]
    exact hhandles
  case parent_lt =>
    intro n hn
    rcases parent_cases hn with ⟨_, hroot⟩ | ⟨k, _, hparent, _⟩
    · rw [build_eq] at hroot
      exact .inl (List.mem_singleton.mp hroot)
    · exact .inr ⟨k.number, hparent, lt_of_parent_eq hn hparent⟩
  case count_children =>
    intro n hn m hm
    exact count_children rfl hn hm
  case ordered =>
    intro n hn
    obtain ⟨_, _, hlists⟩ := exists_lists htrees hn
    exact hlists.ordered
  case block =>
    intro n hn
    exact exists_hangsBelow_iff hn

/-! ## Ways to the nodes -/

theorem follow_concat (children : Nat → List Nat) (start : Nat) (way : List Nat) (k : Nat) :
    follow children start (way ++ [k]) =
      (follow children start way).bind fun i => (children i)[k]? := by
  simp [follow, List.foldlM_append]

theorem childrenAt_of_getElem? {nodes : List (Numbered SnapshotNode)} {i : Nat}
    {n : Numbered SnapshotNode} (hn : nodes[i]? = some n) : childrenAt nodes i = n.children := by
  rw [childrenAt, hn]
  rfl

namespace Unfolds

variable {v : View} {root : Handle} {nodes : List (Numbered SnapshotNode)}

/-- A way leads to a node exactly if it leads to an item, and the node copies that item. -/
theorem handleAt?_follow (h : Unfolds v root nodes) {i : Nat} {item : Handle}
    (hi : handleAt? nodes i = some item) (way : List Nat) :
    (follow (childrenAt nodes) i way).bind (handleAt? nodes) = follow v.children item way := by
  induction way generalizing i item with
  | nil => exact hi
  | cons k way ih =>
      obtain ⟨n, hn, rfl⟩ := Option.map_eq_some_iff.mp hi
      have hchild : (n.children[k]?).map (handleAt? nodes) =
          ((v.children n.entry.handle)[k]?).map some := by
        rw [← List.getElem?_map, h.children_eq n (List.mem_of_getElem? hn), List.getElem?_map]
      simp only [follow, List.foldlM_cons, childrenAt_of_getElem? hn] at ih ⊢
      cases hk : n.children[k]? with
      | none =>
          rw [hk, Option.map_none] at hchild
          rw [Option.map_eq_none_iff.mp hchild.symm]
          rfl
      | some c =>
          rw [hk, Option.map_some] at hchild
          obtain ⟨below, hbelow, hc⟩ := Option.map_eq_some_iff.mp hchild.symm
          rw [hbelow]
          exact ih hc.symm

theorem parent_of_child (h : Unfolds v root nodes) {p c : Nat} (hc : c ∈ childrenAt nodes p) :
    ∃ n, nodes[c]? = some n ∧ n.parent = some p := by
  cases hm : nodes[p]? with
  | none => simp [childrenAt, hm] at hc
  | some m =>
      rw [childrenAt_of_getElem? hm] at hc
      have hmem := List.mem_of_getElem? hm
      have hcopied : handleAt? nodes c ∈ (v.children m.entry.handle).map some :=
        h.children_eq m hmem ▸ List.mem_map_of_mem hc
      obtain ⟨item, _, hitem⟩ := List.mem_map.mp hcopied
      obtain ⟨n, hn, _⟩ := Option.map_eq_some_iff.mp hitem.symm
      have hcount := h.count_children n (List.mem_of_getElem? hn) m hmem
      rw [h.number_eq hn, h.number_eq hm] at hcount
      refine ⟨n, hn, ?_⟩
      by_contra hother
      rw [if_neg hother, List.count_eq_zero] at hcount
      exact hcount hc

theorem child_of_parent (h : Unfolds v root nodes) {p : Nat} {n : Numbered SnapshotNode}
    (hn : n ∈ nodes) (hparent : n.parent = some p) (hp : p < nodes.length) :
    n.number ∈ childrenAt nodes p := by
  have hm := List.getElem?_eq_getElem hp
  have hcount := h.count_children n hn nodes[p] (List.getElem_mem hp)
  rw [h.number_eq hm, if_pos hparent] at hcount
  rw [childrenAt_of_getElem? hm]
  exact List.count_pos_iff.mp (by omega)

theorem exists_way (h : Unfolds v root nodes) {i : Nat} (hi : i < nodes.length) :
    ∃ way, follow (childrenAt nodes) 0 way = some i := by
  induction i using Nat.strongRecOn with
  | ind i ih =>
      have hn := List.getElem?_eq_getElem hi
      have hmem := List.getElem_mem hi
      rcases h.parent_lt _ hmem with hfirst | ⟨p, hparent, hlt⟩
      · exact ⟨[], by rw [← h.number_eq hn, hfirst]; rfl⟩
      · rw [h.number_eq hn] at hlt
        have hp : p < nodes.length := Nat.lt_trans hlt hi
        obtain ⟨way, hway⟩ := ih p hlt hp
        obtain ⟨k, hk⟩ := List.mem_iff_getElem?.mp (h.child_of_parent hmem hparent hp)
        refine ⟨way ++ [k], ?_⟩
        rw [follow_concat, hway, Option.bind_some, hk, h.number_eq hn]

theorem nodup_childrenAt (h : Unfolds v root nodes) (p : Nat) : (childrenAt nodes p).Nodup := by
  cases hm : nodes[p]? with
  | none => simp [childrenAt, hm]
  | some m =>
      rw [childrenAt_of_getElem? hm]
      exact (h.ordered m (List.mem_of_getElem? hm)).imp Nat.ne_of_lt

/-- The last step of a way leads from the parent, and the first node has none. -/
theorem way_unique (h : Unfolds v root nodes) {i : Nat} {way way' : List Nat}
    (hway : follow (childrenAt nodes) 0 way = some i)
    (hway' : follow (childrenAt nodes) 0 way' = some i) : way = way' := by
  have hlast : ∀ {way : List Nat} {k i : Nat}, follow (childrenAt nodes) 0 (way ++ [k]) = some i →
      ∃ n p, nodes[i]? = some n ∧ n.parent = some p ∧ follow (childrenAt nodes) 0 way = some p ∧
        (childrenAt nodes p)[k]? = some i := by
    intro way k i hstep
    rw [follow_concat] at hstep
    obtain ⟨p, hp, hk⟩ := Option.bind_eq_some_iff.mp hstep
    obtain ⟨n, hn, hparent⟩ := h.parent_of_child (List.mem_of_getElem? hk)
    exact ⟨n, p, hn, hparent, hp, hk⟩
  have hfirst : ∀ {way : List Nat} {k : Nat},
      follow (childrenAt nodes) 0 (way ++ [k]) ≠ some 0 := by
    intro way k hstep
    obtain ⟨n, p, hn, hparent, _⟩ := hlast hstep
    obtain ⟨first, hget, hnone, _⟩ := h.root
    obtain rfl := Option.some.inj (hn.symm.trans hget)
    cases hnone.symm.trans hparent
  induction way using List.reverseRecOn generalizing i way' with
  | nil =>
      obtain rfl : 0 = i := Option.some.inj hway
      rcases List.eq_nil_or_concat' way' with rfl | ⟨way', k, rfl⟩
      · rfl
      · exact absurd hway' hfirst
  | append_singleton way k ih =>
      rcases List.eq_nil_or_concat' way' with rfl | ⟨way', k', rfl⟩
      · obtain rfl : 0 = i := Option.some.inj hway'
        exact absurd hway hfirst
      · obtain ⟨n, p, hn, hparent, hp, hk⟩ := hlast hway
        obtain ⟨n', p', hn', hparent', hp', hk'⟩ := hlast hway'
        obtain rfl := Option.some.inj (hn.symm.trans hn')
        obtain rfl := Option.some.inj (hparent.symm.trans hparent')
        obtain rfl := ih hp hp'
        have hlt := (List.getElem?_eq_some_iff.mp hk).1
        rw [(List.getElem?_inj hlt (h.nodup_childrenAt p)).mp (hk.trans hk'.symm)]

end Unfolds

/-! ## The first node of an item -/

theorem handleAt?_numbered (m : Snapshot) (i : Nat) :
    handleAt? m.numbered i = m.preorder[i]?.map SnapshotNode.handle := by
  rw [← entry_numberedFrom m none 0, List.getElem?_map, Option.map_map]
  rfl

theorem find?_eq_some_iff (m : Snapshot) {h : Handle} {i : Nat} :
    Snapshot.find? m h = some i ↔
      handleAt? m.numbered i = some h ∧ ∀ j < i, handleAt? m.numbered j ≠ some h := by
  simp only [handleAt?_numbered, Snapshot.find?, List.findIdx?_eq_some_iff_getElem]
  constructor
  · intro hleft
    obtain ⟨hi, hhere, hbefore⟩ := hleft
    refine ⟨by rw [List.getElem?_eq_getElem hi, Option.map_some, beq_iff_eq.mp hhere], ?_⟩
    intro j hj hearlier
    obtain ⟨n, hn, rfl⟩ := Option.map_eq_some_iff.mp hearlier
    obtain ⟨_, rfl⟩ := List.getElem?_eq_some_iff.mp hn
    exact hbefore j hj BEq.rfl
  · intro hright
    obtain ⟨hhere, hbefore⟩ := hright
    obtain ⟨n, hn, rfl⟩ := Option.map_eq_some_iff.mp hhere
    obtain ⟨hi, rfl⟩ := List.getElem?_eq_some_iff.mp hn
    refine ⟨hi, BEq.rfl, ?_⟩
    intro j hj hearlier
    apply hbefore j hj
    rw [List.getElem?_eq_getElem (Nat.lt_trans hj hi), Option.map_some, beq_iff_eq.mp hearlier]

theorem find?_build_eq_none_iff {v : View} {root : Handle} (hacyclic : v.AcyclicFrom root)
    {h : Handle} : Snapshot.find? (Snapshot.build v root) h = none ↔ ¬ v.Reaches root h := by
  rw [Snapshot.find?, List.findIdx?_eq_none_iff]
  constructor
  · intro hnone hreach
    have := hnone _ ((mem_unfold_iff hacyclic).mpr ⟨h, hreach, rfl⟩)
    simp [Snapshot.freshNode] at this
  · intro hnot n hn
    obtain ⟨i, hreach, rfl⟩ := (mem_unfold_iff hacyclic).mp hn
    rw [beq_eq_false_iff_ne]
    rintro rfl
    exact hnot hreach

/-- Copying item by item ends if nothing that the root reaches is below itself: every run goes on until no
item is pending. What comes of it is the unfolding of the view: its nodes are those of the ways from the root,
and an item is found at the first node that copies it. -/
theorem Snapshot.numbered_build {v : View} {root : Handle} (hacyclic : v.AcyclicFrom root) :
    let nodes := (build v root).numbered
    Copying.Leads v ⟨[(root, none)], []⟩ ⟨[], nodes⟩ ∧
      (∀ s, Copying.Leads v ⟨[(root, none)], []⟩ s → Copying.Leads v s ⟨[], nodes⟩) ∧
      Unfolds v root nodes ∧
      (∀ i, i < nodes.length → ∃! way, follow (childrenAt nodes) 0 way = some i) ∧
      (∀ way, (follow (childrenAt nodes) 0 way).bind (handleAt? nodes) =
        follow v.children root way) ∧
      (∀ h i, (build v root).find? h = some i ↔
        handleAt? nodes i = some h ∧ ∀ j < i, handleAt? nodes j ≠ some h) ∧
      ∀ h, (build v root).find? h = none ↔ ¬ v.Reaches root h := by
  intro nodes
  have hunfolds : Unfolds v root nodes := unfolds_build hacyclic
  have hleads : Copying.Leads v ⟨[(root, none)], []⟩ ⟨[], nodes⟩ :=
    Copying.leads_unfold (depthLT_of_mem_singleton hacyclic) [] [] none (by simp)
  refine ⟨hleads, fun s hs => hleads.onward rfl hs, hunfolds, ?_, ?_,
    fun h i => find?_eq_some_iff _, fun h => find?_build_eq_none_iff hacyclic⟩
  · intro i hi
    obtain ⟨way, hway⟩ := hunfolds.exists_way hi
    exact ⟨way, hway, fun way' hway' => hunfolds.way_unique hway' hway⟩
  · obtain ⟨first, hfirst, _, hroot⟩ := hunfolds.root
    exact hunfolds.handleAt?_follow (by rw [handleAt?, hfirst, Option.map_some, hroot])

/-- The last item is listed below two others, and by one of them twice. -/
theorem Snapshot.numbered_build_shared_item :
    let v : View := ⟨#[{ label := "Notes", children := [1, 2] }, { label := "May", children := [3] },
      { label := "June", children := [3, 3] }, { label := "rain" }], #[]⟩
    let nodes := (build v 0).numbered
    v.AcyclicFrom 0 ∧ nodes.map Numbered.children = [[1, 3], [2], [], [4, 5], [], []] ∧
      Copying.Leads v ⟨[(0, none)], []⟩ ⟨[], nodes⟩ ∧ Unfolds v 0 nodes ∧
      (build v 0).find? 3 = some 2 := by
  intro v nodes
  have hacyclic : v.AcyclicFrom 0 := View.acyclicFrom_of_lt (by decide) 0
  obtain ⟨hleads, _, hunfolds, _, _, hfind, _⟩ := numbered_build hacyclic
  exact ⟨hacyclic, by decide, hleads, hunfolds, (hfind 3 2).mpr (by decide)⟩

end Waymark.Search
