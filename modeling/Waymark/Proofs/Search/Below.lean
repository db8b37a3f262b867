import Mathlib.Data.Finset.Card
import Mathlib.Data.Finset.Range
import Mathlib.Logic.Relation
import Waymark.Proofs.Forest
import Waymark.Proofs.Search.View

/-!
# Items below an item

In a view whose items are not below themselves, a copy of an item reaches everything below it: the
number of items bounds how deep the items go, because each step down leaves one item behind for good.
-/

namespace Waymark.Search

namespace View

def IsChild (v : View) (h c : Handle) : Prop := c ∈ v.children h

/-- One item is strictly below another. -/
def Below (v : View) : Handle → Handle → Prop := Relation.TransGen v.IsChild

/-- One item is another or below it. -/
def Reaches (v : View) : Handle → Handle → Prop := Relation.ReflTransGen v.IsChild

/-- Nothing that an item reaches is below itself. -/
def AcyclicFrom (v : View) (root : Handle) : Prop := ∀ h, v.Reaches root h → ¬ v.Below h h

variable {v : View}

theorem AcyclicFrom.mono {h i : Handle} (hacyclic : v.AcyclicFrom h) (hi : v.Reaches h i) :
    v.AcyclicFrom i := by
  intro j hj
  exact hacyclic j (Relation.ReflTransGen.trans hi hj)

theorem acyclicFrom_of_lt (hlt : ∀ h < v.items.size, ∀ c ∈ v.children h, h < c) (root : Handle) :
    v.AcyclicFrom root := by
  have hchild : ∀ h c, v.IsChild h c → h < c := by
    intro h c hc
    by_cases hsize : h < v.items.size
    · exact hlt h hsize c hc
    · rw [IsChild, children_of_size_le (Nat.not_lt.mp hsize)] at hc
      cases hc
  have hbelow : ∀ h i, v.Below h i → h < i := by
    intro h i hi
    induction hi with
    | single hc => exact hchild h _ hc
    | tail _ hc ih => exact Nat.lt_trans ih (hchild _ _ hc)
  intro h _ hh
  exact Nat.lt_irrefl h (hbelow h h hh)

theorem Below.exists_child {h i : Handle} (hi : v.Below h i) :
    ∃ c, c ∈ v.children h ∧ v.Reaches c i :=
  Relation.TransGen.head'_iff.mp hi

theorem below_of_child {h c i : Handle} (hc : c ∈ v.children h) (hi : v.Reaches c i) :
    v.Below h i :=
  Relation.TransGen.head' hc hi

/-! ## Depth -/

/-- Fewer than so many steps lead down from an item. -/
def DepthLT (v : View) : Nat → Handle → Prop
  | 0, _ => False
  | depth + 1, h => ∀ c, c ∈ v.children h → DepthLT v depth c

theorem DepthLT.mono {depth depth' : Nat} {h : Handle} (hd : v.DepthLT depth h)
    (hle : depth ≤ depth') : v.DepthLT depth' h := by
  induction depth generalizing depth' h with
  | zero => exact hd.elim
  | succ depth ih =>
      cases depth' with
      | zero => omega
      | succ depth' =>
          intro c hc
          exact ih (hd c hc) (by omega)

section

open Classical

/-- The items of the view that an item reaches. -/
noncomputable def reached (v : View) (h : Handle) : Finset Handle :=
  (Finset.range v.items.size).filter (v.Reaches h)

theorem card_reached_le (h : Handle) : (v.reached h).card ≤ v.items.size := by
  have hcard := Finset.card_filter_le (Finset.range v.items.size) (v.Reaches h)
  rw [Finset.card_range] at hcard
  exact hcard

/-- An item below another reaches fewer items. -/
theorem card_reached_lt {h c : Handle} (hacyclic : v.AcyclicFrom h) (hc : c ∈ v.children h) :
    (v.reached c).card < (v.reached h).card := by
  have hsize : h < v.items.size := by
    by_contra hge
    rw [children_of_size_le (Nat.not_lt.mp hge)] at hc
    cases hc
  have hstep : v.Reaches h c := Relation.ReflTransGen.single hc
  apply Finset.card_lt_card
  refine Finset.ssubset_iff_subset_ne.mpr ⟨?_, ?_⟩
  · intro i hi
    simp only [reached, Finset.mem_filter] at hi ⊢
    exact ⟨hi.1, hstep.trans hi.2⟩
  · intro heq
    have hmem : h ∈ v.reached h := by
      simp only [reached, Finset.mem_filter, Finset.mem_range]
      exact ⟨hsize, Relation.ReflTransGen.refl⟩
    rw [← heq, reached, Finset.mem_filter] at hmem
    exact hacyclic h Relation.ReflTransGen.refl (below_of_child hc hmem.2)

theorem depthLT_card_reached {h : Handle} (hacyclic : v.AcyclicFrom h) :
    v.DepthLT ((v.reached h).card + 1) h := by
  induction hn : (v.reached h).card using Nat.strong_induction_on generalizing h with
  | _ n ih =>
      intro c hc
      have hlt := card_reached_lt hacyclic hc
      have hdepth := ih (v.reached c).card (by omega)
        (hacyclic.mono (Relation.ReflTransGen.single hc)) rfl
      exact hdepth.mono (by omega)

end

theorem AcyclicFrom.depthLT {root : Handle} (hacyclic : v.AcyclicFrom root) :
    v.DepthLT (v.items.size + 1) root :=
  (depthLT_card_reached hacyclic).mono (Nat.succ_le_succ (card_reached_le root))

end View

/-! ## What an unfolding holds -/

section

open Forest

variable {α : Type} {v : View} {entry : Handle → α}

theorem reaches_of_mem_unfold {depth : Nat} {seeds : List Handle} {a : α}
    (ha : a ∈ (unfold entry v.children depth seeds).preorder) :
    ∃ seed ∈ seeds, ∃ h, v.Reaches seed h ∧ a = entry h := by
  induction depth generalizing seeds with
  | zero => simp [unfold, preorder] at ha
  | succ depth ihd =>
      induction seeds with
      | nil => simp [unfold_nil, preorder] at ha
      | cons seed seeds ihs =>
          simp only [unfold_cons, preorder, List.cons_append, List.mem_cons, List.mem_append] at ha
          rcases ha with rfl | ha | ha
          · exact ⟨seed, List.mem_cons_self, seed, Relation.ReflTransGen.refl, rfl⟩
          · obtain ⟨c, hc, h, hreach, rfl⟩ := ihd ha
            exact ⟨seed, List.mem_cons_self, h, Relation.ReflTransGen.head hc hreach, rfl⟩
          · obtain ⟨seed', hmem, h, hreach, rfl⟩ := ihs ha
            exact ⟨seed', List.mem_cons_of_mem seed hmem, h, hreach, rfl⟩

/-- The unfolding is deep enough to hold everything that a shallow seed reaches. -/
theorem mem_unfold_of_reaches {depth : Nat} {seeds : List Handle} {seed h : Handle}
    (hdepth : v.DepthLT depth seed) (hseed : seed ∈ seeds) (hreach : v.Reaches seed h) :
    entry h ∈ (unfold entry v.children depth seeds).preorder := by
  induction depth generalizing seeds seed with
  | zero => exact hdepth.elim
  | succ depth ihd =>
      induction seeds with
      | nil => cases hseed
      | cons first seeds ihs =>
          simp only [unfold_cons, preorder, List.cons_append, List.mem_cons, List.mem_append]
          rcases List.mem_cons.mp hseed with rfl | hlater
          · rcases Relation.ReflTransGen.cases_head hreach with rfl | ⟨c, hc, hreach⟩
            · exact .inl rfl
            · exact .inr (.inl (ihd (hdepth c hc) hc hreach))
          · exact .inr (.inr (ihs hlater))

/-- A copy of an item holds just what the item reaches. -/
theorem mem_unfold_iff {root : Handle} (hacyclic : v.AcyclicFrom root) {a : α} :
    a ∈ (unfold entry v.children (v.items.size + 1) [root]).preorder ↔
      ∃ h, v.Reaches root h ∧ a = entry h := by
  constructor
  · intro ha
    obtain ⟨seed, hseed, h, hreach, rfl⟩ := reaches_of_mem_unfold ha
    rw [List.mem_singleton.mp hseed] at hreach
    exact ⟨h, hreach, rfl⟩
  · intro hright
    obtain ⟨h, hreach, rfl⟩ := hright
    exact mem_unfold_of_reaches hacyclic.depthLT List.mem_cons_self hreach

end

/-! ## Trees -/

namespace View

/-- Every item is listed at most once, below one other item, and never below itself. -/
structure IsTree (v : View) : Prop where
  acyclic : ∀ h, ¬ v.Below h h
  nodup : ∀ h, (v.children h).Nodup
  parent_unique : ∀ h i c, c ∈ v.children h → c ∈ v.children i → h = i

theorem isTree_of_lt {v : View} (hlt : ∀ h < v.items.size, ∀ c ∈ v.children h, h < c)
    (hnodup : ∀ h < v.items.size, (v.children h).Nodup)
    (hparent : ∀ h < v.items.size, ∀ i < v.items.size, ∀ c ∈ v.children h, c ∈ v.children i → h = i) :
    v.IsTree := by
  have hsize : ∀ h c, c ∈ v.children h → h < v.items.size := by
    intro h c hc
    by_contra hge
    rw [children_of_size_le (Nat.not_lt.mp hge)] at hc
    cases hc
  refine ⟨fun h => acyclicFrom_of_lt hlt h h .refl, ?_, ?_⟩
  · intro h
    by_cases hh : h < v.items.size
    · exact hnodup h hh
    · simp [children_of_size_le (Nat.not_lt.mp hh)]
  · intro h i c hc hi
    exact hparent h (hsize h c hc) i (hsize i c hi) c hc hi

variable {v : View}

theorem IsTree.of_sameItems {v' : View} (ht : v.IsTree) (hsame : v.SameItems v') : v'.IsTree := by
  have hchildren : v.children = v'.children := funext hsame.children_eq
  have hchild : v.IsChild = v'.IsChild := by
    funext h c
    rw [IsChild, IsChild, hchildren]
  refine ⟨?_, ?_, ?_⟩
  · rw [Below, ← hchild]
    exact ht.acyclic
  · rw [← hchildren]
    exact ht.nodup
  · rw [← hchildren]
    exact ht.parent_unique

/-- Of two items that reach a third one, one reaches the other. -/
theorem IsTree.reaches_or_reaches (ht : v.IsTree) {h i j : Handle} (hj : v.Reaches h j)
    (hi : v.Reaches i j) : v.Reaches h i ∨ v.Reaches i h := by
  induction hj with
  | refl => exact .inr hi
  | @tail k j hk hc ih =>
      rcases Relation.ReflTransGen.cases_tail hi with rfl | ⟨k', hk', hc'⟩
      · exact .inl (hk.tail hc)
      · have heq : k' = k := ht.parent_unique k' k j hc' hc
        exact ih (heq ▸ hk')

/-- Nothing is reached from two items that are listed together. -/
theorem IsTree.eq_of_reaches (ht : v.IsTree) {h c c' i : Handle} (hc : c ∈ v.children h)
    (hc' : c' ∈ v.children h) (hi : v.Reaches c i) (hi' : v.Reaches c' i) : c = c' := by
  have hup : ∀ a b, a ∈ v.children h → b ∈ v.children h → v.Reaches a b → a = b := by
    intro a b ha hb hreach
    rcases Relation.ReflTransGen.cases_tail hreach with heq | ⟨k, hk, hkb⟩
    · exact heq.symm
    · have hkh : k = h := ht.parent_unique k h b hkb hb
      exact absurd (below_of_child ha (hkh ▸ hk)) (ht.acyclic h)
  rcases ht.reaches_or_reaches hi hi' with hreach | hreach
  · exact hup c c' hc hc' hreach
  · exact (hup c' c hc' hc hreach).symm

end View

section

open Forest

variable {α : Type} {v : View} {entry : Handle → α}

/-- The unfolding of a tree holds no item twice. -/
theorem nodup_unfold (ht : v.IsTree) {key : α → Handle} (hkey : ∀ h, key (entry h) = h) {depth : Nat}
    {seeds : List Handle} (hseeds : seeds.Nodup)
    (hapart : ∀ a ∈ seeds, ∀ b ∈ seeds, ∀ i, v.Reaches a i → v.Reaches b i → a = b) :
    ((unfold entry v.children depth seeds).preorder.map key).Nodup := by
  induction depth generalizing seeds with
  | zero => simp [unfold, preorder]
  | succ depth ihd =>
      induction seeds with
      | nil => simp [unfold_nil, preorder]
      | cons seed seeds ihs =>
          obtain ⟨hnew, hseeds⟩ := List.nodup_cons.mp hseeds
          have hbelow := ihd (ht.nodup seed) fun a ha b hb i hi hi' => ht.eq_of_reaches ha hb hi hi'
          have hafter := ihs hseeds fun a ha b hb =>
            hapart a (List.mem_cons_of_mem seed ha) b (List.mem_cons_of_mem seed hb)
          have hmem : ∀ depth seeds h, h ∈ (unfold entry v.children depth seeds).preorder.map key →
              ∃ s ∈ seeds, v.Reaches s h := by
            intro depth seeds h hh
            obtain ⟨a, ha, rfl⟩ := List.mem_map.mp hh
            obtain ⟨s, hs, i, hreach, rfl⟩ := reaches_of_mem_unfold ha
            exact ⟨s, hs, (hkey i).symm ▸ hreach⟩
          -- what a later seed reaches is not reached by the first one
          have hlater : ∀ h, v.Reaches seed h →
              h ∉ (unfold entry v.children (depth + 1) seeds).preorder.map key := by
            intro h hreach hh
            obtain ⟨s, hs, hsh⟩ := hmem _ _ h hh
            have heq := hapart seed List.mem_cons_self s (List.mem_cons_of_mem seed hs) h hreach hsh
            exact hnew (heq ▸ hs)
          simp only [unfold_cons, preorder, List.map_cons, List.map_append, List.cons_append, hkey]
          refine List.nodup_cons.mpr ⟨?_, List.nodup_append'.mpr ⟨hbelow, hafter, ?_⟩⟩
          · intro hh
            rcases List.mem_append.mp hh with hh | hh
            · obtain ⟨c, hc, hreach⟩ := hmem _ _ seed hh
              exact ht.acyclic seed (View.below_of_child hc hreach)
            · exact hlater seed .refl hh
          · intro h hh hh'
            obtain ⟨c, hc, hreach⟩ := hmem _ _ h hh
            exact hlater h (.head hc hreach) hh'

end

end Waymark.Search
