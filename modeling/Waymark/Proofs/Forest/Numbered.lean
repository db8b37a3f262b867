import Mathlib.Data.List.Forall2
import Mathlib.Data.List.Nodup
import Mathlib.Logic.Relation
import Waymark.Proofs.Forest

/-!
# Numbers of entries

In a numbered forest every entry names its parent and its children. An entry is at the top or it is among
the children of its parent, which has a smaller number; children stand in the order of their numbers; and
what hangs below an entry follows it without a gap.
-/

namespace Waymark.Forest

variable {α : Type} {f : Forest α} {parent : Option Nat} {next : Nat} {n m : Numbered α}

/-! ## Numbers -/

@[simp] theorem length_numberedFrom (f : Forest α) (parent : Option Nat) (next : Nat) :
    (f.numberedFrom parent next).length = f.size := by
  have hnumbers := congrArg List.length (f.number_numberedFrom parent next)
  simpa using hnumbers

theorem entry_numberedFrom (f : Forest α) (parent : Option Nat) (next : Nat) :
    (f.numberedFrom parent next).map Numbered.entry = f.preorder := by
  induction f generalizing parent next with
  | nil => rfl
  | node entry below after ihb iha => simp [numberedFrom, preorder, ihb, iha]

/-- An entry is the first one, or below it, or in a later tree. -/
theorem mem_numberedFrom_node {entry : α} {below after : Forest α} :
    n ∈ (node entry below after).numberedFrom parent next ↔
      n = ⟨next, parent, below.rootNumbers (next + 1), entry⟩ ∨
        n ∈ below.numberedFrom (some next) (next + 1) ∨
          n ∈ after.numberedFrom parent (next + 1 + below.size) := by
  simp [numberedFrom]

theorem number_of_getElem? {i : Nat} (h : (f.numberedFrom parent next)[i]? = some n) :
    n.number = next + i := by
  have hnumber : ((f.numberedFrom parent next).map Numbered.number)[i]? = some n.number := by
    rw [List.getElem?_map, h, Option.map_some]
  rw [number_numberedFrom] at hnumber
  obtain ⟨_, hget⟩ := List.getElem?_eq_some_iff.mp hnumber
  rw [List.getElem_range', Nat.one_mul] at hget
  exact hget.symm

theorem number_bounds (hn : n ∈ f.numberedFrom parent next) :
    next ≤ n.number ∧ n.number < next + f.size := by
  have hmem : n.number ∈ List.range' next f.size :=
    f.number_numberedFrom parent next ▸ List.mem_map_of_mem hn
  exact List.mem_range'_1.mp hmem

theorem eq_of_number_eq (hn : n ∈ f.numberedFrom parent next) (hm : m ∈ f.numberedFrom parent next)
    (heq : n.number = m.number) : n = m := by
  have hnodup : ((f.numberedFrom parent next).map Numbered.number).Nodup :=
    f.number_numberedFrom parent next ▸ List.nodup_range'
  exact List.inj_on_of_nodup_map hnodup hn hm heq

theorem getElem?_numbered_iff {i : Nat} :
    f.numbered[i]? = some n ↔ n ∈ f.numbered ∧ n.number = i := by
  have hnumber : ∀ {j : Nat} {m : Numbered α}, f.numbered[j]? = some m → m.number = j := fun h =>
    (number_of_getElem? h).trans (Nat.zero_add _)
  constructor
  · intro hleft
    exact ⟨List.mem_of_getElem? hleft, hnumber hleft⟩
  · intro hright
    obtain ⟨hmem, rfl⟩ := hright
    obtain ⟨j, hj⟩ := List.mem_iff_getElem?.mp hmem
    rw [hnumber hj, hj]

theorem rootNumbers_bounds {c : Nat} (hc : c ∈ f.rootNumbers next) :
    next ≤ c ∧ c < next + f.size := by
  induction f generalizing next with
  | nil => cases hc
  | node entry below after _ iha =>
      rw [size]
      rcases List.mem_cons.mp hc with rfl | hlater
      · omega
      · have hbounds := iha hlater
        omega

theorem pairwise_rootNumbers (f : Forest α) (next : Nat) :
    (f.rootNumbers next).Pairwise (· < ·) := by
  induction f generalizing next with
  | nil => exact .nil
  | node entry below after _ iha =>
      refine List.pairwise_cons.mpr ⟨?_, iha _⟩
      intro c hc
      have hbounds := rootNumbers_bounds hc
      omega

/-! ## Parents and children -/

/-- The numbers at the top are those of the entries at the top. -/
theorem forall₂_rootNumbers (f : Forest α) (parent : Option Nat) (next : Nat) :
    List.Forall₂ (fun c a => ∃ m ∈ f.numberedFrom parent next,
      m.number = c ∧ m.parent = parent ∧ m.entry = a) (f.rootNumbers next) f.roots := by
  induction f generalizing next with
  | nil => exact .nil
  | node entry below after _ iha =>
      refine .cons ⟨_, List.mem_cons_self, rfl, rfl, rfl⟩ ((iha _).imp ?_)
      intro c a hlater
      obtain ⟨m, hm, hspec⟩ := hlater
      exact ⟨m, mem_numberedFrom_node.mpr (.inr (.inr hm)), hspec⟩

/-- What an entry says about its children, which are at the top of the forest below it. -/
structure Lists (nodes : List (Numbered α)) (n : Numbered α) (below : Forest α) : Prop where
  entries : List.Forall₂ (fun c a => ∃ m ∈ nodes,
    m.number = c ∧ m.parent = some n.number ∧ m.entry = a) n.children below.roots
  ordered : n.children.Pairwise (· < ·)
  behind : ∀ c ∈ n.children, n.number < c

theorem Lists.mono {nodes nodes' : List (Numbered α)} {below : Forest α} (h : Lists nodes n below)
    (hsub : ∀ m ∈ nodes, m ∈ nodes') : Lists nodes' n below := by
  refine ⟨h.entries.imp ?_, h.ordered, h.behind⟩
  intro c a hleft
  obtain ⟨m, hm, hspec⟩ := hleft
  exact ⟨m, hsub m hm, hspec⟩

theorem Lists.exists_mem {nodes : List (Numbered α)} {below : Forest α} (h : Lists nodes n below)
    {c : Nat} (hc : c ∈ n.children) : ∃ m ∈ nodes, m.number = c ∧ m.parent = some n.number := by
  obtain ⟨hlength, hall⟩ := List.forall₂_iff_get.mp h.entries
  obtain ⟨i, hi, rfl⟩ := List.mem_iff_getElem.mp hc
  obtain ⟨m, hm, hnumber, hparent, _⟩ := hall i hi (hlength ▸ hi)
  exact ⟨m, hm, hnumber, hparent⟩

/-- Every entry is that of a tree, and lists what is below it there. -/
theorem exists_lists {P : α → Forest α → Prop} (hf : f.AllTrees P)
    (hn : n ∈ f.numberedFrom parent next) :
    ∃ below, P n.entry below ∧ Lists (f.numberedFrom parent next) n below := by
  induction f generalizing parent next with
  | nil => cases hn
  | node entry below after ihb iha =>
      obtain ⟨htree, hbelow, hafter⟩ := hf
      have hsubBelow : ∀ m ∈ below.numberedFrom (some next) (next + 1),
          m ∈ (node entry below after).numberedFrom parent next := fun m hm =>
        mem_numberedFrom_node.mpr (.inr (.inl hm))
      have hsubAfter : ∀ m ∈ after.numberedFrom parent (next + 1 + below.size),
          m ∈ (node entry below after).numberedFrom parent next := fun m hm =>
        mem_numberedFrom_node.mpr (.inr (.inr hm))
      rcases mem_numberedFrom_node.mp hn with rfl | hmem | hmem
      · have hlists : Lists (below.numberedFrom (some next) (next + 1))
            ⟨next, parent, below.rootNumbers (next + 1), entry⟩ below :=
          ⟨below.forall₂_rootNumbers _ _, below.pairwise_rootNumbers _,
            fun c hc => (rootNumbers_bounds hc).1⟩
        exact ⟨below, htree, hlists.mono hsubBelow⟩
      · obtain ⟨forest, hP, hlists⟩ := ihb hbelow hmem
        exact ⟨forest, hP, hlists.mono hsubBelow⟩
      · obtain ⟨forest, hP, hlists⟩ := iha hafter hmem
        exact ⟨forest, hP, hlists.mono hsubAfter⟩

theorem allTrees_true (f : Forest α) : f.AllTrees fun _ _ => True := by
  induction f with
  | nil => trivial
  | node entry below after ihb iha => exact ⟨trivial, ihb, iha⟩

/-- Every entry is at the top or among the children of its parent. -/
theorem parent_cases (hn : n ∈ f.numberedFrom parent next) :
    n.parent = parent ∧ n.number ∈ f.rootNumbers next ∨
      ∃ k ∈ f.numberedFrom parent next, n.parent = some k.number ∧ n.number ∈ k.children := by
  induction f generalizing parent next with
  | nil => cases hn
  | node entry below after ihb iha =>
      rcases mem_numberedFrom_node.mp hn with rfl | hmem | hmem
      · exact .inl ⟨rfl, List.mem_cons_self⟩
      · rcases ihb hmem with ⟨htop, hroot⟩ | ⟨k, hk, hspec⟩
        · exact .inr ⟨_, List.mem_cons_self, htop, hroot⟩
        · exact .inr ⟨k, mem_numberedFrom_node.mpr (.inr (.inl hk)), hspec⟩
      · rcases iha hmem with ⟨htop, hroot⟩ | ⟨k, hk, hspec⟩
        · exact .inl ⟨htop, List.mem_cons_of_mem _ hroot⟩
        · exact .inr ⟨k, mem_numberedFrom_node.mpr (.inr (.inr hk)), hspec⟩

theorem exists_mem_of_child (hn : n ∈ f.numberedFrom parent next) {c : Nat} (hc : c ∈ n.children) :
    ∃ m ∈ f.numberedFrom parent next,
      m.number = c ∧ m.parent = some n.number ∧ n.number < m.number := by
  obtain ⟨_, _, hlists⟩ := exists_lists f.allTrees_true hn
  obtain ⟨m, hm, rfl, hparent⟩ := hlists.exists_mem hc
  exact ⟨m, hm, rfl, hparent, hlists.behind _ hc⟩

theorem parent_bounds (hn : n ∈ f.numberedFrom parent next) :
    n.parent = parent ∨ ∃ p, n.parent = some p ∧ next ≤ p ∧ p < n.number := by
  rcases parent_cases hn with ⟨htop, _⟩ | ⟨k, hk, hparent, hchild⟩
  · exact .inl htop
  · obtain ⟨m, hm, hnumber, _, hlt⟩ := exists_mem_of_child hk hchild
    exact .inr ⟨k.number, hparent, (number_bounds hk).1, hnumber ▸ hlt⟩

/-- A number is among the children of just the entry that its own entry names as its parent, and there
once. -/
theorem count_children (hparent : parent = none) (hn : n ∈ f.numberedFrom parent next)
    (hm : m ∈ f.numberedFrom parent next) :
    m.children.count n.number = if n.parent = some m.number then 1 else 0 := by
  subst hparent
  obtain ⟨_, _, hlists⟩ := exists_lists f.allTrees_true hm
  by_cases hchild : n.number ∈ m.children
  · obtain ⟨n', hn', hnumber, hparent, _⟩ := exists_mem_of_child hm hchild
    obtain rfl := eq_of_number_eq hn' hn hnumber
    rw [if_pos hparent]
    exact List.count_eq_one_of_mem (hlists.ordered.imp Nat.ne_of_lt) hchild
  · have hnot : n.parent ≠ some m.number := by
      intro hnamed
      rcases parent_cases hn with ⟨htop, _⟩ | ⟨k, hk, hparent, hkchild⟩
      · cases htop.symm.trans hnamed
      · have heq : k = m := eq_of_number_eq hk hm (Option.some.inj (hparent.symm.trans hnamed))
        exact hchild (heq ▸ hkchild)
    rw [if_neg hnot, List.count_eq_zero_of_not_mem hchild]

/-! ## What hangs below an entry -/

/-- Trees that are numbered from behind a range on, and hang below nothing in it, have no parent in it. -/
theorem not_parent_between {low stop : Nat} (hparent : ∀ p, parent = some p → p < low)
    (hstop : stop ≤ next) (hn : n ∈ f.numberedFrom parent next) :
    ¬ ∃ p, n.parent = some p ∧ low ≤ p ∧ p < stop := by
  intro hbetween
  obtain ⟨p, hp, hlow, hlt⟩ := hbetween
  rcases parent_bounds hn with htop | ⟨p', hp', hle, _⟩
  · have := hparent p (htop ▸ hp)
    omega
  · obtain rfl := Option.some.inj (hp.symm.trans hp')
    omega

/-- From an entry up to some number, the later entries are just those with a parent in this range. -/
theorem exists_block (hparent : ∀ p, parent = some p → p < next)
    (hn : n ∈ f.numberedFrom parent next) :
    ∃ stop, n.number < stop ∧ stop ≤ next + f.size ∧
      ∀ m ∈ f.numberedFrom parent next, n.number < m.number →
        (m.number < stop ↔ ∃ p, m.parent = some p ∧ n.number ≤ p ∧ p < stop) := by
  induction f generalizing parent next with
  | nil => cases hn
  | node entry below after ihb iha =>
      have hsize : (node entry below after).size = below.size + 1 + after.size := rfl
      -- a block that ends with the first tree holds nothing of the later ones
      have hapart : ∀ low stop, next ≤ low → stop ≤ next + 1 + below.size →
          ∀ m ∈ after.numberedFrom parent (next + 1 + below.size),
            (m.number < stop ↔ ∃ p, m.parent = some p ∧ low ≤ p ∧ p < stop) := by
        intro low stop hlow hstop m hm
        have hbounds := number_bounds hm
        refine iff_of_false (by omega) (not_parent_between ?_ hstop hm)
        intro p hp
        exact Nat.lt_of_lt_of_le (hparent p hp) hlow
      have hbelow : ∀ p, some next = some p → p < next + 1 := by simp
      have hafter : ∀ p, parent = some p → p < next + 1 + below.size := by
        intro p hp
        have := hparent p hp
        omega
      rcases mem_numberedFrom_node.mp hn with rfl | hmem | hmem
      · refine ⟨next + 1 + below.size, show next < _ by omega, by omega, ?_⟩
        intro m hm hlt
        rcases mem_numberedFrom_node.mp hm with rfl | hm | hm
        · exact absurd hlt (Nat.lt_irrefl _)
        · have hbounds := number_bounds hm
          refine iff_of_true hbounds.2 ?_
          rcases parent_bounds hm with htop | ⟨p, hp, hle, hltp⟩
          · exact ⟨next, htop, Nat.le_refl _, by omega⟩
          · exact ⟨p, hp, Nat.le_of_succ_le hle, by omega⟩
        · exact hapart _ _ (Nat.le_refl _) (Nat.le_refl _) m hm
      · have hbounds := number_bounds hmem
        obtain ⟨stop, hstop, hle, hblock⟩ := ihb hbelow hmem
        refine ⟨stop, hstop, by omega, ?_⟩
        intro m hm hlt
        rcases mem_numberedFrom_node.mp hm with rfl | hm | hm
        · have hfirst : n.number < next := hlt
          omega
        · exact hblock m hm hlt
        · exact hapart _ _ (by omega) hle m hm
      · have hbounds := number_bounds hmem
        obtain ⟨stop, hstop, hle, hblock⟩ := iha hafter hmem
        refine ⟨stop, hstop, by omega, ?_⟩
        intro m hm hlt
        rcases mem_numberedFrom_node.mp hm with rfl | hm | hm
        · have hfirst : n.number < next := hlt
          omega
        · have hbounds := number_bounds hm
          omega
        · exact hblock m hm hlt

theorem lt_of_parent_eq {p : Nat} (hn : n ∈ f.numbered) (hp : n.parent = some p) : p < n.number := by
  rcases parent_bounds hn with htop | ⟨p', hp', _, hlt⟩
  · cases htop.symm.trans hp
  · exact Option.some.inj (hp'.symm.trans hp) ▸ hlt

/-- Links to parents lead up from the second number to the first. -/
def HangsBelow (nodes : List (Numbered α)) : Nat → Nat → Prop :=
  Relation.ReflTransGen fun p c => ∃ n, nodes[c]? = some n ∧ n.parent = some p

/-- What hangs below an entry follows it without a gap. -/
theorem exists_hangsBelow_iff (hn : n ∈ f.numbered) :
    ∃ stop, stop ≤ f.numbered.length ∧
      ∀ i, HangsBelow f.numbered n.number i ↔ n.number ≤ i ∧ i < stop := by
  obtain ⟨stop, hstop, hle, hblock⟩ := exists_block (by simp) hn
  rw [Nat.zero_add] at hle
  refine ⟨stop, by rwa [numbered, length_numberedFrom], fun i => ⟨?_, ?_⟩⟩
  · intro hleft
    induction hleft with
    | refl => exact ⟨Nat.le_refl _, hstop⟩
    | @tail p c _ hlink ih =>
        obtain ⟨m, hm, hparent⟩ := hlink
        obtain ⟨hmem, rfl⟩ := getElem?_numbered_iff.mp hm
        have hbehind := Nat.lt_of_le_of_lt ih.1 (lt_of_parent_eq hmem hparent)
        exact ⟨Nat.le_of_lt hbehind, (hblock m hmem hbehind).mpr ⟨p, hparent, ih⟩⟩
  · intro hright
    induction i using Nat.strongRecOn with
    | _ i ih =>
        rcases Nat.eq_or_lt_of_le hright.1 with rfl | hbehind
        · exact .refl
        · have hlt : i < f.numbered.length := by
            rw [numbered, length_numberedFrom]
            omega
          obtain ⟨m, hm⟩ : ∃ m, f.numbered[i]? = some m := ⟨_, List.getElem?_eq_getElem hlt⟩
          obtain ⟨hmem, rfl⟩ := getElem?_numbered_iff.mp hm
          obtain ⟨p, hparent, hbounds⟩ := (hblock m hmem hbehind).mp hright.2
          exact (ih p (lt_of_parent_eq hmem hparent) hbounds).tail ⟨m, hm, hparent⟩

end Waymark.Forest
