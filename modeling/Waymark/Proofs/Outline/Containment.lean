import Waymark.Proofs.Outline.Nest
import Waymark.Proofs.Outline.Stack

/-!
# Nesting by containment

Ranges may cross, be equal or be reversed. Once symbols are sorted by where they start, and those that start
together by where they end, the last one first, the nesting is told by containment alone: a symbol stands
below the last one before it that encloses it. A range that has been left behind encloses nothing that comes
later, since what ended its reach would enclose that, too.
-/

namespace Waymark

namespace OutlineSymbol

/-- The order of a document: by start, then by end from the last to the first, then as they were. -/
structure IsStableSort (symbols sorted : List OutlineSymbol) : Prop where
  perm : sorted.Perm symbols
  ordered : sorted.Pairwise fun s t => comesBefore s t = true
  stable : ∀ r, (sorted.filter fun s => s.range = r) = symbols.filter fun s => s.range = r

theorem isStableSort_mergeSort (symbols : List OutlineSymbol) :
    IsStableSort symbols (symbols.mergeSort comesBefore) := by
  have hperm := List.mergeSort_perm symbols comesBefore
  refine ⟨hperm, ?_, ?_⟩
  · exact @List.pairwise_mergeSort _ comesBefore (fun _ _ _ => comesBefore_trans) comesBefore_total symbols
  · intro r
    have hties : (symbols.filter fun s => s.range = r).Pairwise fun s t => comesBefore s t = true := by
      refine List.pairwise_of_forall_mem_list fun s hs t ht => ?_
      have hs : s.range = r := by simpa using (List.mem_filter.mp hs).2
      have ht : t.range = r := by simpa using (List.mem_filter.mp ht).2
      rw [comesBefore_iff, firstLine, firstLine, hs, ht, Position.le_def]
      omega
    have hsublist : (symbols.filter fun s => s.range = r).Sublist (symbols.mergeSort comesBefore) :=
      @List.sublist_mergeSort _ comesBefore _ (fun _ _ _ => comesBefore_trans) comesBefore_total _ hties
        List.filter_sublist
    have hfiltered := hsublist.filter fun s => decide (s.range = r)
    simp only [List.filter_filter, Bool.and_self] at hfiltered
    exact (hfiltered.eq_of_length (hperm.filter _).length_eq.symm).symm

/-! ## What encloses what in a list -/

/-- The symbol at one place of a list encloses the one at another. -/
def Covers (l : List OutlineSymbol) (j i : Nat) : Prop :=
  ∃ s ∈ l[j]?, ∃ t ∈ l[i]?, s.range.encloses t.range = true

/-- The last place before another where the symbol encloses the one there. -/
def IsLastCover (l : List OutlineSymbol) (i p : Nat) : Prop :=
  p < i ∧ Covers l p i ∧ ∀ j, p < j → j < i → ¬ Covers l j i

variable {l m : List OutlineSymbol} {i j k p : Nat} {s c t : OutlineSymbol}

theorem IsLastCover.unique {q : Nat} (hp : IsLastCover l i p) (hq : IsLastCover l i q) : p = q := by
  rcases Nat.lt_trichotomy p q with hlt | heq | hlt
  · exact absurd hq.2.1 (hp.2.2 q hlt hq.1)
  · exact heq
  · exact absurd hp.2.1 (hq.2.2 p hlt hp.1)

/-- A stretch of a list that begins at `k` has the same symbols up to a place. -/
theorem covers_shift (hm : ∀ j ≤ i, m[j]? = l[k + j]?) (hj : j ≤ i) :
    Covers l (k + j) (k + i) ↔ Covers m j i := by
  rw [Covers, Covers, hm j hj, hm i (Nat.le_refl i)]

theorem IsLastCover.shift (hm : ∀ j ≤ i, m[j]? = l[k + j]?) (h : IsLastCover m i p) :
    IsLastCover l (k + i) (k + p) := by
  obtain ⟨hlt, hcovers, hlast⟩ := h
  refine ⟨Nat.add_lt_add_left hlt k, (covers_shift hm (Nat.le_of_lt hlt)).mpr hcovers, ?_⟩
  intro j hpj hji hcovers
  obtain ⟨j, rfl⟩ : ∃ j', j = k + j' := ⟨j - k, by omega⟩
  exact hlast j (by omega) (by omega) ((covers_shift hm (by omega)).mp hcovers)

theorem start_le_of_comesBefore (h : comesBefore s t = true) : s.range.start ≤ t.range.start := by
  rw [comesBefore_iff] at h
  rw [Position.le_def]
  change s.firstLine < t.firstLine ∨ s.firstLine = t.firstLine ∧ _
  omega

/-- A symbol that does not enclose a later one encloses nothing behind that one which that one does not. -/
theorem encloses_of_left_behind (hsc : comesBefore s c = true) (hct : comesBefore c t = true)
    (hleft : s.range.encloses c.range = false) (hst : s.range.encloses t.range = true) :
    c.range.encloses t.range = true := by
  have hstart := start_le_of_comesBefore hsc
  have hstart' := start_le_of_comesBefore hct
  rw [← Bool.not_eq_true, Span.encloses_iff] at hleft
  simp only [Span.encloses_iff, Position.le_def] at *
  omega

/-! ## The nested forest -/

theorem preorder_nest (l : List OutlineSymbol) : (nest l).preorder = l := by
  fun_induction nest l with
  | case1 => rfl
  | case2 s rest ihb iha =>
      rw [Forest.preorder, ihb, iha, List.cons_append, List.takeWhile_append_dropWhile]

theorem size_nest (l : List OutlineSymbol) : (nest l).size = l.length := by
  rw [← Forest.length_preorder, preorder_nest]

/-- Behind the reach of a symbol, neither it nor what it encloses covers a place that nothing else covers. -/
theorem not_covers_behind {inside behind : List OutlineSymbol}
    (hsorted : (s :: (inside ++ behind)).Pairwise fun s t => comesBefore s t = true)
    (hinside : ∀ t ∈ inside, s.range.encloses t.range = true)
    (hhead : ∀ c ∈ behind.head?, s.range.encloses c.range = false)
    (hbehind : ∀ j < i, ¬ Covers behind j i) (hj : j < 1 + inside.length) :
    ¬ Covers (s :: (inside ++ behind)) j (1 + inside.length + i) := by
  rintro ⟨u, hu, t, ht, hut⟩
  have ht : behind[i]? = some t := by
    rw [Option.mem_def, Nat.add_assoc, Nat.add_comm 1, List.getElem?_cons_succ,
      List.getElem?_append_right (Nat.le_add_right _ _), Nat.add_sub_cancel_left] at ht
    exact ht
  have hst : s.range.encloses t.range = true := by
    cases j with
    | zero =>
        cases hu
        exact hut
    | succ j =>
        have hu : inside[j]? = some u := by
          rw [Option.mem_def, List.getElem?_cons_succ, List.getElem?_append_left (by omega)] at hu
          exact hu
        exact Span.encloses_trans (hinside u (List.mem_of_getElem? hu)) hut
  cases behind with
  | nil => simp at ht
  | cons c behind =>
      have hleft := hhead c rfl
      cases i with
      | zero =>
          cases ht
          rw [hst] at hleft
          cases hleft
      | succ i =>
          rw [List.pairwise_cons, List.pairwise_append, List.pairwise_cons] at hsorted
          obtain ⟨hfirst, _, ⟨hnext, _⟩, _⟩ := hsorted
          have hsc := hfirst c (by simp)
          have hct := hnext t (List.mem_of_getElem? ht)
          exact hbehind 0 (Nat.succ_pos i) ⟨c, rfl, t, ht, encloses_of_left_behind hsc hct hleft hst⟩

/-- A numbered symbol of a list has the number of its place. It is below the last symbol that covers the place,
or where the whole list is put if none does. -/
def Placed (l : List OutlineSymbol) (parent : Option Nat) (next : Nat)
    (n : Forest.Numbered OutlineSymbol) : Prop :=
  ∃ i, n.number = next + i ∧ l[i]? = some n.entry ∧
    ((∃ p, n.parent = some (next + p) ∧ IsLastCover l i p) ∨
      n.parent = parent ∧ ∀ j < i, ¬ Covers l j i)

section

variable {inside behind : List OutlineSymbol} {parent : Option Nat} {next : Nat}
  {n : Forest.Numbered OutlineSymbol}

theorem Placed.of_inside (hinside : ∀ t ∈ inside, s.range.encloses t.range = true)
    (h : Placed inside (some next) (next + 1) n) : Placed (s :: (inside ++ behind)) parent next n := by
  obtain ⟨i, hnumber, hentry, hplace⟩ := h
  have hi : i < inside.length := (List.getElem?_eq_some_iff.mp hentry).1
  have hshift : ∀ j ≤ i, inside[j]? = (s :: (inside ++ behind))[1 + j]? := by
    intro j hj
    rw [Nat.add_comm, List.getElem?_cons_succ, List.getElem?_append_left (by omega)]
  have hentry' : (s :: (inside ++ behind))[1 + i]? = some n.entry := by
    rw [← hshift i (Nat.le_refl i), hentry]
  refine ⟨1 + i, by omega, hentry', .inl ?_⟩
  rcases hplace with ⟨p, hparent, hlast⟩ | ⟨hparent, hnone⟩
  · exact ⟨1 + p, by rw [hparent, Nat.add_assoc], hlast.shift hshift⟩
  · -- nothing between covers the place, so it is left to `s`
    have hencloses := hinside n.entry (List.mem_of_getElem? hentry)
    refine ⟨0, hparent, by omega, ⟨s, rfl, n.entry, hentry', hencloses⟩, ?_⟩
    intro j hj hji hcovers
    obtain ⟨j, rfl⟩ : ∃ j', j = 1 + j' := ⟨j - 1, by omega⟩
    exact hnone j (by omega) ((covers_shift hshift (by omega)).mp hcovers)

theorem Placed.of_behind (hsorted : (s :: (inside ++ behind)).Pairwise fun s t => comesBefore s t = true)
    (hinside : ∀ t ∈ inside, s.range.encloses t.range = true)
    (hhead : ∀ c ∈ behind.head?, s.range.encloses c.range = false)
    (h : Placed behind parent (next + 1 + inside.length) n) :
    Placed (s :: (inside ++ behind)) parent next n := by
  obtain ⟨i, hnumber, hentry, hplace⟩ := h
  have hshift : ∀ j ≤ i, behind[j]? = (s :: (inside ++ behind))[1 + inside.length + j]? := by
    intro j _
    rw [Nat.add_assoc, Nat.add_comm 1, List.getElem?_cons_succ,
      List.getElem?_append_right (Nat.le_add_right _ _), Nat.add_sub_cancel_left]
  refine ⟨1 + inside.length + i, by omega, by rw [← hshift i (Nat.le_refl i), hentry], ?_⟩
  rcases hplace with ⟨p, hparent, hlast⟩ | ⟨hparent, hnone⟩
  · refine .inl ⟨1 + inside.length + p, ?_, hlast.shift hshift⟩
    rw [hparent, Nat.add_assoc, Nat.add_assoc, Nat.add_assoc]
  · refine .inr ⟨hparent, fun j hj hcovers => ?_⟩
    by_cases hbefore : j < 1 + inside.length
    · exact not_covers_behind hsorted hinside hhead hnone hbefore hcovers
    · obtain ⟨j, rfl⟩ : ∃ j', j = 1 + inside.length + j' := ⟨j - (1 + inside.length), by omega⟩
      exact hnone j (by omega) ((covers_shift hshift (by omega)).mp hcovers)

end

theorem placed_of_mem_nest (hsorted : l.Pairwise fun s t => comesBefore s t = true)
    (parent : Option Nat) (next : Nat) {n : Forest.Numbered OutlineSymbol}
    (hn : n ∈ (nest l).numberedFrom parent next) : Placed l parent next n := by
  fun_induction nest l generalizing parent next with
  | case1 => simp [Forest.numberedFrom] at hn
  | case2 s rest ihb iha =>
      have hinside : ∀ t ∈ rest.takeWhile (fun t => s.range.encloses t.range),
          s.range.encloses t.range = true := fun t ht => List.all_eq_true.mp List.all_takeWhile t ht
      have hhead : ∀ c ∈ (rest.dropWhile fun t => s.range.encloses t.range).head?,
          s.range.encloses c.range = false := by
        intro c hc
        have hnot := List.head?_dropWhile_not (fun t => s.range.encloses t.range) rest
        rwa [Option.mem_def.mp hc] at hnot
      have hrest : rest = rest.takeWhile (fun t => s.range.encloses t.range) ++
          rest.dropWhile (fun t => s.range.encloses t.range) := List.takeWhile_append_dropWhile.symm
      rw [Forest.numberedFrom, size_nest] at hn
      generalize rest.takeWhile (fun t => s.range.encloses t.range) = inside at *
      generalize rest.dropWhile (fun t => s.range.encloses t.range) = behind at *
      subst hrest
      have hparts := hsorted
      rw [List.pairwise_cons, List.pairwise_append] at hparts
      obtain ⟨_, hsortedInside, hsortedBehind, _⟩ := hparts
      simp only [List.cons_append, List.mem_cons, List.mem_append] at hn
      rcases hn with rfl | hn | hn
      · exact ⟨0, rfl, rfl, .inr ⟨rfl, fun j hj => absurd hj (Nat.not_lt_zero j)⟩⟩
      · exact .of_inside hinside (ihb hsortedInside (some next) (next + 1) hn)
      · exact .of_behind hsorted hinside hhead (iha hsortedBehind parent _ hn)

theorem allTrees_nest (hsorted : l.Pairwise fun s t => comesBefore s t = true) :
    (nest l).AllTrees fun s below =>
      (∀ t ∈ below.preorder, s.range.encloses t.range = true) ∧
        below.roots.Pairwise fun s t => comesBefore s t = true := by
  fun_induction nest l with
  | case1 => trivial
  | case2 s rest ihb iha =>
      rw [List.pairwise_cons] at hsorted
      have hinside := hsorted.2.sublist (List.takeWhile_sublist fun t => s.range.encloses t.range)
      have hbehind := hsorted.2.sublist (List.dropWhile_sublist fun t => s.range.encloses t.range)
      refine ⟨⟨?_, ?_⟩, ihb hinside, iha hbehind⟩
      · intro t ht
        rw [preorder_nest] at ht
        exact List.all_eq_true.mp List.all_takeWhile t ht
      · have hroots := Forest.roots_sublist_preorder
          (nest (rest.takeWhile fun t => s.range.encloses t.range))
        rw [preorder_nest] at hroots
        exact hinside.sublist hroots

end OutlineSymbol

open OutlineSymbol

/-- The tree of an outline is what one pass over its symbols with a stack ends in. It holds them in the order
of the document, each of them once. A symbol's parent is the last one before it that encloses it, and a symbol
that none before it encloses is at the top. So every symbol encloses all that is below it, and what stands
side by side stands in the order of the document. -/
theorem Outline.tree_places (o : Outline) :
    ∃ sorted, IsStableSort o.symbols sorted ∧ Nesting.run ⟨[], .nil⟩ sorted = o.tree ∧
      o.tree.preorder = sorted ∧
      o.tree.numbered.map Forest.Numbered.number = List.range sorted.length ∧
      (∀ n ∈ o.tree.numbered, sorted[n.number]? = some n.entry ∧
        (∀ p, n.parent = some p ↔ IsLastCover sorted n.number p) ∧
        (n.parent = none ↔ ∀ j < n.number, ¬ Covers sorted j n.number)) ∧
      (o.tree.roots.Pairwise fun s t => comesBefore s t = true) ∧
      o.tree.AllTrees fun s below =>
        (∀ t ∈ below.preorder, s.range.encloses t.range = true) ∧
          below.roots.Pairwise fun s t => comesBefore s t = true := by
  have hsort := isStableSort_mergeSort o.symbols
  have hpreorder : o.tree.preorder = o.symbols.mergeSort comesBefore := preorder_nest _
  have hrun : Nesting.run ⟨[], .nil⟩ (o.symbols.mergeSort comesBefore) = o.tree := Nesting.run_eq_nest _
  refine ⟨o.symbols.mergeSort comesBefore, hsort, hrun, hpreorder, ?_, ?_, ?_, allTrees_nest hsort.ordered⟩
  · rw [Forest.numbered, Forest.number_numberedFrom, ← Forest.length_preorder, hpreorder,
      List.range_eq_range']
  · intro n hn
    obtain ⟨i, hnumber, hentry, hplace⟩ := placed_of_mem_nest hsort.ordered none 0 hn
    rw [Nat.zero_add] at hnumber
    subst hnumber
    refine ⟨hentry, ?_⟩
    rcases hplace with ⟨p, hparent, hlast⟩ | ⟨hparent, hnone⟩
    · rw [Nat.zero_add] at hparent
      refine ⟨fun q => ?_, ?_⟩
      · rw [hparent, Option.some.injEq]
        exact ⟨fun h => h ▸ hlast, fun h => hlast.unique h⟩
      · rw [hparent]
        exact iff_of_false nofun fun h => h p hlast.1 hlast.2.1
    · refine ⟨fun q => ?_, ?_⟩
      · rw [hparent]
        exact iff_of_false nofun fun h => hnone q h.1 h.2.1
      · exact ⟨fun _ => hnone, fun _ => hparent⟩
  · have hroots := Forest.roots_sublist_preorder o.tree
    rw [hpreorder] at hroots
    exact hsort.ordered.sublist hroots

end Waymark
