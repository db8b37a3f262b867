import Waymark.Outline.Tree

/-!
# Nesting by lines

If every symbol of a forest keeps the lines of those below it strictly inside its own, and the symbols
after it come behind its last line, then the forest can be told from the ranges: whatever order its symbols
are in, sorting and nesting them gives it back.
-/

namespace Waymark

namespace OutlineSymbol

def firstLine (s : OutlineSymbol) : Nat := s.range.start.line

def lastLine (s : OutlineSymbol) : Nat := s.range.stop.line

/-- The symbols of a forest take lines from `lo` on and before `hi`, those below a symbol take lines inside
its own, and those after it lines behind it. -/
def Nested (lo hi : Nat) : Forest OutlineSymbol → Prop
  | .nil => True
  | .node s below after =>
    lo ≤ s.firstLine ∧ s.firstLine ≤ s.lastLine ∧ s.lastLine < hi ∧
      Nested (s.firstLine + 1) s.lastLine below ∧ Nested (s.lastLine + 1) hi after

variable {lo hi : Nat} {f : Forest OutlineSymbol} {s t : OutlineSymbol}

theorem Nested.bounds (h : Nested lo hi f) (hs : s ∈ f.preorder) :
    lo ≤ s.firstLine ∧ s.firstLine ≤ s.lastLine ∧ s.lastLine < hi := by
  induction f generalizing lo hi with
  | nil => simp [Forest.preorder] at hs
  | node t below after ihb iha =>
      obtain ⟨hlo, hle, hhi, hbelow, hafter⟩ := h
      simp only [Forest.preorder, List.cons_append, List.mem_cons, List.mem_append] at hs
      rcases hs with rfl | hs | hs
      · exact ⟨hlo, hle, hhi⟩
      · have := ihb hbelow hs
        omega
      · have := iha hafter hs
        omega

theorem Nested.mono {lo' : Nat} (h : Nested lo hi f) (hle : lo' ≤ lo) : Nested lo' hi f := by
  cases f with
  | nil => trivial
  | node s below after => exact ⟨Nat.le_trans hle h.1, h.2⟩

/-! ## Sorting -/

theorem comesBefore_iff : comesBefore s t = true ↔
    s.firstLine < t.firstLine ∨ s.firstLine = t.firstLine ∧
      (s.range.start.column < t.range.start.column ∨
        s.range.start.column = t.range.start.column ∧ t.range.stop ≤ s.range.stop) := by
  have hsame : s.range.start = t.range.start ↔
      s.firstLine = t.firstLine ∧ s.range.start.column = t.range.start.column := by
    cases hs : s.range.start
    cases ht : t.range.start
    simp [firstLine, hs, ht]
  rw [comesBefore]
  by_cases heq : s.range.start = t.range.start
  · rw [if_pos heq, decide_eq_true_eq, Position.le_def]
    have hcoords := hsame.mp heq
    omega
  · rw [if_neg heq, decide_eq_true_eq, Position.le_def]
    rw [hsame] at heq
    change s.firstLine < t.firstLine ∨ s.firstLine = t.firstLine ∧ _ ↔ _
    omega

theorem comesBefore_trans {u : OutlineSymbol} (hst : comesBefore s t = true)
    (htu : comesBefore t u = true) : comesBefore s u = true := by
  rw [comesBefore_iff, Position.le_def] at *
  omega

theorem comesBefore_total (s t : OutlineSymbol) :
    (comesBefore s t || comesBefore t s) = true := by
  rw [Bool.or_eq_true, comesBefore_iff, comesBefore_iff, Position.le_def, Position.le_def]
  omega

theorem comesBefore_of_lt (h : s.firstLine < t.firstLine) : comesBefore s t = true :=
  comesBefore_iff.mpr (.inl h)

/-- Nested symbols start on later and later lines. -/
theorem Nested.pairwise_firstLine (h : Nested lo hi f) :
    f.preorder.Pairwise fun s t => s.firstLine < t.firstLine := by
  induction f generalizing lo hi with
  | nil => exact .nil
  | node s below after ihb iha =>
      obtain ⟨_, hle, _, hbelow, hafter⟩ := h
      rw [Forest.preorder, List.cons_append, List.pairwise_cons, List.pairwise_append]
      refine ⟨?_, ihb hbelow, iha hafter, ?_⟩
      · intro t ht
        rcases List.mem_append.mp ht with ht | ht
        · have := hbelow.bounds ht
          omega
        · have := hafter.bounds ht
          omega
      · intro t ht u hu
        have hinside := hbelow.bounds ht
        have hbehind := hafter.bounds hu
        omega

theorem Nested.eq_of_firstLine_eq (h : Nested lo hi f) (hs : s ∈ f.preorder) (ht : t ∈ f.preorder)
    (heq : s.firstLine = t.firstLine) : s = t := by
  have hapart := List.pairwise_iff_getElem.mp h.pairwise_firstLine
  obtain ⟨i, hi, rfl⟩ := List.getElem_of_mem hs
  obtain ⟨j, hj, rfl⟩ := List.getElem_of_mem ht
  rcases Nat.lt_trichotomy i j with hlt | rfl | hlt
  · have := hapart i j hi hj hlt
    omega
  · rfl
  · have := hapart j i hj hi hlt
    omega

theorem Nested.mergeSort_eq (h : Nested lo hi f) {symbols : List OutlineSymbol}
    (hperm : symbols.Perm f.preorder) : symbols.mergeSort comesBefore = f.preorder := by
  have horder : f.preorder.Pairwise fun s t => comesBefore s t = true :=
    h.pairwise_firstLine.imp comesBefore_of_lt
  have hsorted : (symbols.mergeSort comesBefore).Pairwise fun s t => comesBefore s t = true :=
    @List.pairwise_mergeSort _ comesBefore (fun _ _ _ => comesBefore_trans) comesBefore_total symbols
  have hsame := (List.mergeSort_perm symbols comesBefore).trans hperm
  refine List.Perm.eq_of_pairwise ?_ hsorted horder hsame
  -- no two symbols start on one line
  intro s t hs ht hst hts
  rw [hsame.mem_iff] at hs
  have hline : s.firstLine = t.firstLine := by
    rw [comesBefore_iff] at hst hts
    omega
  exact h.eq_of_firstLine_eq hs ht hline

/-! ## Nesting -/

theorem Nested.encloses_below (hf : Nested (s.firstLine + 1) s.lastLine f) (ht : t ∈ f.preorder) :
    s.range.encloses t.range = true := by
  obtain ⟨hstart, _, hstop⟩ := hf.bounds ht
  rw [firstLine, firstLine] at hstart
  rw [lastLine, lastLine] at hstop
  simp only [Span.encloses, Bool.and_eq_true, decide_eq_true_eq, Position.le_def]
  omega

theorem Nested.not_encloses_after (hf : Nested (s.lastLine + 1) hi f) (ht : t ∈ f.preorder) :
    s.range.encloses t.range = false := by
  obtain ⟨hstart, hle, _⟩ := hf.bounds ht
  rw [firstLine, lastLine] at *
  simp only [Span.encloses, Bool.and_eq_false_iff, decide_eq_false_iff_not, Position.le_def]
  omega

/-- Nesting the symbols of a forest in its order gives the forest. -/
theorem Nested.nest_preorder (h : Nested lo hi f) : nest f.preorder = f := by
  induction f generalizing lo hi with
  | nil => rw [Forest.preorder, nest]
  | node s below after ihb iha =>
      obtain ⟨_, _, _, hbelow, hafter⟩ := h
      have hinside : ∀ t ∈ below.preorder, s.range.encloses t.range = true :=
        fun t ht => hbelow.encloses_below ht
      have hbehind : ∀ t ∈ after.preorder, s.range.encloses t.range = false :=
        fun t ht => hafter.not_encloses_after ht
      have htake : after.preorder.takeWhile (fun t => s.range.encloses t.range) = [] := by
        cases hsymbols : after.preorder with
        | nil => rfl
        | cons t more => simp [hbehind t (by simp [hsymbols])]
      have hdrop : after.preorder.dropWhile (fun t => s.range.encloses t.range) = after.preorder := by
        cases hsymbols : after.preorder with
        | nil => rfl
        | cons t more => simp [hbehind t (by simp [hsymbols])]
      rw [Forest.preorder, List.cons_append, nest, List.takeWhile_append_of_pos hinside,
        List.dropWhile_append_of_pos hinside, htake, hdrop, List.append_nil, ihb hbelow, iha hafter]

end OutlineSymbol

/-- A forest that is nested by its lines is the tree of every outline of its symbols. -/
theorem Outline.tree_eq {o : Outline} {f : Forest OutlineSymbol} {lo hi : Nat}
    (h : OutlineSymbol.Nested lo hi f) (hperm : o.symbols.Perm f.preorder) : o.tree = f := by
  rw [tree, h.mergeSort_eq hperm, h.nest_preorder]

end Waymark
