import Mathlib.Data.List.TakeWhile
import Waymark.Outline.Tree
import Waymark.Proofs.Forest

/-!
# Nesting with a stack

Sorted symbols can be nested in one pass, with a stack of the nodes whose reach has not ended. A node is put
below the one that is open around it when it is closed, and so with all its children at once. What comes of
it is the forest that is nested by recursion: what a symbol encloses is put below it before it is closed,
and with the first symbol that it does not enclose its reach has ended for good, since whatever is open inside
it encloses no more than it does.
-/

namespace Waymark.OutlineSymbol

/-- A symbol whose reach has not ended, with the trees below it so far. -/
structure OpenNode where
  symbol : OutlineSymbol
  below : Forest OutlineSymbol

/-- The nodes that are open, the innermost first, and the trees that are finished. -/
structure Nesting where
  stack : List OpenNode
  roots : Forest OutlineSymbol

namespace Nesting

/-- Put a finished node below the innermost open one, or at the top. -/
def attach (finished : OpenNode) : Nesting → Nesting
  | ⟨[], roots⟩ => ⟨[], roots ++ .node finished.symbol finished.below .nil⟩
  | ⟨parent :: outer, roots⟩ =>
    ⟨⟨parent.symbol, parent.below ++ .node finished.symbol finished.below .nil⟩ :: outer, roots⟩

@[simp] theorem length_stack_attach (finished : OpenNode) (n : Nesting) :
    (n.attach finished).stack.length = n.stack.length := by
  obtain ⟨stack, roots⟩ := n
  cases stack <;> rfl

/-- Close open nodes from the innermost on, as long as they have ended. -/
def closeWhile (ended : OutlineSymbol → Bool) : Nesting → Nesting
  | ⟨[], roots⟩ => ⟨[], roots⟩
  | ⟨top :: outer, roots⟩ =>
    if ended top.symbol then closeWhile ended (attach top ⟨outer, roots⟩) else ⟨top :: outer, roots⟩
termination_by n => n.stack.length
decreasing_by simp

/-- Close the nodes that do not enclose a symbol, and open one for the symbol. -/
def place (n : Nesting) (s : OutlineSymbol) : Nesting :=
  let around := n.closeWhile fun t => !t.range.encloses s.range
  ⟨⟨s, .nil⟩ :: around.stack, around.roots⟩

/-- Close all nodes. -/
def finish (n : Nesting) : Forest OutlineSymbol := (n.closeWhile fun _ => true).roots

/-- Place symbols one by one, and then close what is open. -/
def run (n : Nesting) (symbols : List OutlineSymbol) : Forest OutlineSymbol :=
  (symbols.foldl place n).finish

/-! ## One symbol -/

variable {s t : OutlineSymbol} {below roots : Forest OutlineSymbol} {outer : List OpenNode}

theorem closeWhile_nil (ended : OutlineSymbol → Bool) (roots : Forest OutlineSymbol) :
    closeWhile ended ⟨[], roots⟩ = ⟨[], roots⟩ := by
  rw [closeWhile]

theorem place_nil (roots : Forest OutlineSymbol) (s : OutlineSymbol) :
    place ⟨[], roots⟩ s = ⟨[⟨s, .nil⟩], roots⟩ := by
  rw [place, closeWhile_nil]

theorem place_of_encloses (h : s.range.encloses t.range = true) :
    place ⟨⟨s, below⟩ :: outer, roots⟩ t = ⟨⟨t, .nil⟩ :: ⟨s, below⟩ :: outer, roots⟩ := by
  rw [place, closeWhile, if_neg (by simp [h])]

theorem place_of_not_encloses (h : s.range.encloses t.range = false) :
    place ⟨⟨s, below⟩ :: outer, roots⟩ t = place (attach ⟨s, below⟩ ⟨outer, roots⟩) t := by
  rw [place, closeWhile, if_pos (by simp [h]), place]

theorem finish_cons (top : OpenNode) (outer : List OpenNode) (roots : Forest OutlineSymbol) :
    finish ⟨top :: outer, roots⟩ = finish (attach top ⟨outer, roots⟩) := by
  rw [finish, closeWhile, if_pos rfl, finish]

/-! ## A shorter stretch in a longer one -/

section

variable {α : Type} {p q : α → Bool}

theorem takeWhile_takeWhile_of_imp (h : ∀ a, p a = true → q a = true) (l : List α) :
    (l.takeWhile q).takeWhile p = l.takeWhile p := by
  have hboth : (fun a => decide (p a = true ∧ q a = true)) = p := by
    funext a
    cases hp : p a with
    | false => simp
    | true => simp [h a hp]
  rw [List.takeWhile_takeWhile, hboth]

theorem dropWhile_takeWhile_of_imp (h : ∀ a, p a = true → q a = true) (l : List α) :
    (l.takeWhile q).dropWhile p = (l.dropWhile p).takeWhile q := by
  induction l with
  | nil => rfl
  | cons a l ih =>
      by_cases hp : p a = true
      · simp [hp, h a hp, ih]
      · by_cases hq : q a = true <;> simp [hp, hq]

theorem dropWhile_dropWhile_of_imp (h : ∀ a, p a = true → q a = true) (l : List α) :
    (l.dropWhile p).dropWhile q = l.dropWhile q := by
  induction l with
  | nil => rfl
  | cons a l ih =>
      by_cases hp : p a = true
      · simp [hp, h a hp, ih]
      · simp [hp]

end

/-! ## All symbols -/

/-- What a symbol encloses begins with what the first symbol inside it encloses. -/
theorem nest_takeWhile_cons (h : s.range.encloses t.range = true) (rest : List OutlineSymbol) :
    nest ((t :: rest).takeWhile fun u => s.range.encloses u.range) =
      .node t (nest (rest.takeWhile fun u => t.range.encloses u.range)) .nil ++
        nest ((rest.dropWhile fun u => t.range.encloses u.range).takeWhile fun u =>
          s.range.encloses u.range) := by
  have hinside : ∀ u : OutlineSymbol, t.range.encloses u.range = true →
      s.range.encloses u.range = true := fun u htu => Span.encloses_trans h htu
  rw [List.takeWhile_cons, if_pos h, nest, takeWhile_takeWhile_of_imp hinside,
    dropWhile_takeWhile_of_imp hinside]
  rfl

theorem dropWhile_cons_of_encloses (h : s.range.encloses t.range = true) (rest : List OutlineSymbol) :
    (t :: rest).dropWhile (fun u => s.range.encloses u.range) =
      (rest.dropWhile fun u => t.range.encloses u.range).dropWhile fun u =>
        s.range.encloses u.range := by
  rw [List.dropWhile_cons, if_pos h,
    dropWhile_dropWhile_of_imp fun u htu => Span.encloses_trans h htu]

/-- The symbols up to the first that an open node does not enclose are nested below it, and then it is
closed. -/
theorem run_cons (s : OutlineSymbol) (below : Forest OutlineSymbol) (outer : List OpenNode)
    (roots : Forest OutlineSymbol) (symbols : List OutlineSymbol) :
    run ⟨⟨s, below⟩ :: outer, roots⟩ symbols =
      run (attach ⟨s, below ++ nest (symbols.takeWhile fun t => s.range.encloses t.range)⟩ ⟨outer, roots⟩)
        (symbols.dropWhile fun t => s.range.encloses t.range) := by
  induction hlength : symbols.length using Nat.strongRecOn generalizing s below outer symbols with
  | ind length ih =>
      subst hlength
      cases symbols with
      | nil => simp [run, finish_cons, nest]
      | cons t rest =>
          cases hencloses : s.range.encloses t.range with
          | true =>
              -- `t` is closed behind what it encloses, and what is left is again a matter of `s`
              let behind := rest.dropWhile fun u => t.range.encloses u.range
              let child := nest (rest.takeWhile fun u => t.range.encloses u.range)
              have hbehind : behind.length ≤ rest.length := (List.dropWhile_suffix _).length_le
              have hclosed := ih rest.length (Nat.lt_succ_self _) t .nil (⟨s, below⟩ :: outer) rest rfl
              have honward := ih behind.length (Nat.lt_succ_of_le hbehind) s
                (below ++ .node t child .nil) outer behind rfl
              rw [nest_takeWhile_cons hencloses, dropWhile_cons_of_encloses hencloses,
                ← Forest.append_assoc, run, List.foldl_cons, place_of_encloses hencloses]
              exact hclosed.trans honward
          | false =>
              rw [List.takeWhile_cons, List.dropWhile_cons, hencloses, if_neg Bool.false_ne_true,
                if_neg Bool.false_ne_true, nest, Forest.append_nil, run, List.foldl_cons,
                place_of_not_encloses hencloses, run, List.foldl_cons]

theorem run_nil (roots : Forest OutlineSymbol) (symbols : List OutlineSymbol) :
    run ⟨[], roots⟩ symbols = roots ++ nest symbols := by
  fun_induction nest symbols generalizing roots with
  | case1 => rw [run, List.foldl_nil, finish, closeWhile_nil, Forest.append_nil]
  | case2 s rest _ ih =>
      have hopened : run ⟨[], roots⟩ (s :: rest) = run ⟨[⟨s, .nil⟩], roots⟩ rest := by
        rw [run, List.foldl_cons, place_nil, run]
      rw [hopened, run_cons]
      exact (ih _).trans (Forest.append_assoc _ _ _)

/-- One pass with a stack nests symbols as the recursion does. -/
theorem run_eq_nest (symbols : List OutlineSymbol) : run ⟨[], .nil⟩ symbols = nest symbols :=
  run_nil .nil symbols

end Nesting

end Waymark.OutlineSymbol
