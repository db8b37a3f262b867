import Waymark.Proofs.Pattern.Forward

/-!
# The preferred thread

A match is made of the first thread that comes out of a node. Where that thread stands and what it has
noted depends on the thread that went in first alone, so the nodes of a pattern can be followed one by
one: a greedy repetition of a class leads to the end of the longest stretch of it.
-/

namespace Waymark.Pattern

/-- Where a thread stands and what it has noted. -/
structure Spot where
  rest : List Char
  column : Nat
  marks : List (Mark × Nat)

def Thread.spot (t : Thread) : Spot := ⟨t.rest, t.column, t.marks⟩

/-- A thread that goes in first at one spot comes out first at another. -/
def Leads (node : Node) (p q : Spot) : Prop :=
  ∀ t ts, t.spot = p → ∃ t' ts', node.run (t :: ts) = t' :: ts' ∧ t'.spot = q

/-- No thread gets through from the spot. -/
def Fails (node : Node) (p : Spot) : Prop :=
  ∀ t, t.spot = p → node.run [t] = []

theorem run_nil (node : Node) : node.run [] = [] := by
  induction node with
  | empty => rfl
  | one accept => rfl
  | look l => rfl
  | mark m => rfl
  | gate label => rfl
  | seq first second ihf ihs => rw [run_seq, ihf, ihs]
  | alt preferred other => rfl
  | star greedy body => rfl
  | upTo limit greedy body => rfl

/-! ## Single nodes -/

theorem leads_empty (p : Spot) : Leads .empty p p :=
  fun t ts ht => ⟨t, ts, rfl, ht⟩

theorem leads_mark (m : Mark) (p : Spot) :
    Leads (.mark m) p ⟨p.rest, p.column, (m, p.column) :: p.marks⟩ := by
  intro t ts ht
  refine ⟨t.cross m, ts.map (Thread.cross m), rfl, ?_⟩
  rw [← ht]
  rfl

theorem advance?_of_spot {accept : Char → Bool} {t : Thread} {c : Char} {rest : List Char}
    {column : Nat} {marks : List (Mark × Nat)} (ht : t.spot = ⟨c :: rest, column, marks⟩)
    (hc : accept c = true) :
    t.advance? accept = some ⟨some c, rest, column + 1, marks, []⟩ := by
  cases t
  cases ht
  simp [Thread.advance?, hc]

theorem advance?_eq_none_of_spot {accept : Char → Bool} {t : Thread} {p : Spot} (ht : t.spot = p)
    (hp : ∀ c ∈ p.rest.head?, accept c = false) : t.advance? accept = none := by
  rw [← ht] at hp
  cases hrest : t.rest with
  | nil => simp [Thread.advance?, hrest]
  | cons c rest =>
      have hc : accept c = false := hp c (by simp [Thread.spot, hrest])
      simp [Thread.advance?, hrest, hc]

theorem leads_one {accept : Char → Bool} {c : Char} (rest : List Char) (column : Nat)
    (marks : List (Mark × Nat)) (hc : accept c = true) :
    Leads (.one accept) ⟨c :: rest, column, marks⟩ ⟨rest, column + 1, marks⟩ := by
  intro t ts ht
  refine ⟨⟨some c, rest, column + 1, marks, []⟩, ts.filterMap (Thread.advance? accept), ?_, rfl⟩
  rw [run_one, List.filterMap_cons_some (advance?_of_spot ht hc)]

theorem fails_one {accept : Char → Bool} {p : Spot} (hp : ∀ c ∈ p.rest.head?, accept c = false) :
    Fails (.one accept) p := by
  intro t ht
  rw [run_one, List.filterMap_cons_none (advance?_eq_none_of_spot ht hp)]
  rfl

theorem Leads.seq {first second : Node} {p q r : Spot} (hfirst : Leads first p q)
    (hsecond : Leads second q r) : Leads (.seq first second) p r := by
  intro t ts ht
  obtain ⟨u, us, hrun, hu⟩ := hfirst t ts ht
  rw [run_seq, hrun]
  exact hsecond u us hu

theorem Fails.seq {first : Node} {p : Spot} (hfirst : Fails first p) (second : Node) :
    Fails (.seq first second) p := by
  intro t ht
  rw [run_seq, hfirst t ht, run_nil]

theorem Fails.one_seq {accept : Char → Bool} {second : Node} {c : Char} {rest : List Char}
    {column : Nat} {marks : List (Mark × Nat)} (hc : accept c = true)
    (hsecond : Fails second ⟨rest, column + 1, marks⟩) :
    Fails (.seq (.one accept) second) ⟨c :: rest, column, marks⟩ := by
  intro t ht
  rw [run_seq, run_one, List.filterMap_cons_some (advance?_of_spot ht hc)]
  exact hsecond _ rfl

theorem Fails.empty_seq {second : Node} {p : Spot} (hsecond : Fails second p) :
    Fails (.seq .empty second) p :=
  hsecond

/-! ## Choices -/

theorem firstPerColumn_cons (t : Thread) (ts : List Thread) :
    ∃ ts', firstPerColumn (t :: ts) = t :: ts' := by
  rw [firstPerColumn, firstPerColumnAfter, if_neg (by simp)]
  exact ⟨_, rfl⟩

theorem Leads.alt {preferred : Node} {p q : Spot} (hpreferred : Leads preferred p q)
    (other : Node) : Leads (.alt preferred other) p q := by
  intro t ts ht
  obtain ⟨u, us, hrun, hu⟩ := hpreferred t [] ht
  rw [run_alt, List.flatMap_cons, hrun, List.cons_append, List.cons_append]
  obtain ⟨vs, hfirst⟩ := firstPerColumn_cons u _
  exact ⟨u, vs, hfirst, hu⟩

theorem Fails.alt {preferred other : Node} {p q : Spot} (hpreferred : Fails preferred p)
    (hother : Leads other p q) : Leads (.alt preferred other) p q := by
  intro t ts ht
  obtain ⟨u, us, hrun, hu⟩ := hother t [] ht
  rw [run_alt, List.flatMap_cons, hpreferred t ht, hrun, List.nil_append, List.cons_append]
  obtain ⟨vs, hfirst⟩ := firstPerColumn_cons u _
  exact ⟨u, vs, hfirst, hu⟩

/-! ## Repetition -/

/-- The spot behind the longest stretch of a class. -/
def Spot.skip (accept : Char → Bool) (p : Spot) : Spot :=
  ⟨p.rest.dropWhile accept, p.column + (p.rest.takeWhile accept).length, p.marks⟩

theorem rounds_head (accept : Char → Bool) {room : Nat} (t : Thread) (seen : Text.ColumnSet)
    (hroom : t.rest.length ≤ room) (hseen : ∀ b, t.column ≤ b → seen.has b = false) :
    ∃ t' ts', (rounds (fun s => (Node.one accept).run [s]) true room t seen).1 = t' :: ts' ∧
      t'.spot = t.spot.skip accept := by
  have hnew : ¬ seen.has t.column = true := by simp [hseen t.column (Nat.le_refl _)]
  induction room generalizing t seen with
  | zero =>
      have hrest : t.rest = [] := List.length_eq_zero_iff.mp (Nat.le_zero.mp hroom)
      refine ⟨t, [], ?_, ?_⟩
      · rw [rounds_zero, if_neg hnew]
      · simp [Thread.spot, Spot.skip, hrest]
  | succ room ih =>
      cases hrest : t.rest with
      | nil =>
          have hnone : t.advance? accept = none := by simp [Thread.advance?, hrest]
          refine ⟨t, [], ?_, ?_⟩
          · rw [rounds_succ, if_neg hnew]
            simp [run_one, hnone, collect]
          · simp [Thread.spot, Spot.skip, hrest]
      | cons c rest =>
          cases hc : accept c with
          | false =>
              have hnone : t.advance? accept = none := by simp [Thread.advance?, hrest, hc]
              refine ⟨t, [], ?_, ?_⟩
              · rw [rounds_succ, if_neg hnew]
                simp [run_one, hnone, collect]
              · simp [Thread.spot, Spot.skip, hrest, hc]
          | true =>
              let next : Thread := ⟨some c, rest, t.column + 1, t.marks, []⟩
              have hadvance : t.advance? accept = some next := by
                simp [Thread.advance?, hrest, hc, next]
              have hlength : next.rest.length < t.rest.length := by simp [next, hrest]
              have hnextSeen : ∀ b, next.column ≤ b → (seen.insert t.column).has b = false := by
                intro b hb
                have hle : t.column + 1 ≤ b := hb
                have hne : ¬ t.column = b := by omega
                simp [hseen b (by omega), hne]
              obtain ⟨u, us, hrun, hu⟩ := ih next (seen.insert t.column) (by omega)
                hnextSeen (by simp [hnextSeen next.column (Nat.le_refl _)])
              refine ⟨u, us ++ [t], ?_, ?_⟩
              · rw [rounds_succ, if_neg hnew]
                have honward : ((Node.one accept).run [t]).filter
                    (fun after => after.rest.length < t.rest.length) = [next] := by
                  simp [run_one, hadvance, hlength]
                simp only [honward, collect, if_true, List.append_nil, hrun, List.cons_append]
              · rw [hu]
                simp [Thread.spot, Spot.skip, hrest, hc, next]
                omega

theorem collect_cons_fst
    (visit : Thread → Text.ColumnSet → List Thread × Text.ColumnSet) (t : Thread)
    (ts : List Thread) (seen : Text.ColumnSet) :
    (collect visit (t :: ts) seen).1 =
      (visit t seen).1 ++ (collect visit ts (visit t seen).2).1 := rfl

theorem leads_star_one (accept : Char → Bool) (p : Spot) :
    Leads (.star true (.one accept)) p (p.skip accept) := by
  intro t ts ht
  obtain ⟨u, us, hrun, hu⟩ := rounds_head accept t .empty (Nat.le_refl _)
    (fun b _ => Text.ColumnSet.has_empty b)
  rw [ht] at hu
  rw [run_star, collect_cons_fst, hrun, List.cons_append]
  exact ⟨u, _, rfl, hu⟩

/-! ## Matches -/

theorem matchAt?_of_leads {node : Node} {rest : List Char} {column : Nat} {q : Spot}
    (h : Leads node ⟨rest, column, []⟩ q) (before : Option Char) :
    node.matchAt? before column rest = some ⟨column, q.column, q.marks⟩ := by
  obtain ⟨t, ts, hrun, ht⟩ := h (.start before column rest) [] rfl
  rw [Node.matchAt?, hrun, ← ht]
  rfl

theorem matchAt?_of_fails {node : Node} {rest : List Char} {column : Nat}
    (h : Fails node ⟨rest, column, []⟩) (before : Option Char) :
    node.matchAt? before column rest = none := by
  rw [Node.matchAt?, Thread.start, h _ rfl]
  rfl

/-- A search finds the match at the first column that has one. -/
theorem findFrom_eq_some {node : Node} {text : List Char} {column i : Nat} {found : Match}
    (hnone : ∀ before, ∀ j < i, node.matchAt? before (column + j) (text.drop j) = none)
    (hfound : ∀ before, node.matchAt? before (column + i) (text.drop i) = some found)
    (hi : i ≤ text.length) (before : Option Char) :
    node.findFrom before column text = some found := by
  induction text generalizing column i before with
  | nil =>
      have hzero : i = 0 := Nat.le_zero.mp hi
      rw [hzero] at hfound
      exact hfound before
  | cons c text ih =>
      cases i with
      | zero =>
          have hhere := hfound before
          rw [Nat.add_zero, List.drop_zero] at hhere
          rw [Node.findFrom, hhere]
          rfl
      | succ i =>
          have hhere := hnone before 0 (Nat.succ_pos i)
          rw [Nat.add_zero, List.drop_zero] at hhere
          rw [Node.findFrom, hhere]
          have hshift : ∀ j, column + (j + 1) = column + 1 + j := by omega
          refine ih (i := i) ?_ ?_ (Nat.le_of_succ_le_succ hi) (some c)
          · intro before j hj
            rw [← hshift]
            exact hnone before (j + 1) (by omega)
          · intro before
            rw [← hshift]
            exact hfound before

theorem findFrom_eq_none {node : Node} {text : List Char} {column : Nat}
    (hnone : ∀ before, ∀ j ≤ text.length, node.matchAt? before (column + j) (text.drop j) = none)
    (before : Option Char) : node.findFrom before column text = none := by
  induction text generalizing column before with
  | nil => exact hnone before 0 (Nat.le_refl 0)
  | cons c text ih =>
      have hhere := hnone before 0 (Nat.zero_le _)
      rw [Nat.add_zero, List.drop_zero] at hhere
      rw [Node.findFrom, hhere]
      refine ih ?_ (some c)
      intro before j hj
      have hshift : column + 1 + j = column + (j + 1) := by omega
      rw [hshift]
      exact hnone before (j + 1) (Nat.succ_le_succ hj)

end Waymark.Pattern
