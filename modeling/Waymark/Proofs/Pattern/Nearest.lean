import Mathlib.Order.Bounds.Basic
import Waymark.Proofs.Pattern.Place

/-!
# The nearest place

A pattern made of single characters, with as few others between them as possible, keeps its threads in
the order of their columns. The preferred thread is then the one that has come least far, so a match
begins at the first column where one can begin, and stops at the first column where one from there can
stop.
-/

namespace Waymark.Pattern

open Waymark.Text

/-! ## Threads in the order of their columns -/

/-- Each thread has come further than the one before. -/
def Ascends (ts : List Thread) : Prop := ts.Pairwise fun t u => t.column < u.column

theorem ascends_singleton (t : Thread) : Ascends [t] := List.pairwise_singleton _ t

theorem Ascends.head_le {t : Thread} {ts : List Thread} (h : Ascends ts) (ht : ts.head? = some t)
    {column : Nat} (hcolumn : StandsAt ts column) : t.column ≤ column := by
  cases ts with
  | nil => cases ht
  | cons u ts =>
      obtain rfl := Option.some.inj ht
      obtain ⟨s, hs, rfl⟩ := hcolumn
      rcases List.mem_cons.mp hs with rfl | hs
      · exact Nat.le_refl _
      · exact Nat.le_of_lt (List.rel_of_pairwise_cons h hs)

variable {text : List Char} {accept : Char → Bool}

theorem Ascends.run_one {ts : List Thread} (h : Ascends ts) :
    Ascends ((Node.one accept).run ts) := by
  refine h.filterMap _ ?_
  intro t u hlt t' ht u' hu
  obtain ⟨_, _, _, rfl⟩ := Thread.advance?_eq_some ht
  obtain ⟨_, _, _, rfl⟩ := Thread.advance?_eq_some hu
  exact Nat.succ_lt_succ hlt

/-- The rounds of a class that prefer to stop go on column by column. -/
theorem ascends_rounds (room : Nat) (t : Thread) (seen : ColumnSet) :
    Ascends (rounds (fun s => (Node.one accept).run [s]) false room t seen).1 ∧
      ∀ u ∈ (rounds (fun s => (Node.one accept).run [s]) false room t seen).1,
        t.column ≤ u.column := by
  induction room generalizing t seen with
  | zero =>
      rw [rounds_zero]
      split <;> simp [Ascends]
  | succ room ih =>
      rw [rounds_succ]
      split
      case isTrue => simp [Ascends]
      case isFalse =>
        cases hadvance : t.advance? accept with
        | none => simp [Pattern.run_one, hadvance, collect, Ascends]
        | some t' =>
            obtain ⟨c, rest, hrest, ht'⟩ := Thread.advance?_eq_some hadvance
            have hcolumn : t'.column = t.column + 1 := by rw [ht']
            have honward : ((Node.one accept).run [t]).filter
                (fun next => next.rest.length < t.rest.length) = [t'] := by
              simp [Pattern.run_one, hadvance, hrest, ht']
            obtain ⟨hascends, hge⟩ := ih t' (seen.insert t.column)
            simp only [honward, collect, List.append_nil, Bool.false_eq_true, if_false]
            refine ⟨List.pairwise_cons.mpr ⟨?_, hascends⟩, ?_⟩
            · intro u hu
              have := hge u hu
              omega
            · intro u hu
              rcases List.mem_cons.mp hu with rfl | hu
              · exact Nat.le_refl _
              · have := hge u hu
                omega

theorem Ascends.collect_rounds {ts : List Thread} {seen : ColumnSet} (h : Ascends ts)
    (hts : ∀ t ∈ ts, t.On text) (hseen : ClosedFrom accept text 0 seen) :
    Ascends (collect
      (fun t => rounds (fun s => (Node.one accept).run [s]) false t.rest.length t) ts seen).1 := by
  induction ts generalizing seen with
  | nil => exact .nil
  | cons t ts ih =>
      obtain ⟨hfirst, hrest⟩ := List.pairwise_cons.mp h
      have hspec := rounds_spec false (hts t List.mem_cons_self) (Nat.le_refl _)
        fun a _ => hseen a (Nat.zero_le a)
      have hclosed := hspec.closedFrom hseen
      have hontail : ∀ u ∈ ts, u.On text := fun u hu => hts u (List.mem_cons_of_mem t hu)
      refine List.pairwise_append.mpr ⟨(ascends_rounds _ _ _).1, ih hrest hontail hclosed, ?_⟩
      intro u hu w hw
      -- a column that a later thread adds has not been passed to from this one
      have hpassed : Passes accept text t.column u.column := ((hspec.stands _).mp ⟨u, hu, rfl⟩).2
      obtain ⟨hnew, a, ⟨s, hs, rfl⟩, hfrom⟩ :=
        ((Pattern.collect_rounds false hontail hclosed).2 w.column).mp ⟨w, hw, rfl⟩
      by_contra hle
      have hlt := hfirst s hs
      have hback : Passes accept text t.column w.column := by
        obtain ⟨hsw, _⟩ := hfrom
        exact ⟨by omega, fun i hi hiw => hpassed.2 i hi (by omega)⟩
      rw [(hspec.seen _).mpr (.inr hback)] at hnew
      cases hnew

/-- As few characters of a class as possible lead to the columns one after the other. -/
theorem Ascends.run_star_one {ts : List Thread} (h : Ascends ts) (hts : ∀ t ∈ ts, t.On text) :
    Ascends ((Node.star false (.one accept)).run ts) :=
  h.collect_rounds hts (by simp [ClosedFrom])

/-! ## The first match -/

/-- What a search finds is a match at one column, and no column before it has a match. -/
theorem Node.first_of_findFrom {node : Node} {before : Option Char} {column : Nat}
    (hcolumn : column ≤ text.length) {found : Match}
    (h : node.findFrom before column (text.drop column) = some found) :
    ∃ start, column ≤ start ∧ start ≤ text.length ∧
      (∃ before, node.matchAt? before start (text.drop start) = some found) ∧
      ∀ c, column ≤ c → c < start → ∃ before, node.matchAt? before c (text.drop c) = none := by
  generalize hrest : text.drop column = rest at h
  induction rest generalizing before column with
  | nil =>
      exact ⟨column, Nat.le_refl _, hcolumn, ⟨before, hrest ▸ h⟩, fun c hc hlt => absurd hlt (by omega)⟩
  | cons c rest ih =>
      rw [findFrom] at h
      cases hmatch : node.matchAt? before column (c :: rest) with
      | some here =>
          rw [hmatch] at h
          obtain rfl := Option.some.inj h
          exact ⟨column, Nat.le_refl _, hcolumn, ⟨before, hrest ▸ hmatch⟩,
            fun c hc hlt => absurd hlt (by omega)⟩
      | none =>
          rw [hmatch] at h
          have hlt : column < text.length := by
            have := congrArg List.length hrest
            simp only [List.length_drop, List.length_cons] at this
            omega
          have hnext : text.drop (column + 1) = rest := by
            simpa using congrArg List.tail hrest
          obtain ⟨start, hle, hstart, hfound, hnone⟩ := ih hlt hnext h
          refine ⟨start, by omega, hstart, hfound, ?_⟩
          intro i hi hlt
          by_cases hhere : i = column
          · subst hhere
            exact ⟨before, hrest ▸ hmatch⟩
          · exact hnone i (by omega) hlt

/-- Where the threads of a pattern stay in order, a search finds the match that begins first and of those
the one that stops first. -/
theorem Node.isLeast_of_findFrom {node : Node} {Fits : Nat → Nat → Prop}
    (hstands : ∀ before a, a ≤ text.length → ∀ e,
      StandsAt (node.run [.start before a (text.drop a)]) e ↔ Fits a e)
    (hascends : ∀ before a, a ≤ text.length → Ascends (node.run [.start before a (text.drop a)]))
    (hwithin : ∀ a e, Fits a e → a ≤ text.length) {found : Match}
    (h : node.findFrom none 0 text = some found) :
    IsLeast {a | ∃ e, Fits a e} found.start ∧ IsLeast {e | Fits found.start e} found.stop := by
  obtain ⟨start, _, hstart, ⟨before, hfound⟩, hnone⟩ :=
    first_of_findFrom (Nat.zero_le text.length) h
  obtain ⟨t, ht, rfl⟩ := Option.map_eq_some_iff.mp hfound
  have hfits : Fits start t.column :=
    (hstands before start hstart _).mp ⟨t, List.mem_of_mem_head? ht, rfl⟩
  refine ⟨⟨⟨t.column, hfits⟩, ?_⟩, hfits, ?_⟩
  · intro a ha
    obtain ⟨e, he⟩ := ha
    by_contra hlt
    obtain ⟨before, hmatch⟩ := hnone a (Nat.zero_le a) (Nat.lt_of_not_le hlt)
    obtain ⟨u, hu, _⟩ := (hstands before a (hwithin a e he) e).mpr he
    rw [matchAt?, Option.map_eq_none_iff, List.head?_eq_none_iff] at hmatch
    rw [hmatch] at hu
    cases hu
  · intro e he
    exact (hascends before start hstart).head_le ht ((hstands before start hstart e).mpr he)

end Waymark.Pattern
