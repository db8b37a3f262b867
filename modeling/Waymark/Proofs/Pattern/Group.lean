import Waymark.Proofs.Pattern.Forward

/-!
# Groups that come last

A pattern notes the edges of its own groups and of no others. If a group stands behind everything else in
each alternative that has it, all other edges of a match lie before that group or where it opens.
-/

namespace Waymark.Pattern

/-! ## The groups of an expression -/

namespace Expr

/-- The names of the groups in an expression. -/
def groups : Expr → List String
  | .group name body => name :: body.groups
  | .cat first second | .alt first second => first.groups ++ second.groups
  | .repeated body _ _ _ => body.groups
  | .empty | .one _ _ | .look _ => []

theorem marks_guard (inLoop : Bool) (label : List Nat) (node : Node) :
    (guard inLoop label node).marks = node.marks := by
  cases inLoop <;> rfl

theorem marks_optional (greedy : Bool) (node : Node) :
    (optional greedy node).marks = node.marks := by
  cases greedy <;> simp [optional, Node.marks]

section

variable {compile : List Nat → Node} {names : List String}
  (hcompile : ∀ label, ∀ m ∈ (compile label).marks, m.group ∈ names)

include hcompile

theorem group_of_mem_copies (label : List Nat) (count : Nat) :
    ∀ m ∈ (copies compile label count).marks, m.group ∈ names := by
  induction count with
  | zero => simp [copies, Node.marks]
  | succ count ih =>
      intro m hm
      rcases List.mem_append.mp hm with hm | hm
      · exact hcompile _ m hm
      · exact ih m hm

theorem group_of_mem_nestedCopies (inLoop greedy : Bool) (label : List Nat) (count : Nat) :
    ∀ m ∈ (nestedCopies compile inLoop greedy label count).marks, m.group ∈ names := by
  induction count with
  | zero => simp [nestedCopies, Node.marks]
  | succ count ih =>
      intro m hm
      rw [nestedCopies, marks_guard, marks_optional] at hm
      rcases List.mem_append.mp hm with hm | hm
      · exact hcompile _ m hm
      · exact ih m hm

end

/-- The node of an expression notes the edges of its groups only. -/
theorem group_of_mem_marks_compile {e : Expr} {inLoop : Bool} {label : List Nat} {m : Mark}
    (hm : m ∈ (e.compile inLoop label).marks) : m.group ∈ e.groups := by
  induction e generalizing inLoop label m with
  | empty => cases hm
  | one accept cost => cases hm
  | look l => cases hm
  | group name body ih =>
      simp only [compile, Node.marks, List.mem_append, List.mem_singleton] at hm
      rcases hm with rfl | hm | rfl
      · exact List.mem_cons_self
      · exact List.mem_cons_of_mem name (ih hm)
      · exact List.mem_cons_self
  | cat first second ihfirst ihsecond =>
      rcases List.mem_append.mp hm with hm | hm
      · exact List.mem_append_left _ (ihfirst hm)
      · exact List.mem_append_right _ (ihsecond hm)
  | alt preferred other ihpreferred ihother =>
      rw [compile, marks_guard] at hm
      rcases List.mem_append.mp hm with hm | hm
      · exact List.mem_append_left _ (ihpreferred hm)
      · exact List.mem_append_right _ (ihother hm)
  | repeated body min max greedy ih =>
      have hbody : ∀ inLoop label, ∀ m ∈ (body.compile inLoop label).marks, m.group ∈ body.groups :=
        fun inLoop label m hm => ih hm
      have hcopies := group_of_mem_copies (hbody inLoop)
      have hnested := group_of_mem_nestedCopies (hbody inLoop)
      have hround : ∀ gated : Bool, ∀ m ∈ (if gated = true then
          Node.seq (body.compile gated (2 :: label)) (.gate (3 :: label))
          else body.compile inLoop (2 :: label)).marks, m.group ∈ body.groups := by
        intro gated m hm
        split at hm
        · exact hbody _ _ m (by simpa [Node.marks] using hm)
        · exact hbody _ _ m hm
      simp only [compile] at hm
      generalize (if body.takesNothing = true then Nat.min min 1 else min) = least,
        (if body.takesNothing = true then some (Nat.min (max.getD 1) 1) else max) = most at hm
      split at hm
      · split at hm
        · exact hcopies _ _ m hm
        · rcases List.mem_append.mp hm with hm | hm
          · exact hcopies _ _ m hm
          · split at hm
            · exact hnested _ _ _ _ m hm
            · exact hbody _ _ m hm
      · split at hm
        · split at hm
          · rw [marks_guard, marks_optional] at hm
            rcases List.mem_append.mp hm with hm | hm
            · exact hround _ m hm
            · exact hround _ m hm
          · rw [marks_guard] at hm
            exact hround _ m hm
        · rcases List.mem_append.mp hm with hm | hm
          · exact hcopies _ _ m hm
          · rcases List.mem_append.mp hm with hm | hm
            · exact hround _ m hm
            · exact hround _ m hm

/-! ## Groups that come last -/

/-- A group of some name is in the expression at most as the last thing of an alternative, and then no
other group is inside it. -/
inductive Trails (name : String) : Expr → Prop
  | without {e : Expr} (h : name ∉ e.groups) : Trails name e
  | group {body : Expr} (h : body.groups = []) : Trails name (.group name body)
  | last {e : Expr} (h : Trails name e) : Trails name (.cat e .empty)
  | cat {first second : Expr} (hfirst : name ∉ first.groups) (hsecond : Trails name second) :
    Trails name (.cat first second)
  | alt {preferred other : Expr} (hpreferred : Trails name preferred) (hother : Trails name other) :
    Trails name (.alt preferred other)

end Expr

/-- The edges that were crossed with a group's opening edge among them lie before that edge, those of the
group itself apart. -/
def Behind (name : String) (marks : List (Mark × Nat)) : Prop :=
  ∀ column, (⟨name, false⟩, column) ∈ marks →
    ∀ edge ∈ marks, edge.1.group ≠ name → edge.2 ≤ column

/-- A thread that has not come to a group. -/
structure Thread.Before (name : String) (t : Thread) : Prop where
  notCrossed : ∀ edge ∈ t.marks, edge.1.group ≠ name
  le_column : ∀ edge ∈ t.marks, edge.2 ≤ t.column

variable {name : String}

theorem kept_before {marks : List Mark} (h : ∀ m ∈ marks, m.group ≠ name) :
    Kept marks (Thread.Before name) := by
  refine ⟨?_, ?_, ?_⟩
  · intro accept t t' ⟨hnot, hle⟩ hadvance
    obtain ⟨c, rest, _, rfl⟩ := Thread.advance?_eq_some hadvance
    exact ⟨hnot, fun edge hedge => Nat.le_succ_of_le (hle edge hedge)⟩
  · intro m hm t ⟨hnot, hle⟩
    refine ⟨?_, ?_⟩
    · intro edge hedge
      rcases List.mem_cons.mp hedge with rfl | hedge
      · exact h m hm
      · exact hnot edge hedge
    · intro edge hedge
      rcases List.mem_cons.mp hedge with rfl | hedge
      · exact Nat.le_refl _
      · exact hle edge hedge
  · intro gate t t' ⟨hnot, hle⟩ hpass
    rw [Thread.pass?_eq_some hpass]
    exact ⟨hnot, hle⟩

/-- Where no edges are noted, those that were crossed stay the same. -/
theorem kept_marks (P : List (Mark × Nat) → Prop) : Kept [] fun t => P t.marks := by
  refine ⟨?_, fun m hm => absurd hm List.not_mem_nil, ?_⟩
  · intro accept t t' h hadvance
    obtain ⟨c, rest, _, rfl⟩ := Thread.advance?_eq_some hadvance
    exact h
  · intro gate t t' h hpass
    rw [Thread.pass?_eq_some hpass]
    exact h

theorem Thread.Before.behind {t : Thread} (h : t.Before name) : Behind name t.marks :=
  fun _ hcolumn => absurd rfl (h.notCrossed _ hcolumn)

/-- A group that has been gone through from where it opened. -/
theorem Thread.Before.behind_group {t : Thread} (h : t.Before name) (stop : Nat) :
    Behind name ((⟨name, true⟩, stop) :: (⟨name, false⟩, t.column) :: t.marks) := by
  intro column hcolumn edge hedge hother
  have hopen : column = t.column := by
    simp only [List.mem_cons, Prod.mk.injEq, Mark.mk.injEq, Bool.false_eq_true, and_false, false_and,
      true_and, false_or] at hcolumn
    rcases hcolumn with hcolumn | hcolumn
    · exact hcolumn
    · exact absurd rfl (h.notCrossed _ hcolumn)
  simp only [List.mem_cons] at hedge
  rcases hedge with rfl | rfl | hedge
  · exact absurd rfl hother
  · exact absurd rfl hother
  · exact hopen ▸ h.le_column edge hedge

/-- If a group comes last, all other edges of a match lie before it. -/
theorem Expr.Trails.behind_of_mem_run {e : Expr} (h : e.Trails name) {label : List Nat}
    {ts : List Thread} (hts : ∀ t ∈ ts, t.Before name) :
    ∀ t ∈ (e.compile false label).run ts, Behind name t.marks := by
  have hbefore : ∀ (e : Expr) (label : List Nat) (ts : List Thread), name ∉ e.groups →
      (∀ t ∈ ts, t.Before name) → ∀ t ∈ (e.compile false label).run ts, t.Before name := by
    intro e label ts hnot hts
    refine (kept_before fun m hm heq => ?_).run (List.Subset.refl _) hts
    exact hnot (heq ▸ group_of_mem_marks_compile hm)
  induction h generalizing label ts with
  | without hnot => exact fun t ht => (hbefore _ label ts hnot hts t ht).behind
  | @group body hnone =>
      have hmarks : (body.compile false (0 :: label)).marks ⊆ [] := by
        intro m hm
        have hgroup := group_of_mem_marks_compile hm
        rw [hnone] at hgroup
        cases hgroup
      have hopened : ∀ u ∈ ts.map (Thread.cross ⟨name, false⟩),
          ∃ t ∈ ts, u.marks = (⟨name, false⟩, t.column) :: t.marks := by
        intro u hu
        obtain ⟨t, ht, rfl⟩ := List.mem_map.mp hu
        exact ⟨t, ht, rfl⟩
      intro t' ht'
      obtain ⟨u, hu, rfl⟩ := List.mem_map.mp ht'
      obtain ⟨t, ht, hmarksU⟩ :=
        (kept_marks fun marks => ∃ t ∈ ts, marks = (⟨name, false⟩, t.column) :: t.marks).run
          hmarks hopened u hu
      change Behind name ((⟨name, true⟩, u.column) :: u.marks)
      rw [hmarksU]
      exact (hts t ht).behind_group u.column
  | last _ ih => exact ih hts
  | cat hfirst _ ih => exact ih (hbefore _ _ ts hfirst hts)
  | alt _ _ ihpreferred ihother =>
      intro t' ht'
      obtain ⟨t, ht, hmem⟩ := List.mem_flatMap.mp (mem_of_mem_firstPerColumnAfter ht')
      have hone : ∀ u ∈ [t], u.Before name := List.forall_mem_singleton.mpr (hts t ht)
      rcases List.mem_append.mp hmem with hmem | hmem
      · exact ihpreferred hone t' hmem
      · exact ihother hone t' hmem

theorem Match.mem_marks_of_group? {found : Match} {group : String} {start stop : Nat}
    (h : found.group? group = some (start, stop)) :
    (⟨group, false⟩, start) ∈ found.marks ∧ (⟨group, true⟩, stop) ∈ found.marks := by
  have hedge : ∀ {mark : Mark} {column : Nat}, found.edge? mark = some column →
      (mark, column) ∈ found.marks := by
    intro mark column hmark
    obtain ⟨⟨mark', column'⟩, hfind, rfl⟩ := Option.map_eq_some_iff.mp hmark
    have heq : mark' = mark := by simpa using List.find?_some hfind
    exact heq ▸ List.mem_of_find?_eq_some hfind
  rw [group?] at h
  split at h
  case h_1 hstart hstop =>
    cases h
    exact ⟨hedge hstart, hedge hstop⟩
  case h_2 => cases h

/-- In a match of a pattern in which a group comes last, the other groups end before it opens. -/
theorem Expr.Trails.stop_le_start {e : Expr} (h : e.Trails name) {label : List Nat}
    {before : Option Char} {column : Nat} {text : List Char} {found : Match}
    (hfound : (e.compile false label).findFrom before column text = some found) {other : String}
    (hother : other ≠ name) {start stop start' stop' : Nat}
    (hgroup : found.group? other = some (start, stop))
    (hlast : found.group? name = some (start', stop')) : stop ≤ start' := by
  obtain ⟨before', column', rest, hmatch, _⟩ := Node.exists_matchAt?_of_findFrom hfound
  obtain ⟨t, ht, rfl⟩ := Option.map_eq_some_iff.mp hmatch
  have hstart : ∀ u ∈ [Thread.start before' column' rest], u.Before name := by
    refine List.forall_mem_singleton.mpr ⟨?_, ?_⟩ <;>
    · intro edge hedge
      cases hedge
  have hbehind := h.behind_of_mem_run hstart t (List.mem_of_mem_head? ht)
  exact hbehind start' (Match.mem_marks_of_group? hlast).1 _ (Match.mem_marks_of_group? hgroup).2 hother

end Waymark.Pattern
