import Waymark.Pattern.Basic

/-!
# Matches go forward

Threads take characters one after the other and never go back, so what every single step keeps is kept
by a whole pattern. A match stops where it started or behind that place, inside the text, and the edges
of its groups lie between.
-/

namespace Waymark.Pattern

/-! ## What each node does -/

section

variable {accept : Char → Bool} {ts : List Thread}

theorem run_one : (Node.one accept).run ts = ts.filterMap (Thread.advance? accept) := rfl

theorem run_seq {first second : Node} : (Node.seq first second).run ts = second.run (first.run ts) :=
  rfl

theorem run_alt {preferred other : Node} : (Node.alt preferred other).run ts =
    firstPerColumn (ts.flatMap fun t => preferred.run [t] ++ other.run [t]) := rfl

theorem run_star {greedy : Bool} {body : Node} : (Node.star greedy body).run ts =
    (collect (fun t => rounds (fun s => body.run [s]) greedy t.rest.length t) ts .empty).1 := rfl

end

section

variable {step : Thread → List Thread} {greedy : Bool} {t : Thread} {seen : Text.ColumnSet}

theorem rounds_zero : rounds step greedy 0 t seen =
    if seen.has t.column then ([], seen) else ([t], seen.insert t.column) := rfl

theorem rounds_succ {room : Nat} : rounds step greedy (room + 1) t seen =
    if seen.has t.column then ([], seen)
    else
      let onward := (step t).filter fun next => next.rest.length < t.rest.length
      let again := collect (rounds step greedy room) onward (seen.insert t.column)
      (if greedy then again.1 ++ [t] else t :: again.1, again.2) := rfl

end

/-! ## What no step changes -/

/-- The edges of groups that a node notes. -/
def Node.marks : Node → List Mark
  | .mark m => [m]
  | .seq first second | .alt first second => first.marks ++ second.marks
  | .star _ body | .upTo _ _ body => body.marks
  | .empty | .one _ | .look _ | .gate _ => []

/-- What no step of a thread changes, if none but the given edges are noted. -/
structure Kept (marks : List Mark) (I : Thread → Prop) : Prop where
  advance : ∀ accept t t', I t → t.advance? accept = some t' → I t'
  cross : ∀ m ∈ marks, ∀ t, I t → I (t.cross m)
  pass : ∀ gate t t', I t → t.pass? gate = some t' → I t'

section

variable {I : Thread → Prop}

theorem mem_of_mem_firstPerColumnAfter {t : Thread} {ts : List Thread} {seen : Text.ColumnSet}
    (ht : t ∈ firstPerColumnAfter seen ts) : t ∈ ts := by
  induction ts generalizing seen with
  | nil => exact ht
  | cons u ts ih =>
      rw [firstPerColumnAfter] at ht
      split at ht
      · exact List.mem_cons_of_mem u (ih ht)
      · rcases List.mem_cons.mp ht with heq | hmem
        · rw [heq]
          exact List.mem_cons_self
        · exact List.mem_cons_of_mem u (ih hmem)

theorem collect_keeps {visit : Thread → Text.ColumnSet → List Thread × Text.ColumnSet}
    (hvisit : ∀ t seen, I t → ∀ u ∈ (visit t seen).1, I u) {ts : List Thread}
    (hts : ∀ t ∈ ts, I t) (seen : Text.ColumnSet) : ∀ u ∈ (collect visit ts seen).1, I u := by
  induction ts generalizing seen with
  | nil =>
      intro u hu
      cases hu
  | cons t ts ih =>
      intro u hu
      rcases List.mem_append.mp hu with hhere | hmore
      · exact hvisit t seen (hts t List.mem_cons_self) u hhere
      · exact ih (fun t' ht' => hts t' (List.mem_cons_of_mem t ht')) _ u hmore

variable {step : Thread → List Thread} (hstep : ∀ t, I t → ∀ u ∈ step t, I u)

theorem mem_round {greedy : Bool} {again : List Thread} {t u : Thread}
    (hu : u ∈ if greedy then again ++ [t] else t :: again) : u = t ∨ u ∈ again := by
  cases greedy with
  | true =>
      rcases List.mem_append.mp hu with hagain | hlast
      · exact .inr hagain
      · exact .inl (List.mem_singleton.mp hlast)
  | false => exact List.mem_cons.mp hu

include hstep

theorem rounds_keeps (greedy : Bool) (room : Nat) {t : Thread} (ht : I t) (seen : Text.ColumnSet) :
    ∀ u ∈ (rounds step greedy room t seen).1, I u := by
  induction room generalizing t seen with
  | zero =>
      intro u hu
      rw [rounds_zero] at hu
      split at hu
      · cases hu
      · rw [List.mem_singleton.mp hu]
        exact ht
  | succ room ih =>
      intro u hu
      rw [rounds_succ] at hu
      split at hu
      · cases hu
      · rcases mem_round hu with heq | hagain
        · rw [heq]
          exact ht
        · refine collect_keeps (fun t' seen' ht' => ih ht' seen') ?_ _ u hagain
          intro t' ht'
          exact hstep t ht t' (List.mem_filter.mp ht').1

theorem climbs_keeps (greedy : Bool) (limit left : Nat) {t : Thread} (ht : I t)
    (seen : Text.ColumnSet) : ∀ u ∈ (climbs step greedy limit left t seen).1, I u := by
  induction left generalizing t seen with
  | zero =>
      intro u hu
      rw [List.mem_singleton.mp hu]
      exact ht
  | succ left ih =>
      intro u hu
      simp only [climbs] at hu
      split at hu
      · cases hu
      · rcases mem_round hu with heq | hagain
        · rw [heq]
          exact ht
        · exact collect_keeps (fun t' seen' ht' => ih ht' seen') (hstep t ht) _ u hagain

end

/-- What every step keeps is kept by a pattern. -/
theorem Kept.run {I : Thread → Prop} {marks : List Mark} (hI : Kept marks I) {node : Node}
    (hnode : node.marks ⊆ marks) {ts : List Thread} (hts : ∀ t ∈ ts, I t) :
    ∀ t ∈ node.run ts, I t := by
  induction node generalizing ts with
  | empty => exact hts
  | one accept =>
      intro t' ht'
      obtain ⟨t, ht, hadvance⟩ := List.mem_filterMap.mp ht'
      exact hI.advance accept t t' (hts t ht) hadvance
  | look l =>
      intro t ht
      exact hts t (List.mem_filter.mp ht).1
  | mark m =>
      intro t' ht'
      obtain ⟨t, ht, rfl⟩ := List.mem_map.mp ht'
      exact hI.cross m (hnode (List.mem_singleton_self m)) t (hts t ht)
  | gate label =>
      intro t' ht'
      obtain ⟨t, ht, hpass⟩ := List.mem_filterMap.mp ht'
      exact hI.pass label t t' (hts t ht) hpass
  | seq first second ihfirst ihsecond =>
      obtain ⟨hfirst, hsecond⟩ := List.append_subset.mp hnode
      exact ihsecond hsecond (ihfirst hfirst hts)
  | alt preferred other ihpreferred ihother =>
      obtain ⟨hpreferred, hother⟩ := List.append_subset.mp hnode
      intro t' ht'
      obtain ⟨t, ht, hmem⟩ := List.mem_flatMap.mp (mem_of_mem_firstPerColumnAfter ht')
      have hone : ∀ u ∈ [t], I u := List.forall_mem_singleton.mpr (hts t ht)
      rcases List.mem_append.mp hmem with hmem | hmem
      · exact ihpreferred hpreferred hone t' hmem
      · exact ihother hother hone t' hmem
  | star greedy body ih =>
      have hstep : ∀ t, I t → ∀ u ∈ body.run [t], I u :=
        fun t ht => ih hnode (List.forall_mem_singleton.mpr ht)
      exact collect_keeps (fun t seen ht => rounds_keeps hstep greedy t.rest.length ht seen) hts _
  | upTo limit greedy body ih =>
      have hstep : ∀ t, I t → ∀ u ∈ body.run [t], I u :=
        fun t ht => ih hnode (List.forall_mem_singleton.mpr ht)
      intro t' ht'
      exact collect_keeps (fun t seen ht => climbs_keeps hstep greedy limit limit ht seen) hts _ t'
        (mem_of_mem_firstPerColumnAfter ht')

/-! ## Matches -/

theorem Thread.advance?_eq_some {accept : Char → Bool} {t t' : Thread}
    (h : t.advance? accept = some t') :
    ∃ c rest, t.rest = c :: rest ∧ t' = ⟨some c, rest, t.column + 1, t.marks, []⟩ := by
  cases hrest : t.rest with
  | nil => simp [advance?, hrest] at h
  | cons c rest =>
      simp only [advance?, hrest] at h
      split at h
      · cases h
        exact ⟨c, rest, rfl, rfl⟩
      · cases h

theorem Thread.pass?_eq_some {gate : List Nat} {t t' : Thread} (h : t.pass? gate = some t') :
    t' = { t with passed := gate :: t.passed } := by
  rw [pass?] at h
  split at h
  · cases h
  · cases h
    rfl

/-- The thread has come from a column of a text of some length, and the edges it has crossed lie between
there and its place. -/
structure Thread.Within (start length : Nat) (t : Thread) : Prop where
  le : start ≤ t.column
  length_eq : t.column + t.rest.length = length
  marks : ∀ edge ∈ t.marks, start ≤ edge.2 ∧ edge.2 ≤ t.column

theorem kept_within (marks : List Mark) (start length : Nat) : Kept marks (Thread.Within start length) := by
  refine ⟨?_, ?_, ?_⟩
  · intro accept t t' ⟨hle, hlength, hmarks⟩ hadvance
    obtain ⟨c, rest, hrest, rfl⟩ := Thread.advance?_eq_some hadvance
    rw [hrest, List.length_cons] at hlength
    refine ⟨Nat.le_succ_of_le hle, by simpa [Nat.add_assoc, Nat.add_comm 1] using hlength, ?_⟩
    exact fun edge hedge => ⟨(hmarks edge hedge).1, Nat.le_succ_of_le (hmarks edge hedge).2⟩
  · intro m _ t ⟨hle, hlength, hmarks⟩
    refine ⟨hle, hlength, ?_⟩
    intro edge hedge
    rcases List.mem_cons.mp hedge with rfl | hedge
    · exact ⟨hle, Nat.le_refl _⟩
    · exact hmarks edge hedge
  · intro gate t t' ⟨hle, hlength, hmarks⟩ hpass
    rw [Thread.pass?_eq_some hpass]
    exact ⟨hle, hlength, hmarks⟩

/-- A match lies in a text of some length, and so do the edges of its groups in the match. -/
structure Match.Within (length : Nat) (found : Match) : Prop where
  start_le_stop : found.start ≤ found.stop
  stop_le : found.stop ≤ length
  marks : ∀ edge ∈ found.marks, found.start ≤ edge.2 ∧ edge.2 ≤ found.stop

theorem Node.within_of_matchAt? {node : Node} {before : Option Char} {column : Nat}
    {rest : List Char} {found : Match} (h : node.matchAt? before column rest = some found) :
    found.Within (column + rest.length) := by
  obtain ⟨t, ht, rfl⟩ := Option.map_eq_some_iff.mp h
  have hstart : ∀ u ∈ [Thread.start before column rest], u.Within column (column + rest.length) := by
    refine List.forall_mem_singleton.mpr ⟨Nat.le_refl column, rfl, ?_⟩
    intro edge hedge
    cases hedge
  obtain ⟨hle, hlength, hmarks⟩ :=
    (kept_within node.marks column _).run (List.Subset.refl _) hstart t (List.mem_of_mem_head? ht)
  exact ⟨hle, by simp only; omega, hmarks⟩

/-- What is found in a text is a match at one of its places. -/
theorem Node.exists_matchAt?_of_findFrom {node : Node} {before : Option Char} {column : Nat}
    {text : List Char} {found : Match} (h : node.findFrom before column text = some found) :
    ∃ before' column' rest, node.matchAt? before' column' rest = some found ∧
      column' + rest.length = column + text.length := by
  induction text generalizing before column with
  | nil => exact ⟨before, column, [], h, rfl⟩
  | cons c rest ih =>
      rw [findFrom] at h
      cases hmatch : node.matchAt? before column (c :: rest) with
      | none =>
          rw [hmatch] at h
          obtain ⟨before', column', rest', hfound, hlength⟩ := ih h
          refine ⟨before', column', rest', hfound, ?_⟩
          rw [hlength, List.length_cons]
          omega
      | some here =>
          rw [hmatch] at h
          cases h
          exact ⟨before, column, c :: rest, hmatch, rfl⟩

theorem Node.within_of_findFrom {node : Node} {before : Option Char} {column : Nat}
    {text : List Char} {found : Match} (h : node.findFrom before column text = some found) :
    found.Within (column + text.length) := by
  obtain ⟨_, _, _, hfound, hlength⟩ := exists_matchAt?_of_findFrom h
  rw [← hlength]
  exact within_of_matchAt? hfound

end Waymark.Pattern
