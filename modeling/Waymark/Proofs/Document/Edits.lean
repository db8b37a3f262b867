import Waymark.Proofs.Document.Replace
import Waymark.Region.Rename

/-!
# Making several edits

Edits that each replace a word, no two of them on one line, change just those lines, and the order in
which they are made does not matter.
-/

namespace Waymark

/-- Make the replacement. -/
def TextEdit.apply (e : TextEdit) (d : Document) : Document :=
  d.replace e.span.start e.span.stop e.newText

/-- The line of an edit. -/
def TextEdit.line (e : TextEdit) : Nat := e.span.start.line

namespace Document

/-- Make some replacements, one after the other. -/
def applyEdits (d : Document) (edits : List TextEdit) : Document :=
  edits.foldl (fun d e => e.apply d) d

/-- An edit puts one word in the place of another, and its line then reads `after`. -/
def Rewords (d : Document) (e : TextEdit) (after : String) : Prop :=
  ∃ line x w y, d.lines[e.line]? = some line ∧ line.toList = x ++ (w ++ y) ∧
    e.span = .onLine e.line x.length (x.length + w.length) ∧ Text.IsRun w ∧
    Text.IsRun e.newText.toList ∧ after = String.ofList (x ++ (e.newText.toList ++ y))

variable {d : Document} {e : TextEdit} {edits : List TextEdit} {after : String}

theorem applyEdits_cons (d : Document) (e : TextEdit) (rest : List TextEdit) :
    d.applyEdits (e :: rest) = (e.apply d).applyEdits rest := by
  rw [applyEdits, List.foldl_cons, applyEdits]

theorem lines_apply (h : d.Rewords e after) : (e.apply d).lines = d.lines.set e.line after := by
  obtain ⟨line, x, w, y, hline, hsplit, hspan, hw, hname, rfl⟩ := h
  rw [TextEdit.apply, hspan]
  exact lines_replace hw hname hline hsplit

theorem lines_apply_of_ne (h : d.Rewords e after) {i : Nat} (hne : e.line ≠ i) :
    (e.apply d).lines[i]? = d.lines[i]? := by
  rw [lines_apply h, List.getElem?_set_ne hne]

/-- An edit on another line does the same after an edit as before it. -/
theorem Rewords.apply {e' : TextEdit} {after' : String} (h : d.Rewords e' after')
    (hother : d.Rewords e after) (hne : e.line ≠ e'.line) : (e.apply d).Rewords e' after' := by
  obtain ⟨line, x, w, y, hline, hrest⟩ := h
  exact ⟨line, x, w, y, (lines_apply_of_ne hother hne).trans hline, hrest⟩

/-- Edits on other lines still do what they did. -/
theorem Rewords.apply_rest {rest : List TextEdit} (hword : d.Rewords e after)
    (hne : ∀ e' ∈ rest, e.line ≠ e'.line)
    (hwords : ∀ e' ∈ e :: rest, ∃ after', d.Rewords e' after') :
    ∀ e' ∈ rest, ∃ after', (e.apply d).Rewords e' after' := by
  intro e' he'
  obtain ⟨after', hword'⟩ := hwords e' (List.mem_cons_of_mem e he')
  exact ⟨after', hword'.apply hword (hne e' he')⟩

variable (hdistinct : edits.Pairwise fun e e' => e.line ≠ e'.line)
  (hwords : ∀ e ∈ edits, ∃ after, d.Rewords e after)

include hdistinct hwords

theorem length_lines_applyEdits : (d.applyEdits edits).lines.length = d.lines.length := by
  induction edits generalizing d with
  | nil => rfl
  | cons e rest ih =>
      obtain ⟨hne, hrest⟩ := List.pairwise_cons.mp hdistinct
      obtain ⟨after, hword⟩ := hwords e List.mem_cons_self
      rw [applyEdits_cons, ih hrest (hword.apply_rest hne hwords), lines_apply hword,
        List.length_set]

theorem lines_applyEdits_of_ne {i : Nat} (hi : ∀ e ∈ edits, e.line ≠ i) :
    (d.applyEdits edits).lines[i]? = d.lines[i]? := by
  induction edits generalizing d with
  | nil => rfl
  | cons e rest ih =>
      obtain ⟨hne, hrest⟩ := List.pairwise_cons.mp hdistinct
      obtain ⟨after, hword⟩ := hwords e List.mem_cons_self
      have hstep := ih hrest (hword.apply_rest hne hwords)
        fun e' he' => hi e' (List.mem_cons_of_mem e he')
      rw [applyEdits_cons, hstep, lines_apply_of_ne hword (hi e List.mem_cons_self)]

/-- Edits on lines of their own do what each of them does alone, in whatever order they are made. -/
theorem lines_applyEdits_of_mem (he : e ∈ edits) (hword : d.Rewords e after) :
    (d.applyEdits edits).lines[e.line]? = some after := by
  induction edits generalizing d with
  | nil => cases he
  | cons e₁ rest ih =>
      obtain ⟨hne, hrest⟩ := List.pairwise_cons.mp hdistinct
      obtain ⟨after₁, hword₁⟩ := hwords e₁ List.mem_cons_self
      have hwordsRest := hword₁.apply_rest hne hwords
      rw [applyEdits_cons]
      rcases List.mem_cons.mp he with heq | hmem
      · have hkept := lines_applyEdits_of_ne hrest hwordsRest (i := e.line) fun e' he' => by
          rw [heq]
          exact (hne e' he').symm
        have hlt : e.line < d.lines.length := by
          obtain ⟨line, _, _, _, hline, _⟩ := hword
          exact (List.getElem?_eq_some_iff.mp hline).1
        rw [← heq, lines_apply hword, List.getElem?_set_self hlt] at hkept
        rw [heq] at hkept ⊢
        exact hkept
      · exact ih hrest hwordsRest hmem (hword.apply hword₁ (hne e hmem))

end Document

end Waymark
