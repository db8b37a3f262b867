import Waymark.Proofs.Yaml.Char
import Waymark.Yaml.Scalar.Write

/-!
# Reading plain scalars back

A text that may be plain is read to its last character, whatever follows: within it there is no colon
before a gap and no number sign behind one. What is read is the text as it is, since its gaps are blanks
within one line.
-/

namespace Waymark.Yaml

variable {c : Char} {cs text stop more : List Char} {gap : Gap} {margin column : Nat}

namespace Plain

open Scalar

/-- Read a character of a plain scalar. -/
theorem read?_cons (hblank : isBlank c = false) (hbreak : isBreak c = false)
    (hgap : gap.isOpen → margin ≤ column ∧ 0 < column ∧ c ≠ '#') (hcolon : c = ':' → atGap cs = false) :
    read? false margin column gap (c :: cs) =
      (read? false margin (column + 1) .empty cs).map
        fun r => { r with text := gap.fold ++ c :: r.text } := by
  have hopen : (gap.isOpen && (!false && column < margin ||
      column = 0 && atDocumentMark (c :: cs) || c = '#')) = false := by
    cases hisOpen : gap.isOpen with
    | false => rfl
    | true =>
        obtain ⟨hmargin, hcolumn, hsign⟩ := hgap hisOpen
        simp [hsign, Nat.not_lt.mpr hmargin, Nat.ne_of_gt hcolumn]
  have hends : endsBefore false (c :: cs) = false := by
    simpa [endsBefore] using hcolon
  have hstray : isStrayColon false (c :: cs) = false := by
    unfold isStrayColon
    split <;> rfl
  rw [read?]
  simp only [hblank, hbreak, hopen, hends, hstray, Bool.false_eq_true, if_false]

/-- The part of a plain scalar behind its first character is read to its last one. -/
theorem read?_append {prev : Char} (hline : ∀ c ∈ text, isPrintable c = true ∧ isBreak c = false)
    (hinner : hasInnerIndicator (prev :: text) = false) (hlast : text.getLast? ≠ some ' ')
    (hmargin : margin ≤ 1) (hbroken : gap.isBroken = false)
    (hopen : gap.isOpen → 0 < column ∧ prev = ' ' ∧ text ≠ []) :
    read? false margin column gap (text ++ stop) =
      (read? false margin (column + text.length) .empty stop).map
        fun r => { r with text := gap.fold ++ text ++ r.text } := by
  induction text generalizing prev column gap with
  | nil =>
      cases gap with
      | empty => simp
      | blanks text => exact absurd rfl (hopen rfl).2.2
      | breaks first more => cases hbroken
  | cons c cs ih =>
      obtain ⟨⟨hprintable, hbreak⟩, hrest⟩ := List.forall_mem_cons.mp hline
      rw [hasInnerIndicator, Bool.or_eq_false_iff, Bool.or_eq_false_iff] at hinner
      obtain ⟨⟨hcolon, hsign⟩, hinner⟩ := hinner
      have hlength : column + (c :: cs).length = column + 1 + cs.length := by
        rw [List.length_cons]
        omega
      rw [hlength, List.cons_append]
      by_cases hblank : isBlank c = true
      · obtain rfl := (isBlank_of_isPrintable hprintable).mp hblank
        have hstep : read? false margin column gap (' ' :: (cs ++ stop)) =
            read? false margin (column + 1) (gap.addBlank ' ') (cs ++ stop) := by
          rw [read?]
          rfl
        have hne : cs ≠ [] := by
          rintro rfl
          exact hlast rfl
        rw [hstep, ih hrest hinner (getLast?_ne_of_cons hlast) (by rwa [Gap.isBroken_addBlank])
          fun _ => ⟨by omega, rfl, hne⟩]
        simp [Gap.fold_addBlank hbroken]
      · rw [Bool.not_eq_true] at hblank
        rw [read?_cons hblank hbreak ?_ ?_, ih hrest hinner (getLast?_ne_of_cons hlast) rfl (by simp)]
        · simp [Function.comp_def]
        · intro hisOpen
          obtain ⟨hcolumn, hprev, -⟩ := hopen hisOpen
          refine ⟨by omega, hcolumn, ?_⟩
          rintro rfl
          rw [hprev] at hsign
          cases hsign
        · rintro rfl
          have hgap : atGap cs = false := by simpa using hcolon
          rw [atGap_append (ne_nil_of_atGap hgap), hgap]

/-- What is known of a text that may be plain and begins with `c`. -/
structure IsPlain (c : Char) (cs : List Char) : Prop where
  line : ∀ d ∈ c :: cs, isPrintable d = true ∧ isBreak d = false
  blank : isBlank c = false
  last : cs.getLast? ≠ some ' '
  inner : hasInnerIndicator (c :: cs) = false
  /-- Of the signs that begin a plain scalar, none does before a gap. -/
  sign : c = '-' ∨ c = '?' ∨ c = ':' → atGap cs = false
  /-- No other sign begins a plain scalar. -/
  indicator : ¬(c = '-' ∨ c = '?' ∨ c = ':') → isIndicator c = false

theorem isPlain_of_allowsPlain (h : allowsPlain (c :: cs)) : IsPlain c cs := by
  simp only [allowsPlain, Bool.and_eq_true, List.all_eq_true, Bool.not_eq_eq_eq_not, Bool.not_true,
    bne_iff_ne] at h
  obtain ⟨⟨⟨⟨⟨hline, hfirst⟩, hlast⟩, -⟩, hstart⟩, hinner⟩ := h
  rw [startsWithIndicator] at hstart
  refine ⟨hline, ?_, getLast?_ne_of_cons hlast, hinner, fun hsign => ?_, fun hsign => ?_⟩
  · rw [← Bool.not_eq_true, isBlank_of_isPrintable (hline c List.mem_cons_self).1]
    rintro rfl
    exact hfirst rfl
  · rwa [if_pos (by simpa [or_assoc] using hsign)] at hstart
  · rwa [if_neg (by simpa [or_assoc] using hsign)] at hstart

namespace IsPlain

theorem ne_nil (h : IsPlain c cs) (hc : c = '-' ∨ c = '?' ∨ c = ':') : cs ≠ [] :=
  ne_nil_of_atGap (h.sign hc)

/-- No gap follows such a sign, whatever the text is followed by. -/
theorem atGap_append (h : IsPlain c cs) (hc : c = '-' ∨ c = '?' ∨ c = ':') (stop : List Char) :
    atGap (cs ++ stop) = false := by
  rw [Yaml.atGap_append (h.ne_nil hc), h.sign hc]

end IsPlain

theorem canStart_of_isPlain (h : IsPlain c cs) (stop : List Char) :
    canStart false (c :: cs ++ stop) = true := by
  by_cases hsign : c = '-' ∨ c = '?' ∨ c = ':'
  · have hgap := h.atGap_append hsign stop
    have hnext : (cs ++ stop).head?.map isBlank ≠ some true := by
      cases hrest : cs ++ stop with
      | nil => exact nofun
      | cons d ds =>
          rw [hrest] at hgap
          simpa using (Bool.or_eq_false_iff.mp hgap).1
    rcases hsign with rfl | rfl | rfl <;> simp_all [canStart]
  · simp [canStart, h.blank, (h.line c List.mem_cons_self).2, h.indicator hsign]

/-- A text that may be plain is read to its end. -/
theorem read?_of_allowsPlain (h : allowsPlain (c :: cs)) (hmargin : margin ≤ 1) (column : Nat)
    (stop : List Char) :
    read? false margin column .empty (c :: cs ++ stop) =
      (read? false margin (column + (c :: cs).length) .empty stop).map
        fun r => { r with text := c :: cs ++ r.text } := by
  have hplain := isPlain_of_allowsPlain h
  obtain ⟨⟨-, hbreak⟩, hrest⟩ := List.forall_mem_cons.mp hplain.line
  rw [List.cons_append,
    read?_cons hplain.blank hbreak (by simp) fun hc => hplain.atGap_append (.inr (.inr hc)) stop,
    read?_append hrest hplain.inner hplain.last hmargin rfl (by simp)]
  simp [Function.comp_def, Nat.add_assoc, Nat.add_comm 1]

/-- A plain scalar ends at the colon behind a key. -/
theorem read?_colon (h : atGap more) :
    read? false margin column .empty (':' :: more) = some ⟨[], false, ':' :: more⟩ := by
  have hstray : isStrayColon false (':' :: more) = false := by
    unfold isStrayColon
    split <;> rfl
  simp [read?, isBlank, isBreak, Gap.isOpen, Gap.isBroken, hstray, endsBefore, h]

/-- A plain scalar ends with its line if the next one is not indented. -/
theorem read?_break (hmargin : 0 < margin) (h : more = [] ∨ atGap more = false) :
    read? false margin column .empty ('\n' :: more) = some ⟨[], true, more⟩ := by
  have hstep : read? false margin column .empty ('\n' :: more) =
      read? false margin 0 (.breaks (some '\n') []) more := by
    rw [read?]
    rfl
  rw [hstep]
  cases more with
  | nil => rfl
  | cons c cs =>
      have hgap : (isBlank c || isBreak c) = false := h.resolve_left nofun
      rw [Bool.or_eq_false_iff] at hgap
      simp [read?, hgap, Gap.isOpen, Gap.isBroken, hmargin]

end Plain

end Waymark.Yaml
