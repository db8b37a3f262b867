import Mathlib.Data.List.Basic
import Waymark.Yaml.Char
import Waymark.Yaml.Scalar.Gap

/-!
# Characters of written texts

Among the characters that are written as they are, only the space parts words. Each of them may stand in a
text, and none is changed when the breaks of a text are made uniform.
-/

namespace Waymark.Yaml

variable {c : Char} {cs text : List Char} {gap : Gap}

/-! ## Blanks and breaks -/

theorem isBlank_eq_false_iff : isBlank c = false ↔ c ≠ ' ' ∧ c ≠ '\t' := by
  simp [isBlank]

/-- A character that is written as it is parts words only if it is a space. -/
theorem isBlank_of_isPrintable (h : isPrintable c) : isBlank c = true ↔ c = ' ' := by
  constructor
  · intro hblank
    rcases (by simpa [isBlank] using hblank : c = ' ' ∨ c = '\t') with hc | hc
    · exact hc
    · rw [hc] at h
      cases h
  · rintro rfl
    rfl

theorem atGap_append (h : cs ≠ []) (stop : List Char) : atGap (cs ++ stop) = atGap cs := by
  cases cs with
  | nil => exact absurd rfl h
  | cons c cs => rfl

theorem ne_nil_of_atGap (h : atGap cs = false) : cs ≠ [] := by
  rintro rfl
  cases h

theorem getLast?_ne_of_cons {d : Char} (h : (c :: cs).getLast? ≠ some d) : cs.getLast? ≠ some d := by
  cases cs with
  | nil => exact nofun
  | cons e es => exact h

theorem isBreak_iff : isBreak c = true ↔ c = '\n' ∨ c = '\u2028' ∨ c = '\u2029' := by
  simp [isBreak, or_assoc]

theorem isBlank_of_isBreak (h : isBreak c) : isBlank c = false := by
  rcases isBreak_iff.mp h with rfl | rfl | rfl <;> rfl

/-! ## Accepted characters -/

namespace Gap

@[simp] theorem isOpen_empty : Gap.empty.isOpen = false := rfl

@[simp] theorem isBroken_empty : Gap.empty.isBroken = false := rfl

@[simp] theorem fold_empty : Gap.empty.fold = [] := rfl

theorem fold_addBlank (h : gap.isBroken = false) (c : Char) :
    (gap.addBlank c).fold = gap.fold ++ [c] := by
  cases gap with
  | empty => rfl
  | blanks text => rfl
  | breaks first more => cases h

theorem isBroken_addBlank (c : Char) : (gap.addBlank c).isBroken = gap.isBroken := by
  cases gap <;> rfl

theorem isBroken_addBreak (c : Char) : (gap.addBreak c).isBroken = true := by
  cases gap <;> rfl

/-- The first break of the gap is a separator, which is not folded. -/
def IsKept : Gap → Prop
  | breaks first _ => ∃ c, first = some c ∧ c ≠ '\n'
  | _ => True

theorem fold_breaks (hc : c ≠ '\n') (more : List Char) : (breaks (some c) more).fold = c :: more := by
  unfold fold
  split
  case h_5 heq =>
    cases heq
    rfl
  all_goals simp_all

/-- A separator behind no blank is kept. -/
theorem fold_addBreak (h : gap.IsKept) (hblank : gap.isOpen → gap.isBroken) (hc : c ≠ '\n') :
    (gap.addBreak c).fold = gap.fold ++ [c] ∧ (gap.addBreak c).IsKept := by
  cases gap with
  | empty => exact ⟨fold_breaks hc [], c, rfl, hc⟩
  | blanks text => cases hblank rfl
  | breaks first more =>
      obtain ⟨b, rfl, hb⟩ := h
      refine ⟨?_, b, rfl, hb⟩
      rw [addBreak, fold_breaks hb, fold_breaks hb]
      rfl

theorem addBlank_of_isBroken (h : gap.isBroken) (c : Char) : gap.addBlank c = gap := by
  cases gap with
  | breaks first more => rfl
  | empty => cases h
  | blanks text => cases h

theorem isKept_of_not_isBroken (h : gap.isBroken = false) : gap.IsKept := by
  cases gap with
  | breaks first more => cases h
  | empty => trivial
  | blanks text => trivial

end Gap

end Waymark.Yaml
