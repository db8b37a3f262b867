import Waymark.Proofs.Text.Line

/-!
# Breaks

A break of a text is found without breaking the text into lines: it is a character that ends a line,
and of a carriage return and its line feed it is the line feed. A text has one line more than breaks.
-/

namespace Waymark.Text

/-- Whether a line ends behind character `i`. A carriage return does not end one if a line feed
follows it. -/
def isBreakAt (text : List Char) (i : Nat) : Bool :=
  text[i]?.any isLineBreak && !(text[i]? == some '\r' && text[i + 1]? == some '\n')

/-- Number of breaks in a text. -/
def breakCount (text : List Char) : Nat :=
  (List.range text.length).countP (isBreakAt text)

theorem breakCount_cons (c : Char) (text : List Char) :
    breakCount (c :: text) = breakCount text + if isBreakAt (c :: text) 0 then 1 else 0 := by
  have hsucc : isBreakAt (c :: text) ∘ Nat.succ = isBreakAt text := by
    funext i
    simp [isBreakAt]
  rw [breakCount, List.length_cons, List.range_succ_eq_map, List.countP_cons, List.countP_map,
    hsucc]
  rfl

/-- There is one line more than there are breaks. -/
theorem length_breakLines (text : List Char) :
    (breakLines text).length = breakCount text + 1 := by
  fun_induction breakLines text with
  | case1 => rfl
  | case2 rest ih =>
      have hreturn : isBreakAt ('\r' :: '\n' :: rest) 0 = false := by simp [isBreakAt]
      have hfeed : isBreakAt ('\n' :: rest) 0 = true := by simp [isBreakAt, isLineBreak]
      rw [breakCount_cons, breakCount_cons, hreturn, hfeed, List.length_cons, ih]
      rfl
  | case3 c rest hguard hbreak ih =>
      have hat : isBreakAt (c :: rest) 0 = true := by
        cases rest with
        | nil => simp [isBreakAt, hbreak]
        | cons d rest =>
            have hpair : c ≠ '\r' ∨ d ≠ '\n' := by
              by_cases hc : c = '\r'
              · exact .inr fun hd => hguard rest hc (by rw [hd])
              · exact .inl hc
            simpa [isBreakAt, hbreak] using hpair
      rw [breakCount_cons, hat, List.length_cons, ih]
      rfl
  | case4 c rest hguard hplain hnone ih => exact absurd hnone (breakLines_ne_nil rest)
  | case5 c rest hguard hplain line more hlines ih =>
      have hat : isBreakAt (c :: rest) 0 = false := by simp [isBreakAt, hplain]
      rw [hlines] at ih
      rw [breakCount_cons, hat, List.length_cons, ← List.length_cons, ih]
      rfl

end Waymark.Text
