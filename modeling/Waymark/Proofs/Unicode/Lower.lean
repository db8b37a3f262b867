import Waymark.Unicode.Lower

/-!
# Texts in lower case

Lower case leaves a text as it is exactly if it leaves every character as it is. The form of a capital
sigma depends on its neighbours, but no form of it is the capital itself.
-/

namespace Waymark.Unicode

/-- The character is its own lower-case form wherever it stands. -/
def IsLowerForm (c : Char) : Prop :=
  c ≠ 'Σ' ∧ lowerChar c = [c]

theorem lowerAfter_eq_self_iff (before text : List Char) :
    lowerAfter before text = text ↔ ∀ c ∈ text, IsLowerForm c := by
  induction text generalizing before with
  | nil => simp [lowerAfter]
  | cons c text ih =>
      have htail := ih (c :: before)
      by_cases hsigma : c = 'Σ'
      · subst hsigma
        have hforms : ∀ sign : Bool, (if sign then 'ς' else 'σ') ≠ 'Σ' := by decide
        simp only [lowerAfter, if_true, List.cons_append, List.nil_append, List.cons.injEq]
        constructor
        · intro h
          exact absurd h.1 (hforms _)
        · intro h
          exact absurd rfl (h 'Σ' List.mem_cons_self).1
      · have hhead : IsLowerForm c ↔ lowerChar c = [c] := by simp [IsLowerForm, hsigma]
        rw [List.forall_mem_cons, ← htail, hhead, lowerAfter, if_neg hsigma]
        by_cases hdotted : c = 'İ'
        · subst hdotted
          simp [lowerChar]
        · simp [lowerChar, hdotted]

theorem lower_eq_self_iff (text : List Char) : lower text = text ↔ ∀ c ∈ text, IsLowerForm c :=
  lowerAfter_eq_self_iff [] text

end Waymark.Unicode
