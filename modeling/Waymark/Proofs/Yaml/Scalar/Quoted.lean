import Mathlib.Tactic.Ring
import Waymark.Proofs.Yaml.Char
import Waymark.Yaml.Scalar.Write

/-!
# Reading quoted scalars back

In single quotation marks only separators are breaks, and they are kept: they have no space on either side,
and the spaces that indent the next line are none of the text. In double quotation marks every break is
escaped, and an escape is read as the character that it was made of.
-/

namespace Waymark.Yaml

variable {c : Char} {cs text rest : List Char} {gap : Gap} {column : Nat}

namespace SingleQuoted

open Scalar

theorem read?_close (h : rest.head? ≠ some '\'') :
    read? column gap ('\'' :: rest) = some (gap.fold, rest) := by
  cases rest with
  | nil => rfl
  | cons c cs =>
      rw [read?]
      intro _ heq
      rw [(List.cons.inj heq).1] at h
      exact h rfl

theorem read?_quotes (column : Nat) (gap : Gap) (cs : List Char) :
    read? column gap ('\'' :: '\'' :: cs) =
      (read? (column + 2) .empty cs).map fun (text, rest) => (gap.fold ++ '\'' :: text, rest) := by
  rw [read?]

/-- What is read where no quotation mark is. -/
theorem read?_cons (hquote : c ≠ '\'') : read? column gap (c :: cs) =
    if isBlank c then read? (column + 1) (gap.addBlank c) cs
    else if isBreak c then read? 0 (gap.addBreak c) cs
    else if gap.isOpen && column = 0 && atDocumentMark (c :: cs) then none
    else (read? (column + 1) .empty cs).map fun (text, rest) => (gap.fold ++ c :: text, rest) := by
  rw [read?]
  · exact fun _ h => absurd h hquote
  · exact hquote

theorem read?_blank (h : isBlank c) :
    read? column gap (c :: cs) = read? (column + 1) (gap.addBlank c) cs := by
  have hquote : c ≠ '\'' := by
    rintro rfl
    cases h
  rw [read?_cons hquote, if_pos h]

theorem read?_break (h : isBreak c) : read? column gap (c :: cs) = read? 0 (gap.addBreak c) cs := by
  have hquote : c ≠ '\'' := by
    rintro rfl
    cases h
  rw [read?_cons hquote, isBlank_of_isBreak h, if_neg Bool.false_ne_true, if_pos h]

theorem read?_char (hquote : c ≠ '\'') (hblank : isBlank c = false) (hbreak : isBreak c = false)
    (hcolumn : 0 < column) : read? column gap (c :: cs) =
      (read? (column + 1) .empty cs).map fun (text, rest) => (gap.fold ++ c :: text, rest) := by
  rw [read?_cons hquote, hblank, hbreak]
  simp [Nat.ne_of_gt hcolumn]

/-- The spaces that indent a line after a break change nothing. -/
theorem read?_margin (hbroken : gap.isBroken) (margin : Nat) :
    read? column gap (List.replicate margin ' ' ++ cs) = read? (column + margin) gap cs := by
  induction margin generalizing column with
  | zero => rfl
  | succ margin ih =>
      rw [List.replicate_succ, List.cons_append, read?_blank rfl, Gap.addBlank_of_isBroken hbroken, ih]
      congr 1
      omega

/-- Where reading is behind a character of the text: what lies there is a break if and only if the character
is one, and then a separator first, and blanks only if it is a space. -/
structure Behind (prev : Char) (column : Nat) (gap : Gap) : Prop where
  kept : gap.IsKept
  broken : gap.isBroken = isBreak prev
  blank : gap.isOpen → gap.isBroken = false → prev = ' '
  column_pos : gap.isBroken = false → 0 < column

namespace Behind

variable {prev : Char}

theorem of_word (hbreak : isBreak c = false) (hcolumn : 0 < column) : Behind c column .empty :=
  ⟨trivial, hbreak.symm, fun hopen => absurd hopen Bool.false_ne_true, fun _ => hcolumn⟩

theorem of_space (hline : gap.isBroken = false) (hcolumn : 0 < column) :
    Behind ' ' column (gap.addBlank ' ') := by
  have hline' : (gap.addBlank ' ').isBroken = false := by rwa [Gap.isBroken_addBlank]
  exact ⟨Gap.isKept_of_not_isBroken hline', hline', fun _ _ => rfl, fun _ => hcolumn⟩

/-- A break comes behind another one or behind a word: a space would not be shown there. -/
theorem isBroken_of_isOpen (h : Behind prev column gap) (hprev : prev ≠ ' ') (hopen : gap.isOpen) :
    gap.isBroken := by
  by_contra hnot
  exact hprev (h.blank hopen (Bool.eq_false_iff.mpr hnot))

theorem of_break (h : Behind prev column gap) (hprev : prev ≠ ' ') (hbreak : isBreak c) (hfeed : c ≠ '\n') :
    Behind c 0 (gap.addBreak c) := by
  have hbroken := gap.isBroken_addBreak c
  refine ⟨(Gap.fold_addBreak h.kept (h.isBroken_of_isOpen hprev) hfeed).2, hbroken.trans hbreak.symm, ?_, ?_⟩
  · intro _ hline
    rw [hbroken] at hline
    cases hline
  · intro hline
    rw [hbroken] at hline
    cases hline

/-- A character is behind the head of its line, for it is indented after a break. -/
theorem read?_indent (h : Behind prev column gap) {margin : Nat} (hmargin : 0 < margin) :
    ∃ here, 0 < here ∧ ∀ cs,
      read? column gap ((if gap.isBroken then List.replicate margin ' ' else []) ++ cs) =
        read? here gap cs := by
  cases hbroken : gap.isBroken with
  | false => exact ⟨column, h.column_pos hbroken, fun _ => rfl⟩
  | true => exact ⟨column + margin, by omega, fun _ => read?_margin hbroken margin⟩

end Behind

/-- A text within its quotation marks is read to the closing one, from behind any character that may come
before it. -/
theorem read?_body {margin : Nat} {prev : Char} (hmargin : 0 < margin)
    (hprint : ∀ c ∈ text, isPrintable c = true ∧ c ≠ '\n')
    (hbefore : hasSpaceBeforeBreak (prev :: text) = false)
    (hafter : hasSpaceAfterBreak (prev :: text) = false) (hrest : rest.head? ≠ some '\'')
    (hbehind : Behind prev column gap) :
    read? column gap (body margin gap.isBroken text ++ '\'' :: rest) = some (gap.fold ++ text, rest) := by
  induction text generalizing prev column gap with
  | nil =>
      obtain ⟨here, -, hindent⟩ := hbehind.read?_indent hmargin
      rw [body, hindent, read?_close hrest, List.append_nil]
  | cons c cs ih =>
      obtain ⟨⟨hprintable, hfeed⟩, hcs⟩ := List.forall_mem_cons.mp hprint
      rw [hasSpaceBeforeBreak, Bool.or_eq_false_iff] at hbefore
      rw [hasSpaceAfterBreak, Bool.or_eq_false_iff] at hafter
      cases hbreak : isBreak c with
      | true =>
          have hprev : prev ≠ ' ' := by
            rintro rfl
            simp [hbreak] at hbefore
          have hread := ih hcs hbefore.2 hafter.2 (hbehind.of_break hprev hbreak hfeed)
          have hfold := (Gap.fold_addBreak hbehind.kept (hbehind.isBroken_of_isOpen hprev) hfeed).1
          rw [Gap.isBroken_addBreak] at hread
          rw [body, if_pos hbreak, List.cons_append, read?_break hbreak, hread, hfold]
          simp
      | false =>
          obtain ⟨here, hhere, hindent⟩ := hbehind.read?_indent hmargin
          have hword : ∀ here' > 0, read? here' .empty (body margin false cs ++ '\'' :: rest) =
              some (cs, rest) := fun here' hhere' => ih hcs hbefore.2 hafter.2 (.of_word hbreak hhere')
          rw [body, if_neg (by simp [hbreak]), List.append_assoc, List.append_assoc, hindent]
          by_cases hquote : c = '\''
          · rw [if_pos hquote, List.cons_append, List.singleton_append, read?_quotes,
              hword _ (by omega), hquote]
            rfl
          rw [if_neg hquote, List.singleton_append]
          by_cases hspace : c = ' '
          · subst hspace
            have hline : gap.isBroken = false := by simpa [hbehind.broken] using hafter.1
            have hread := ih hcs hbefore.2 hafter.2 (.of_space hline (Nat.succ_pos here))
            rw [Gap.isBroken_addBlank, hline] at hread
            rw [read?_blank rfl, hread, Gap.fold_addBlank hline]
            simp
          · have hblank : isBlank c = false := by
              rwa [← Bool.not_eq_true, isBlank_of_isPrintable hprintable]
            rw [read?_char hquote hblank hbreak hhere, hword _ (by omega)]
            rfl

/-- A text in single quotation marks is read back. -/
theorem read?_write (h : allowsSingleQuoted text) (hfeed : text.contains '\n' = false)
    (hrest : rest.head? ≠ some '\'') :
    read? (column + 1) .empty (body margin false text ++ '\'' :: rest) = some (text, rest) := by
  simp only [allowsSingleQuoted, Bool.and_eq_true, List.all_eq_true, Bool.not_eq_eq_eq_not,
    Bool.not_true] at h
  obtain ⟨⟨hprint, hbefore⟩, hafter⟩ := h
  have hprint' : ∀ c ∈ text, isPrintable c = true ∧ c ≠ '\n' := by
    intro c hc
    refine ⟨hprint c hc, ?_⟩
    rintro rfl
    simp [hc] at hfeed
  -- The opening quotation mark is neither a space nor a break.
  have hbefore' : hasSpaceBeforeBreak ('\'' :: text) = false := by
    cases text with
    | nil => rfl
    | cons c cs =>
        rw [hasSpaceBeforeBreak, hbefore]
        rfl
  have hafter' : hasSpaceAfterBreak ('\'' :: text) = false := by
    cases text with
    | nil => rfl
    | cons c cs =>
        rw [hasSpaceAfterBreak, hafter]
        rfl
  exact read?_body (by decide) hprint' hbefore' hafter' hrest (.of_word rfl (Nat.succ_pos column))

end SingleQuoted

namespace DoubleQuoted

open Scalar

/-! ## Escapes -/

theorem hexValue?_upperHex : ∀ k < 16, hexValue? (upperHex k) = some k := by
  decide

theorem charOfCode?_toNat (c : Char) : charOfCode? c.toNat = some c := by
  rw [charOfCode?, Char.ofNat_toNat]
  exact if_pos c.valid

/-- A hexadecimal digit that is not the last one. -/
theorem read?_hexDigit {left value d : Nat} (hleft : 1 < left) (hd : d < 16) (tail : List Char) :
    read? column (.hex left value) (upperHex d :: tail) =
      read? (column + 1) (.hex (left - 1) (16 * value + d)) tail := by
  rw [read?, hexValue?_upperHex d hd]
  simp [Nat.not_le.mpr hleft]

/-- The digits of a number, less the last ones, are read into it. -/
theorem read?_hexText {left value : Nat} (hleft : 0 < left) (digits n : Nat) (tail : List Char) :
    read? column (.hex (digits + left) value) (hexText digits n ++ tail) =
      read? (column + digits) (.hex left (value * 16 ^ digits + n % 16 ^ digits)) tail := by
  induction digits generalizing n left tail with
  | zero => simp [hexText, Nat.mod_one]
  | succ digits ih =>
      have hvalue : 16 * (value * 16 ^ digits + n / 16 % 16 ^ digits) + n % 16 =
          value * 16 ^ (digits + 1) + n % 16 ^ (digits + 1) := by
        rw [Nat.pow_succ', Nat.mod_mul]
        ring
      have hleft' : digits + 1 + left = digits + (left + 1) := by omega
      rw [hexText, hleft', List.append_assoc, ih (Nat.succ_pos left), List.singleton_append,
        read?_hexDigit (by omega) (Nat.mod_lt n (by omega)), hvalue]
      rfl

/-- All digits of the code of a character are read as the character. -/
theorem read?_hexText_toNat {digits : Nat} (hdigits : 0 < digits) (hc : c.toNat < 16 ^ digits)
    (tail : List Char) :
    read? column (.hex digits 0) (hexText digits c.toNat ++ tail) =
      (read? (column + digits) (.gap .empty) tail).map fun (text, rest) => (c :: text, rest) := by
  obtain ⟨digits, rfl⟩ := Nat.exists_eq_succ_of_ne_zero (Nat.ne_of_gt hdigits)
  have hvalue : 16 * (c.toNat / 16 % 16 ^ digits) + c.toNat % 16 = c.toNat := by
    have hmod := Nat.mod_mul (x := c.toNat) (a := 16) (b := 16 ^ digits)
    rw [← Nat.pow_succ', Nat.mod_eq_of_lt hc] at hmod
    omega
  rw [hexText, List.append_assoc, List.singleton_append]
  have hfirst : read? column (.hex (digits + 1) 0)
        (hexText digits (c.toNat / 16) ++ upperHex (c.toNat % 16) :: tail) = _ :=
    read?_hexText Nat.one_pos digits (c.toNat / 16) (upperHex (c.toNat % 16) :: tail)
  rw [Nat.succ_eq_add_one, hfirst, read?, hexValue?_upperHex _ (Nat.mod_lt _ (by omega))]
  simp [hvalue, charOfCode?_toNat, Nat.add_assoc]

/-- An escape is read as the character that it was made of. -/
theorem read?_escape (c : Char) (column : Nat) : ∃ here, column ≤ here ∧ ∀ tail,
    read? column .escape (escape c ++ tail) =
      (read? here (.gap .empty) tail).map fun (text, rest) => (c :: text, rest) := by
  have hhex : ∀ (letter : Char) (digits : Nat), 0 < digits → c.toNat < 16 ^ digits →
      isBreak letter = false → hexDigits? letter = some digits →
      ∃ here, column ≤ here ∧ ∀ tail,
        read? column .escape ((letter :: hexText digits c.toNat) ++ tail) =
          (read? here (.gap .empty) tail).map fun (text, rest) => (c :: text, rest) := by
    intro letter digits hdigits hc hbreak hletter
    refine ⟨column + 1 + digits, by omega, fun tail => ?_⟩
    rw [← read?_hexText_toNat hdigits hc, List.cons_append, read?]
    simp [hbreak, hletter]
  unfold escape
  split
  case h_1 letter meant hfind =>
    -- No letter is a break or begins a code, and each is read as what it is written for.
    have hletters : letters.all (fun p => !isBreak p.1 && (hexDigits? p.1).isNone &&
        (letters ++ moreLetters).lookup p.1 = some p.2) := by decide
    have hread := List.all_eq_true.mp hletters _ (List.mem_of_find?_eq_some hfind)
    have hmeant := List.find?_some hfind
    simp only [Bool.and_eq_true, Bool.not_eq_eq_eq_not, Bool.not_true, Option.isNone_iff_eq_none,
      decide_eq_true_eq] at hread hmeant
    refine ⟨column + 1, by omega, fun tail => ?_⟩
    rw [List.singleton_append, read?, hread.1.1, hread.1.2, hread.2, hmeant]
    rfl
  case h_2 =>
    have hcode : c.toNat < 0x110000 := by
      rcases c.valid with h | ⟨-, h⟩
      · exact Nat.lt_trans h (by decide)
      · exact h
    split_ifs with hshort hlong
    · exact hhex 'x' 2 (by omega) (by omega) rfl rfl
    · exact hhex 'u' 4 (by omega) (by omega) rfl rfl
    · exact hhex 'U' 8 (by omega) (by omega) rfl rfl

/-! ## Texts -/

/-- What is read where nothing is folded. -/
theorem read?_cons (hbreak : isBreak c = false) (hcolumn : 0 < column) :
    read? column (.gap gap) (c :: cs) =
      if isBlank c then read? (column + 1) (.gap (gap.addBlank c)) cs
      else if c = '"' then some (gap.fold, cs)
      else if c = '\\' then
        (read? (column + 1) .escape cs).map fun (text, rest) => (gap.fold ++ text, rest)
      else
        (read? (column + 1) (.gap .empty) cs).map fun (text, rest) => (gap.fold ++ c :: text, rest) := by
  rw [read?]
  simp [hbreak, Nat.ne_of_gt hcolumn]

/-- A text within its quotation marks is read to the closing one. -/
theorem read?_body (gap : Gap) (hbroken : gap.isBroken = false) (hcolumn : 0 < column) :
    read? column (.gap gap) (body text ++ '"' :: rest) = some (gap.fold ++ text, rest) := by
  induction text generalizing column gap with
  | nil =>
      have hclose : read? column (.gap gap) ('"' :: rest) = some (gap.fold, rest) := by
        rw [read?_cons rfl hcolumn]
        rfl
      rw [List.append_nil]
      exact hclose
  | cons c cs ih =>
      have hword : ∀ here > 0, read? here (.gap .empty) (body cs ++ '"' :: rest) = some (cs, rest) :=
        fun here hhere => ih .empty rfl hhere
      have hbody : body (c :: cs) ++ '"' :: rest =
          (if isEscaped c then '\\' :: escape c else [c]) ++ (body cs ++ '"' :: rest) := by
        rw [body, List.flatMap_cons, List.append_assoc]
        rfl
      rw [hbody]
      cases hescaped : isEscaped c with
      | true =>
          obtain ⟨here, hhere, hread⟩ := read?_escape c (column + 1)
          rw [if_pos rfl, List.cons_append, read?_cons rfl hcolumn]
          simp [isBlank, hread, hword here (by omega)]
      | false =>
          simp only [isEscaped, Bool.or_eq_false_iff, Bool.not_eq_eq_eq_not, Bool.not_false,
            decide_eq_false_iff_not] at hescaped
          obtain ⟨⟨⟨hprintable, hbreak⟩, hquote⟩, hescape⟩ := hescaped
          rw [if_neg Bool.false_ne_true, List.singleton_append, read?_cons hbreak hcolumn]
          by_cases hblank : isBlank c
          · rw [if_pos hblank, ih _ (by rwa [Gap.isBroken_addBlank]) (by omega), Gap.fold_addBlank hbroken]
            simp
          · rw [if_neg hblank, if_neg hquote, if_neg hescape, hword _ (by omega)]
            rfl

end DoubleQuoted

end Waymark.Yaml
