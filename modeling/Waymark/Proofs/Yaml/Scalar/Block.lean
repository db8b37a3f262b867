import Waymark.Proofs.Yaml.Char
import Waymark.Yaml.Scalar.Write

/-!
# Reading literal blocks back

A literal block keeps its lines, so what is to be shown is that its end and its indentation are read as they
were meant: the header names the chomping that keeps the breaks at the end, and an indentation where the
first line does not show it.
-/

namespace Waymark.Yaml.Block

open Scalar

variable {c : Char} {cs text more : List Char} {p : Pending} {chomping : Chomping} {margin : Nat}

/-! ## Breaks at the end of a text -/

/-- Only the last two characters matter, so what is in front of a word does not, and a bar may stand for the
word. -/
theorem chompingOf_append_cons (hc : isBreak c = false) (before cs : List Char) :
    chompingOf (before ++ c :: cs) = chompingOf ('|' :: cs) := by
  have hbar : isBreak '|' = false := rfl
  rw [chompingOf, chompingOf, List.reverse_append, List.reverse_cons, List.reverse_cons]
  rcases cs.reverse with _ | ⟨d, _ | ⟨e, es⟩⟩
  · cases hbefore : before.reverse <;> simp [hc, hbar]
  · simp [hc, hbar]
  · simp

/-- All breaks are kept where there are several. -/
theorem chompingOf_append_breaks (before : List Char) (h : ∀ c ∈ cs, isBreak c = true)
    (hlength : 2 ≤ cs.length) : chompingOf (before ++ cs) = .keep := by
  have hreverse : ∀ c ∈ cs.reverse, isBreak c = true := fun c hc => h c (List.mem_reverse.mp hc)
  rw [← List.length_reverse] at hlength
  rw [chompingOf, List.reverse_append]
  generalize cs.reverse = last at hreverse hlength ⊢
  rcases last with _ | ⟨c, _ | ⟨d, ds⟩⟩
  · simp at hlength
  · simp at hlength
  · simp [hreverse c (by simp), hreverse d (by simp)]

theorem chompingOf_eq_strip_iff :
    chompingOf text = .strip ↔ text.getLast?.any isBreak = false := by
  rw [chompingOf, ← List.head?_reverse]
  rcases text.reverse with _ | ⟨c, _ | ⟨d, ds⟩⟩
  · simp
  · cases hc : isBreak c <;> simp [hc]
  · cases hc : isBreak c <;> cases hd : isBreak d <;> simp [hc, hd]

namespace Pending

/-- The breaks that were read last, all of them. -/
def breaks (p : Pending) : List Char :=
  p.first.toList ++ p.more

/-- A text that ends as what was read does. A break is the first one only behind a word. -/
def behind (p : Pending) : List Char :=
  (if p.first.isSome then ['|'] else []) ++ p.breaks

/-- Breaks at the end are kept under the chomping of a text that ends like this. -/
theorem chomp_chompingOf_behind (hp : ∀ c ∈ p.breaks, isBreak c = true) :
    p.chomp (chompingOf p.behind) = p.breaks := by
  obtain ⟨first, more, afterBlank⟩ := p
  cases first with
  | none =>
      rcases more with _ | ⟨b, _ | ⟨b', more⟩⟩
      · rfl
      · have hb : isBreak b = true := hp b (by simp [breaks])
        simp [behind, breaks, chompingOf, hb, chomp]
      · have hkeep : chompingOf ([] ++ b :: b' :: more) = .keep :=
          chompingOf_append_breaks [] (by simpa [breaks] using hp) (by simp)
        rw [List.nil_append] at hkeep
        simp [behind, breaks, hkeep, chomp]
  | some b =>
      rcases more with _ | ⟨b', more⟩
      · have hb : isBreak b = true := hp b (by simp [breaks])
        have hbar : isBreak '|' = false := rfl
        simp [behind, breaks, chompingOf, hb, hbar, chomp]
      · have hkeep : chompingOf (['|'] ++ b :: b' :: more) = .keep :=
          chompingOf_append_breaks ['|'] (by simpa [breaks] using hp) (by simp)
        rw [List.singleton_append] at hkeep
        simp [behind, breaks, hkeep, chomp]

end Pending

/-! ## Lines -/

theorem getLast?_lines (margin : Nat) (broken : Bool) (text : List Char) :
    (lines margin broken text).getLast? = text.getLast? := by
  induction text generalizing broken with
  | nil => rfl
  | cons c cs ih =>
      have htail : ∀ broken, (c :: lines margin broken cs).getLast? = (c :: cs).getLast? := by
        intro broken
        rw [List.getLast?_cons, List.getLast?_cons, ih]
      rw [lines]
      split_ifs
      · exact htail true
      · rw [List.getLast?_append_of_ne_nil _ (List.cons_ne_nil _ _), htail false]
      · exact htail false


/-- What follows a block: nothing, or a line that is not indented. -/
theorem readLines?_end (h : more = [] ∨ atGap more = false) (hmargin : 0 < margin) :
    readLines? false chomping margin (.margin 0) p more = some (p.chomp chomping, more) := by
  cases more with
  | nil => rw [readLines?]
  | cons c cs =>
      have hgap : (isBlank c || isBreak c) = false := h.resolve_left nofun
      obtain ⟨hblank, hbreak⟩ := Bool.or_eq_false_iff.mp hgap
      obtain ⟨hspace, htab⟩ := isBlank_eq_false_iff.mp hblank
      simp [readLines?, hspace, htab, hbreak, Nat.ne_of_lt hmargin]

theorem readLines?_break (hbreak : isBreak c) :
    readLines? false chomping margin (.margin 0) p (c :: cs) =
      readLines? false chomping margin (.margin 0) { p with more := p.more ++ [c] } cs := by
  have hblank := isBlank_eq_false_iff.mp (isBlank_of_isBreak hbreak)
  simp [readLines?, hblank, hbreak]

/-- The indentation of a line. -/
theorem readLines?_margin {column : Nat} (h : column ≤ margin) :
    readLines? false chomping margin (.margin column) p
        (List.replicate (margin - column) ' ' ++ cs) =
      readLines? false chomping margin (.margin margin) p cs := by
  induction hleft : margin - column generalizing column with
  | zero =>
      obtain rfl : column = margin := by omega
      rfl
  | succ left ih =>
      rw [List.replicate_succ, List.cons_append, readLines?, if_pos (by simp; omega)]
      exact ih (by omega : column + 1 ≤ margin) (by omega)

/-- A line begins with a character that is no break. -/
theorem readLines?_first (hbreak : isBreak c = false) :
    readLines? false chomping margin (.margin margin) p (c :: cs) =
      (readLines? false chomping margin .line { afterBlank := isBlank c } cs).map
        fun (text, rest) => (p.breaks ++ c :: text, rest) := by
  simp [readLines?, hbreak, Pending.join, Pending.breaks]

/-- A break within a line ends it. -/
theorem readLines?_line_break (hbreak : isBreak c) :
    readLines? false chomping margin .line p (c :: cs) =
      readLines? false chomping margin (.margin 0) { p with first := some c } cs := by
  rw [readLines?, if_pos hbreak]

theorem readLines?_line_cons (hbreak : isBreak c = false) :
    readLines? false chomping margin .line p (c :: cs) =
      (readLines? false chomping margin .line p cs).map fun (text, rest) => (c :: text, rest) := by
  rw [readLines?, hbreak, if_neg Bool.false_ne_true]

/-- The break that ends the last line if the text has none there. -/
def lastBreak (chomping : Chomping) : List Char :=
  if chomping = .strip then ['\n'] else []

/-- The end of a text whose last line is not empty. -/
theorem readLines?_line_end (hmore : more = [] ∨ atGap more = false) (hmargin : 0 < margin) :
    readLines? false .strip margin .line p ('\n' :: more) = some ([], more) := by
  rw [readLines?_line_break rfl, readLines?_end hmore hmargin]
  rfl

/-- The end of a text that ends with breaks. -/
theorem readLines?_margin_end (hp : ∀ c ∈ p.breaks, isBreak c = true)
    (hmore : more = [] ∨ atGap more = false) (hmargin : 0 < margin) :
    readLines? false (chompingOf p.behind) margin (.margin 0) p (lastBreak (chompingOf p.behind) ++ more) =
      some (p.breaks, more) := by
  have hchomp := Pending.chomp_chompingOf_behind hp
  unfold lastBreak
  split_ifs with hstrip
  · rw [hstrip] at hchomp ⊢
    rw [List.singleton_append, readLines?_break rfl, readLines?_end hmore hmargin, ← hchomp]
    rfl
  · rw [List.nil_append, readLines?_end hmore hmargin, hchomp]

/-- The lines of a text are read back, whether reading is at the head of a line or within one. In both
cases the chomping is that of a text that ends as what was read and what is still to come. -/
theorem readLines?_lines (hmargin : 0 < margin) (hmore : more = [] ∨ atGap more = false)
    (text : List Char) :
    (∀ p : Pending, (∀ c ∈ p.breaks, isBreak c = true) → chomping = chompingOf (p.behind ++ text) →
      readLines? false chomping margin (.margin 0) p
          (lines margin true text ++ (lastBreak chomping ++ more)) = some (p.breaks ++ text, more)) ∧
    (∀ p : Pending, p.breaks = [] → chomping = chompingOf ('|' :: text) →
      readLines? false chomping margin .line p
          (lines margin false text ++ (lastBreak chomping ++ more)) = some (text, more)) := by
  induction text with
  | nil =>
      constructor
      · rintro p hp rfl
        rw [List.append_nil, List.append_nil]
        exact readLines?_margin_end hp hmore hmargin
      · rintro p - rfl
        exact readLines?_line_end hmore hmargin
  | cons c cs ih =>
      cases hbreak : isBreak c with
      | true =>
          constructor
          · intro p hp hchomping
            have hread := ih.1 { p with more := p.more ++ [c] }
              (by simpa [Pending.breaks, or_imp, forall_and, hbreak] using hp)
              (by simpa [Pending.behind, Pending.breaks] using hchomping)
            rw [lines, if_pos hbreak, List.cons_append, readLines?_break hbreak, hread]
            simp [Pending.breaks]
          · intro p hp hchomping
            have hmore' : p.more = [] := (List.append_eq_nil_iff.mp hp).2
            have hread := ih.1 { p with first := some c }
              (by simp [Pending.breaks, hmore', hbreak])
              (by simpa [Pending.behind, Pending.breaks, hmore'] using hchomping)
            rw [lines, if_pos hbreak, List.cons_append, readLines?_line_break hbreak, hread]
            simp [Pending.breaks, hmore']
      | false =>
          constructor
          · intro p hp hchomping
            rw [chompingOf_append_cons hbreak] at hchomping
            have hread := ih.2 { afterBlank := isBlank c } rfl hchomping
            rw [lines, hbreak, if_neg Bool.false_ne_true, if_pos rfl, List.append_assoc,
              List.cons_append]
            have hindent : readLines? false chomping margin (.margin 0) p (List.replicate margin ' ' ++
                c :: (lines margin false cs ++ (lastBreak chomping ++ more))) = _ :=
              readLines?_margin (Nat.zero_le margin)
            rw [hindent, readLines?_first hbreak, hread]
            rfl
          · intro p hp hchomping
            rw [← List.singleton_append, chompingOf_append_cons hbreak] at hchomping
            rw [lines, hbreak, if_neg Bool.false_ne_true, if_neg Bool.false_ne_true, List.nil_append,
              List.cons_append, readLines?_line_cons hbreak, ih.2 p hp hchomping]
            rfl

theorem write_append (margin : Nat) (text rest : List Char) :
    write margin text ++ rest = '|' :: (header margin text ++ '\n' :: (lines margin true text ++ rest)) := by
  simp [write]

theorem getLast?_write (margin : Nat) (h : text ≠ []) : (write margin text).getLast? = text.getLast? := by
  have hlines : lines margin true text ≠ [] := by
    intro hnil
    have hlast := getLast?_lines margin true text
    rw [hnil, List.getLast?_nil, eq_comm, List.getLast?_eq_none_iff] at hlast
    exact h hlast
  have hwrite : write margin text = ('|' :: header margin text ++ ['\n']) ++ lines margin true text := by
    simp [write]
  rw [hwrite, List.getLast?_append_of_ne_nil _ hlines, getLast?_lines]

/-- A block ends with a break. -/
theorem exists_break_write (margin : Nat) (text : List Char) :
    ∃ before c, isBreak c = true ∧ write margin text ++ lastBreak (chompingOf text) = before ++ [c] := by
  unfold lastBreak
  split_ifs with hstrip
  · exact ⟨_, '\n', rfl, rfl⟩
  · rw [chompingOf_eq_strip_iff, Bool.not_eq_false, Option.any_eq_true] at hstrip
    obtain ⟨c, hlast, hc⟩ := hstrip
    rw [← getLast?_lines margin true, List.getLast?_eq_some_iff] at hlast
    obtain ⟨before, hlines⟩ := hlast
    refine ⟨'|' :: (header margin text ++ '\n' :: before), c, hc, ?_⟩
    rw [write, hlines]
    simp

/-! ## Headers -/

/-- Whether a text begins in a way that hides the indentation of its first line. -/
def hidesIndent (text : List Char) : Bool :=
  text.head?.any fun c => c = ' ' || isBreak c

theorem read_header (text cs : List Char) :
    Header.read (header Scalar.margin text ++ '\n' :: cs) =
      ({ chomping := chompingOf text, indent := if hidesIndent text then some Scalar.margin else none },
        '\n' :: cs) := by
  unfold header hidesIndent
  cases text.head?.any fun c => c = ' ' || isBreak c <;> cases chompingOf text <;> rfl

theorem endLine?_break (cs : List Char) : endLine? ('\n' :: cs) = some cs := by
  simp [endLine?, isBlank, isBreak]

/-- The first line shows its indentation if it begins with a word. -/
theorem widest?_lines (hne : text ≠ []) (hprint : ∀ c ∈ text, isPrintable c = true)
    (hshown : hidesIndent text = false) (rest : List Char) :
    widest? 0 0 (lines Scalar.margin true text ++ rest) = some Scalar.margin := by
  cases text with
  | nil => exact absurd rfl hne
  | cons c cs =>
      obtain ⟨hspace, hbreak⟩ : c ≠ ' ' ∧ isBreak c = false := by simpa [hidesIndent] using hshown
      have hblank : isBlank c = false := by
        rwa [← Bool.not_eq_true, isBlank_of_isPrintable (hprint c List.mem_cons_self)]
      simp [lines, hbreak, Scalar.margin, widest?, hspace, (isBlank_eq_false_iff.mp hblank).2]

/-- A text is read back from a literal block in a mapping at the head of its line. -/
theorem read?_write (h : allowsLiteral text) (hne : text ≠ []) (hmore : more = [] ∨ atGap more = false) :
    read? false (some 0) (header Scalar.margin text ++ '\n' ::
      (lines Scalar.margin true text ++ (lastBreak (chompingOf text) ++ more))) = some (text, more) := by
  have hprint : ∀ c ∈ text, isPrintable c = true := by
    simp only [allowsLiteral, Bool.and_eq_true, List.all_eq_true] at h
    exact h.1.1
  have hread := (readLines?_lines (by decide : 0 < Scalar.margin) hmore text).1 {}
    (by simp [Pending.breaks]) (rfl : chompingOf text = chompingOf text)
  rw [read?, read_header]
  simp only [endLine?_break, Option.bind_eq_bind, Option.bind_some]
  cases hhidden : hidesIndent text with
  | true => exact hread
  | false =>
      simp only [Bool.false_eq_true, if_false, widest?_lines hne hprint hhidden]
      exact hread

end Waymark.Yaml.Block
