import Waymark.Proofs.Document.Coordinates

/-!
# Staying on a line

A position is taken to a place on its line, and what is inserted there changes no other line, if the
line ends with a line feed, with a carriage return and a line feed, or with the text. Any other break
is kept as a part of the line, so that the end of the line stands behind its own break, which is the
start of the next line.
-/

namespace Waymark

namespace Text

/-- What stands in a line in front of its break. -/
def lineText (line : List Char) : List Char := line.takeWhile fun c => !isLineBreak c

/-- The break of a line. -/
def lineBreak (line : List Char) : List Char := line.dropWhile fun c => !isLineBreak c

theorem lineText_append_lineBreak (line : List Char) : lineText line ++ lineBreak line = line :=
  List.takeWhile_append_dropWhile

theorem lineText_plain {line : List Char} : ∀ c ∈ lineText line, isLineBreak c = false := by
  intro c hc
  simpa using List.all_eq_true.mp List.all_takeWhile c hc

theorem lineBreak_plain {line : List Char} (h : ∀ c ∈ line, isLineBreak c = false) :
    lineBreak line = [] := by
  rw [lineBreak, ← List.append_nil line, List.dropWhile_append_of_pos fun c hc => by simp [h c hc],
    List.dropWhile_nil]

theorem lineBreak_append {body ending next : List Char}
    (hbody : ∀ c ∈ body, isLineBreak c = false) (hends : Ends ending next) :
    lineBreak (body ++ ending) = ending := by
  obtain ⟨hne, hall⟩ := isLineBreak_of_ends hends
  obtain ⟨c, rest, rfl⟩ := List.exists_cons_of_ne_nil hne
  have hc : isLineBreak c = true := hall c List.mem_cons_self
  rw [lineBreak, List.dropWhile_append_of_pos fun d hd => by simp [hbody d hd],
    List.dropWhile_cons_of_neg (by simp [hc])]

end Text

namespace Document

open Text

variable {d : Document} {i : Nat}

/-- What stands on a line in front of its break. -/
def lineText (d : Document) (i : Nat) : List Char := Text.lineText (d.rawLines.getD i [])

/-- The break of a line. -/
def lineBreak (d : Document) (i : Nat) : List Char := Text.lineBreak (d.rawLines.getD i [])

/-- A line ends with a line feed, with a carriage return and a line feed, or not at all. -/
def EndsPlainly (d : Document) (i : Nat) : Prop :=
  d.lineBreak i = [] ∨ d.lineBreak i = ['\n'] ∨ d.lineBreak i = ['\r', '\n']

instance (d : Document) (i : Nat) : Decidable (d.EndsPlainly i) :=
  inferInstanceAs (Decidable (_ ∨ _ ∨ _))

/-- A place in the text lies on a line, and so in front of the next one. -/
def OnLine (d : Document) (i offset : Nat) : Prop :=
  d.lineStart i ≤ offset ∧ offset ≤ d.chars.length ∧
    (i + 1 < d.lineCount → offset < d.lineStart (i + 1))

instance (d : Document) (i offset : Nat) : Decidable (d.OnLine i offset) :=
  inferInstanceAs (Decidable (_ ∧ _ ∧ _))

theorem rawLine_eq (d : Document) (i : Nat) :
    d.rawLines.getD i [] = d.lineText i ++ d.lineBreak i :=
  (lineText_append_lineBreak _).symm

theorem lineText_plain : ∀ c ∈ d.lineText i, isLineBreak c = false := Text.lineText_plain

theorem toList_line_eq (d : Document) (i : Nat) :
    (d.line i).toList = d.lineText i ++ trimLine (d.lineBreak i) := by
  rw [toList_line, rawLine_eq, trimLine_plain_append lineText_plain]

theorem lineStart_succ_eq (hi : i < d.lineCount) :
    d.lineStart (i + 1) = d.lineStart i + (d.lineText i).length + (d.lineBreak i).length := by
  rw [lineStart_succ hi, rawLine_eq, List.length_append, Nat.add_assoc]

/-- A line that is not the last one has a break. -/
theorem ends_lineBreak (hi : i + 1 < d.lineCount) : ∃ next, Ends (d.lineBreak i) next := by
  have hline : d.rawLines[i]? = some (d.rawLines.getD i []) :=
    getElem?_rawLines (Nat.lt_of_succ_lt hi)
  rcases d.wellBroken_rawLines.line_cases hline with
    ⟨hlast, _⟩ | ⟨body, ending, next, _, hsplit, hbody, hends⟩
  · exact absurd hlast (Nat.ne_of_lt hi)
  · refine ⟨next, ?_⟩
    rw [lineBreak, hsplit, lineBreak_append hbody hends]
    exact hends

/-- A break that is not trimmed is one character, and another line follows it. -/
theorem lineBreak_of_not_endsPlainly (hi : i < d.lineCount) (h : ¬d.EndsPlainly i) :
    i + 1 < d.lineCount ∧
      ∃ c, d.lineBreak i = [c] ∧ isLineBreak c = true ∧ trimLine [c] = [c] := by
  rw [EndsPlainly, not_or, not_or] at h
  obtain ⟨hnone, hfeed, hpair⟩ := h
  have hnext : i + 1 < d.lineCount := by
    rcases d.wellBroken_rawLines.line_cases (getElem?_rawLines hi) with
      ⟨_, hplain⟩ | ⟨_, _, next, hnext, _⟩
    · exact absurd (lineBreak_plain hplain) hnone
    · exact (List.getElem?_eq_some_iff.mp hnext).1
  refine ⟨hnext, ?_⟩
  obtain ⟨next, hpair' | ⟨c, hc, hbreak, _⟩⟩ := ends_lineBreak hnext
  · exact absurd hpair' hpair
  · refine ⟨c, hc, hbreak, ?_⟩
    have hne : c ≠ '\n' := fun heq => hfeed (by rw [hc, heq])
    simp [trimLine, hne]

theorem trimLine_lineBreak (h : d.EndsPlainly i) : trimLine (d.lineBreak i) = [] := by
  rcases h with hnone | hfeed | hpair
  · rw [hnone]
    rfl
  · rw [hfeed]
    rfl
  · rw [hpair]
    rfl

theorem toList_line_of_endsPlainly (h : d.EndsPlainly i) : (d.line i).toList = d.lineText i := by
  rw [toList_line_eq, trimLine_lineBreak h, List.append_nil]

/-- The text of a line is free of breaks just if the break behind it is trimmed. -/
theorem line_plain_iff (hi : i < d.lineCount) :
    (∀ c ∈ (d.line i).toList, isLineBreak c = false) ↔ d.EndsPlainly i := by
  constructor
  · intro hplain
    refine Decidable.byContradiction fun hends => ?_
    obtain ⟨_, c, hc, hbreak, htrim⟩ := lineBreak_of_not_endsPlainly hi hends
    have hmem : c ∈ (d.line i).toList := by
      rw [toList_line_eq, hc, htrim]
      exact List.mem_append_right _ List.mem_cons_self
    rw [hplain c hmem] at hbreak
    cases hbreak
  · intro hends
    rw [toList_line_of_endsPlainly hends]
    exact lineText_plain

/-! ## Places on a line -/

/-- A column of a line that stands in front of its break, or is taken there. -/
def KeepsColumn (d : Document) (i column : Nat) : Prop :=
  d.EndsPlainly i ∨ column ≤ (d.lineText i).length

instance (d : Document) (i column : Nat) : Decidable (d.KeepsColumn i column) :=
  inferInstanceAs (Decidable (_ ∨ _))

theorem lineLength_eq_add (d : Document) (i : Nat) :
    d.lineLength i = (d.lineText i).length + (trimLine (d.lineBreak i)).length := by
  rw [lineLength_eq, toList_line_eq, List.length_append]

theorem offset_of_keepsColumn (hi : i < d.lineCount) {column : Nat} (h : d.KeepsColumn i column) :
    d.offset ⟨i, column⟩ = d.lineStart i + min column (d.lineText i).length := by
  rw [offset_of_lt hi, lineLength_eq_add]
  rcases h with hends | hcolumn
  · rw [trimLine_lineBreak hends]
    rfl
  · omega

/-- Behind a break that is not trimmed, the next line starts. -/
theorem offset_of_not_keepsColumn (hi : i < d.lineCount) {column : Nat}
    (h : ¬d.KeepsColumn i column) :
    i + 1 < d.lineCount ∧ d.offset ⟨i, column⟩ = d.lineStart (i + 1) := by
  obtain ⟨hends, hcolumn⟩ := not_or.mp h
  obtain ⟨hnext, c, hc, _, htrim⟩ := lineBreak_of_not_endsPlainly hi hends
  refine ⟨hnext, ?_⟩
  rw [offset_of_lt hi, lineLength_eq_add, lineStart_succ_eq hi, hc, htrim, List.length_singleton]
  omega

theorem onLine_offset_iff (hi : i < d.lineCount) (column : Nat) :
    d.OnLine i (d.offset ⟨i, column⟩) ↔ d.KeepsColumn i column := by
  constructor
  · intro honLine
    refine Decidable.byContradiction fun hkeeps => ?_
    obtain ⟨hnext, hoffset⟩ := offset_of_not_keepsColumn hi hkeeps
    have hlt := honLine.2.2 hnext
    omega
  · intro hkeeps
    refine ⟨lineStart_le_offset hi column, d.offset_le _, fun hnext => ?_⟩
    obtain ⟨next, hends⟩ := ends_lineBreak hnext
    have hpos : 0 < (d.lineBreak i).length :=
      List.length_pos_iff.mpr (isLineBreak_of_ends hends).1
    rw [offset_of_keepsColumn hi hkeeps, lineStart_succ_eq hi]
    omega

/-! ## Inserting on a line -/

/-- A line with a text put in at a column. -/
def lineWith (d : Document) (i column : Nat) (text : String) : String :=
  String.ofList ((d.line i).toList.take column ++ text.toList ++ (d.line i).toList.drop column)

/-- A column that is kept divides the line as it divides the text in front of the break. -/
theorem line_split {column : Nat} (h : d.KeepsColumn i column) :
    (d.line i).toList.take column = (d.lineText i).take column ∧
      (d.line i).toList.drop column = trimLine ((d.lineText i).drop column ++ d.lineBreak i) := by
  have htrim : trimLine ((d.lineText i).drop column ++ d.lineBreak i) =
      (d.lineText i).drop column ++ trimLine (d.lineBreak i) :=
    trimLine_plain_append (fun c hc => lineText_plain c (List.mem_of_mem_drop hc)) _
  rw [htrim, toList_line_eq]
  rcases h with hends | hcolumn
  · rw [trimLine_lineBreak hends, List.append_nil, List.append_nil]
    exact ⟨rfl, rfl⟩
  · exact ⟨List.take_append_of_le_length hcolumn, List.drop_append_of_le_length hcolumn⟩

/-- A text without breaks that is inserted in front of the break of a line changes that line. -/
theorem lines_insert (hi : i < d.lineCount) {column : Nat} (h : d.KeepsColumn i column)
    {text : String} (htext : ∀ c ∈ text.toList, isLineBreak c = false) :
    (d.insert ⟨i, column⟩ text).lines = d.lines.set i (d.lineWith i column text) := by
  have hfront : ∀ c ∈ (d.lineText i).take column, isLineBreak c = false :=
    fun c hc => lineText_plain c (List.mem_of_mem_take hc)
  have hplain : ∀ c ∈ (d.lineText i).take column ++ text.toList, isLineBreak c = false := by
    intro c hc
    exact (List.mem_append.mp hc).elim (hfront c) (htext c)
  -- nothing is removed between the two halves of the line
  have hraw : d.rawLines[i]? =
      some ((d.lineText i).take column ++ ([] ++ ((d.lineText i).drop column ++ d.lineBreak i))) := by
    rw [getElem?_rawLines hi, rawLine_eq, List.nil_append, ← List.append_assoc,
      List.take_append_drop]
  have hoffset : d.offset ⟨i, column⟩ = d.lineStart i + ((d.lineText i).take column).length := by
    rw [offset_of_keepsColumn hi h, List.length_take]
  have hrawLines : (d.insert ⟨i, column⟩ text).rawLines = d.rawLines.set i
      ((d.lineText i).take column ++ text.toList ++
        ((d.lineText i).drop column ++ d.lineBreak i)) := by
    refine rawLines_splice hraw hoffset rfl ?_ hplain ?_
    · rwa [List.append_nil]
    · intro hnil
      rw [(List.append_eq_nil_iff.mp hnil).1, List.append_nil]
  obtain ⟨htake, hdrop⟩ := line_split h
  rw [lines, hrawLines, List.map_set, trimLine_plain_append hplain, lineWith, htake, hdrop]
  rfl

/-- A text without breaks that is inserted behind the break of a line stands on the next one. -/
theorem lines_insert_behind (hi : i < d.lineCount) {column : Nat} (h : ¬d.KeepsColumn i column)
    {text : String} (htext : ∀ c ∈ text.toList, isLineBreak c = false) :
    (d.insert ⟨i, column⟩ text).lines = d.lines.set (i + 1) (text ++ d.line (i + 1)) := by
  obtain ⟨hnext, hoffset⟩ := offset_of_not_keepsColumn hi h
  have hstart : d.offset ⟨i + 1, 0⟩ = d.lineStart (i + 1) := by
    rw [offset_of_lt hnext, Nat.zero_min, Nat.add_zero]
  have hinsert : d.insert ⟨i, column⟩ text = d.insert ⟨i + 1, 0⟩ text := by
    rw [insert, insert, hoffset, hstart]
  have hwith : d.lineWith (i + 1) 0 text = text ++ d.line (i + 1) := by
    simp [lineWith, String.ofList_append]
  rw [hinsert, lines_insert hnext (.inr (Nat.zero_le _)) htext, hwith]

/-- What a line reads, where its columns are taken to and what is inserted there, each with the lines
and the columns of which it holds. -/
theorem stays_on_line {i : Nat} (hi : i < d.lineCount) :
    ((∀ c ∈ (d.line i).toList, isLineBreak c = false) ↔ d.EndsPlainly i) ∧
    (d.EndsPlainly i → (d.line i).toList = d.lineText i) ∧
    (∀ column, d.OnLine i (d.offset ⟨i, column⟩) ↔ d.KeepsColumn i column) ∧
    ∀ column (text : String), (∀ c ∈ text.toList, isLineBreak c = false) →
      (d.insert ⟨i, column⟩ text).lines =
        if d.KeepsColumn i column then d.lines.set i (d.lineWith i column text)
        else d.lines.set (i + 1) (text ++ d.line (i + 1)) := by
  refine ⟨line_plain_iff hi, toList_line_of_endsPlainly, onLine_offset_iff hi, ?_⟩
  intro column text htext
  split
  case isTrue hkeeps => exact lines_insert hi hkeeps htext
  case isFalse hkeeps => exact lines_insert_behind hi hkeeps htext

/-- Two lines, of which the first one ends with a vertical tab. -/
def verticalTab : Document := { id := 1, text := "a\x0Bb" }

theorem not_stays_on_line_vertical_tab :
    0 < verticalTab.lineCount ∧
      ¬(∀ c ∈ (verticalTab.line 0).toList, isLineBreak c = false) ∧
      ¬verticalTab.OnLine 0 (verticalTab.offset ⟨0, 2⟩) ∧
      (verticalTab.insert ⟨0, 2⟩ "x").line 1 ≠ verticalTab.line 1 := by
  have hmem : '\x0B' ∈ (verticalTab.line 0).toList := by decide
  have hbreak : isLineBreak '\x0B' = true := by decide
  refine ⟨by decide, fun hplain => ?_, by decide, by decide⟩
  rw [hplain _ hmem] at hbreak
  cases hbreak

/-- Lines that end with a carriage return and a line feed, with a form feed, and with the text. -/
def mixedBreaks : Document := { id := 1, text := "ab\r\nc\x0Cd" }

theorem stays_on_line_mixed_breaks :
    (mixedBreaks.EndsPlainly 0 ∧ (mixedBreaks.insert ⟨0, 9⟩ "x").lines = ["abx", "c\x0C", "d"]) ∧
      ¬mixedBreaks.EndsPlainly 1 ∧ mixedBreaks.OnLine 1 (mixedBreaks.offset ⟨1, 1⟩) ∧
      (mixedBreaks.insert ⟨1, 1⟩ "x").lines = ["ab", "cx\x0C", "d"] ∧
      (mixedBreaks.insert ⟨1, 2⟩ "x").lines = ["ab", "c\x0C", "xd"] := by
  obtain ⟨_, _, _, hfirst⟩ := stays_on_line (d := mixedBreaks) (i := 0) (by decide)
  obtain ⟨_, _, honLine, hsecond⟩ := stays_on_line (d := mixedBreaks) (i := 1) (by decide)
  have hplain : ∀ c ∈ "x".toList, isLineBreak c = false := by
    have hall : ("x".toList.all fun c => !isLineBreak c) = true := by decide
    simpa using hall
  refine ⟨⟨by decide, ?_⟩, by decide, (honLine 1).mpr (by decide), ?_, ?_⟩
  · rw [hfirst 9 "x" hplain]
    decide
  · rw [hsecond 1 "x" hplain]
    decide
  · rw [hsecond 2 "x" hplain]
    decide

end Document

end Waymark
