import Waymark.Document
import Waymark.Proofs.Text.Line

/-!
# Replacing a word in a document

A word that is replaced by another changes its own line and no other, and leaves the number of lines as
it was.
-/

namespace Waymark

open Text

namespace Document

variable {d : Document} {i : Nat} {x w y : List Char}

theorem wellBroken_rawLines (d : Document) : WellBroken d.rawLines := wellBroken_breakLines d.chars

theorem flatten_rawLines (d : Document) : d.rawLines.flatten = d.chars := flatten_breakLines d.chars

/-- The text around a stretch of a line. -/
theorem chars_eq (hline : d.rawLines[i]? = some (x ++ (w ++ y))) :
    d.chars = ((d.rawLines.take i).flatten ++ x) ++
      (w ++ (y ++ (d.rawLines.drop (i + 1)).flatten)) := by
  obtain ⟨hlt, hget⟩ := List.getElem?_eq_some_iff.mp hline
  have hlines : d.rawLines = d.rawLines.take i ++ (x ++ (w ++ y)) :: d.rawLines.drop (i + 1) := by
    rw [← hget, ← List.drop_eq_getElem_cons hlt, List.take_append_drop]
  rw [← d.flatten_rawLines]
  conv =>
    lhs
    rw [hlines]
  simp

/-- An edit in front of the break of a line changes that line and no other. -/
theorem rawLines_splice {front removed back : List Char} {start stop : Nat} {text : String}
    (hline : d.rawLines[i]? = some (front ++ (removed ++ back)))
    (hstart : start = d.lineStart i + front.length) (hstop : stop = start + removed.length)
    (hplain : ∀ c ∈ front ++ removed, isLineBreak c = false)
    (hplain' : ∀ c ∈ front ++ text.toList, isLineBreak c = false)
    (hempty : front ++ text.toList = [] → front ++ removed = []) :
    (d.splice start stop text).rawLines = d.rawLines.set i (front ++ text.toList ++ back) := by
  obtain ⟨hlt, _⟩ := List.getElem?_eq_some_iff.mp hline
  have hlength : start = ((d.rawLines.take i).flatten ++ front).length := by
    rw [hstart, List.length_append]
    rfl
  have htake : d.chars.take start = (d.rawLines.take i).flatten ++ front := by
    rw [hlength, chars_eq hline, List.take_left]
  have hdrop : d.chars.drop stop = back ++ (d.rawLines.drop (i + 1)).flatten := by
    rw [hstop, hlength, chars_eq hline, ← List.drop_drop, List.drop_left, List.drop_left]
  have hchars : (d.splice start stop text).chars =
      (d.rawLines.set i (front ++ text.toList ++ back)).flatten := by
    rw [splice, chars, String.toList_ofList, htake, hdrop, List.set_eq_take_append_cons_drop,
      if_pos hlt]
    simp
  rw [← List.append_assoc] at hline
  rw [rawLines, hchars]
  exact breakLines_flatten
    (wellBroken_set_plain d.wellBroken_rawLines hline hplain hplain' hempty)

theorem offset_word (hw : IsRun w) (hline : d.rawLines[i]? = some (x ++ (w ++ y))) {column : Nat}
    (hcolumn : column ≤ x.length + w.length) :
    d.offset ⟨i, column⟩ = (d.rawLines.take i).flatten.length + column := by
  obtain ⟨hlt, hget⟩ := List.getElem?_eq_some_iff.mp hline
  have hlength : d.lineLength i = x.length + (w.length + (trimLine y).length) := by
    rw [lineLength, List.getD_eq_getElem?_getD, hline, Option.getD_some, trimLine_append hw,
      List.length_append, List.length_append]
  have hmin : Nat.min column (d.lineLength i) = column := by
    rw [hlength]
    exact Nat.min_eq_left (by omega)
  have hin : i < d.lineCount := hlt
  rw [offset, if_pos hin, hmin]
  rfl

theorem rawLines_replace (hw : IsRun w) {name : String} (hname : IsRun name.toList)
    (hline : d.rawLines[i]? = some (x ++ (w ++ y))) :
    (d.replace ⟨i, x.length⟩ ⟨i, x.length + w.length⟩ name).rawLines =
      d.rawLines.set i (x ++ (name.toList ++ y)) := by
  have hstart : d.offset ⟨i, x.length⟩ = d.lineStart i + x.length :=
    offset_word hw hline (by omega)
  have hstop : d.offset ⟨i, x.length + w.length⟩ = d.lineStart i + (x.length + w.length) :=
    offset_word hw hline (Nat.le_refl _)
  have hmax : Nat.max (d.offset ⟨i, x.length⟩) (d.offset ⟨i, x.length + w.length⟩) =
      d.offset ⟨i, x.length⟩ + w.length := by
    rw [hstart, hstop, ← Nat.add_assoc]
    exact Nat.max_eq_right (by omega)
  have hplain := d.wellBroken_rawLines.plain_word hw hline
  have hplain' : ∀ c ∈ x ++ name.toList, isLineBreak c = false := by
    intro c hc
    rcases List.mem_append.mp hc with hc | hc
    · exact hplain c (List.mem_append_left w hc)
    · exact hname.plain c hc
  have hempty : x ++ name.toList = [] → x ++ w = [] := fun hnil =>
    absurd (List.append_eq_nil_iff.mp hnil).2 hname.ne_nil
  rw [replace, rawLines_splice hline hstart hmax hplain hplain' hempty, List.append_assoc]

/-- A line whose word is replaced. The other lines are as they were. -/
theorem lines_replace (hw : IsRun w) {name : String} (hname : IsRun name.toList) {line : String}
    (hline : d.lines[i]? = some line) (hsplit : line.toList = x ++ (w ++ y)) :
    (d.replace ⟨i, x.length⟩ ⟨i, x.length + w.length⟩ name).lines =
      d.lines.set i (String.ofList (x ++ (name.toList ++ y))) := by
  rw [lines, List.getElem?_map, Option.map_eq_some_iff] at hline
  obtain ⟨raw, hraw, rfl⟩ := hline
  rw [String.toList_ofList] at hsplit
  obtain ⟨ending, hending⟩ := exists_trimmed raw
  rw [hsplit] at hending
  have hshape : raw = x ++ (w ++ (y ++ ending)) := by
    rw [hending]
    simp
  have htrim : trimLine (y ++ ending) = y := by
    rw [hshape, trimLine_append hw] at hsplit
    exact List.append_cancel_left (List.append_cancel_left hsplit)
  rw [hshape] at hraw
  rw [lines, rawLines_replace hw hname hraw, List.map_set, trimLine_append hname, htrim]
  rfl

end Document

end Waymark
