import Waymark.Proofs.Document.Replace
import Waymark.Proofs.Text.Break

/-!
# Coordinates

The lines of a document divide its text. A position is taken to a place of the text, whatever its line
and its column, and a later position is not taken to an earlier place. An edit therefore cuts the text
only where there is something to cut.
-/

namespace Waymark

namespace Text

/-- A text with another one put in at an offset, unless that lies behind the text. -/
def insertAt? (text : List Char) (offset : Nat) (inserted : List Char) : Option (List Char) :=
  if offset ≤ text.length then some (text.take offset ++ inserted ++ text.drop offset) else none

/-- A text without what stands between two offsets, unless they are out of order or lie behind the
text. -/
def removeRange? (text : List Char) (start stop : Nat) : Option (List Char) :=
  if start ≤ stop ∧ stop ≤ text.length then some (text.take start ++ text.drop stop) else none

end Text

namespace Document

open Text

variable {d : Document} {i j : Nat}

/-! ## Lines -/

theorem length_lines (d : Document) : d.lines.length = d.lineCount := List.length_map _

theorem toList_line (d : Document) (i : Nat) :
    (d.line i).toList = trimLine (d.rawLines.getD i []) := by
  rw [line, lines, List.getD_eq_getElem?_getD, List.getElem?_map, List.getD_eq_getElem?_getD]
  cases d.rawLines[i]? with
  | none => rfl
  | some raw => exact String.toList_ofList

theorem lineLength_eq (d : Document) (i : Nat) : d.lineLength i = (d.line i).toList.length := by
  rw [toList_line]
  rfl

theorem getElem?_rawLines (hi : i < d.lineCount) :
    d.rawLines[i]? = some (d.rawLines.getD i []) := by
  rw [List.getD_eq_getElem?_getD, List.getElem?_eq_getElem hi, Option.getD_some]

theorem flatMap_rawLines (d : Document) :
    ((List.range d.lineCount).flatMap fun i => d.rawLines.getD i []) = d.chars := by
  have hlines : ((List.range d.lineCount).map fun i => d.rawLines.getD i []) = d.rawLines := by
    refine List.ext_getElem (by simp [lineCount]) fun i hi hlt => ?_
    simp [List.getD_eq_getElem?_getD, List.getElem?_eq_getElem hlt]
  rw [List.flatMap_def, hlines, flatten_rawLines]

/-- The lines of a document, each with what is trimmed from it, make up the text. -/
structure ReadsInLines (d : Document) : Prop where
  wellBroken : WellBroken d.rawLines
  flatten : d.rawLines.flatten = d.chars
  lineCount : d.lineCount = breakCount d.chars + 1
  trimmed : ∃ ending : Nat → List Char,
    (∀ i, i < d.lineCount → d.rawLines[i]? = some ((d.line i).toList ++ ending i) ∧
      IsTrimmed (d.line i).toList (ending i)) ∧
    d.chars = (List.range d.lineCount).flatMap fun i => (d.line i).toList ++ ending i
  outside : ∀ i, d.lineCount ≤ i → d.line i = ""
  lineLength : ∀ i, d.lineLength i = (d.line i).toList.length

theorem readsInLines (d : Document) : d.ReadsInLines where
  wellBroken := d.wellBroken_rawLines
  flatten := d.flatten_rawLines
  lineCount := length_breakLines d.chars
  trimmed := by
    have hsplit : ∀ i, d.rawLines.getD i [] =
        (d.line i).toList ++ lineEnd (d.rawLines.getD i []) := fun i => by
      rw [toList_line, trimLine_append_lineEnd]
    refine ⟨fun i => lineEnd (d.rawLines.getD i []), fun i hi => ⟨?_, ?_⟩, ?_⟩
    · rw [getElem?_rawLines hi, ← hsplit]
    · rw [toList_line]
      exact isTrimmed_lineEnd _
    · rw [← d.flatMap_rawLines]
      exact congrArg (List.flatMap · _) (funext hsplit)
  outside i hi := by
    have hnone : d.lines[i]? = none := List.getElem?_eq_none (by rwa [length_lines])
    rw [line, List.getD_eq_getElem?_getD, hnone]
    rfl
  lineLength := d.lineLength_eq

/-! ## Places -/

theorem lineStart_succ (hi : i < d.lineCount) :
    d.lineStart (i + 1) = d.lineStart i + (d.rawLines.getD i []).length := by
  rw [lineStart, List.take_add_one, getElem?_rawLines hi, Option.toList_some, List.flatten_append,
    List.length_append, List.flatten_singleton]
  rfl

theorem lineStart_lineCount (d : Document) : d.lineStart d.lineCount = d.chars.length := by
  rw [lineStart, lineCount, List.take_length, flatten_rawLines]

theorem lineStart_mono (h : i ≤ j) : d.lineStart i ≤ d.lineStart j := by
  have hprefix : d.rawLines.take i <+: d.rawLines.take j := List.take_prefix_take_left h
  obtain ⟨more, hmore⟩ := hprefix
  rw [lineStart, lineStart, ← hmore, List.flatten_append, List.length_append]
  exact Nat.le_add_right _ _

/-- What stands on a line stands in front of the next one. -/
theorem lineStart_add_lineLength_le (hi : i < d.lineCount) :
    d.lineStart i + d.lineLength i ≤ d.lineStart (i + 1) := by
  have hlength := congrArg List.length (trimLine_append_lineEnd (d.rawLines.getD i []))
  rw [List.length_append] at hlength
  rw [lineStart_succ hi, lineLength]
  omega

theorem offset_of_lt (hi : i < d.lineCount) (column : Nat) :
    d.offset ⟨i, column⟩ = d.lineStart i + min column (d.lineLength i) := if_pos hi

theorem offset_of_ge (hi : d.lineCount ≤ i) (column : Nat) :
    d.offset ⟨i, column⟩ = d.chars.length := if_neg (Nat.not_lt.mpr hi)

theorem lineStart_le_offset (hi : i < d.lineCount) (column : Nat) :
    d.lineStart i ≤ d.offset ⟨i, column⟩ := by
  rw [offset_of_lt hi]
  omega

theorem offset_le_lineStart_succ (hi : i < d.lineCount) (column : Nat) :
    d.offset ⟨i, column⟩ ≤ d.lineStart (i + 1) := by
  have hnext := lineStart_add_lineLength_le hi
  rw [offset_of_lt hi]
  omega

theorem offset_le (d : Document) (p : Position) : d.offset p ≤ d.chars.length := by
  by_cases hp : p.line < d.lineCount
  · calc d.offset p
      _ ≤ d.lineStart (p.line + 1) := offset_le_lineStart_succ hp p.column
      _ ≤ d.lineStart d.lineCount := lineStart_mono hp
      _ = d.chars.length := d.lineStart_lineCount
  · exact Nat.le_of_eq (offset_of_ge (Nat.not_lt.mp hp) p.column)

theorem offset_mono {p q : Position} (h : p ≤ q) : d.offset p ≤ d.offset q := by
  by_cases hq : q.line < d.lineCount
  · rcases h with hlt | ⟨heq, hcolumn⟩
    · calc d.offset p
        _ ≤ d.lineStart (p.line + 1) := offset_le_lineStart_succ (Nat.lt_trans hlt hq) p.column
        _ ≤ d.lineStart q.line := lineStart_mono hlt
        _ ≤ d.offset q := lineStart_le_offset hq q.column
    · have hp : d.offset p = d.offset ⟨q.line, p.column⟩ := by rw [← heq]
      rw [hp, offset_of_lt hq, show d.offset q = _ from offset_of_lt hq q.column]
      omega
  · rw [show d.offset q = _ from offset_of_ge (Nat.not_lt.mp hq) q.column]
    exact d.offset_le p

/-- Where the positions of a document are taken to. -/
structure PlacesPositions (d : Document) : Prop where
  inside : ∀ i column, i < d.lineCount → d.offset ⟨i, column⟩ =
    (d.rawLines.take i).flatten.length + min column (d.lineLength i)
  outside : ∀ i column, d.lineCount ≤ i → d.offset ⟨i, column⟩ = d.chars.length
  le_length : ∀ p, d.offset p ≤ d.chars.length
  mono : ∀ p q, p ≤ q → d.offset p ≤ d.offset q

theorem placesPositions (d : Document) : d.PlacesPositions where
  inside _ column hi := offset_of_lt hi column
  outside _ column hi := offset_of_ge hi column
  le_length := d.offset_le
  mono _ _ := offset_mono

/-! ## Edits -/

/-- Insert a text at a position, in a buffer that must have the place. -/
def insert? (d : Document) (p : Position) (text : String) : Option Document :=
  (insertAt? d.chars (d.offset p) text.toList).map fun chars =>
    { d with text := String.ofList chars, revision := d.revision + 1 }

/-- Replace what stands between two positions in a buffer that must have the places: first remove
it, then insert the text. -/
def replace? (d : Document) (start stop : Position) (text : String) : Option Document :=
  ((removeRange? d.chars (d.offset start) (Nat.max (d.offset stop) (d.offset start))).bind
    fun kept => insertAt? kept (d.offset start) text.toList).map fun chars =>
      { d with text := String.ofList chars, revision := d.revision + 1 }

theorem insert?_eq (d : Document) (p : Position) (text : String) :
    d.insert? p text = some (d.insert p text) := by
  rw [insert?, insertAt?, if_pos (d.offset_le p)]
  rfl

theorem insertAt?_removeRange? {text : List Char} {start stop : Nat} (hle : start ≤ stop)
    (hstop : stop ≤ text.length) (inserted : List Char) :
    ((removeRange? text start stop).bind fun kept => insertAt? kept start inserted) =
      some (text.take start ++ inserted ++ text.drop stop) := by
  have hlength : (text.take start).length = start := List.length_take_of_le (Nat.le_trans hle hstop)
  have hin : start ≤ (text.take start ++ text.drop stop).length := by
    rw [List.length_append, hlength]
    omega
  rw [removeRange?, if_pos ⟨hle, hstop⟩, Option.bind_some, insertAt?, if_pos hin,
    List.take_left' hlength, List.drop_left' hlength]

theorem replace?_eq (d : Document) (start stop : Position) (text : String) :
    d.replace? start stop text = some (d.replace start stop text) := by
  have hmax : Nat.max (d.offset stop) (d.offset start) =
      Nat.max (d.offset start) (d.offset stop) := Nat.max_comm _ _
  have hle : d.offset start ≤ Nat.max (d.offset start) (d.offset stop) := Nat.le_max_left _ _
  have hstop : Nat.max (d.offset start) (d.offset stop) ≤ d.chars.length :=
    Nat.max_le.mpr ⟨d.offset_le start, d.offset_le stop⟩
  rw [replace?, hmax, insertAt?_removeRange? hle hstop]
  rfl

/-- An edit that puts a text between two offsets and counts one revision more, from the largest one
to zero. -/
structure Splices (d after : Document) (start stop : Nat) (text : String) : Prop where
  chars : after.chars = d.chars.take start ++ text.toList ++ d.chars.drop stop
  revision : after.revision.toNat = (d.revision.toNat + 1) % UInt64.size
  id : after.id = d.id
  path : after.path = d.path

theorem splices_splice (d : Document) (start stop : Nat) (text : String) :
    d.Splices (d.splice start stop text) start stop text where
  chars := String.toList_ofList
  revision := UInt64.toNat_add d.revision 1
  id := rfl
  path := rfl

/-- Lines, places and edits of a document: the text is its lines with what is trimmed from them, each
position has a place in it, and an edit between any positions can be made. -/
theorem coordinates (d : Document) :
    d.ReadsInLines ∧ d.PlacesPositions ∧
      (∀ p text, ∃ after, d.insert? p text = some after ∧ d.insert p text = after ∧
        d.Splices after (d.offset p) (d.offset p) text) ∧
      ∀ p q text, ∃ after, d.replace? p q text = some after ∧ d.replace p q text = after ∧
        d.Splices after (d.offset p) (max (d.offset p) (d.offset q)) text :=
  ⟨d.readsInLines, d.placesPositions,
    fun p text => ⟨_, d.insert?_eq p text, rfl, d.splices_splice _ _ text⟩,
    fun p q text => ⟨_, d.replace?_eq p q text, rfl, d.splices_splice _ _ text⟩⟩

end Document

end Waymark
