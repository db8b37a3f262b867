import Mathlib.Data.Nat.Basic
import Mathlib.Order.Basic
import Waymark.Text.Column

/-!
# Columns of byte offsets

The column of a byte offset is the number of characters that begin before the offset. Where a character
begins it is that character's column, inside a character it is one more, and from the end of the text on it
is the number of all characters. So the characters between the columns of two boundaries are the ones that
the bytes between the boundaries say.
-/

namespace Waymark.Text

variable {text : List Char} {a b column offset : Nat}

/-! ## Bytes -/

theorem byteLength_eq_size (text : List Char) : byteLength text = text.utf8Encode.size := by
  induction text with
  | nil => rfl
  | cons c rest ih =>
      rw [byteLength_cons, ih, List.utf8Encode_cons, ByteArray.size_append, List.utf8Encode_singleton,
        List.size_toByteArray, String.length_utf8EncodeChar]

theorem byteLength_toList (text : String) : byteLength text.toList = text.utf8ByteSize := by
  rw [byteLength_eq_size, String.utf8Encode_toList, String.size_toByteArray]

theorem byteLength_eq_zero_iff : byteLength text = 0 ↔ text = [] := by
  cases text with
  | nil => simp
  | cons c rest =>
      have hpos := c.utf8Size_pos
      rw [byteLength_cons]
      simp only [List.cons_ne_nil, iff_false]
      omega

theorem byteLength_replicate (n : Nat) (c : Char) :
    byteLength (List.replicate n c) = n * c.utf8Size := by
  induction n with
  | zero => simp
  | succ n ih => rw [List.replicate_succ, byteLength_cons, ih, Nat.succ_mul, Nat.add_comm]

/-! ## Offsets of columns -/

theorem byteOfColumn_length (text : List Char) : byteOfColumn text text.length = byteLength text := by
  rw [byteOfColumn, List.take_length]

theorem byteOfColumn_append (before behind : List Char) :
    byteOfColumn (before ++ behind) before.length = byteLength before := by
  rw [byteOfColumn, List.take_left]

theorem take_append_between (text : List Char) (h : a ≤ b) :
    text.take a ++ (text.take b).drop a = text.take b := by
  have hsplit := List.take_append_drop a (text.take b)
  rwa [List.take_take, Nat.min_eq_left h] at hsplit

theorem byteOfColumn_lt (hab : a < b) (hb : b ≤ text.length) :
    byteOfColumn text a < byteOfColumn text b := by
  have hbetween : (text.take b).drop a ≠ [] := by
    intro hnil
    have hlength := congrArg List.length hnil
    rw [List.length_drop, List.length_take_of_le hb, List.length_nil] at hlength
    omega
  have hpos : byteLength ((text.take b).drop a) ≠ 0 := mt byteLength_eq_zero_iff.mp hbetween
  rw [byteOfColumn, byteOfColumn, ← take_append_between text (Nat.le_of_lt hab), byteLength_append]
  omega

theorem byteOfColumn_lt_iff (ha : a ≤ text.length) (hb : b ≤ text.length) :
    byteOfColumn text a < byteOfColumn text b ↔ a < b := by
  constructor
  · intro h
    by_contra hle
    rcases Nat.eq_or_lt_of_le (Nat.not_lt.mp hle) with rfl | hlt
    · exact Nat.lt_irrefl _ h
    · exact Nat.lt_asymm h (byteOfColumn_lt hlt ha)
  · exact fun h => byteOfColumn_lt h hb

theorem byteOfColumn_le_iff (ha : a ≤ text.length) (hb : b ≤ text.length) :
    byteOfColumn text a ≤ byteOfColumn text b ↔ a ≤ b := by
  rw [← Nat.not_lt, ← Nat.not_lt, byteOfColumn_lt_iff hb ha]

/-- The boundaries of characters are the offsets of columns. -/
theorem isValid_iff_exists_column {text : String} {p : String.Pos.Raw} :
    p.IsValid text ↔ ∃ column ≤ text.toList.length, p.byteIdx = byteOfColumn text.toList column := by
  constructor
  · intro h
    obtain ⟨before, behind, rfl, rfl⟩ := String.Pos.Raw.isValid_iff_exists_append.mp h
    refine ⟨before.toList.length, by simp, ?_⟩
    rw [String.toList_append, byteOfColumn_append, byteLength_toList, String.byteIdx_rawEndPos]
  · rintro ⟨column, _, hp⟩
    refine String.Pos.Raw.isValid_iff_exists_take_toList.mpr ⟨column, ?_⟩
    rw [hp, byteOfColumn, ← byteLength_toList, String.toList_ofList]

/-- The characters between two columns are those of the bytes between the offsets. -/
theorem utf8Encode_between (text : List Char) (h : a ≤ b) :
    ((text.take b).drop a).utf8Encode =
      text.utf8Encode.extract (byteOfColumn text a) (byteOfColumn text b) := by
  let front := (text.take a).utf8Encode
  let inside := ((text.take b).drop a).utf8Encode
  have htext : text.utf8Encode = front ++ (inside ++ (text.drop b).utf8Encode) := by
    rw [← List.utf8Encode_append, ← List.utf8Encode_append, ← List.append_assoc,
      take_append_between text h, List.take_append_drop]
  have hstart : byteOfColumn text a = front.size := byteLength_eq_size _
  have hstop : byteOfColumn text b = front.size + inside.size := by
    rw [byteOfColumn, ← take_append_between text h, byteLength_append, byteLength_eq_size,
      byteLength_eq_size]
  rw [htext, hstart, hstop, ← Nat.add_zero front.size, Nat.add_assoc, Nat.zero_add,
    ByteArray.extract_append_size_add, ByteArray.extract_append_eq_left rfl]

/-! ## Columns of offsets -/

/-- A character counts for the column of an offset if it begins before the offset. -/
theorem lt_columnOfByte_iff :
    column < columnOfByte text offset ↔ column < text.length ∧ byteOfColumn text column < offset := by
  induction text generalizing column offset with
  | nil => simp [columnOfByte]
  | cons c rest ih =>
      rw [columnOfByte]
      split
      case isTrue hzero => simp [hzero]
      case isFalse hpos =>
        cases column with
        | zero =>
            have hzero : byteOfColumn (c :: rest) 0 = 0 := rfl
            rw [hzero, List.length_cons]
            omega
        | succ column =>
            have hsucc : byteOfColumn (c :: rest) (column + 1) =
                c.utf8Size + byteOfColumn rest column := rfl
            have hrest := @ih column (offset - c.utf8Size)
            rw [hsucc, List.length_cons]
            omega

theorem columnOfByte_byteOfColumn (h : column ≤ text.length) :
    columnOfByte text (byteOfColumn text column) = column := by
  refine eq_of_forall_lt_iff fun i => ?_
  rw [lt_columnOfByte_iff]
  constructor
  · rintro ⟨hi, hlt⟩
    exact (byteOfColumn_lt_iff (Nat.le_of_lt hi) h).mp hlt
  · intro hi
    exact ⟨Nat.lt_of_lt_of_le hi h, byteOfColumn_lt hi h⟩

/-- Behind the beginning of a character and up to its end, that character is the last one to count. -/
theorem columnOfByte_of_inside (hcolumn : column < text.length)
    (hstart : byteOfColumn text column < offset) (hstop : offset ≤ byteOfColumn text (column + 1)) :
    columnOfByte text offset = column + 1 := by
  refine eq_of_forall_lt_iff fun i => ?_
  rw [lt_columnOfByte_iff]
  constructor
  · rintro ⟨hi, hlt⟩
    exact (byteOfColumn_lt_iff (Nat.le_of_lt hi) hcolumn).mp (Nat.lt_of_lt_of_le hlt hstop)
  · intro hi
    have hle : i ≤ column := Nat.le_of_lt_succ hi
    have hlength : i < text.length := Nat.lt_of_le_of_lt hle hcolumn
    exact ⟨hlength, Nat.lt_of_le_of_lt
      ((byteOfColumn_le_iff (Nat.le_of_lt hlength) (Nat.le_of_lt hcolumn)).mpr hle) hstart⟩

theorem columnOfByte_of_byteLength_le (h : byteLength text ≤ offset) :
    columnOfByte text offset = text.length := by
  refine eq_of_forall_lt_iff fun i => ?_
  rw [lt_columnOfByte_iff, and_iff_left_iff_imp]
  intro hi
  calc byteOfColumn text i
    _ < byteOfColumn text text.length := byteOfColumn_lt hi (Nat.le_refl _)
    _ = byteLength text := byteOfColumn_length text
    _ ≤ offset := h

theorem columnOfByte_mono (h : a ≤ b) : columnOfByte text a ≤ columnOfByte text b := by
  refine le_of_forall_lt fun i hi => ?_
  obtain ⟨hlength, hlt⟩ := lt_columnOfByte_iff.mp hi
  exact lt_columnOfByte_iff.mpr ⟨hlength, Nat.lt_of_lt_of_le hlt h⟩

theorem byteOfColumn_columnOfByte {text : String} (p : text.Pos) :
    byteOfColumn text.toList (columnOfByte text.toList p.offset.byteIdx) = p.offset.byteIdx := by
  obtain ⟨column, hcolumn, hp⟩ := isValid_iff_exists_column.mp p.isValid
  rw [hp, columnOfByte_byteOfColumn hcolumn]

/-! ## Texts -/

/-- The offsets of a text are taken to columns by counting characters. A boundary of characters comes
behind some number of them, and an offset in a character counts that one too. -/
structure CountsCharacters (text : String) : Prop where
  boundary : ∀ before behind : String, text = before ++ behind →
    columnOfByte text.toList before.utf8ByteSize = before.length
  inside : ∀ (before : String) (c : Char) (behind : String), text = before.push c ++ behind →
    ∀ offset, before.utf8ByteSize < offset → offset < before.utf8ByteSize + c.utf8Size →
      columnOfByte text.toList offset = columnOfByte text.toList before.utf8ByteSize + 1
  past : ∀ offset, text.utf8ByteSize ≤ offset → columnOfByte text.toList offset = text.length
  mono : ∀ i j, i ≤ j → columnOfByte text.toList i ≤ columnOfByte text.toList j
  between : ∀ a b : text.Pos, a ≤ b →
    ((text.toList.take (columnOfByte text.toList b.offset.byteIdx)).drop
        (columnOfByte text.toList a.offset.byteIdx)).utf8Encode =
      text.toByteArray.extract a.offset.byteIdx b.offset.byteIdx

theorem byteOfColumn_string (before behind : String) :
    byteOfColumn (before ++ behind).toList before.length = before.utf8ByteSize := by
  rw [String.toList_append, ← String.length_toList, byteOfColumn_append, byteLength_toList]

theorem columnOfByte_string (before behind : String) :
    columnOfByte (before ++ behind).toList before.utf8ByteSize = before.length := by
  have hle : before.length ≤ (before ++ behind).toList.length := by
    rw [String.length_toList, String.length_append]
    exact Nat.le_add_right _ _
  rw [← byteOfColumn_string before behind, columnOfByte_byteOfColumn hle]

/-- The column of a byte offset counts the characters before it, whatever the text and the offset. -/
theorem countsCharacters (text : String) : CountsCharacters text where
  boundary := by
    rintro before behind rfl
    exact columnOfByte_string before behind
  inside := by
    rintro before c behind rfl offset hstart hstop
    have hsplit : before.push c ++ behind = before ++ (String.singleton c ++ behind) := by
      rw [← String.append_singleton, String.append_assoc]
    have hbegin := byteOfColumn_string before (String.singleton c ++ behind)
    have hend := byteOfColumn_string (before.push c) behind
    have hcolumn := columnOfByte_string before (String.singleton c ++ behind)
    rw [← hsplit] at hbegin hcolumn
    rw [String.length_push, String.utf8ByteSize_push] at hend
    rw [hcolumn]
    refine columnOfByte_of_inside ?_ (hbegin ▸ hstart) (hend ▸ Nat.le_of_lt hstop)
    rw [String.length_toList, String.length_append, String.length_push]
    omega
  past offset h := by
    rw [columnOfByte_of_byteLength_le (by rwa [byteLength_toList]), String.length_toList]
  mono _ _ := columnOfByte_mono
  between a b h := by
    rw [utf8Encode_between _ (columnOfByte_mono h), byteOfColumn_columnOfByte,
      byteOfColumn_columnOfByte, String.utf8Encode_toList]

/-- Characters of two, three and four bytes. -/
example : (List.range 12).map (columnOfByte "é日𝄞x".toList) = [0, 1, 1, 2, 2, 2, 3, 3, 3, 3, 4, 4] := by
  decide

end Waymark.Text
