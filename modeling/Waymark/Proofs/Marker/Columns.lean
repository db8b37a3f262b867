import Mathlib.Data.List.TakeWhile
import Waymark.Proofs.Marker.Declaration
import Waymark.Proofs.Text.Column

/-!
# The columns of a line with literal markers

What a line with literal markers declares, said by columns alone. A marker stands on some columns, and
from there on gap, name, gap and description take turns, each as long as it can be. Which marker counts
and where the tokens are follows from that; patterns do not come into it, except that a marker whose
pattern does not compile is passed over.
-/

namespace Waymark

open Pattern

/-! ## Stretches of a line -/

/-- The text on some columns of a line. -/
def textOn (chars : List Char) (start stop : Nat) : List Char := (chars.take stop).drop start

/-- On the columns from one to another stand characters of a class, and behind them none of it. -/
structure IsStretch (accept : Char → Bool) (chars : List Char) (start stop : Nat) : Prop where
  le : start ≤ stop
  le_length : stop ≤ chars.length
  inside : ∀ c ∈ textOn chars start stop, accept c = true
  boundary : ∀ c, chars[stop]? = some c → accept c = false

/-- Where the stretch of a class that begins at a column ends. -/
def stretchStop (accept : Char → Bool) (chars : List Char) (start : Nat) : Nat :=
  start + ((chars.drop start).takeWhile accept).length

theorem length_textOn {chars : List Char} {start stop : Nat} (h : stop ≤ chars.length) :
    (textOn chars start stop).length = stop - start := by
  rw [textOn, List.length_drop, List.length_take, Nat.min_eq_left h]

theorem textOn_append_drop (chars : List Char) {start stop : Nat} (h : start ≤ stop) :
    textOn chars start stop ++ chars.drop stop = chars.drop start := by
  have hdrop : (chars.drop start).drop (stop - start) = chars.drop stop := by
    rw [List.drop_drop, Nat.add_sub_cancel' h]
  rw [textOn, List.drop_take, ← hdrop, List.take_append_drop]

theorem textOn_stretchStop (accept : Char → Bool) (chars : List Char) (start : Nat) :
    textOn chars start (stretchStop accept chars start) = (chars.drop start).takeWhile accept := by
  rw [textOn, List.drop_take, stretchStop, Nat.add_sub_cancel_left]
  exact (List.prefix_iff_eq_take.mp (List.takeWhile_prefix accept)).symm

theorem drop_stretchStop (accept : Char → Bool) (chars : List Char) (start : Nat) :
    chars.drop (stretchStop accept chars start) = (chars.drop start).dropWhile accept :=
  LineMatcher.drop_skip (p := ⟨chars.drop start, start, []⟩) accept rfl

theorem getElem?_eq_head?_drop (chars : List Char) (i : Nat) : chars[i]? = (chars.drop i).head? := by
  rw [List.head?_drop]

theorem isStretch_iff {accept : Char → Bool} {chars : List Char} {start stop : Nat} :
    IsStretch accept chars start stop ↔
      start ≤ chars.length ∧ stop = stretchStop accept chars start := by
  constructor
  · intro h
    have hbehind : (chars.drop stop).takeWhile accept = [] := by
      cases hdrop : chars.drop stop with
      | nil => rfl
      | cons c rest =>
          have hc : chars[stop]? = some c := by rw [getElem?_eq_head?_drop, hdrop, List.head?_cons]
          simp [h.boundary c hc]
    have hrun : (chars.drop start).takeWhile accept = textOn chars start stop := by
      rw [← textOn_append_drop chars h.le, List.takeWhile_append_of_pos h.inside, hbehind,
        List.append_nil]
    refine ⟨Nat.le_trans h.le h.le_length, ?_⟩
    rw [stretchStop, hrun, length_textOn h.le_length, Nat.add_sub_cancel' h.le]
  · rintro ⟨hle, rfl⟩
    refine ⟨Nat.le_add_right _ _, ?_, ?_, ?_⟩
    · have hlength := (List.takeWhile_prefix (l := chars.drop start) accept).length_le
      rw [List.length_drop] at hlength
      rw [stretchStop]
      omega
    · intro c hc
      rw [textOn_stretchStop] at hc
      exact List.mem_takeWhile_imp hc
    · intro c hc
      rw [getElem?_eq_head?_drop, drop_stretchStop] at hc
      have hnot := List.head?_dropWhile_not accept (chars.drop start)
      rw [hc] at hnot
      simpa using hnot

instance (accept : Char → Bool) (chars : List Char) (start stop : Nat) :
    Decidable (IsStretch accept chars start stop) :=
  decidable_of_iff _ isStretch_iff.symm

/-- The token on some columns, if there are any. -/
def tokenOn? (kind : TokenKind) (chars : List Char) (lineNumber start stop : Nat) : Option Token :=
  if start < stop then
    some ⟨kind, String.ofList (textOn chars start stop), .onLine lineNumber start stop⟩
  else none

theorem stretch?_eq_tokenOn? {chars : List Char} {p : Spot} (hp : chars.drop p.column = p.rest)
    (kind : TokenKind) (lineNumber : Nat) (accept : Char → Bool) :
    stretch? kind lineNumber accept p =
      tokenOn? kind chars lineNumber p.column (stretchStop accept chars p.column) := by
  have htext := textOn_stretchStop accept chars p.column
  rw [hp] at htext
  have hstop : stretchStop accept chars p.column = p.column + (p.rest.takeWhile accept).length := by
    rw [stretchStop, hp]
  rw [stretch?, tokenOn?, htext, hstop]
  cases p.rest.takeWhile accept <;> simp

/-! ## Where markers stand -/

namespace Markers

/-- The marker of a kind stands on the columns from one on, with a tab or a space behind it unless it
is that of an end. -/
structure StandsAt (m : Markers) (kind : MatchKind) (chars : List Char) (i : Nat) : Prop where
  le : i + (m.textOf kind).toList.length ≤ chars.length
  text : textOn chars i (i + (m.textOf kind).toList.length) = (m.textOf kind).toList
  gap : kind ≠ .regionEnd →
    ∃ c, chars[i + (m.textOf kind).toList.length]? = some c ∧ isGap c = true

theorem StandsAt.iff_and {m : Markers} {kind : MatchKind} {chars : List Char} {i : Nat} :
    m.StandsAt kind chars i ↔
      i + (m.textOf kind).toList.length ≤ chars.length ∧
        textOn chars i (i + (m.textOf kind).toList.length) = (m.textOf kind).toList ∧
        (kind ≠ .regionEnd → (chars[i + (m.textOf kind).toList.length]?).any isGap = true) := by
  simp only [Option.any_eq_true]
  exact ⟨fun h => ⟨h.le, h.text, h.gap⟩, fun ⟨hle, htext, hgap⟩ => ⟨hle, htext, hgap⟩⟩

instance (m : Markers) (kind : MatchKind) (chars : List Char) (i : Nat) :
    Decidable (m.StandsAt kind chars i) :=
  decidable_of_iff _ StandsAt.iff_and.symm

/-- A marker with a pattern stands on some columns if it stands at the beginning of what is left of the
line there. -/
theorem standsAt_iff {m : Markers} {kind : MatchKind} {chars : List Char} {i : Nat}
    (hcompiles : ((LineMatcher.ofMarkers m).patternOf kind).pattern.isSome = true) :
    m.StandsAt kind chars i ↔ i ≤ chars.length ∧ m.Stands kind (chars.drop i) := by
  have hgap : ∀ behind, chars.drop (i + (m.textOf kind).toList.length) = behind →
      ((∃ c, chars[i + (m.textOf kind).toList.length]? = some c ∧ isGap c = true) ↔
        startsWithGap behind = true) := by
    rintro _ rfl
    rw [getElem?_eq_head?_drop, startsWithGap, Option.any_eq_true]
  constructor
  · intro h
    have htext := textOn_append_drop chars (Nat.le_add_right i (m.textOf kind).toList.length)
    rw [h.text] at htext
    exact ⟨Nat.le_trans (Nat.le_add_right _ _) h.le, hcompiles, _, htext.symm,
      fun hkind => (hgap _ rfl).mp (h.gap hkind)⟩
  · rintro ⟨hi, _, behind, htext, hbehind⟩
    have hdrop : chars.drop (i + (m.textOf kind).toList.length) = behind := by
      rw [← List.drop_drop, htext, List.drop_left]
    have hlength := congrArg List.length htext
    rw [List.length_drop, List.length_append] at hlength
    refine ⟨by omega, ?_, ?_⟩
    · rw [textOn, List.drop_take, htext, Nat.add_sub_cancel_left, List.take_left]
    · exact fun hkind => (hgap behind hdrop).mpr (hbehind hkind)

/-! ## Markers that are too large -/

theorem cost_catAll_literals (marker : List Char) (parts : List Expr) :
    (Expr.catAll (marker.map (Reading.literal {}) ++ parts)).cost =
      Text.byteLength marker + (Expr.catAll parts).cost := by
  induction marker with
  | nil => simp
  | cons c marker ih =>
      change (Reading.literal {} c).cost + (Expr.catAll (marker.map (Reading.literal {}) ++ parts)).cost = _
      rw [ih, cost_literal, Text.byteLength_cons, Nat.add_assoc]

/-- A literal marker has a pattern unless that would be too large. -/
theorem isSome_pattern_iff {m : Markers} (hm : m.Literal) (kind : MatchKind) :
    ((LineMatcher.ofMarkers m).patternOf kind).pattern.isSome = true ↔
      Text.byteLength (m.textOf kind).toList +
        (Expr.catAll ((LineMatcher.partsOf kind).map Prod.fst)).cost ≤ Reading.maxCost := by
  rw [LineMatcher.pattern_patternOf hm, cost_catAll_literals]
  split <;> simp_all

/-- Markers with a start of some length. -/
def longStart (n : Nat) : Markers where
  regionStart := String.ofList (List.replicate n 'a')
  regionEnd := "b"
  tag := "c"

theorem toList_longStart (n : Nat) : (longStart n).regionStart.toList = List.replicate n 'a' :=
  String.toList_ofList

theorem forall_mem_longStart {P : Char → Prop} (ha : P 'a') (hb : P 'b') (hc : P 'c') (n : Nat)
    (kind : MatchKind) : ∀ c ∈ ((longStart n).textOf kind).toList, P c := by
  cases kind with
  | regionStart =>
      rw [textOf, toList_longStart]
      exact fun c hmem => (List.eq_of_mem_replicate hmem) ▸ ha
  | regionEnd => simpa [textOf, longStart] using hb
  | tag => simpa [textOf, longStart] using hc

theorem literal_longStart (n : Nat) : (longStart n).Literal := by
  refine .inr fun kind => ?_
  rw [hasPatternSigns, List.any_eq_false]
  exact forall_mem_longStart (by decide) (by decide) (by decide) n kind

theorem pattern_longStart {n : Nat} (hn : Reading.maxCost ≤ n) :
    ((LineMatcher.ofMarkers (longStart n)).patternOf .regionStart).pattern = none := by
  rw [← Option.not_isSome_iff_eq_none, isSome_pattern_iff (literal_longStart n), textOf,
    toList_longStart, Text.byteLength_replicate, Nat.not_le]
  calc Reading.maxCost
    _ ≤ n * 'a'.utf8Size := Nat.le_trans hn (Nat.le_of_eq (Nat.mul_one n).symm)
    _ < _ := Nat.lt_add_of_pos_right (by decide)

/-- A line that begins with the start, a space behind it. -/
def longLine (n : Nat) : String := (longStart n).regionStart ++ " n"

theorem toList_longLine (n : Nat) : (longLine n).toList = List.replicate n 'a' ++ [' ', 'n'] := by
  rw [longLine, String.toList_append, toList_longStart]
  rfl

theorem standsAt_longLine (n : Nat) : (longStart n).StandsAt .regionStart (longLine n).toList 0 := by
  have hlength : ((longStart n).textOf .regionStart).toList.length = n := by
    rw [textOf, toList_longStart, List.length_replicate]
  constructor
  case le =>
    rw [hlength, toList_longLine, List.length_append, List.length_replicate]
    omega
  case text =>
    rw [hlength, toList_longLine, textOn, Nat.zero_add, List.drop_zero, textOf, toList_longStart,
      List.take_left' List.length_replicate]
  case gap =>
    intro _
    refine ⟨' ', ?_, rfl⟩
    rw [hlength, toList_longLine, Nat.zero_add, List.getElem?_append_right (by simp)]
    simp

theorem absent_longLine {n : Nat} (hn : Reading.maxCost ≤ n) (kind : MatchKind) :
    LineMatcher.Absent (longStart n) kind (longLine n).toList := by
  rintro j _ ⟨hcompiles, behind, htext, _⟩
  have hmem : ∀ c ∈ ((longStart n).textOf kind).toList, c ∈ List.replicate n 'a' ++ [' ', 'n'] := by
    intro c hc
    rw [← toList_longLine]
    exact List.mem_of_mem_drop (htext ▸ List.mem_append_left behind hc)
  cases kind with
  | regionStart =>
      rw [pattern_longStart hn] at hcompiles
      cases hcompiles
  | regionEnd =>
      have hb := hmem 'b' (by simp [textOf, longStart])
      simp at hb
  | tag =>
      have hc := hmem 'c' (by simp [textOf, longStart])
      simp at hc

end Markers

/-! ## The parts of a marker line -/

/-- Where the parts of a marker line begin and end. A gap stands before the name and before the
description. -/
structure Columns where
  key : Nat
  keyStop : Nat
  name : Nat
  nameStop : Nat
  description : Nat
  descriptionStop : Nat
  deriving DecidableEq

/-- The tokens on the columns. A name has a gap before it, an end has no description, and there is none
without a name. -/
def Columns.toMatch (c : Columns) (kind : MatchKind) (chars : List Char) (lineNumber : Nat) :
    LineMatch :=
  let name :=
    if c.keyStop < c.name then tokenOn? .name chars lineNumber c.name c.nameStop else none
  { kind := kind
    key := ⟨.key, String.ofList (textOn chars c.key c.keyStop), .onLine lineNumber c.key c.keyStop⟩
    name := name
    description :=
      if kind = .regionEnd then none
      else name.bind fun _ => tokenOn? .description chars lineNumber c.description c.descriptionStop }

/-- The columns of a line in which the marker of a kind stands, taken where it first stands. Gap, name,
gap and description are as long as they can be. -/
structure Markers.Divides (m : Markers) (kind : MatchKind) (chars : List Char) (c : Columns) :
    Prop where
  stands : m.StandsAt kind chars c.key
  leftmost : ∀ i < c.key, ¬ m.StandsAt kind chars i
  keyStop_eq : c.keyStop = c.key + (m.textOf kind).toList.length
  gap : IsStretch isGap chars c.keyStop c.name
  name : IsStretch isNameChar chars c.name c.nameStop
  secondGap : IsStretch isGap chars c.nameStop c.description
  description : IsStretch (· != '\n') chars c.description c.descriptionStop

namespace LineMatcher

/-- The columns behind a marker of some length. -/
def columnsFrom (chars : List Char) (key length : Nat) : Columns :=
  let name := stretchStop isGap chars (key + length)
  let nameStop := stretchStop isNameChar chars name
  let description := stretchStop isGap chars nameStop
  ⟨key, key + length, name, nameStop, description, stretchStop (· != '\n') chars description⟩

theorem stretchStop_le (accept : Char → Bool) {chars : List Char} {start : Nat}
    (h : start ≤ chars.length) : stretchStop accept chars start ≤ chars.length :=
  (isStretch_iff.mpr ⟨h, rfl⟩).le_length

variable {m : Markers} {kind : MatchKind} {chars : List Char}

theorem divides_columnsFrom {i : Nat} (h : m.FirstStands kind chars i) :
    m.Divides kind chars (columnsFrom chars i (m.textOf kind).toList.length) := by
  have hcompiles := h.stands.1
  have hstands : m.StandsAt kind chars i := (Markers.standsAt_iff hcompiles).mpr ⟨h.le, h.stands⟩
  have hname := stretchStop_le isGap hstands.le
  have hnameStop := stretchStop_le isNameChar hname
  have hdescription := stretchStop_le isGap hnameStop
  refine ⟨hstands, ?_, rfl, isStretch_iff.mpr ⟨hstands.le, rfl⟩, isStretch_iff.mpr ⟨hname, rfl⟩,
    isStretch_iff.mpr ⟨hnameStop, rfl⟩, isStretch_iff.mpr ⟨hdescription, rfl⟩⟩
  intro j hj hstandsJ
  exact h.first j hj ((Markers.standsAt_iff hcompiles).mp hstandsJ).2

theorem firstStands_of_divides
    (hcompiles : ((ofMarkers m).patternOf kind).pattern.isSome = true) {c : Columns}
    (h : m.Divides kind chars c) : m.FirstStands kind chars c.key := by
  obtain ⟨hle, hstands⟩ := (Markers.standsAt_iff hcompiles).mp h.stands
  refine ⟨hle, hstands, fun j hj hstandsJ => ?_⟩
  exact h.leftmost j hj ((Markers.standsAt_iff hcompiles).mpr ⟨by omega, hstandsJ⟩)

theorem absent_iff : Absent m kind chars ↔
    (((ofMarkers m).patternOf kind).pattern.isSome = true → ∀ i, ¬ m.StandsAt kind chars i) := by
  constructor
  · intro h hcompiles i hstands
    obtain ⟨hle, hstands⟩ := (Markers.standsAt_iff hcompiles).mp hstands
    exact h i hle hstands
  · intro h i hle hstands
    exact h hstands.1 i ((Markers.standsAt_iff hstands.1).mpr ⟨hle, hstands⟩)

theorem eq_columnsFrom_of_divides {c : Columns} (h : m.Divides kind chars c) :
    c = columnsFrom chars c.key (m.textOf kind).toList.length := by
  obtain ⟨key, keyStop, name, nameStop, description, descriptionStop⟩ := c
  obtain ⟨_, _, hkeyStop, hgap, hname, hsecondGap, hdescription⟩ := h
  simp only at hkeyStop hgap hname hsecondGap hdescription
  rw [columnsFrom, ← hkeyStop, ← (isStretch_iff.mp hgap).2, ← (isStretch_iff.mp hname).2,
    ← (isStretch_iff.mp hsecondGap).2, ← (isStretch_iff.mp hdescription).2]

theorem column_skip {p : Spot} (hp : chars.drop p.column = p.rest) (accept : Char → Bool) :
    (p.skip accept).column = stretchStop accept chars p.column := by
  rw [stretchStop, hp, Spot.skip]

/-- The tokens behind a marker are those on its columns. -/
theorem tokensBehind_eq_toMatch {marker : String} {i : Nat}
    (htext : textOn chars i (i + marker.toList.length) = marker.toList) (lineNumber : Nat) :
    tokensBehind kind marker lineNumber i (chars.drop (i + marker.toList.length)) =
      (columnsFrom chars i marker.toList.length).toMatch kind chars lineNumber := by
  let start : Spot := ⟨chars.drop (i + marker.toList.length), i + marker.toList.length, []⟩
  have hstart : chars.drop start.column = start.rest := rfl
  have hname := drop_skip isGap hstart
  have hnameStop := drop_skip isNameChar hname
  have hdescription := drop_skip isGap hnameStop
  have hgap : startsWithGap start.rest = decide (start.column < (start.skip isGap).column) := by
    rw [Spot.skip, startsWithGap]
    cases start.rest with
    | nil => simp
    | cons c rest => cases hc : isGap c <;> simp [hc]
  have hnameToken := stretch?_eq_tokenOn? hname .name lineNumber isNameChar
  have hdescriptionToken := stretch?_eq_tokenOn? hdescription .description lineNumber (· != '\n')
  rw [column_skip hstart] at hgap hnameToken
  rw [column_skip hnameStop, column_skip hname, column_skip hstart] at hdescriptionToken
  simp only [start] at hgap hnameToken hdescriptionToken
  by_cases hlt : i + marker.toList.length < stretchStop isGap chars (i + marker.toList.length) <;>
    simp [tokensBehind, Columns.toMatch, columnsFrom, htext, hgap, hnameToken, hdescriptionToken, hlt]

/-- What a line with literal markers declares, by columns: of the kinds whose markers have a pattern and
stand in the line the first one counts, at the leftmost place. -/
theorem matchLine_columns (m : Markers) (hm : m.Literal) (line : String) (lineNumber : Nat) :
    (∀ f, matchLine (ofMarkers m) line lineNumber = some f ↔
      ∃ kind c, ((ofMarkers m).patternOf kind).pattern.isSome = true ∧
        m.Divides kind line.toList c ∧
        (∀ kind' : MatchKind, kind'.rank < kind.rank →
          ((ofMarkers m).patternOf kind').pattern.isSome = true →
            ∀ i, ¬ m.StandsAt kind' line.toList i) ∧
        f = c.toMatch kind line.toList lineNumber) ∧
    (matchLine (ofMarkers m) line lineNumber = none ↔
      ∀ kind, ((ofMarkers m).patternOf kind).pattern.isSome = true →
        ∀ i, ¬ m.StandsAt kind line.toList i) := by
  have htokens : ∀ kind i, m.FirstStands kind line.toList i →
      tokensBehind kind (m.textOf kind) lineNumber i
          (line.toList.drop (i + (m.textOf kind).toList.length)) =
        (columnsFrom line.toList i (m.textOf kind).toList.length).toMatch kind line.toList
          lineNumber :=
    fun kind i h => tokensBehind_eq_toMatch (divides_columnsFrom h).stands.text lineNumber
  constructor
  · intro f
    rw [matchLine_eq_some_iff hm]
    constructor
    · rintro ⟨kind, i, hfirst, hearlier, rfl⟩
      exact ⟨kind, _, hfirst.stands.1, divides_columnsFrom hfirst,
        fun kind' hrank => absent_iff.mp (hearlier kind' hrank), htokens kind i hfirst⟩
    · rintro ⟨kind, c, hcompiles, hdivides, hearlier, rfl⟩
      have hfirst := firstStands_of_divides hcompiles hdivides
      refine ⟨kind, c.key, hfirst, fun kind' hrank => absent_iff.mpr (hearlier kind' hrank), ?_⟩
      rw [htokens kind c.key hfirst, ← eq_columnsFrom_of_divides hdivides]
  · rw [matchLine_eq_none_iff_absent hm]
    exact forall_congr' fun kind => absent_iff

/-- A marker that overlaps itself stands where a gap is behind it, and a space that is no gap ends the
name and belongs to the description. -/
theorem matchLine_columns_overlapping :
    let m : Markers := { regionStart := "((", escape := true }
    let line := "é((( x\u3000y z"
    m.Literal ∧ matchLine (ofMarkers m) line 3 =
      some ((Columns.mk 2 4 5 6 6 10).toMatch .regionStart line.toList 3) := by
  intro m line
  have hliteral : m.Literal := .inl rfl
  refine ⟨hliteral, ((matchLine_columns m hliteral line 3).1 _).mpr
    ⟨.regionStart, _, by decide +kernel, ?_, ?_, rfl⟩⟩
  · constructor <;> decide +kernel
  · intro kind' hrank
    exact absurd hrank (Nat.not_lt_zero _)

/-- A start that is too large for a pattern stands in a line, but the line declares nothing. -/
theorem matchLine_eq_none_long_start :
    let m : Markers := .longStart 400000
    let line := Markers.longLine 400000
    m.Literal ∧ m.StandsAt .regionStart line.toList 0 ∧ matchLine (ofMarkers m) line 0 = none := by
  intro m line
  have hm : m.Literal := Markers.literal_longStart 400000
  exact ⟨hm, Markers.standsAt_longLine 400000,
    (matchLine_eq_none_iff_absent hm).mpr (Markers.absent_longLine (by decide))⟩

end LineMatcher

end Waymark
