import Waymark.Proofs.Marker.Declaration

/-!
# Lines with another name

If the name in a line is replaced by one that holds no marker, the line declares what it declared, with
the other name. No marker reaches into a name or out of it, because names stand between blanks and
markers hold none.
-/

namespace Waymark

open Pattern

/-- Every marker has characters, and none that is blank. -/
def Markers.Solid (m : Markers) : Prop :=
  ∀ kind, (m.textOf kind).toList ≠ [] ∧ ∀ c ∈ (m.textOf kind).toList, Unicode.isBlank c = false

/-- A text has characters, none of which is blank, and no marker in it. -/
structure Markers.Fresh (m : Markers) (name : List Char) : Prop where
  ne_nil : name ≠ []
  word : ∀ c ∈ name, isNameChar c = true
  free : ∀ kind, ¬ (m.textOf kind).toList <:+: name

namespace LineMatcher

variable {m : Markers} {kind : MatchKind}

/-! ## Markers and blanks -/

/-- A marker that stands before a blank ends before it. -/
theorem prefix_of_blank (hm : m.Solid) {u v behind : List Char} {b : Char}
    (hb : Unicode.isBlank b = true) (heq : u ++ b :: v = (m.textOf kind).toList ++ behind) :
    ∃ between, u = (m.textOf kind).toList ++ between ∧ behind = between ++ b :: v := by
  rcases List.append_eq_append_iff.mp heq with ⟨more, hmarker, hrest⟩ | ⟨between, hu, hbehind⟩
  · cases more with
    | nil =>
        refine ⟨[], ?_, ?_⟩
        · rw [hmarker, List.append_nil, List.append_nil]
        · rw [hrest]
          rfl
    | cons c more =>
        have hcb : b = c := by
          rw [List.cons_append] at hrest
          exact (List.cons.inj hrest).1
        have hmem : b ∈ (m.textOf kind).toList := by
          rw [hmarker, hcb]
          simp
        rw [(hm kind).2 b hmem] at hb
        cases hb
  · exact ⟨between, hu, hbehind⟩

/-- Whether a marker stands before a blank does not depend on what follows the blank. -/
theorem stands_of_blank (hm : m.Solid) {u v : List Char} {b : Char} (hb : Unicode.isBlank b = true)
    (v' : List Char) (hstands : m.Stands kind (u ++ b :: v)) : m.Stands kind (u ++ b :: v') := by
  obtain ⟨hsome, behind, heq, hgap⟩ := hstands
  obtain ⟨between, hu, hbehind⟩ := prefix_of_blank hm hb heq
  refine ⟨hsome, between ++ b :: v', ?_, ?_⟩
  · rw [hu, List.append_assoc]
  · intro hkind
    have hstart := hgap hkind
    rw [hbehind] at hstart
    cases between with
    | nil => exact hstart
    | cons c between => exact hstart

/-- No marker stands in a fresh name that a blank or the end of the line follows. -/
theorem not_stands_in_name (hm : m.Solid) {name : List Char} (hname : m.Fresh name) {y : List Char}
    (hy : ∀ c ∈ y.head?, Unicode.isBlank c = true) (k : Nat) :
    ¬ m.Stands kind (name.drop k ++ y) := by
  intro hstands
  obtain ⟨_, behind, heq, _⟩ := hstands
  have hbegins : (m.textOf kind).toList <+: name.drop k := by
    cases y with
    | nil =>
        rw [List.append_nil] at heq
        exact ⟨behind, heq.symm⟩
    | cons b y =>
        obtain ⟨between, hu, _⟩ := prefix_of_blank hm (hy b rfl) heq
        exact ⟨between, hu.symm⟩
  exact hname.free kind (hbegins.isInfix.trans (List.drop_suffix k name).isInfix)

/-! ## The line with the other name -/

section

variable {x w y name : List Char} {b : Char}

theorem drop_before (x w y : List Char) (b : Char) {j : Nat} (hj : j ≤ x.length) :
    (x ++ b :: (w ++ y)).drop j = x.drop j ++ b :: (w ++ y) :=
  List.drop_append_of_le_length hj

theorem drop_inside (x w y : List Char) (b : Char) {k : Nat} (hk : k ≤ w.length) :
    (x ++ b :: (w ++ y)).drop (x.length + 1 + k) = w.drop k ++ y := by
  have hsplit : x ++ b :: (w ++ y) = (x ++ [b]) ++ (w ++ y) := by simp
  have hlength : x.length + 1 + k = (x ++ [b]).length + k := by simp
  rw [hsplit, hlength, ← List.drop_drop, List.drop_left, List.drop_append_of_le_length hk]

theorem drop_after (x w y : List Char) (b : Char) (k : Nat) :
    (x ++ b :: (w ++ y)).drop (x.length + 1 + w.length + k) = y.drop k := by
  have hsplit : x ++ b :: (w ++ y) = (x ++ [b] ++ w) ++ y := by simp
  have hlength : x.length + 1 + w.length + k = (x ++ [b] ++ w).length + k := by
    simp only [List.length_append, List.length_singleton]
  rw [hsplit, hlength, ← List.drop_drop, List.drop_left]

/-- What stands in the renamed line stands in the line as it was. -/
theorem exists_stands_of_renamed (hm : m.Solid) (hname : m.Fresh name)
    (hb : Unicode.isBlank b = true) (hy : ∀ c ∈ y.head?, Unicode.isBlank c = true) {j : Nat}
    (hj : j ≤ (x ++ b :: (name ++ y)).length)
    (hstands : m.Stands kind ((x ++ b :: (name ++ y)).drop j)) :
    ∃ j' ≤ (x ++ b :: (w ++ y)).length, m.Stands kind ((x ++ b :: (w ++ y)).drop j') := by
  have hlength : ∀ middle : List Char,
      (x ++ b :: (middle ++ y)).length = x.length + 1 + middle.length + y.length := by
    intro middle
    simp only [List.length_append, List.length_cons]
    omega
  rw [hlength] at hj
  rw [hlength]
  by_cases hbefore : j ≤ x.length
  · rw [drop_before x name y b hbefore] at hstands
    refine ⟨j, by omega, ?_⟩
    rw [drop_before x w y b hbefore]
    exact stands_of_blank hm hb (w ++ y) hstands
  · by_cases hinside : j ≤ x.length + 1 + name.length
    · obtain ⟨k, hk⟩ := Nat.exists_eq_add_of_le (show x.length + 1 ≤ j by omega)
      have hle : k ≤ name.length := by omega
      rw [hk, drop_inside x name y b hle] at hstands
      exact absurd hstands (not_stands_in_name hm hname hy k)
    · obtain ⟨k, hk⟩ := Nat.exists_eq_add_of_le (show x.length + 1 + name.length ≤ j by omega)
      rw [hk, drop_after x name y b k] at hstands
      refine ⟨x.length + 1 + w.length + k, by omega, ?_⟩
      rw [drop_after x w y b k]
      exact hstands

theorem absent_renamed (hm : m.Solid) (hname : m.Fresh name) (hb : Unicode.isBlank b = true)
    (hy : ∀ c ∈ y.head?, Unicode.isBlank c = true) (habsent : Absent m kind (x ++ b :: (w ++ y))) :
    Absent m kind (x ++ b :: (name ++ y)) := by
  intro j hj hstands
  obtain ⟨j', hj', hstands'⟩ := exists_stands_of_renamed hm hname hb hy hj hstands
  exact habsent j' hj' hstands'

/-- A marker that first stands before the name does so in the renamed line. -/
theorem firstStands_renamed (hm : m.Solid) (hb : Unicode.isBlank b = true) {i : Nat}
    (hi : i ≤ x.length) (hfirst : m.FirstStands kind (x ++ b :: (w ++ y)) i) (name : List Char) :
    m.FirstStands kind (x ++ b :: (name ++ y)) i := by
  have hiff : ∀ j ≤ x.length, m.Stands kind ((x ++ b :: (name ++ y)).drop j) ↔
      m.Stands kind ((x ++ b :: (w ++ y)).drop j) := by
    intro j hj
    rw [drop_before x name y b hj, drop_before x w y b hj]
    exact ⟨stands_of_blank hm hb _, stands_of_blank hm hb _⟩
  refine ⟨?_, (hiff i hi).mpr hfirst.stands, ?_⟩
  · rw [List.length_append]
    omega
  · intro j hj hstands
    exact hfirst.first j hj ((hiff j (by omega)).mp hstands)

end

/-! ## Names in a line -/

theorem isGap_eq_false {c : Char} (hc : isNameChar c = true) : isGap c = false := by
  cases hgap : isGap c with
  | false => rfl
  | true =>
      rw [isNameChar, isBlank_of_isGap hgap] at hc
      cases hc

theorem takeWhile_append_stop {α : Type} {accept : α → Bool} {first rest : List α}
    (hfirst : ∀ c ∈ first, accept c = true) (hrest : ∀ c ∈ rest.head?, accept c = false) :
    (first ++ rest).takeWhile accept = first ∧ (first ++ rest).dropWhile accept = rest := by
  have hstop : rest.takeWhile accept = [] ∧ rest.dropWhile accept = rest := by
    cases rest with
    | nil => exact ⟨rfl, rfl⟩
    | cons c rest =>
        have hc := hrest c rfl
        simp [hc]
  rw [List.takeWhile_append_of_pos hfirst, List.dropWhile_append_of_pos hfirst, hstop.1, hstop.2,
    List.append_nil]
  exact ⟨rfl, rfl⟩

/-- The tokens behind a marker that a gap and a name follow. -/
theorem tokensBehind_split (kind : MatchKind) (marker : String) (lineNumber i : Nat)
    {gap name y : List Char} (hgapne : gap ≠ []) (hgap : ∀ c ∈ gap, isGap c = true)
    (hne : name ≠ []) (hname : ∀ c ∈ name, isNameChar c = true)
    (hy : ∀ c ∈ y.head?, isNameChar c = false) :
    let column := i + marker.toList.length + gap.length
    tokensBehind kind marker lineNumber i (gap ++ (name ++ y)) =
      { kind := kind
        key := ⟨.key, marker, .onLine lineNumber i (i + marker.toList.length)⟩
        name := some ⟨.name, String.ofList name, .onLine lineNumber column (column + name.length)⟩
        description :=
          if kind = .regionEnd then none
          else stretch? .description lineNumber (· != '\n')
            (Spot.skip isGap ⟨y, column + name.length, []⟩) } := by
  intro column
  have hhead : ∀ c ∈ (name ++ y).head?, isGap c = false := by
    intro c hc
    cases name with
    | nil => exact absurd rfl hne
    | cons d name =>
        cases hc
        exact isGap_eq_false (hname c List.mem_cons_self)
  have hstart : startsWithGap (gap ++ (name ++ y)) = true := by
    cases gap with
    | nil => exact absurd rfl hgapne
    | cons c gap => exact hgap c List.mem_cons_self
  obtain ⟨hgapTake, hgapDrop⟩ := takeWhile_append_stop hgap hhead
  obtain ⟨hnameTake, hnameDrop⟩ := takeWhile_append_stop hname hy
  have hempty : name.isEmpty = false := by simpa using hne
  simp only [tokensBehind, hstart, if_true, stretch?, Spot.skip, hgapTake, hgapDrop, hnameTake,
    hnameDrop, hempty, Bool.false_eq_true, if_false, Option.bind_some]
  rfl

/-- A description is read as a whole behind a space. -/
theorem stretch?_behind_space {detail : List Char} (hne : detail ≠ [])
    (hstart : ∀ c ∈ detail.head?, isGap c = false)
    (hline : '\n' ∉ detail) (lineNumber column : Nat) :
    (stretch? .description lineNumber (· != '\n')
      (Spot.skip isGap ⟨' ' :: detail, column, []⟩)).map Token.text =
        some (String.ofList detail) := by
  have hspace : ∀ c ∈ [' '], isGap c = true := by simp [isGap]
  have hgap := takeWhile_append_stop hspace hstart
  have hbreak : ∀ c ∈ detail, (c != '\n') = true := by
    intro c hc
    rw [bne_iff_ne]
    rintro rfl
    exact hline hc
  have hall : detail.takeWhile (· != '\n') = detail := by
    have hstop : ∀ c ∈ ([] : List Char).head?, (c != '\n') = false := by simp
    simpa using (takeWhile_append_stop hbreak hstop).1
  have hfull : detail.isEmpty = false := by simpa using hne
  rw [List.singleton_append] at hgap
  simp only [Spot.skip, stretch?, hgap.2, hall, hfull, Bool.false_eq_true, if_false, Option.map_some]

theorem stretch?_text (kind : TokenKind) (lineNumber : Nat) (accept : Char → Bool) (p q : Spot)
    (hrest : p.rest = q.rest) :
    (stretch? kind lineNumber accept p).map Token.text =
      (stretch? kind lineNumber accept q).map Token.text := by
  simp only [stretch?, hrest]
  split <;> rfl

theorem stretch?_eq_none {kind : TokenKind} {lineNumber : Nat} {accept : Char → Bool} {p : Spot}
    (hempty : p.rest.takeWhile accept = []) : stretch? kind lineNumber accept p = none := by
  simp [stretch?, hempty]

/-- A line with a name, cut at the gap before the name. -/
structure Split (m : Markers) (kind : MatchKind) (line : List Char) (i : Nat) (before gap : List Char)
    (b : Char) (name y : List Char) : Prop where
  line_eq : line = (before ++ (m.textOf kind).toList ++ gap) ++ b :: (name ++ y)
  length_eq : before.length = i
  gap_eq : ∀ c ∈ gap ++ [b], isGap c = true
  name_ne : name ≠ []
  name_eq : ∀ c ∈ name, isNameChar c = true
  stop : ∀ c ∈ y.head?, isNameChar c = false

theorem dropWhile_head {α : Type} (accept : α → Bool) (text : List α) :
    ∀ c ∈ (text.dropWhile accept).head?, accept c = false := by
  intro c hc
  have hhead := List.head?_dropWhile_not accept text
  rw [Option.mem_def.mp hc] at hhead
  simpa using hhead

theorem exists_split {line : List Char} {i lineNumber : Nat} {token : Token}
    (h : m.FirstStands kind line i)
    (htoken : (tokensBehind kind (m.textOf kind) lineNumber i
      (line.drop (i + (m.textOf kind).toList.length))).name = some token) :
    ∃ before gap b name y, Split m kind line i before gap b name y := by
  obtain ⟨_, behind, htext, _⟩ := h.stands
  have hbehind : line.drop (i + (m.textOf kind).toList.length) = behind := by
    rw [← List.drop_drop, htext, List.drop_left]
  rw [hbehind] at htoken
  simp only [tokensBehind] at htoken
  split at htoken
  case isFalse => cases htoken
  case isTrue hstart =>
    obtain ⟨c, rest, hrest, hc⟩ := head?_of_startsWithGap hstart
    let gap := behind.takeWhile isGap
    let after := behind.dropWhile isGap
    let name := after.takeWhile isNameChar
    have hgapne : gap ≠ [] := by simp [gap, hrest, hc]
    have hname : name ≠ [] := by
      intro hempty
      have hnone : stretch? .name lineNumber isNameChar
          (Spot.skip isGap ⟨behind, i + (m.textOf kind).toList.length, []⟩) = none :=
        stretch?_eq_none hempty
      rw [hnone] at htoken
      cases htoken
    have hgap : gap.dropLast ++ [gap.getLast hgapne] = gap := List.dropLast_concat_getLast hgapne
    have hall : behind = gap ++ (name ++ after.dropWhile isNameChar) := by
      rw [List.takeWhile_append_dropWhile, List.takeWhile_append_dropWhile]
    refine ⟨line.take i, gap.dropLast, gap.getLast hgapne, name, after.dropWhile isNameChar, ?_, ?_,
      ?_, hname, ?_, dropWhile_head isNameChar after⟩
    · have hline : line = line.take i ++ line.drop i := (List.take_append_drop i line).symm
      rw [htext, hall, ← hgap] at hline
      simpa using hline
    · rw [List.length_take]
      exact Nat.min_eq_left h.le
    · intro d hd
      rw [hgap] at hd
      exact List.all_eq_true.mp List.all_takeWhile d hd
    · intro d hd
      exact List.all_eq_true.mp List.all_takeWhile d hd

end LineMatcher

/-- Two lines declare the same except for the name, and what the name is in the second. -/
structure LineMatch.Renamed (f f' : LineMatch) (name : String) : Prop where
  kind_eq : f'.kind = f.kind
  key_eq : f'.key.text = f.key.text
  name_eq : f'.name.map Token.text = some name
  description_eq : f'.description.map Token.text = f.description.map Token.text

namespace LineMatcher

variable {m : Markers}

namespace Split

variable {kind : MatchKind} {line : List Char} {i : Nat} {before gap : List Char} {b : Char}
  {w y : List Char}

theorem drop_marker (h : Split m kind line i before gap b w y) :
    line.drop (i + (m.textOf kind).toList.length) = (gap ++ [b]) ++ (w ++ y) := by
  have hshape : line = (before ++ (m.textOf kind).toList) ++ ((gap ++ [b]) ++ (w ++ y)) := by
    rw [h.line_eq]
    simp
  have hlength : i + (m.textOf kind).toList.length = (before ++ (m.textOf kind).toList).length := by
    rw [List.length_append, h.length_eq]
  rw [hshape, hlength, List.drop_left]

/-- The column of the name. -/
theorem length_before (h : Split m kind line i before gap b w y) :
    (before ++ (m.textOf kind).toList ++ gap ++ [b]).length =
      i + (m.textOf kind).toList.length + (gap ++ [b]).length := by
  simp only [List.length_append, h.length_eq]
  omega

theorem tokens (h : Split m kind line i before gap b w y) (lineNumber : Nat) :
    let column := (before ++ (m.textOf kind).toList ++ gap ++ [b]).length
    tokensBehind kind (m.textOf kind) lineNumber i (line.drop (i + (m.textOf kind).toList.length)) =
      { kind := kind
        key := ⟨.key, m.textOf kind, .onLine lineNumber i (i + (m.textOf kind).toList.length)⟩
        name := some ⟨.name, String.ofList w, .onLine lineNumber column (column + w.length)⟩
        description :=
          if kind = .regionEnd then none
          else stretch? .description lineNumber (· != '\n')
            (Spot.skip isGap ⟨y, column + w.length, []⟩) } := by
  intro column
  have hcolumn : column = i + (m.textOf kind).toList.length + (gap ++ [b]).length := h.length_before
  rw [h.drop_marker, hcolumn]
  exact tokensBehind_split kind (m.textOf kind) lineNumber i (by simp) h.gap_eq h.name_ne h.name_eq
    h.stop

/-- The line with another name is cut at the same place. -/
theorem rename (h : Split m kind line i before gap b w y) {name : List Char} (hname : m.Fresh name) :
    Split m kind ((before ++ (m.textOf kind).toList ++ gap) ++ b :: (name ++ y)) i before gap b name
      y :=
  ⟨rfl, h.length_eq, h.gap_eq, hname.ne_nil, hname.word, h.stop⟩

/-- Two lines that are cut alike declare the same except for the name. -/
theorem renamed_tokens {line' name : List Char} (h : Split m kind line i before gap b w y)
    (h' : Split m kind line' i before gap b name y) (lineNumber : Nat) :
    (tokensBehind kind (m.textOf kind) lineNumber i
      (line.drop (i + (m.textOf kind).toList.length))).Renamed
      (tokensBehind kind (m.textOf kind) lineNumber i
        (line'.drop (i + (m.textOf kind).toList.length))) (String.ofList name) := by
  rw [h.tokens, h'.tokens]
  refine ⟨rfl, rfl, rfl, ?_⟩
  split
  · rfl
  · exact stretch?_text _ _ _ _ _ rfl

end Split

/-- The name of a line is one stretch of it, and a line with a fresh name in its place declares the
same with that name. -/
theorem matchLine_renamed (hliteral : m.Literal) (hm : m.Solid) {line : String} {lineNumber : Nat}
    {f : LineMatch} {token : Token} (hf : matchLine (ofMarkers m) line lineNumber = some f)
    (htoken : f.name = some token) :
    ∃ x w y, line.toList = x ++ (w ++ y) ∧
      token = ⟨.name, String.ofList w, .onLine lineNumber x.length (x.length + w.length)⟩ ∧
      w ≠ [] ∧ (∀ c ∈ w, isNameChar c = true) ∧
      ∀ name, m.Fresh name → ∃ f',
        matchLine (ofMarkers m) (String.ofList (x ++ (name ++ y))) lineNumber = some f' ∧
          f.Renamed f' (String.ofList name) := by
  obtain ⟨kind, i, hfirst, hearlier, rfl⟩ := (matchLine_eq_some_iff hliteral line lineNumber f).mp hf
  obtain ⟨before, gap, b, w, y, hsplit⟩ := exists_split hfirst htoken
  have hb : Unicode.isBlank b = true := isBlank_of_isGap (hsplit.gap_eq b (by simp))
  have hy : ∀ c ∈ y.head?, Unicode.isBlank c = true := by
    intro c hc
    simpa [isNameChar] using hsplit.stop c hc
  have hline := hsplit.line_eq
  refine ⟨before ++ (m.textOf kind).toList ++ gap ++ [b], w, y, ?_, ?_, hsplit.name_ne,
    hsplit.name_eq, ?_⟩
  · rw [hline]
    simp
  · rw [hsplit.tokens] at htoken
    exact (Option.some.inj htoken).symm
  · intro name hname
    have hi : i ≤ (before ++ (m.textOf kind).toList ++ gap).length := by
      simp only [List.length_append, hsplit.length_eq]
      omega
    have hnew : (before ++ (m.textOf kind).toList ++ gap ++ [b]) ++ (name ++ y) =
        (before ++ (m.textOf kind).toList ++ gap) ++ b :: (name ++ y) := by simp
    refine ⟨_, ?_, hsplit.renamed_tokens (hsplit.rename hname) lineNumber⟩
    rw [matchLine_eq_some_iff hliteral, String.toList_ofList, hnew]
    rw [hline] at hfirst hearlier
    refine ⟨kind, i, firstStands_renamed hm hb hi hfirst name, ?_, rfl⟩
    intro kind' hrank
    exact absent_renamed hm hname hb hy (hearlier kind' hrank)

end LineMatcher

end Waymark
