import Mathlib.Data.List.Infix
import Waymark.Proofs.Marker.Columns
import Waymark.Proofs.Pattern.Opening
import Waymark.Proofs.Text.Column

/-!
# Tokens stand on their columns

Whatever patterns the markers are, the tokens of a line are the text on their columns, and the key does not
start behind the name. A description stands behind its name as well, unless a marker brings a description
group of its own: that of an end marker may match in front of the name.
-/

namespace Waymark

open Pattern Text

/-- A token stands on a line: it has characters, and they are those on its columns. -/
structure Token.StandsOn (t : Token) (line : List Char) (lineNumber : Nat) : Prop where
  line_eq : t.span.start.line = lineNumber ∧ t.span.stop.line = lineNumber
  start_lt_stop : t.span.start.column < t.span.stop.column
  stop_le : t.span.stop.column ≤ line.length
  text_eq : t.text.toList = textOn line t.span.start.column t.span.stop.column

/-- The name and the description stand on the line, the key not behind the name, and there is no
description without a name. -/
structure LineMatch.StandsOn (f : LineMatch) (line : List Char) (lineNumber : Nat) : Prop where
  tokens : ∀ t, f.name = some t ∨ f.description = some t → t.StandsOn line lineNumber
  key_le_name : ∀ name, f.name = some name → f.key.span.start.column ≤ name.span.start.column
  named : ∀ description, f.description = some description → ∃ name, f.name = some name

/-- The description does not start before the name ends. -/
def LineMatch.DescriptionBehind (f : LineMatch) : Prop :=
  ∀ name description, f.name = some name → f.description = some description →
    name.span.stop.column ≤ description.span.start.column

/-- The marker of a kind is not escaped, and its text opens a description group. -/
def Markers.OpensDescription (m : Markers) (kind : MatchKind) : Prop :=
  m.escape = false ∧ ∃ opening ∈ groupOpenings "description", opening <:+: (m.textOf kind).toList

instance (m : Markers) (kind : MatchKind) : Decidable (m.OpensDescription kind) :=
  inferInstanceAs (Decidable (_ ∧ ∃ opening ∈ _, _))

namespace LineMatcher

/-! ## Tokens of groups -/

section

variable {found : Match} {line : List Char} {lineNumber : Nat} {kind : TokenKind} {group : String}
  {t : Token}

theorem groupToken?_eq_some (h : groupToken? found line lineNumber kind group = some t) :
    ∃ start stop, found.group? group = some (start, stop) ∧ textOn line start stop ≠ [] ∧
      t = ⟨kind, String.ofList (textOn line start stop), .onLine lineNumber start stop⟩ := by
  rw [groupToken?] at h
  split at h
  case h_1 => cases h
  case h_2 start stop hgroup =>
      dsimp only at h
      split at h
      case isTrue => cases h
      case isFalse hempty =>
          cases h
          exact ⟨start, stop, hgroup, fun hnil => hempty (List.isEmpty_iff.mpr hnil), rfl⟩

theorem standsOn_of_groupToken? (hfound : found.Within line.length)
    (h : groupToken? found line lineNumber kind group = some t) : t.StandsOn line lineNumber := by
  obtain ⟨start, stop, hgroup, hnonempty, rfl⟩ := groupToken?_eq_some h
  have hstop : stop ≤ line.length := Nat.le_trans
    (hfound.marks _ (Match.mem_marks_of_group? hgroup).2).2 hfound.stop_le
  refine ⟨⟨rfl, rfl⟩, ?_, hstop, String.toList_ofList⟩
  have hlength := List.length_pos_iff.mpr hnonempty
  rw [length_textOn hstop] at hlength
  exact Nat.lt_of_sub_pos hlength

theorem start_le_of_groupToken? (hfound : found.Within line.length)
    (h : groupToken? found line lineNumber kind group = some t) :
    found.start ≤ t.span.start.column := by
  obtain ⟨start, stop, hgroup, _, rfl⟩ := groupToken?_eq_some h
  exact (hfound.marks _ (Match.mem_marks_of_group? hgroup).1).1

end

/-! ## Lines -/

/-- A line declares what the pattern of some kind finds in it. -/
theorem exists_find_of_matchLine {m : Markers} {line : String} {lineNumber : Nat} {f : LineMatch}
    (h : matchLine (ofMarkers m) line lineNumber = some f) :
    ∃ found pattern, ((ofMarkers m).patternOf f.kind).pattern = some pattern ∧
      pattern.node.findFrom none 0 line.toList = some found ∧
      f = tokens found ((ofMarkers m).patternOf f.kind) line.toList lineNumber f.kind := by
  have hkind : ∀ kind, found? m kind line.toList lineNumber = some f →
      ∃ found pattern, ((ofMarkers m).patternOf f.kind).pattern = some pattern ∧
        pattern.node.findFrom none 0 line.toList = some found ∧
        f = tokens found ((ofMarkers m).patternOf f.kind) line.toList lineNumber f.kind := by
    intro kind hfound
    obtain ⟨found, hfind, rfl⟩ := Option.map_eq_some_iff.mp hfound
    obtain ⟨pattern, hpattern, hfind⟩ := Option.bind_eq_some_iff.mp hfind
    exact ⟨found, pattern, hpattern, hfind, rfl⟩
  rw [matchLine_eq] at h
  rcases Option.or_eq_some_iff.mp h with h | ⟨_, h⟩
  · exact hkind .regionStart h
  · rcases Option.or_eq_some_iff.mp h with h | ⟨_, h⟩
    · exact hkind .regionEnd h
    · exact hkind .tag h

variable {m : Markers} {line : String} {lineNumber : Nat} {f : LineMatch}

theorem within_of_findFrom {node : Node} {line : List Char} {found : Match}
    (h : node.findFrom none 0 line = some found) : found.Within line.length := by
  have hwithin := Node.within_of_findFrom h
  rwa [Nat.zero_add] at hwithin

theorem standsOn_of_matchLine (h : matchLine (ofMarkers m) line lineNumber = some f) :
    f.StandsOn line.toList lineNumber := by
  obtain ⟨found, pattern, _, hfind, hf⟩ := exists_find_of_matchLine h
  have hfound := within_of_findFrom hfind
  have hname : f.name = groupToken? found line.toList lineNumber .name "name" := congrArg _ hf
  have hdescription : f.description = f.name.bind fun _ =>
      groupToken? found line.toList lineNumber .description "description" := by
    rw [hname]
    exact congrArg LineMatch.description hf
  have hkey : f.key.span.start.column = found.start := congrArg (·.key.span.start.column) hf
  refine ⟨?_, ?_, ?_⟩
  · rintro t (ht | ht)
    · exact standsOn_of_groupToken? hfound (hname ▸ ht)
    · obtain ⟨_, _, ht⟩ := Option.bind_eq_some_iff.mp (hdescription ▸ ht)
      exact standsOn_of_groupToken? hfound ht
  · intro name hsome
    rw [hkey]
    exact start_le_of_groupToken? hfound (hname ▸ hsome)
  · intro description hsome
    obtain ⟨name, hsomeName, _⟩ := Option.bind_eq_some_iff.mp (hdescription ▸ hsome)
    exact ⟨name, hsomeName⟩

/-! ## Tokens and bytes -/

/-- Where a token stands in a line, it was cut out between two boundaries of characters, and its columns
are those of the byte offsets there. -/
theorem exists_bytes_of_standsOn {t : Token} (h : t.StandsOn line.toList lineNumber) :
    ∃ start stop : line.Pos, start < stop ∧ t.text = line.extract start stop ∧
      t.span = .onLine lineNumber (columnOfByte line.toList start.offset.byteIdx)
        (columnOfByte line.toList stop.offset.byteIdx) := by
  have hspan : t.span = .onLine lineNumber t.span.start.column t.span.stop.column :=
    calc t.span
      _ = ⟨⟨t.span.start.line, t.span.start.column⟩, ⟨t.span.stop.line, t.span.stop.column⟩⟩ := rfl
      _ = .onLine lineNumber t.span.start.column t.span.stop.column := by
        rw [h.line_eq.1, h.line_eq.2, Span.onLine]
  have hlt := h.start_lt_stop
  have hstop := h.stop_le
  have hstart := Nat.le_trans (Nat.le_of_lt hlt) hstop
  refine ⟨⟨⟨byteOfColumn line.toList t.span.start.column⟩,
      isValid_iff_exists_column.mpr ⟨_, hstart, rfl⟩⟩,
    ⟨⟨byteOfColumn line.toList t.span.stop.column⟩,
      isValid_iff_exists_column.mpr ⟨_, hstop, rfl⟩⟩, byteOfColumn_lt hlt hstop, ?_, ?_⟩
  · rw [← String.toByteArray_inj, String.toByteArray_extract, ← String.utf8Encode_toList,
      h.text_eq, textOn, utf8Encode_between line.toList (Nat.le_of_lt hlt), String.utf8Encode_toList]
  · rw [columnOfByte_byteOfColumn hstart, columnOfByte_byteOfColumn hstop]
    exact hspan

/-- The tokens of a line are what its bytes say between the places where the groups of a pattern matched,
and the columns count the characters in front of those places. The key has the place of the match and the
length of the marker. -/
theorem exists_bytes_of_matchLine (h : matchLine (ofMarkers m) line lineNumber = some f) :
    (∀ t, f.name = some t ∨ f.description = some t →
      ∃ start stop : line.Pos, start < stop ∧ t.text = line.extract start stop ∧
        t.span = .onLine lineNumber (columnOfByte line.toList start.offset.byteIdx)
          (columnOfByte line.toList stop.offset.byteIdx)) ∧
    ∃ start : line.Pos, f.key.span = .onLine lineNumber
      (columnOfByte line.toList start.offset.byteIdx)
      (columnOfByte line.toList start.offset.byteIdx + f.key.text.length) := by
  refine ⟨fun t ht => exists_bytes_of_standsOn ((standsOn_of_matchLine h).tokens t ht), ?_⟩
  obtain ⟨found, pattern, _, hfind, hf⟩ := exists_find_of_matchLine h
  have hfound := within_of_findFrom hfind
  have hle : found.start ≤ line.toList.length := Nat.le_trans hfound.start_le_stop hfound.stop_le
  refine ⟨⟨⟨byteOfColumn line.toList found.start⟩,
    isValid_iff_exists_column.mpr ⟨found.start, hle, rfl⟩⟩, ?_⟩
  rw [columnOfByte_byteOfColumn hle, hf]
  rfl

/-! ## Descriptions behind names -/

/-- A suffix that opens a group right before its end does so behind a marker that does not open the
group. No opening begins in the marker and ends in the suffix, since the suffix begins with a character
that is in none. -/
theorem opensBefore_append {group : String} {last marker rest : List Char} {first : Char}
    (hmarker : ∀ opening ∈ groupOpenings group, ¬ opening <:+: marker)
    (hsuffix : Reading.OpensBefore group last (first :: rest))
    (hfirst : ∀ opening ∈ groupOpenings group, first ∉ opening) :
    Reading.OpensBefore group last (marker ++ first :: rest) := by
  intro opening hopening rest' hrest'
  obtain ⟨front, htext⟩ := hrest'
  rcases List.append_eq_append_iff.mp htext with ⟨middle, hfront, hbehind⟩ | ⟨middle, rfl, hbehind⟩
  · rcases List.append_eq_append_iff.mp hbehind with ⟨more, rfl, _⟩ | ⟨more, hsplit, hmore⟩
    · exact absurd ⟨front, more, by rw [hfront, List.append_assoc]⟩ (hmarker opening hopening)
    · cases more with
      | nil =>
          rw [List.append_nil] at hsplit
          exact absurd ⟨front, [], by rw [hfront, hsplit, List.append_nil]⟩ (hmarker opening hopening)
      | cons c more =>
          obtain ⟨rfl, _⟩ := List.cons.inj hmore
          exact absurd (hsplit ▸ List.mem_append_right middle List.mem_cons_self)
            (hfirst opening hopening)
  · exact hsuffix opening hopening rest' ⟨middle, hbehind.symm⟩

/-- What follows a marker of some kind. -/
def suffixOf : MatchKind → String
  | .regionStart | .tag => MarkerPattern.namedSuffix
  | .regionEnd => MarkerPattern.endSuffix

theorem patternOf_ofMarkers (m : Markers) (kind : MatchKind) :
    (ofMarkers m).patternOf kind = .build m.escape (m.textOf kind) (suffixOf kind) := by
  cases kind <;> rfl

theorem opensBefore_of_tails {group : String} {last cs : List Char}
    (h : ∀ opening ∈ groupOpenings group, ∀ tail ∈ cs.tails, opening <+: tail →
      tail.drop opening.length = last) : Reading.OpensBefore group last cs := by
  intro opening hopening rest hrest
  have hdrop := h opening hopening _ ((List.mem_tails _ _).mpr hrest) (List.prefix_append opening rest)
  rwa [List.drop_left] at hdrop

/-- The suffixes open a description group at most right before their end. -/
theorem opensBefore_suffixOf (kind : MatchKind) :
    Reading.OpensBefore "description" ['.', '*', ')'] (suffixOf kind).toList := by
  cases kind <;> exact opensBefore_of_tails (by decide +kernel)

theorem opensBefore_append_suffixOf {marker : List Char} (kind : MatchKind)
    (h : ∀ opening ∈ groupOpenings "description", ¬ opening <:+: marker) :
    Reading.OpensBefore "description" ['.', '*', ')'] (marker ++ (suffixOf kind).toList) := by
  have hsuffix := opensBefore_suffixOf kind
  have hfirst : ∀ opening ∈ groupOpenings "description", '[' ∉ opening ∧ '(' ∉ opening := by decide
  cases kind with
  | regionStart | tag => exact opensBefore_append h hsuffix fun opening ho => (hfirst opening ho).1
  | regionEnd => exact opensBefore_append h hsuffix fun opening ho => (hfirst opening ho).2

/-- The description group comes last in the pattern of a marker that does not open one. -/
theorem trails_description {m : Markers} {kind : MatchKind} (h : ¬ m.OpensDescription kind)
    {pattern : Pattern} (hpattern : ((ofMarkers m).patternOf kind).pattern = some pattern) :
    ∃ e : Expr, e.Trails "description" ∧ pattern.node = e.compile false [] := by
  rw [patternOf_ofMarkers] at hpattern
  obtain ⟨e, he, rfl⟩ := Option.map_eq_some_iff.mp hpattern
  refine ⟨e, ?_, rfl⟩
  let start : Reading := { flags := {} }
  have hstart : start.Free "description" := ⟨fun e he => (by cases he), fun o ho => (by cases ho)⟩
  cases hescape : m.escape with
  | true =>
      rw [hescape, Expr.read?] at he
      have hquoted := Reading.run_quote_append start (m.textOf kind).toList (suffixOf kind).toList rfl
      change (start.run (quote (m.textOf kind).toList ++ (suffixOf kind).toList)).bind _ = some e at he
      rw [hquoted] at he
      exact Reading.trails_of_run (hstart.pushAll Reading.groups_of_mem_textParts)
        (opensBefore_suffixOf kind) he
  | false =>
      rw [hescape, Expr.read?] at he
      have hmarker : ∀ opening ∈ groupOpenings "description",
          ¬ opening <:+: (m.textOf kind).toList :=
        fun opening hopening hinfix => h ⟨hescape, opening, hopening, hinfix⟩
      exact Reading.trails_of_run hstart (opensBefore_append_suffixOf kind hmarker) he

/-- What a match of the markers' patterns says about a line can be read off its columns, and the
description stands behind the name, unless the marker opens a description group of its own. -/
theorem standsOn_line (m : Markers) (line : String) (lineNumber : Nat) (f : LineMatch)
    (h : matchLine (ofMarkers m) line lineNumber = some f) :
    f.StandsOn line.toList lineNumber ∧ (¬ m.OpensDescription f.kind → f.DescriptionBehind) := by
  refine ⟨standsOn_of_matchLine h, fun hopens name description hname hdescription => ?_⟩
  obtain ⟨found, pattern, hpattern, hfind, hf⟩ := exists_find_of_matchLine h
  obtain ⟨e, htrails, hnode⟩ := trails_description hopens hpattern
  rw [hf] at hname hdescription
  obtain ⟨start, stop, hgroup, _, rfl⟩ := groupToken?_eq_some hname
  obtain ⟨_, _, hdescription⟩ := Option.bind_eq_some_iff.mp hdescription
  obtain ⟨start', stop', hlast, _, rfl⟩ := groupToken?_eq_some hdescription
  rw [hnode] at hfind
  exact htrails.stop_le_start hfind (by decide) hgroup hlast

/-- A marker of two alternatives, on a line with characters of several bytes. -/
theorem standsOn_line_alternatives :
    let m : Markers := { regionStart := "(?i)#région|§+" }
    let line := "é §§ name — text"
    ∃ f, matchLine (ofMarkers m) line 3 = some f ∧ f.name.isSome ∧ f.description.isSome ∧
      f.StandsOn line.toList 3 ∧ f.DescriptionBehind := by
  intro m line
  let f : LineMatch := ⟨.regionStart, ⟨.key, m.regionStart, .onLine 3 2 16⟩,
    some ⟨.name, "name", .onLine 3 5 9⟩, some ⟨.description, "— text", .onLine 3 10 16⟩⟩
  have hmatch : matchLine (ofMarkers m) line 3 = some f := by decide +kernel
  obtain ⟨hstands, hbehind⟩ := standsOn_line m line 3 f hmatch
  exact ⟨f, hmatch, rfl, rfl, hstands, hbehind (by decide)⟩

/-- The marker of an end that has a description group takes the description from in front of the name. -/
theorem not_descriptionBehind_end_marker :
    ∃ f, matchLine (ofMarkers { regionEnd := "(?P<description>x)#end" }) "x#end a" 0 = some f ∧
      ¬ f.DescriptionBehind := by
  let f : LineMatch := ⟨.regionEnd, ⟨.key, "(?P<description>x)#end", .onLine 0 0 22⟩,
    some ⟨.name, "a", .onLine 0 6 7⟩, some ⟨.description, "x", .onLine 0 0 1⟩⟩
  have hmatch : matchLine (ofMarkers { regionEnd := "(?P<description>x)#end" }) "x#end a" 0 =
      some f := by decide +kernel
  refine ⟨f, hmatch, fun h => ?_⟩
  exact absurd (h _ _ rfl rfl) (by decide)

end LineMatcher

end Waymark
