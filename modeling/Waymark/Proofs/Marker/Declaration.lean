import Mathlib.Data.Nat.Find
import Waymark.Proofs.Marker.Suffix
import Waymark.Proofs.Pattern.Lead

/-!
# Lines with literal markers

If the markers stand for themselves, what a line declares can be said without patterns: a marker is
looked for, with a gap behind it unless it is that of an end, and what follows is cut into gap, name,
gap and description, each as long as it can be.
-/

namespace Waymark

open Pattern

/-! ## Compiled suffixes -/

namespace MarkerPattern

theorem leads_gaps_star (label : List Nat) (p : Spot) :
    Leads ((gaps 0).compile false label) p (p.skip isGap) :=
  leads_star_one isGap p

theorem leads_gaps_plus {c : Char} (label rest : List _) (column : Nat)
    (marks : List (Mark × Nat)) (hc : isGap c = true) :
    Leads ((gaps 1).compile false label) ⟨c :: rest, column, marks⟩
      (Spot.skip isGap ⟨c :: rest, column, marks⟩) := by
  have hskip : Spot.skip isGap ⟨c :: rest, column, marks⟩ =
      Spot.skip isGap ⟨rest, column + 1, marks⟩ := by
    simp [Spot.skip, hc]
    omega
  rw [hskip]
  exact (leads_empty _).seq ((leads_one rest column marks hc).seq (leads_star_one isGap _))

theorem fails_gaps_plus (label : List Nat) {p : Spot} (hp : ∀ c ∈ p.rest.head?, isGap c = false) :
    Fails ((gaps 1).compile false label) p :=
  Fails.empty_seq ((fails_one hp).seq _)

/-- The spot behind a group, with its edges noted. -/
def throughGroup (name : String) (accept : Char → Bool) (p : Spot) : Spot :=
  ⟨(p.skip accept).rest, (p.skip accept).column,
    (⟨name, true⟩, (p.skip accept).column) :: (⟨name, false⟩, p.column) :: p.marks⟩

theorem leads_groupOf (name : String) (accept : Char → Bool) (cost : Nat) (label : List Nat)
    (p : Spot) :
    Leads ((groupOf name accept cost).compile false label) p (throughGroup name accept p) :=
  (leads_mark ⟨name, false⟩ p).seq
    (((leads_star_one accept _).seq (leads_empty _)).seq (leads_mark ⟨name, true⟩ _))

/-- The spot behind a name and a description. -/
def throughNamed (p : Spot) : Spot :=
  throughGroup "description" (· != '\n')
    ((throughGroup "name" isNameChar (p.skip isGap)).skip isGap)

theorem leads_namedParts {c : Char} (label : List Nat) (rest : List Char) (column : Nat)
    (hc : isGap c = true) :
    Leads ((Expr.catAll (namedParts.map Prod.fst)).compile false label) ⟨c :: rest, column, []⟩
      (throughNamed ⟨c :: rest, column, []⟩) :=
  (leads_gaps_plus _ rest column [] hc).seq ((leads_groupOf "name" isNameChar 55 _ _).seq
    ((leads_gaps_star _ _).seq ((leads_groupOf "description" (· != '\n') 24 _ _).seq
      (leads_empty _))))

theorem fails_namedParts (label : List Nat) {p : Spot} (hp : ∀ c ∈ p.rest.head?, isGap c = false) :
    Fails ((Expr.catAll (namedParts.map Prod.fst)).compile false label) p :=
  (fails_gaps_plus _ hp).seq _

theorem leads_endParts {c : Char} (label : List Nat) (rest : List Char) (column : Nat)
    (hc : isGap c = true) :
    Leads ((Expr.catAll (endParts.map Prod.fst)).compile false label) ⟨c :: rest, column, []⟩
      (throughGroup "name" isNameChar (Spot.skip isGap ⟨c :: rest, column, []⟩)) := by
  have hbody := (leads_gaps_plus label rest column [] hc).seq
    ((leads_groupOf "name" isNameChar 55 label _).seq (leads_empty _))
  exact ((leads_empty _).seq ((hbody.seq (leads_empty _)).alt _)).seq (leads_empty _)

theorem leads_endParts_of_not_gap (label : List Nat) {p : Spot}
    (hp : ∀ c ∈ p.rest.head?, isGap c = false) :
    Leads ((Expr.catAll (endParts.map Prod.fst)).compile false label) p p := by
  have hbody := (fails_gaps_plus label hp).seq
    (.seq ((groupOf "name" isNameChar 55).compile false label) .empty)
  exact ((leads_empty _).seq ((hbody.seq _).alt (leads_empty _))).seq (leads_empty _)

/-! ## A marker and its suffix -/

/-- A literal marker with parts behind it. -/
def literalNode (marker : List Char) (parts : List (Expr × Nat)) (label : List Nat) : Node :=
  (Expr.catAll (marker.map (Reading.literal {}) ++ parts.map Prod.fst)).compile false label

theorem literalNode_cons (c : Char) (marker : List Char) (parts : List (Expr × Nat))
    (label : List Nat) :
    literalNode (c :: marker) parts label =
      .seq (.one fun d => d == c) (literalNode marker parts (1 :: label)) := rfl

theorem leads_literalNode {parts : List (Expr × Nat)} {rest : List Char} {q : Spot}
    {marks : List (Mark × Nat)} (marker : List Char) (column : Nat)
    (hparts : ∀ label, Leads ((Expr.catAll (parts.map Prod.fst)).compile false label)
      ⟨rest, column + marker.length, marks⟩ q) (label : List Nat) :
    Leads (literalNode marker parts label) ⟨marker ++ rest, column, marks⟩ q := by
  induction marker generalizing column label with
  | nil => exact hparts label
  | cons c marker ih =>
      have hshift : column + (c :: marker).length = column + 1 + marker.length := by
        rw [List.length_cons]
        omega
      rw [hshift] at hparts
      have hone : Leads (.one fun d => d == c) ⟨c :: (marker ++ rest), column, marks⟩
          ⟨marker ++ rest, column + 1, marks⟩ :=
        leads_one (marker ++ rest) column marks (beq_self_eq_true c)
      rw [literalNode_cons]
      exact hone.seq (ih (column + 1) hparts (1 :: label))

theorem fails_literalNode {parts : List (Expr × Nat)} {text : List Char}
    {marks : List (Mark × Nat)} (marker : List Char) (column : Nat)
    (hparts : ∀ rest, text = marker ++ rest → ∀ label,
      Fails ((Expr.catAll (parts.map Prod.fst)).compile false label)
        ⟨rest, column + marker.length, marks⟩) (label : List Nat) :
    Fails (literalNode marker parts label) ⟨text, column, marks⟩ := by
  induction marker generalizing column text label with
  | nil => exact hparts text rfl label
  | cons c marker ih =>
      have hshift : column + (c :: marker).length = column + 1 + marker.length := by
        rw [List.length_cons]
        omega
      rw [hshift] at hparts
      rw [literalNode_cons]
      cases text with
      | nil => exact (fails_one (by simp)).seq _
      | cons d text =>
          by_cases hd : d = c
          · rw [hd]
            refine Fails.one_seq (beq_self_eq_true c) (ih (column + 1) ?_ (1 :: label))
            intro rest hrest
            exact hparts rest (by rw [hd, hrest]; rfl)
          · have hne : ∀ e ∈ (d :: text).head?, (e == c) = false := by
              intro e he
              cases he
              exact beq_false_of_ne hd
            exact (fails_one hne).seq _

/-- How a literal marker is read with a suffix: as its characters and the parts of the suffix, if that
is not too large. -/
theorem pattern_build (escape : Bool) (marker suffix : String) {parts : List (Expr × Nat)}
    {names : List String}
    (hliteral : escape = true ∨ Markers.hasPatternSigns marker.toList = false)
    (hsuffix : ∀ r : Reading, r.flags = {} → r.names = [] →
      r.run suffix.toList = some ({ r with names := names }.pushAll parts))
    (hheight : ∀ part ∈ parts, part.2 ≤ 8) :
    (build escape marker suffix).pattern =
      if (Expr.catAll (marker.toList.map (Reading.literal {}) ++ parts.map Prod.fst)).cost ≤
          Reading.maxCost then
        some ⟨literalNode marker.toList parts []⟩
      else none := by
  let text := if escape then quote marker.toList else marker.toList
  let start : Reading := { flags := {} }
  have hmarker : start.run (text ++ suffix.toList) =
      (start.pushAll (Reading.textParts {} marker.toList)).run suffix.toList := by
    cases escape with
    | true => exact Reading.run_quote_append start marker.toList suffix.toList rfl
    | false =>
        have hplain : Markers.hasPatternSigns marker.toList = false := by simpa using hliteral
        exact Reading.run_plain_append start suffix.toList rfl hplain
  have hnames : (start.pushAll (Reading.textParts {} marker.toList)).names = [] := by
    rw [Reading.pushAll_eq]
  have hrun : start.run (text ++ suffix.toList) =
      some ({ flags := {}, names := names : Reading }.pushAll
        (Reading.textParts {} marker.toList ++ parts)) := by
    rw [hmarker, hsuffix _ (Reading.flags_pushAll _ _) hnames, Reading.pushAll_append,
      Reading.pushAll_eq start, Reading.pushAll_eq { flags := {}, names := names }]
  have hexprs : (Reading.textParts {} marker.toList ++ parts).map Prod.fst =
      marker.toList.map (Reading.literal {}) ++ parts.map Prod.fst := by
    simp [Reading.textParts]
  have hall : ∀ part ∈ Reading.textParts {} marker.toList ++ parts, part.2 ≤ 8 := by
    intro part hpart
    rcases List.mem_append.mp hpart with hpart | hpart
    · obtain ⟨c, _, rfl⟩ := List.mem_map.mp hpart
      exact Nat.zero_le 8
    · exact hheight part hpart
  have hresult := Reading.result?_pushAll {} names _ hall
  rw [hexprs] at hresult
  change Option.map _ ((start.run (text ++ suffix.toList)).bind Reading.result?) = _
  rw [hrun, Option.bind_some, hresult]
  split <;> rfl

end MarkerPattern

/-! ## What a line declares -/

/-- The text that marks lines of a kind. -/
def Markers.textOf (m : Markers) : MatchKind → String
  | .regionStart => m.regionStart
  | .regionEnd => m.regionEnd
  | .tag => m.tag

/-- All markers stand for themselves. -/
def Markers.Literal (m : Markers) : Prop :=
  m.escape = true ∨ ∀ kind, Markers.hasPatternSigns (m.textOf kind).toList = false

def LineMatcher.patternOf (l : LineMatcher) : MatchKind → MarkerPattern
  | .regionStart => l.regionStart
  | .regionEnd => l.regionEnd
  | .tag => l.tag

/-- The place of a kind in the order in which the markers are tried. -/
def MatchKind.rank : MatchKind → Nat
  | .regionStart => 0
  | .regionEnd => 1
  | .tag => 2

def startsWithGap (text : List Char) : Bool := text.head?.any isGap

/-- The longest stretch of a class at a spot, as a token. -/
def stretch? (kind : TokenKind) (lineNumber : Nat) (accept : Char → Bool) (p : Spot) :
    Option Token :=
  let text := p.rest.takeWhile accept
  if text.isEmpty then none
  else some ⟨kind, String.ofList text, .onLine lineNumber p.column (p.column + text.length)⟩

/-- The tokens of a line in which a marker stands at a column, by what stands behind the marker. -/
def tokensBehind (kind : MatchKind) (marker : String) (lineNumber column : Nat)
    (behind : List Char) : LineMatch :=
  let start : Spot := ⟨behind, column + marker.toList.length, []⟩
  let name :=
    if startsWithGap behind then stretch? .name lineNumber isNameChar (start.skip isGap) else none
  { kind := kind
    key := ⟨.key, marker, .onLine lineNumber column (column + marker.toList.length)⟩
    name := name
    description :=
      if kind = .regionEnd then none
      else name.bind fun _ =>
        stretch? .description lineNumber (· != '\n') (((start.skip isGap).skip isNameChar).skip isGap) }

/-- The marker of a kind stands at the beginning of a text, with a gap behind it if it needs one. A
marker without a pattern stands nowhere. -/
def Markers.Stands (m : Markers) (kind : MatchKind) (text : List Char) : Prop :=
  ((LineMatcher.ofMarkers m).patternOf kind).pattern.isSome = true ∧
    ∃ behind, text = (m.textOf kind).toList ++ behind ∧
      (kind ≠ .regionEnd → startsWithGap behind = true)

/-- The marker of a kind first stands in a line at a column. -/
structure Markers.FirstStands (m : Markers) (kind : MatchKind) (line : List Char) (i : Nat) :
    Prop where
  le : i ≤ line.length
  stands : m.Stands kind (line.drop i)
  first : ∀ j < i, ¬ m.Stands kind (line.drop j)

namespace LineMatcher

theorem head?_of_startsWithGap {text : List Char} (h : startsWithGap text = true) :
    ∃ c rest, text = c :: rest ∧ isGap c = true := by
  cases text with
  | nil => cases h
  | cons c rest => exact ⟨c, rest, rfl, h⟩

theorem head?_of_not_startsWithGap {text : List Char} (h : startsWithGap text = false) :
    ∀ c ∈ text.head?, isGap c = false := by
  intro c hc
  cases text with
  | nil => cases hc
  | cons d rest =>
      cases hc
      exact h

theorem drop_skip {line : List Char} {p : Spot} (accept : Char → Bool)
    (hp : line.drop p.column = p.rest) :
    line.drop (p.skip accept).column = (p.skip accept).rest := by
  have hsplit : p.rest = p.rest.takeWhile accept ++ p.rest.dropWhile accept :=
    List.takeWhile_append_dropWhile.symm
  have hdrop := @List.drop_left _ (p.rest.takeWhile accept) (p.rest.dropWhile accept)
  rw [← hsplit] at hdrop
  simp only [Spot.skip]
  rw [← List.drop_drop, hp, hdrop]

/-- A group that matched a stretch gives the token of the stretch. -/
theorem groupToken?_eq_stretch? {line : List Char} {found : Match} {p : Spot}
    {accept : Char → Bool} {group : String} (lineNumber : Nat) (kind : TokenKind)
    (hp : line.drop p.column = p.rest)
    (hgroup : found.group? group = some (p.column, (p.skip accept).column)) :
    groupToken? found line lineNumber kind group = stretch? kind lineNumber accept p := by
  have hsplit : p.rest = p.rest.takeWhile accept ++ p.rest.dropWhile accept :=
    List.takeWhile_append_dropWhile.symm
  have htext : (line.take (p.skip accept).column).drop p.column = p.rest.takeWhile accept := by
    have htake := @List.take_left _ (p.rest.takeWhile accept) (p.rest.dropWhile accept)
    rw [← hsplit] at htake
    simp only [Spot.skip]
    rw [List.drop_take, hp, Nat.add_sub_cancel_left, htake]
  simp only [groupToken?, hgroup, htext, stretch?]
  rfl

open MarkerPattern

variable {m : Markers} {kind : MatchKind} {pattern : Pattern}

def partsOf : MatchKind → List (Expr × Nat)
  | .regionStart | .tag => namedParts
  | .regionEnd => endParts

/-- The pattern of a literal marker, if it is not too large for one. -/
theorem pattern_patternOf (hm : m.Literal) (kind : MatchKind) :
    ((ofMarkers m).patternOf kind).pattern =
      if (Expr.catAll ((m.textOf kind).toList.map (Reading.literal {}) ++
          (partsOf kind).map Prod.fst)).cost ≤ Reading.maxCost then
        some ⟨literalNode (m.textOf kind).toList (partsOf kind) []⟩
      else none := by
  have hliteral : m.escape = true ∨ Markers.hasPatternSigns (m.textOf kind).toList = false := by
    rcases hm with hescape | hplain
    · exact .inl hescape
    · exact .inr (hplain kind)
  cases kind with
  | regionStart =>
      exact pattern_build m.escape m.regionStart namedSuffix hliteral
        (fun r hflags hnames => run_namedSuffix hflags hnames) (by decide)
  | tag =>
      exact pattern_build m.escape m.tag namedSuffix hliteral
        (fun r hflags hnames => run_namedSuffix hflags hnames) (by decide)
  | regionEnd =>
      exact pattern_build m.escape m.regionEnd endSuffix hliteral
        (fun r hflags hnames => run_endSuffix hflags hnames) (by decide)

theorem node_eq (hm : m.Literal) (hpattern : ((ofMarkers m).patternOf kind).pattern = some pattern) :
    pattern.node = literalNode (m.textOf kind).toList (partsOf kind) [] := by
  rw [pattern_patternOf hm] at hpattern
  split at hpattern
  · cases hpattern
    rfl
  · cases hpattern

/-- The place of a name in the text behind a marker. -/
def nameSpot (marker : String) (column : Nat) (behind : List Char) : Spot :=
  Spot.skip isGap ⟨behind, column + marker.toList.length, []⟩

theorem drop_nameSpot {line behind : List Char} {marker : String} {i : Nat}
    (htext : line.drop i = marker.toList ++ behind) :
    line.drop (nameSpot marker i behind).column = (nameSpot marker i behind).rest := by
  apply drop_skip isGap
  change line.drop (i + marker.toList.length) = behind
  rw [← List.drop_drop, htext, List.drop_left]

theorem tokens_of_named {line behind : List Char} {i : Nat} {p : MarkerPattern}
    (hkind : kind ≠ .regionEnd) (htext : line.drop i = p.marker.toList ++ behind)
    (hgap : startsWithGap behind = true) (lineNumber : Nat) :
    let q := throughNamed ⟨behind, i + p.marker.toList.length, []⟩
    tokens ⟨i, q.column, q.marks⟩ p line lineNumber kind =
      tokensBehind kind p.marker lineNumber i behind := by
  intro q
  let name := nameSpot p.marker i behind
  let description := (name.skip isNameChar).skip isGap
  have hname : line.drop name.column = name.rest := drop_nameSpot htext
  have hdescription : line.drop description.column = description.rest :=
    drop_skip isGap (drop_skip isNameChar hname)
  have hnameGroup : Match.group? ⟨i, q.column, q.marks⟩ "name" =
      some (name.column, (name.skip isNameChar).column) := by
    simp [q, throughNamed, throughGroup, Match.group?, Match.edge?, name, nameSpot, Spot.skip]
  have hdescriptionGroup : Match.group? ⟨i, q.column, q.marks⟩ "description" =
      some (description.column, (description.skip (· != '\n')).column) := by
    simp [q, throughNamed, throughGroup, Match.group?, Match.edge?, description, name, nameSpot,
      Spot.skip]
  have hnameToken := groupToken?_eq_stretch? lineNumber .name hname hnameGroup
  have hdescriptionToken :=
    groupToken?_eq_stretch? lineNumber .description hdescription hdescriptionGroup
  simp only [tokens, tokensBehind, hnameToken, hdescriptionToken, hgap, if_true, if_neg hkind]
  rfl

theorem tokens_of_end {line behind : List Char} {i : Nat} {p : MarkerPattern}
    (htext : line.drop i = p.marker.toList ++ behind) (hgap : startsWithGap behind = true)
    (lineNumber : Nat) :
    let q := throughGroup "name" isNameChar (nameSpot p.marker i behind)
    tokens ⟨i, q.column, q.marks⟩ p line lineNumber .regionEnd =
      tokensBehind .regionEnd p.marker lineNumber i behind := by
  intro q
  let name := nameSpot p.marker i behind
  have hname : line.drop name.column = name.rest := drop_nameSpot htext
  have hnameGroup : Match.group? ⟨i, q.column, q.marks⟩ "name" =
      some (name.column, (name.skip isNameChar).column) := by
    simp [q, throughGroup, Match.group?, Match.edge?, name, nameSpot, Spot.skip]
  have hdescriptionGroup : Match.group? ⟨i, q.column, q.marks⟩ "description" = none := by
    simp [q, throughGroup, Match.group?, Match.edge?, nameSpot, Spot.skip]
  have hnameToken := groupToken?_eq_stretch? lineNumber .name hname hnameGroup
  have hdescriptionToken : groupToken? ⟨i, q.column, q.marks⟩ line lineNumber .description
      "description" = none := by
    simp only [groupToken?, hdescriptionGroup]
  simp only [tokens, tokensBehind, hnameToken, hdescriptionToken, hgap, if_true,
    Option.bind_fun_none]
  rfl

theorem tokens_of_bare_end {line behind : List Char} {i : Nat} {p : MarkerPattern}
    (hgap : startsWithGap behind = false) (stop lineNumber : Nat) :
    tokens ⟨i, stop, []⟩ p line lineNumber .regionEnd =
      tokensBehind .regionEnd p.marker lineNumber i behind := by
  simp [tokens, tokensBehind, hgap, groupToken?, Match.group?, Match.edge?]

/-- Where a marker stands the pattern matches, and the groups are the stretches behind it. -/
theorem exists_match_of_stands (hm : m.Literal) {line : List Char} {i : Nat}
    (hpattern : ((ofMarkers m).patternOf kind).pattern = some pattern)
    {behind : List Char} (htext : line.drop i = (m.textOf kind).toList ++ behind)
    (hgap : kind ≠ .regionEnd → startsWithGap behind = true) (lineNumber : Nat) :
    ∃ found, (∀ before, pattern.node.matchAt? before i (line.drop i) = some found) ∧
      tokens found ((ofMarkers m).patternOf kind) line lineNumber kind =
        tokensBehind kind (m.textOf kind) lineNumber i behind := by
  have hmarker : ((ofMarkers m).patternOf kind).marker = m.textOf kind := by cases kind <;> rfl
  have htext' : line.drop i = ((ofMarkers m).patternOf kind).marker.toList ++ behind := by
    rw [hmarker, htext]
  have hnode := node_eq hm hpattern
  by_cases hend : kind = .regionEnd
  · subst hend
    cases hbehind : startsWithGap behind with
    | true =>
        obtain ⟨c, rest, hrest, hc⟩ := head?_of_startsWithGap hbehind
        have hleads : Leads pattern.node ⟨line.drop i, i, []⟩
            (throughGroup "name" isNameChar (nameSpot m.regionEnd i behind)) := by
          rw [hnode, htext]
          refine leads_literalNode _ i (fun label => ?_) []
          rw [hrest]
          exact leads_endParts label rest _ hc
        refine ⟨_, matchAt?_of_leads hleads, ?_⟩
        exact tokens_of_end htext' hbehind lineNumber
    | false =>
        have hleads : Leads pattern.node ⟨line.drop i, i, []⟩
            ⟨behind, i + m.regionEnd.toList.length, []⟩ := by
          rw [hnode, htext]
          refine leads_literalNode _ i (fun label => ?_) []
          exact leads_endParts_of_not_gap label (head?_of_not_startsWithGap hbehind)
        refine ⟨_, matchAt?_of_leads hleads, ?_⟩
        exact tokens_of_bare_end hbehind _ lineNumber
  · obtain ⟨c, rest, hrest, hc⟩ := head?_of_startsWithGap (hgap hend)
    have hparts : partsOf kind = namedParts := by
      cases kind with
      | regionStart => rfl
      | tag => rfl
      | regionEnd => exact absurd rfl hend
    have hleads : Leads pattern.node ⟨line.drop i, i, []⟩
        (throughNamed ⟨behind, i + (m.textOf kind).toList.length, []⟩) := by
      rw [hnode, htext, hparts]
      refine leads_literalNode _ i (fun label => ?_) []
      rw [hrest]
      exact leads_namedParts label rest _ hc
    refine ⟨_, matchAt?_of_leads hleads, ?_⟩
    have htokens := tokens_of_named hend htext' (hgap hend) lineNumber
    rw [hmarker] at htokens
    exact htokens

theorem matchAt?_of_not_stands (hm : m.Literal) {text : List Char}
    (hpattern : ((ofMarkers m).patternOf kind).pattern = some pattern)
    (hstands : ¬ m.Stands kind text) (before : Option Char) (column : Nat) :
    pattern.node.matchAt? before column text = none := by
  have hsome : ((ofMarkers m).patternOf kind).pattern.isSome = true := by rw [hpattern]; rfl
  apply matchAt?_of_fails
  rw [node_eq hm hpattern]
  refine fails_literalNode _ column ?_ []
  intro behind htext label
  have hkind : kind ≠ .regionEnd ∧ startsWithGap behind = false := by
    constructor
    · intro hend
      exact hstands ⟨hsome, behind, htext, fun hne => absurd hend hne⟩
    · rw [← Bool.not_eq_true]
      intro hgap
      exact hstands ⟨hsome, behind, htext, fun _ => hgap⟩
  have hparts : partsOf kind = namedParts := by
    cases kind with
    | regionStart => rfl
    | tag => rfl
    | regionEnd => exact absurd rfl hkind.1
  rw [hparts]
  exact fails_namedParts label (head?_of_not_startsWithGap hkind.2)

/-- The marker of a kind stands nowhere in a line. -/
def Absent (m : Markers) (kind : MatchKind) (line : List Char) : Prop :=
  ∀ j ≤ line.length, ¬ m.Stands kind (line.drop j)

theorem absent_or_firstStands (m : Markers) (kind : MatchKind) (line : List Char) :
    Absent m kind line ∨ ∃ i, m.FirstStands kind line i := by
  by_cases hexists : ∃ i, i ≤ line.length ∧ m.Stands kind (line.drop i)
  · classical
    obtain ⟨hle, hstands⟩ := Nat.find_spec hexists
    refine .inr ⟨Nat.find hexists, hle, hstands, ?_⟩
    intro j hj hstandsJ
    exact Nat.find_min hexists hj ⟨by omega, hstandsJ⟩
  · refine .inl ?_
    intro j hj hstands
    exact hexists ⟨j, hj, hstands⟩

/-- What the pattern of one kind finds in a line. -/
def found? (m : Markers) (kind : MatchKind) (line : List Char) (lineNumber : Nat) :
    Option LineMatch :=
  (((ofMarkers m).patternOf kind).find? line).map fun found =>
    tokens found ((ofMarkers m).patternOf kind) line lineNumber kind

theorem found?_of_absent (hm : m.Literal) {line : List Char} (h : Absent m kind line)
    (lineNumber : Nat) : found? m kind line lineNumber = none := by
  rw [found?, MarkerPattern.find?]
  cases hpattern : ((ofMarkers m).patternOf kind).pattern with
  | none => rfl
  | some pattern =>
      have hnone : pattern.node.findFrom none 0 line = none :=
        findFrom_eq_none
          (fun before j hj => matchAt?_of_not_stands hm hpattern (h j hj) before (0 + j)) none
      rw [Option.bind_some, Pattern.find?, hnone]
      rfl

theorem found?_of_firstStands (hm : m.Literal) {line : List Char} {i : Nat}
    (h : m.FirstStands kind line i) (lineNumber : Nat) :
    found? m kind line lineNumber =
      some (tokensBehind kind (m.textOf kind) lineNumber i
        (line.drop (i + (m.textOf kind).toList.length))) := by
  obtain ⟨hsome, behind, htext, hgap⟩ := h.stands
  obtain ⟨pattern, hpattern⟩ := Option.isSome_iff_exists.mp hsome
  obtain ⟨found, hfound, htokens⟩ := exists_match_of_stands hm hpattern htext hgap lineNumber
  have hbehind : line.drop (i + (m.textOf kind).toList.length) = behind := by
    rw [← List.drop_drop, htext, List.drop_left]
  have hsearch : pattern.node.findFrom none 0 line = some found := by
    refine findFrom_eq_some (i := i) ?_ ?_ h.le none
    · intro before j hj
      exact matchAt?_of_not_stands hm hpattern (h.first j hj) before (0 + j)
    · intro before
      rw [Nat.zero_add]
      exact hfound before
  rw [found?, MarkerPattern.find?, hpattern, Option.bind_some, Pattern.find?, hsearch,
    Option.map_some, htokens, hbehind]

theorem matchLine_eq (m : Markers) (line : String) (lineNumber : Nat) :
    matchLine (ofMarkers m) line lineNumber =
      (found? m .regionStart line.toList lineNumber).or
        ((found? m .regionEnd line.toList lineNumber).or
          (found? m .tag line.toList lineNumber)) := by
  have hstart : ((ofMarkers m).regionStart.find? line.toList).map (fun found =>
      tokens found (ofMarkers m).regionStart line.toList lineNumber .regionStart) =
      found? m .regionStart line.toList lineNumber := rfl
  have hend : ((ofMarkers m).regionEnd.find? line.toList).map (fun found =>
      tokens found (ofMarkers m).regionEnd line.toList lineNumber .regionEnd) =
      found? m .regionEnd line.toList lineNumber := rfl
  have htag : ((ofMarkers m).tag.find? line.toList).map (fun found =>
      tokens found (ofMarkers m).tag line.toList lineNumber .tag) =
      found? m .tag line.toList lineNumber := rfl
  simp only [matchLine, List.findSome?, hstart, hend, htag]
  cases found? m .regionStart line.toList lineNumber <;>
    cases found? m .regionEnd line.toList lineNumber <;>
      cases found? m .tag line.toList lineNumber <;> rfl

theorem matchLine_eq_none_iff {line : String} {lineNumber : Nat} :
    matchLine (ofMarkers m) line lineNumber = none ↔
      ∀ kind, ((ofMarkers m).patternOf kind).find? line.toList = none := by
  simp only [matchLine_eq, found?, Option.or_eq_none_iff, Option.map_eq_none_iff]
  constructor
  · rintro ⟨hstart, hend, htag⟩ kind
    cases kind with
    | regionStart => exact hstart
    | regionEnd => exact hend
    | tag => exact htag
  · exact fun h => ⟨h .regionStart, h .regionEnd, h .tag⟩

theorem absent_iff_find?_eq_none (hm : m.Literal) {line : List Char} :
    Absent m kind line ↔ ((ofMarkers m).patternOf kind).find? line = none := by
  constructor
  · intro h
    have hfound := found?_of_absent hm h 0
    rwa [found?, Option.map_eq_none_iff] at hfound
  · intro h
    rcases absent_or_firstStands m kind line with habsent | ⟨i, hfirst⟩
    · exact habsent
    · have hfound := found?_of_firstStands hm hfirst 0
      rw [found?, h] at hfound
      cases hfound

/-- A line declares nothing if none of the markers stands in it. -/
theorem matchLine_eq_none_iff_absent (hm : m.Literal) {line : String} {lineNumber : Nat} :
    matchLine (ofMarkers m) line lineNumber = none ↔ ∀ kind, Absent m kind line.toList := by
  simp only [matchLine_eq_none_iff, absent_iff_find?_eq_none hm]

/-- What a line declares: the marker that is tried first of those that stand in the line counts, where
it first stands. -/
theorem matchLine_eq_some_iff (hm : m.Literal) (line : String) (lineNumber : Nat)
    (f : LineMatch) :
    matchLine (ofMarkers m) line lineNumber = some f ↔
      ∃ kind i, m.FirstStands kind line.toList i ∧
        (∀ kind' : MatchKind, kind'.rank < kind.rank → Absent m kind' line.toList) ∧
        f = tokensBehind kind (m.textOf kind) lineNumber i
          (line.toList.drop (i + (m.textOf kind).toList.length)) := by
  rw [matchLine_eq]
  constructor
  · intro hmatch
    rcases absent_or_firstStands m .regionStart line.toList with hstart | ⟨i, hstart⟩
    · rw [found?_of_absent hm hstart, Option.none_or] at hmatch
      rcases absent_or_firstStands m .regionEnd line.toList with hend | ⟨i, hend⟩
      · rw [found?_of_absent hm hend, Option.none_or] at hmatch
        rcases absent_or_firstStands m .tag line.toList with htag | ⟨i, htag⟩
        · rw [found?_of_absent hm htag] at hmatch
          cases hmatch
        · rw [found?_of_firstStands hm htag] at hmatch
          refine ⟨.tag, i, htag, ?_, (Option.some.inj hmatch).symm⟩
          intro kind' hrank
          cases kind' with
          | regionStart => exact hstart
          | regionEnd => exact hend
          | tag => exact absurd hrank (Nat.lt_irrefl _)
      · rw [found?_of_firstStands hm hend, Option.some_or] at hmatch
        refine ⟨.regionEnd, i, hend, ?_, (Option.some.inj hmatch).symm⟩
        intro kind' hrank
        cases kind' with
        | regionStart => exact hstart
        | regionEnd => exact absurd hrank (Nat.lt_irrefl _)
        | tag => exact absurd hrank (by decide)
    · rw [found?_of_firstStands hm hstart, Option.some_or] at hmatch
      refine ⟨.regionStart, i, hstart, ?_, (Option.some.inj hmatch).symm⟩
      intro kind' hrank
      exact absurd hrank (Nat.not_lt_zero _)
  · intro hfirst
    obtain ⟨kind, i, hstands, hearlier, rfl⟩ := hfirst
    cases kind with
    | regionStart => rw [found?_of_firstStands hm hstands, Option.some_or]
    | regionEnd =>
        rw [found?_of_absent hm (hearlier .regionStart (by decide)), Option.none_or,
          found?_of_firstStands hm hstands, Option.some_or]
    | tag =>
        rw [found?_of_absent hm (hearlier .regionStart (by decide)), Option.none_or,
          found?_of_absent hm (hearlier .regionEnd (by decide)), Option.none_or,
          found?_of_firstStands hm hstands]

end LineMatcher

end Waymark
