import Waymark.Proofs.Document.Edits
import Waymark.Proofs.Marker.Renamed
import Waymark.Proofs.Region.Target
import Waymark.Region.Provider

/-!
# What a renaming does

The edits of a renaming put another text in the place of one name, and of the name on the end line if
there is one. Parsed again, the document has the same regions and tags with that name changed.
-/

namespace Waymark

/-! ## Lines of literal markers -/

section

variable {m : Markers} {i : Nat} {found : LineMatch} {token : Token}

theorem isRun_of_isNameChar {w : List Char} (hne : w ≠ []) (hw : ∀ c ∈ w, isNameChar c = true) :
    Text.IsRun w := by
  refine ⟨hne, ?_⟩
  intro c hc
  exact Text.isLineBreak_eq_false (by simpa [isNameChar] using hw c hc)

theorem namesOnLine (hliteral : m.Literal) (hm : m.Solid) (lines : List String) :
    NamesOnLine (MatchesLines.matchLine (LineMatcher.ofMarkers m)) lines := by
  intro i found token hfound htoken
  obtain ⟨line, _, _, hmatch⟩ := declaredAt?_eq_some.mp hfound
  obtain ⟨x, w, y, _, hspan, _⟩ := LineMatcher.matchLine_renamed hliteral hm hmatch htoken
  rw [hspan]
  exact ⟨_, _, rfl⟩

/-- The edit of a name gives the line another name and leaves what else it declares. -/
theorem exists_rewords (hliteral : m.Literal) (hm : m.Solid) {d : Document}
    (hfound : declaredAt? (MatchesLines.matchLine (LineMatcher.ofMarkers m)) d.lines i = some found)
    (htoken : found.name = some token) {name : String} (hfresh : m.Fresh name.toList) :
    ∃ after found', TextEdit.line ⟨token.span, name⟩ = i ∧ d.Rewords ⟨token.span, name⟩ after ∧
      Text.isBlankLine after.toList = false ∧
      LineMatcher.matchLine (.ofMarkers m) after i = some found' ∧ found.Renamed found' name := by
  obtain ⟨line, hline, _, hmatch⟩ := declaredAt?_eq_some.mp hfound
  obtain ⟨x, w, y, hsplit, rfl, hne, hw, hrenamed⟩ :=
    LineMatcher.matchLine_renamed hliteral hm hmatch htoken
  obtain ⟨found', hmatch', hfound'⟩ := hrenamed name.toList hfresh
  rw [String.ofList_toList] at hfound'
  refine ⟨_, found', rfl, ⟨line, x, w, y, hline, hsplit, rfl, isRun_of_isNameChar hne hw,
    isRun_of_isNameChar hfresh.ne_nil hfresh.word, rfl⟩, ?_, hmatch', hfound'⟩
  -- the name is not blank
  obtain ⟨c, rest, hname⟩ := List.exists_cons_of_ne_nil hfresh.ne_nil
  have hc : Unicode.isBlank c = false := by
    simpa [isNameChar] using hfresh.word c (by simp [hname])
  rw [String.toList_ofList, Text.isBlankLine, List.all_eq_false]
  exact ⟨c, by simp [hname], by simp [hc]⟩

theorem LineMatch.Renamed.texts_eq {found' : LineMatch} {name : String}
    (h : found.Renamed found' name) : found'.texts = { found.texts with name := some name } := by
  rw [LineMatch.texts, h.kind_eq, h.key_eq, h.name_eq, h.description_eq]
  rfl

/-- The edits give the lines of one name another one. -/
theorem relabelled_applyEdits (hliteral : m.Literal) (hm : m.Solid) {d : Document}
    {pairs : List (Nat × Nat)} {position : Position} {old name : String} {edits : List TextEdit}
    (hedits : NameEdits (MatchesLines.matchLine (LineMatcher.ofMarkers m)) d.lines pairs position old
      name edits)
    (hfresh : m.Fresh name.toList)
    (hnew : ∀ i line found token, d.lines[i]? = some line →
      LineMatcher.matchLine (.ofMarkers m) line i = some found → found.name = some token →
      token.text ≠ name) :
    Relabelled (MatchesLines.matchLine (LineMatcher.ofMarkers m)) d.lines (d.applyEdits edits).lines
      (fun i => ∃ e ∈ edits, e.line = i) old name := by
  have hwords : ∀ e ∈ edits, ∃ after, d.Rewords e after := by
    intro e he
    obtain ⟨i, found, token, hfound, htoken, _, rfl⟩ := hedits.names e he
    obtain ⟨after, _, _, hrewords, _⟩ := exists_rewords hliteral hm hfound htoken hfresh
    exact ⟨after, hrewords⟩
  refine ⟨Document.length_lines_applyEdits hedits.distinct hwords, ?_, ?_, ?_⟩
  · intro i hi
    have hkept : (d.applyEdits edits).lines[i]? = d.lines[i]? :=
      Document.lines_applyEdits_of_ne hedits.distinct hwords fun e he hline => hi ⟨e, he, hline⟩
    rw [textsAt?, textsAt?, declaredAt?, declaredAt?, hkept]
  · intro i hi
    obtain ⟨e, he, hline⟩ := hi
    obtain ⟨j, found, token, hfound, htoken, htext, rfl⟩ := hedits.names e he
    obtain ⟨after, found', hj, hrewords, hblank, hmatch, hrenamed⟩ :=
      exists_rewords hliteral hm hfound htoken hfresh
    have hji : j = i := hj.symm.trans hline
    rw [hji] at hfound hmatch
    have hafter := Document.lines_applyEdits_of_mem hedits.distinct hwords he hrewords
    rw [hline] at hafter
    have hfound' : declaredAt? (MatchesLines.matchLine (LineMatcher.ofMarkers m))
        (d.applyEdits edits).lines i = some found' :=
      declaredAt?_eq_some.mpr ⟨after, hafter, hblank, hmatch⟩
    refine ⟨found.texts, textsAt?_of_declared hfound, ?_, ?_⟩
    · rw [LineMatch.texts, htoken, Option.map_some, htext]
    · rw [textsAt?_of_declared hfound', hrenamed.texts_eq]
  · intro i texts htexts hname
    obtain ⟨found, hfound, rfl⟩ := Option.map_eq_some_iff.mp htexts
    obtain ⟨token, htoken, htext⟩ := Option.map_eq_some_iff.mp hname
    obtain ⟨line, hline, _, hmatch⟩ := declaredAt?_eq_some.mp hfound
    exact hnew i line found token hline hmatch htoken htext

end

/-! ## Updates -/

namespace Provider

section

variable {μ : Type} [MatchesLines μ] {p : Provider μ} {d : Document}

theorem update_of_parses (cancel : Cancellation) (henabled : p.enabled = true)
    (hversion : p.version ≠ some d.version) :
    p.update d cancel =
      match (ParseRun.ofLines p.matcher cancel d.lines).outcome.parsed? with
      | none => (p, ⟨false, some (ParseRun.ofLines p.matcher cancel d.lines)⟩)
      | some parsed =>
        ({ p with
            version := some d.version, parsed := parsed, outline := .ofParsed parsed d.revision },
          ⟨true, some (ParseRun.ofLines p.matcher cancel d.lines)⟩) := by
  have hparse : ¬ (!p.enabled || p.version == some d.version) = true := by
    simp [henabled, hversion]
  unfold update
  exact if_neg hparse

/-- An update that replaces the parse has parsed the document. -/
theorem update_of_updated {cancel : Cancellation} (h : (p.update d cancel).2.updated = true) :
    (p.update d cancel).1.enabled = true ∧ (p.update d cancel).1.matcher = p.matcher ∧
      (p.update d cancel).1.version = some d.version ∧
      (p.update d cancel).1.parsed =
        (pairingAt (MatchesLines.matchLine p.matcher) d.lines d.lines.length).parsed := by
  by_cases hparse : p.enabled = true ∧ p.version ≠ some d.version
  · obtain ⟨henabled, hversion⟩ := hparse
    rw [update_of_parses cancel henabled hversion] at h ⊢
    cases hrun : (ParseRun.ofLines p.matcher cancel d.lines).outcome.parsed? with
    | none =>
        rw [hrun] at h
        cases h
    | some parsed => exact ⟨henabled, rfl, rfl, ParseRun.parsed?_eq_some _ _ _ hrun⟩
  · have hskip : (!p.enabled || p.version == some d.version) = true := by
      by_cases henabled : p.enabled = true
      · by_cases hversion : p.version = some d.version
        · simp [hversion]
        · exact absurd ⟨henabled, hversion⟩ hparse
      · simp [henabled]
    rw [update, if_pos hskip] at h
    cases h

/-- A document of another version is parsed. -/
theorem updated_never (henabled : p.enabled = true) (hversion : p.version ≠ some d.version) :
    (p.update d .never).2.updated = true := by
  rw [update_of_parses .never henabled hversion, ParseRun.outcome_never]
  rfl

end

end Provider

theorem Document.revision_applyEdits (d : Document) (edits : List TextEdit) :
    (d.applyEdits edits).revision = d.revision + UInt64.ofNat edits.length := by
  induction edits generalizing d with
  | nil => exact (UInt64.add_zero d.revision).symm
  | cons e rest ih =>
      have happly : (e.apply d).revision = d.revision + 1 := rfl
      rw [applyEdits_cons, ih, happly, List.length_cons, UInt64.ofNat_add,
        UInt64.add_comm (UInt64.ofNat rest.length), ← UInt64.add_assoc]
      rfl

/-- A few edits lead to another version. -/
theorem Document.version_applyEdits_ne (d : Document) {edits : List TextEdit} (hne : edits ≠ [])
    (hfew : edits.length ≤ 2) : (d.applyEdits edits).version ≠ d.version := by
  intro heq
  have hrevision := congrArg Version.revision heq
  simp only [version, revision_applyEdits] at hrevision
  have hzero : UInt64.ofNat edits.length = 0 := UInt64.add_eq_left.mp hrevision
  have hpos : 0 < edits.length := List.length_pos_iff.mpr hne
  have hlength : edits.length = 1 ∨ edits.length = 2 := by omega
  rcases hlength with hone | htwo
  · rw [hone] at hzero
    cases hzero
  · rw [htwo] at hzero
    cases hzero

namespace Provider

/-- Another name, once its edits are made in any order and the document is parsed again, is the name of
the entry at the position, and all else is as it was. The markers are literal ones, and the name is not
one that any line declares. -/
theorem update_applyEdits {m : Markers} (hliteral : m.Literal) (hm : m.Solid)
    {p₀ : Provider LineMatcher} (hmatcher : p₀.matcher = .ofMarkers m) {d : Document}
    {cancel : Cancellation} (hupdated : (p₀.update d cancel).2.updated = true) {position : Position}
    {name : String} {edits order : List TextEdit}
    (hedits : (p₀.update d cancel).1.renameEdits position name = .ok edits)
    (hfresh : m.Fresh name.toList)
    (hnew : ∀ i line found token, d.lines[i]? = some line →
      LineMatcher.matchLine (.ofMarkers m) line i = some found → found.name = some token →
      token.text ≠ name)
    (horder : order.Perm edits) :
    let p := (p₀.update d cancel).1
    let q := p.update (d.applyEdits order) .never
    q.2.updated = true ∧ p.parsed.countAt position = 1 ∧
      List.Forall₂ (Region.Renamed position name) p.parsed.regions q.1.parsed.regions ∧
      List.Forall₂ (Tag.Renamed position name) p.parsed.tags q.1.parsed.tags := by
  intro p q
  obtain ⟨henabled, hsame, hversion, hparsed⟩ := update_of_updated hupdated
  have hpmatcher : p.matcher = .ofMarkers m := hsame.trans hmatcher
  rw [hmatcher] at hparsed
  obtain ⟨pairs, hparses⟩ :=
    parsesTo_pairingAt (MatchesLines.matchLine (LineMatcher.ofMarkers m)) d.lines
  rw [← hparsed] at hparses
  obtain ⟨hone, hne, hfew, old, hnameEdits⟩ :=
    hparses.nameEdits (namesOnLine hliteral hm d.lines) hedits
  have hnameEdits := hnameEdits.perm horder
  have hrel := relabelled_applyEdits hliteral hm hnameEdits hfresh hnew
  -- the edited document has another version, so it is parsed
  have hlength : order.length = edits.length := horder.length_eq
  have horderne : order ≠ [] := by
    intro hempty
    rw [hempty] at horder
    exact hne horder.symm.eq_nil
  have hother : p.version ≠ some (d.applyEdits order).version := by
    intro heq
    rw [hversion, Option.some.injEq] at heq
    exact d.version_applyEdits_ne horderne (by omega) heq.symm
  have hagain : q.2.updated = true := updated_never henabled hother
  obtain ⟨_, _, _, hparsed'⟩ := update_of_updated hagain
  rw [hpmatcher] at hparsed'
  obtain ⟨pairs', hparses'⟩ := parsesTo_pairingAt
    (MatchesLines.matchLine (LineMatcher.ofMarkers m)) (d.applyEdits order).lines
  rw [← hparsed'] at hparses'
  exact ⟨hagain, hone, hparses.renamed_of_relabelled hparses' hrel hnameEdits.edited⟩

/-- A region in another one of its name. -/
def namesakes : Document :=
  { id := 1, text := "#region a outer\n#region a\n#endregion\n#endregion a\n#tag b" }

theorem update_applyEdits_namesakes :
    let p := ((ofMarkers {}).update namesakes .never).1
    let edits : List TextEdit := [⟨.onLine 0 8 9, "c"⟩, ⟨.onLine 3 11 12, "c"⟩]
    let q := p.update (namesakes.applyEdits edits.reverse) .never
    p.renameEdits ⟨3, 11⟩ "c" = .ok edits ∧
      List.Forall₂ (Region.Renamed ⟨3, 11⟩ "c") p.parsed.regions q.1.parsed.regions := by
  intro p edits q
  have hliteral : Markers.Literal {} := .inr fun kind => by cases kind <;> decide
  have hplain : ∀ kind, ((Markers.textOf {} kind).toList.all fun c => !Unicode.isBlank c) = true := by
    intro kind
    cases kind <;> decide
  have hsolid : Markers.Solid {} := by
    intro kind
    refine ⟨by cases kind <;> decide, ?_⟩
    intro c hc
    simpa using List.all_eq_true.mp (hplain kind) c hc
  have hword : "c".toList.all isNameChar = true := by decide
  have hfresh : Markers.Fresh {} "c".toList :=
    ⟨by decide, List.all_eq_true.mp hword, fun kind => by cases kind <;> decide⟩
  have hedits : p.renameEdits ⟨3, 11⟩ "c" = .ok edits := by decide +kernel
  have hnames : ∀ i < 5, ∀ line ∈ namesakes.lines[i]?,
      ∀ found ∈ LineMatcher.matchLine (.ofMarkers {}) line i, ∀ token ∈ found.name,
        token.text ≠ "c" := by
    decide +kernel
  have hcount : namesakes.lines.length = 5 := by decide +kernel
  refine ⟨hedits, (update_applyEdits hliteral hsolid rfl (by decide +kernel) hedits hfresh ?_
    edits.reverse_perm).2.2.1⟩
  intro i line found token hline hmatch htoken
  have hlt := (List.getElem?_eq_some_iff.mp hline).1
  exact hnames i (by omega) line hline found hmatch token htoken

end Provider

end Waymark
