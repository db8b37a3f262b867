import Waymark.Proofs.Marker.Default
import Waymark.Proofs.Outline.Layout
import Waymark.Proofs.Outline.Nest
import Waymark.Proofs.Region.Pairing

/-!
# From a forest to a text and back

The outline of a text that writes a forest out is that forest again. Going through the lines of a layout, a
parse adds just the symbols of its forest to what it has found, and leaves the stack of waiting starts as it
was. So every end of the layout finds its own start on top, whatever the names are.
-/

namespace Waymark

open Pattern Text

/-! ## What the lines of a layout declare -/

section

variable {label : Label} {lead : String}

theorem Label.WellFormed.isNameChar (h : label.WellFormed) :
    ∀ c ∈ label.name.toList, isNameChar c = true := by
  intro c hc
  simp [Waymark.isNameChar, h.name_word c hc]

theorem Label.WellFormed.stretch?_tail (h : label.WellFormed) (i column : Nat) :
    (stretch? .description i (· != '\n') (Spot.skip isGap ⟨label.tail.toList, column, []⟩)).map
      Token.text = label.detail := by
  cases hdetail : label.detail with
  | none => simp [Label.tail, hdetail, Spot.skip, stretch?]
  | some detail =>
      have htail : label.tail.toList = ' ' :: detail.toList := by simp [Label.tail, hdetail]
      have hline : '\n' ∉ detail.toList := fun hmem =>
        Bool.noConfusion ((h.detail_filler detail hdetail).no_break '\n' hmem)
      rw [htail, LineMatcher.stretch?_behind_space (h.detail_ne detail hdetail)
        (h.detail_start detail hdetail) hline, String.ofList_toList]

theorem matchLine_labelLine (kind : MatchKind) (hkind : kind ≠ .regionEnd)
    (hlead : IsFiller lead.toList) (hlabel : label.WellFormed) (i : Nat) :
    ∃ found name,
      LineMatcher.matchLine (.ofMarkers {}) (Layout.labelLine lead (Markers.textOf {} kind) label) i =
        some found ∧ found.kind = kind ∧ found.name = some name ∧ name.text = label.name ∧
          found.description.map Token.text = label.detail := by
  have hsign : '#' ∉ ' ' :: (label.name.toList ++ label.tail.toList) := by
    simp [hlabel.name_no_sign, hlabel.filler_tail.no_sign]
  have hstop : ∀ c ∈ label.tail.toList.head?, isNameChar c = false := by
    rw [Label.tail]
    split
    · simp
    · rw [String.toList_append]
      rintro c hc
      cases hc
      rfl
  have hmatch := LineMatcher.matchLine_of_marker kind
    (Layout.toList_labelLine lead (Markers.textOf {} kind) label) hlead.no_sign hsign (fun _ => rfl) i
  have hsplit := LineMatcher.tokensBehind_split kind (Markers.textOf {} kind) i lead.toList.length
    (List.cons_ne_nil ' ' []) (by simp [isGap]) hlabel.name_ne hlabel.isNameChar hstop
  rw [List.singleton_append] at hsplit
  rw [hsplit, if_neg hkind] at hmatch
  exact ⟨_, _, hmatch, rfl, rfl, String.ofList_toList, hlabel.stretch?_tail i _⟩

theorem matchLine_endLine {name : Option String} (hlead : IsFiller lead.toList)
    (hlabel : label.WellFormed) (hname : ∀ n ∈ name, n = label.name) (i : Nat) :
    ∃ found, LineMatcher.matchLine (.ofMarkers {}) (Layout.endLine lead name) i = some found ∧
      found.kind = .regionEnd ∧ ∀ n ∈ found.name, n.text = label.name := by
  have hmatch := LineMatcher.matchLine_of_marker .regionEnd
    (Layout.toList_endLine lead name) hlead.no_sign (Layout.filler_endName hlabel hname).no_sign
    (fun h => absurd rfl h) i
  refine ⟨_, hmatch, rfl, ?_⟩
  cases name with
  | none => simp [tokensBehind, startsWithGap]
  | some n =>
      have hsplit := LineMatcher.tokensBehind_split .regionEnd (Markers.textOf {} .regionEnd) i
        lead.toList.length (List.cons_ne_nil ' ' []) (by simp [isGap]) hlabel.name_ne
        hlabel.isNameChar (y := []) (by simp)
      have hbehind : ((some n).elim "" fun name => " " ++ name).toList = ' ' :: label.name.toList := by
        simp [hname n rfl]
      rw [List.append_nil, List.singleton_append] at hsplit
      rw [hbehind, hsplit]
      rintro token htoken
      cases htoken
      exact String.ofList_toList

end

/-! ## What a parse adds -/

def ParsedRegions.symbols (p : ParsedRegions) : List OutlineSymbol :=
  p.regions.map .ofRegion ++ p.tags.map .ofTag

namespace Pairing

/-- The symbols of a forest have been added to what was found, and the same starts wait. -/
structure Adds (s s' : Pairing) (f : Forest OutlineSymbol) : Prop where
  unpaired_eq : s'.unpaired = s.unpaired
  symbols_perm : s'.parsed.symbols.Perm (s.parsed.symbols ++ f.preorder)

variable {s s' s₁ s₂ : Pairing} {below after : Forest OutlineSymbol} {found found' : LineMatch}
  {name : Token} {span span' : Span}

theorem Adds.refl (s : Pairing) : Adds s s .nil :=
  ⟨rfl, by rw [Forest.preorder, List.append_nil]⟩

theorem Adds.tag (hkind : found.kind = .tag) (hname : found.name = some name)
    (h : Adds (s.feed found span) s' after) :
    Adds s s' (.node (.ofTag ⟨found.key, name, found.description, span⟩) .nil after) := by
  have hfeed : s.feed found span =
      { s with parsed.tags := s.parsed.tags ++ [⟨found.key, name, found.description, span⟩] } := by
    rw [feed, hkind, hname]
  rw [hfeed] at h
  refine ⟨h.unpaired_eq, ?_⟩
  simpa [ParsedRegions.symbols, Forest.preorder] using h.symbols_perm

theorem Adds.region (hkind : found.kind = .regionStart) (hname : found.name = some name)
    (hbelow : Adds (s.feed found span) s₁ below) (hkind' : found'.kind = .regionEnd)
    (hname' : ∀ n ∈ found'.name, n.text = name.text) (hafter : Adds (s₁.feed found' span') s₂ after) :
    Adds s s₂ (.node
      (.ofRegion (Pairing.region ⟨found.key, name, found.description, span⟩ found' span'))
      below after) := by
  have hfeed : s.feed found span =
      { s with unpaired := ⟨found.key, name, found.description, span⟩ :: s.unpaired } := by
    rw [feed, hkind, hname]
  rw [hfeed] at hbelow
  rw [feed_end hbelow.unpaired_eq hkind' hname'] at hafter
  refine ⟨hafter.unpaired_eq, hafter.symbols_perm.trans ?_⟩
  have hinner := hbelow.symbols_perm
  simp only [ParsedRegions.symbols] at hinner ⊢
  rw [Forest.preorder, List.perm_iff_count]
  intro t
  have hcount := hinner.count_eq t
  simp only [List.map_append, List.map_cons, List.map_nil, List.count_append, List.count_cons,
    List.count_nil] at hcount ⊢
  omega

end Pairing

/-! ## Going through a layout -/

section

variable {lines more : List String} {line : String} {i : Nat}

theorem prefix_drop_cons (h : line :: more <+: lines.drop i) :
    lines[i]? = some line ∧ more <+: lines.drop (i + 1) := by
  obtain ⟨behind, hbehind⟩ := h
  constructor
  · have hhead := congrArg List.head? hbehind
    rw [List.head?_drop] at hhead
    exact hhead.symm
  · refine ⟨behind, ?_⟩
    rw [← List.drop_drop, ← hbehind]
    rfl

theorem prefix_drop_append {first : List String} (h : first ++ more <+: lines.drop i) :
    first <+: lines.drop i ∧ more <+: lines.drop (i + first.length) := by
  obtain ⟨behind, hbehind⟩ := h
  rw [List.append_assoc] at hbehind
  refine ⟨⟨_, hbehind⟩, behind, ?_⟩
  rw [← List.drop_drop, ← hbehind, List.drop_left]

end

namespace Layout

theorem sign_mem_labelLine (lead : String) (kind : MatchKind) (label : Label) :
    '#' ∈ (labelLine lead (Markers.textOf {} kind) label).toList := by
  simp [toList_labelLine, LineMatcher.textOf_default]

theorem sign_mem_endLine (lead : String) (name : Option String) :
    '#' ∈ (endLine lead name).toList := by
  simp [toList_endLine]

open OutlineSymbol (Nested)

/-- Going through the lines of a layout, a parse finds just its forest. -/
theorem WellFormed.exists_adds {l : Layout} (h : l.WellFormed) {all : List String} {i : Nat}
    (hlines : l.lines <+: all.drop i) :
    ∃ f, Nested i (i + l.lines.length) f ∧ f.map OutlineSymbol.entry = l.forest ∧
      Pairing.Adds (pairingAt (LineMatcher.matchLine (.ofMarkers {})) all i)
        (pairingAt (LineMatcher.matchLine (.ofMarkers {})) all (i + l.lines.length)) f := by
  induction l generalizing i with
  | done => exact ⟨.nil, trivial, rfl, .refl _⟩
  | filler line rest ih =>
      obtain ⟨hfiller, hrest⟩ := h
      obtain ⟨hline, hmore⟩ := prefix_drop_cons hlines
      obtain ⟨f, hnested, hforest, hadds⟩ := ih hrest hmore
      have hnone : declaredAt? (LineMatcher.matchLine (.ofMarkers {})) all i = none := by
        simp [declaredAt?, hline, LineMatcher.matchLine_of_no_sign hfiller.no_sign]
      have hlength : i + (filler line rest).lines.length = i + 1 + rest.lines.length := by
        rw [Layout.lines, List.length_cons]
        omega
      rw [pairingAt_succ_of_not_declared hnone] at hadds
      rw [hlength]
      exact ⟨f, hnested.mono (Nat.le_succ i), hforest, hadds⟩
  | tag lead label rest ih =>
      obtain ⟨hlead, hlabel, hrest⟩ := h
      obtain ⟨hline, hmore⟩ := prefix_drop_cons hlines
      obtain ⟨after, hnested, hforest, hadds⟩ := ih hrest hmore
      obtain ⟨found, name, hmatch, hkind, hname, htext, hdetail⟩ :=
        matchLine_labelLine .tag (by decide) hlead hlabel i
      have hfound := declaredAt?_of_word hline (sign_mem_labelLine lead .tag label) rfl hmatch
      have hlength : i + (tag lead label rest).lines.length = i + 1 + rest.lines.length := by
        rw [Layout.lines, List.length_cons]
        omega
      rw [pairingAt_succ_of_declared hline hfound] at hadds
      rw [hlength]
      refine ⟨_, ?_, ?_, hadds.tag hkind hname⟩
      · refine ⟨Nat.le_refl i, Nat.le_refl i, ?_, trivial, hnested⟩
        change i < i + 1 + rest.lines.length
        omega
      · rw [Forest.map, Forest.map, hforest, forest, Label.entry, ← htext, ← hdetail]
        rfl
  | region lead label inner endLead named rest ihi ihr =>
      obtain ⟨hlead, hlabel, hinner, hend, hrest⟩ := h
      obtain ⟨hline, hmore⟩ := prefix_drop_cons hlines
      obtain ⟨hinside, hmore⟩ := prefix_drop_append hmore
      obtain ⟨hline', hbehind⟩ := prefix_drop_cons hmore
      obtain ⟨below, hbelow, hbelowForest, hbelowAdds⟩ := ihi hinner hinside
      obtain ⟨after, hafter, hafterForest, hafterAdds⟩ := ihr hrest hbehind
      obtain ⟨found, name, hmatch, hkind, hname, htext, hdetail⟩ :=
        matchLine_labelLine .regionStart (by decide) hlead hlabel i
      obtain ⟨found', hmatch', hkind', hname'⟩ :=
        matchLine_endLine hend hlabel endName_eq (i + 1 + inner.lines.length)
      have hfound := declaredAt?_of_word hline (sign_mem_labelLine lead .regionStart label) rfl hmatch
      have hfound' := declaredAt?_of_word hline' (sign_mem_endLine endLead _) rfl hmatch'
      have hlength : i + (region lead label inner endLead named rest).lines.length =
          i + 1 + inner.lines.length + 1 + rest.lines.length := by
        simp only [Layout.lines, List.cons_append, List.length_cons, List.length_append]
        omega
      rw [pairingAt_succ_of_declared hline hfound] at hbelowAdds
      rw [pairingAt_succ_of_declared hline' hfound'] at hafterAdds
      rw [hlength]
      rw [← htext] at hname'
      refine ⟨_, ?_, ?_, hbelowAdds.region hkind hname hkind' hname' hafterAdds⟩
      · refine ⟨Nat.le_refl i, ?_, ?_, hbelow, hafter⟩
        · change i ≤ i + 1 + inner.lines.length
          omega
        · change i + 1 + inner.lines.length < i + 1 + inner.lines.length + 1 + rest.lines.length
          omega
      · rw [Forest.map, hbelowForest, hafterForest, forest, Label.entry, ← htext, ← hdetail]
        rfl

end Layout

/-- The outline of a text that writes a forest out is that forest again, whatever lines stand in between,
whatever stands before the markers and whichever ends repeat their name. -/
theorem tree_of_isRendering {f : Forest Entry} {d : Document} (h : IsRendering f d.text) :
    ∃ parsed, (ParseRun.ofLines (LineMatcher.ofMarkers {}) .never d.lines).outcome.parsed? = some parsed ∧
      (Outline.ofParsed parsed d.revision).tree.map OutlineSymbol.entry = f := by
  obtain ⟨l, hl, rfl, hlines⟩ := h.exists_layout
  have hall : l.lines <+: l.lines.drop 0 := List.prefix_refl l.lines
  obtain ⟨g, hnested, hforest, hadds⟩ := hl.exists_adds hall
  rw [Nat.zero_add, ← hlines] at hadds
  refine ⟨_, by rw [ParseRun.outcome_never]; rfl, ?_⟩
  rw [Outline.tree_eq hnested hadds.symbols_perm, hforest]

/-- Two regions of one name, one in the other, the inner one closed by a bare end. -/
theorem tree_of_isRendering_namesakes :
    let f : Forest Entry := .node ⟨.region, "a", some "outer"⟩
      (.node ⟨.region, "a", none⟩ (.node ⟨.tag, "t", none⟩ .nil .nil) .nil) .nil
    let text := "// #region a outer\r\n\n#region a\nlet x\n\t#tag t\r\n#endregion\n// #endregion a"
    IsRendering f text ∧
      ∃ parsed, (ParseRun.ofLines (LineMatcher.ofMarkers {}) .never
          (Document.lines { id := 1, text := text })).outcome.parsed? = some parsed ∧
        (Outline.ofParsed parsed 0).tree.map OutlineSymbol.entry = f := by
  intro f text
  let l : Layout := .region "// " ⟨"a", some "outer"⟩
    (.filler "" (.region "" ⟨"a", none⟩ (.filler "let x" (.tag "\t" ⟨"t", none⟩ .done)) "" false .done))
    "// " true .done
  have hrendering : IsRendering f text := by
    have htext : text = "// #region a outer" ++ "\r\n" ++ ("" ++ "\n" ++ ("#region a" ++ "\n" ++
        ("let x" ++ "\n" ++ ("\t#tag t" ++ "\r\n" ++ ("#endregion" ++ "\n" ++ "// #endregion a"))))) := by
      decide
    refine ⟨l, by decide, rfl, ?_⟩
    rw [htext]
    exact .cons _ (.inr rfl) (.cons _ (.inl rfl) (.cons _ (.inl rfl) (.cons _ (.inl rfl)
      (.cons _ (.inr rfl) (.cons _ (.inl rfl) (.last _))))))
  exact ⟨hrendering, tree_of_isRendering (d := { id := 1, text := text }) hrendering⟩

end Waymark
