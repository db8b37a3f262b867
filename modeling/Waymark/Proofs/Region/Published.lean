import Waymark.Proofs.Document.Coordinates
import Waymark.Proofs.Marker.Default
import Waymark.Proofs.Region.Copies
import Waymark.Proofs.Region.Roles

/-!
# What a provider publishes

Behind a literal marker the name and the description of its line follow in order, so that all tokens of
a parse are apart, stand on their lines and read their own text in the document, and each of them is set
off once. Whatever the markers are, a provider publishes the parse of some text by some markers, so its
names are apart and a renaming finds one of them at most.
-/

namespace Waymark

/-! ## The tokens of a line -/

namespace Columns

variable {c : Columns}

/-- Where the token of a role begins. -/
def startOf (c : Columns) : TokenKind → Nat
  | .key => c.key
  | .name => c.name
  | .description => c.description

/-- Where the token of a role ends. -/
def stopOf (c : Columns) : TokenKind → Nat
  | .key => c.keyStop
  | .name => c.nameStop
  | .description => c.descriptionStop

/-- The token on the columns of a role. -/
def tokenOn (c : Columns) (role : TokenKind) (chars : List Char) (lineNumber : Nat) : Token :=
  ⟨role, String.ofList (textOn chars (c.startOf role) (c.stopOf role)),
    .onLine lineNumber (c.startOf role) (c.stopOf role)⟩

theorem eq_of_tokenOn? {kind : TokenKind} {chars : List Char} {lineNumber start stop : Nat}
    {t : Token} (h : tokenOn? kind chars lineNumber start stop = some t) :
    t = ⟨kind, String.ofList (textOn chars start stop), .onLine lineNumber start stop⟩ := by
  rw [tokenOn?] at h
  split at h
  · exact (Option.some.inj h).symm
  · cases h

theorem tokenOf?_toMatch {kind : MatchKind} {chars : List Char} {lineNumber : Nat}
    {role : TokenKind} {t : Token} (h : (c.toMatch kind chars lineNumber).tokenOf? role = some t) :
    t = c.tokenOn role chars lineNumber := by
  cases role with
  | key => exact (Option.some.inj h).symm
  | name =>
      rw [LineMatch.tokenOf?, toMatch] at h
      split at h
      · exact eq_of_tokenOn? h
      · cases h
  | description =>
      have hdescription : (c.toMatch kind chars lineNumber).description =
          if kind = .regionEnd then none
          else (c.toMatch kind chars lineNumber).name.bind fun _ =>
            tokenOn? .description chars lineNumber c.description c.descriptionStop := rfl
      rw [LineMatch.tokenOf?, hdescription] at h
      split at h
      · cases h
      · obtain ⟨_, _, h⟩ := Option.bind_eq_some_iff.mp h
        exact eq_of_tokenOn? h

/-- Key, name and description come one behind the other. -/
structure InOrder (c : Columns) (length : Nat) : Prop where
  key : c.key ≤ c.keyStop
  gap : c.keyStop ≤ c.name
  name : c.name ≤ c.nameStop
  secondGap : c.nameStop ≤ c.description
  description : c.description ≤ c.descriptionStop
  inside : c.descriptionStop ≤ length

theorem InOrder.bounds {length : Nat} (h : c.InOrder length) (role : TokenKind) :
    c.startOf role ≤ c.stopOf role ∧ c.stopOf role ≤ length := by
  obtain ⟨hkey, hgap, hname, hsecondGap, hdescription, hinside⟩ := h
  cases role <;> simp only [startOf, stopOf] <;> omega

theorem InOrder.apart {length : Nat} (h : c.InOrder length) {role role' : TokenKind}
    (hne : role ≠ role') :
    c.stopOf role ≤ c.startOf role' ∨ c.stopOf role' ≤ c.startOf role := by
  obtain ⟨hkey, hgap, hname, hsecondGap, hdescription, hinside⟩ := h
  cases role <;> cases role' <;> simp only [startOf, stopOf] <;>
    first | exact absurd rfl hne | omega

end Columns

theorem Markers.Divides.inOrder {m : Markers} {kind : MatchKind} {chars : List Char} {c : Columns}
    (h : m.Divides kind chars c) : c.InOrder chars.length where
  key := by
    rw [h.keyStop_eq]
    exact Nat.le_add_right _ _
  gap := h.gap.le
  name := h.name.le
  secondGap := h.secondGap.le
  description := h.description.le
  inside := h.description.le_length

section

variable {m : Markers} {lines : List String} {i : Nat}

/-- A line with literal markers gives the tokens on some columns, one behind the other. -/
theorem exists_columns_of_declared (hm : m.Literal) {found : LineMatch}
    (hfound : declaredAt? (MatchesLines.matchLine (LineMatcher.ofMarkers m)) lines i = some found) :
    ∃ (line : String) (c : Columns), lines[i]? = some line ∧ c.InOrder line.toList.length ∧
      ∀ role t, found.tokenOf? role = some t → t = c.tokenOn role line.toList i := by
  obtain ⟨line, hline, _, hmatch⟩ := declaredAt?_eq_some.mp hfound
  obtain ⟨kind, key, hfirst, _, rfl⟩ := (LineMatcher.matchLine_eq_some_iff hm line i found).mp hmatch
  have hdivides := LineMatcher.divides_columnsFrom hfirst
  have htext : textOn line.toList key (key + (m.textOf kind).toList.length) =
      (m.textOf kind).toList := hdivides.stands.text
  rw [LineMatcher.tokensBehind_eq_toMatch htext i]
  exact ⟨line, _, hline, hdivides.inOrder, fun role t ht => Columns.tokenOf?_toMatch ht⟩

end

/-! ## Tokens that are apart -/

/-- One of two stretches ends where the other one begins, or in front of it. -/
def Span.Apart (a b : Span) : Prop := a.stop ≤ b.start ∨ b.stop ≤ a.start

theorem Span.apart_of_line_ne {a b : Span} (ha : a.start.line = a.stop.line)
    (hb : b.start.line = b.stop.line) (hne : a.start.line ≠ b.start.line) : a.Apart b := by
  rw [Apart, Position.le_def, Position.le_def]
  omega

/-- All tokens of a parse, those of each role together. -/
def ParsedRegions.tokens (parsed : ParsedRegions) : List Token :=
  parsed.tokensOf .key ++ parsed.tokensOf .name ++ parsed.tokensOf .description

theorem ParsedRegions.mem_tokens {parsed : ParsedRegions} {t : Token} :
    t ∈ parsed.tokens ↔ ∃ role, t ∈ parsed.tokensOf role := by
  constructor
  · intro ht
    rcases List.mem_append.mp ht with ht | ht
    · rcases List.mem_append.mp ht with ht | ht
      · exact ⟨.key, ht⟩
      · exact ⟨.name, ht⟩
    · exact ⟨.description, ht⟩
  · rintro ⟨role, ht⟩
    cases role with
    | key => exact List.mem_append_left _ (List.mem_append_left _ ht)
    | name => exact List.mem_append_left _ (List.mem_append_right _ ht)
    | description => exact List.mem_append_right _ ht

namespace ParsesTo

variable {pairs : List (Nat × Nat)} {parsed : ParsedRegions} {dropped : Nat}

/-- Tokens of one role are apart because their lines are. -/
theorem pairwise_apart {m : String → Nat → Option LineMatch} {lines : List String}
    (h : ParsesTo m lines pairs parsed dropped) (honLine : TokensOnLine m lines) (role : TokenKind) :
    (parsed.tokensOf role).Pairwise fun a b => a.span.Apart b.span := by
  have hlines := List.pairwise_map.mp (h.nodup_lines honLine role)
  refine hlines.imp_of_mem fun {a b} ha hb hne => ?_
  exact Span.apart_of_line_ne (h.single_line honLine ha) (h.single_line honLine hb) hne

variable {m : Markers} {lines : List String} (hm : m.Literal)
  (h : ParsesTo (MatchesLines.matchLine (LineMatcher.ofMarkers m)) lines pairs parsed dropped)

include hm h

/-- Tokens of two roles are apart because their lines are, or because of their order on one line. -/
theorem apart_of_role_ne {role role' : TokenKind} (hne : role ≠ role') {a b : Token}
    (ha : a ∈ parsed.tokensOf role) (hb : b ∈ parsed.tokensOf role') : a.span.Apart b.span := by
  obtain ⟨i, found, hfound, hrole⟩ := h.exists_declared ha
  obtain ⟨j, found', hfound', hrole'⟩ := h.exists_declared hb
  obtain ⟨line, c, hline, horder, htokens⟩ := exists_columns_of_declared hm hfound
  obtain ⟨line', c', hline', horder', htokens'⟩ := exists_columns_of_declared hm hfound'
  -- tokens of one line come from one match, whose columns are in order
  by_cases hij : i = j
  · subst hij
    rw [hfound] at hfound'
    cases hfound'
    rw [htokens role a hrole, htokens role' b hrole']
    exact (horder.apart hne).imp (fun hle => .inr ⟨rfl, hle⟩) fun hle => .inr ⟨rfl, hle⟩
  · rw [htokens role a hrole, htokens' role' b hrole']
    exact Span.apart_of_line_ne rfl rfl hij

theorem pairwise_tokens : parsed.tokens.Pairwise fun a b => a.span.Apart b.span := by
  have honLine := tokensOnLine_markers m lines
  refine List.pairwise_append.mpr ⟨List.pairwise_append.mpr ⟨h.pairwise_apart honLine .key,
    h.pairwise_apart honLine .name, fun a ha b hb => ?_⟩, h.pairwise_apart honLine .description,
    fun a ha b hb => ?_⟩
  · exact h.apart_of_role_ne hm (by decide) ha hb
  · rcases List.mem_append.mp ha with ha | ha
    · exact h.apart_of_role_ne hm (by decide) ha hb
    · exact h.apart_of_role_ne hm (by decide) ha hb

end ParsesTo

/-! ## Tokens in the document -/

/-- A token stands on a line of the document, and the document reads as it does there. -/
structure Token.ReadsIn (t : Token) (d : Document) : Prop where
  line_lt : t.span.start.line < d.lineCount
  single_line : t.span.start.line = t.span.stop.line
  start_le : t.span.start.column ≤ t.span.stop.column
  stop_le : t.span.stop.column ≤ d.lineLength t.span.start.line
  on_line : t.text.toList =
    textOn (d.line t.span.start.line).toList t.span.start.column t.span.stop.column
  in_text : t.text.toList = textOn d.chars (d.offset t.span.start) (d.offset t.span.stop)

theorem Document.line_eq_of_getElem? {d : Document} {i : Nat} {line : String}
    (h : d.lines[i]? = some line) : i < d.lineCount ∧ d.line i = line := by
  refine ⟨?_, ?_⟩
  · rw [← d.length_lines]
    exact (List.getElem?_eq_some_iff.mp h).1
  · rw [Document.line, List.getD_eq_getElem?_getD, h, Option.getD_some]

/-- Between two columns of a line, the text reads as the line does. -/
theorem Document.textOn_offset {d : Document} {i start stop : Nat} (hi : i < d.lineCount)
    (hstart : start ≤ stop) (hstop : stop ≤ d.lineLength i) :
    textOn d.chars (d.offset ⟨i, start⟩) (d.offset ⟨i, stop⟩) =
      textOn (d.line i).toList start stop := by
  have hline : d.rawLines[i]? =
      some ([] ++ ((d.line i).toList ++ Text.lineEnd (d.rawLines.getD i []))) := by
    rw [getElem?_rawLines hi, toList_line, List.nil_append, Text.trimLine_append_lineEnd]
  have hchars := chars_eq hline
  rw [List.append_nil] at hchars
  have hlength : stop ≤ (d.line i).toList.length := by rwa [← lineLength_eq]
  rw [offset_of_lt hi, offset_of_lt hi, Nat.min_eq_left hstop,
    Nat.min_eq_left (Nat.le_trans hstart hstop), lineStart, hchars, textOn, textOn,
    List.take_length_add_append, List.drop_length_add_append, List.take_append_of_le_length hlength]

theorem ParsesTo.readsIn {m : Markers} (hm : m.Literal) {d : Document} {pairs : List (Nat × Nat)}
    {parsed : ParsedRegions} {dropped : Nat}
    (h : ParsesTo (MatchesLines.matchLine (LineMatcher.ofMarkers m)) d.lines pairs parsed dropped)
    {t : Token} (ht : t ∈ parsed.tokens) : t.ReadsIn d := by
  obtain ⟨role, ht⟩ := ParsedRegions.mem_tokens.mp ht
  obtain ⟨i, found, hfound, hrole⟩ := h.exists_declared ht
  obtain ⟨line, c, hline, horder, htokens⟩ := exists_columns_of_declared hm hfound
  obtain ⟨hi, rfl⟩ := Document.line_eq_of_getElem? hline
  obtain ⟨hstart, hstop⟩ := horder.bounds role
  rw [← Document.lineLength_eq] at hstop
  rw [htokens role t hrole]
  refine ⟨hi, rfl, hstart, hstop, String.toList_ofList, ?_⟩
  exact String.toList_ofList.trans (Document.textOn_offset hi hstart hstop).symm

/-! ## Decorations -/

/-- The decorations of a role. -/
def Decorations.ofRole (decorations : Decorations) : TokenKind → List Decoration
  | .key => decorations.keys
  | .name => decorations.names
  | .description => decorations.descriptions

namespace Decorations

theorem ofRole_append (first second : Decorations) (role : TokenKind) :
    (first ++ second).ofRole role = first.ofRole role ++ second.ofRole role := by
  cases role <;> rfl

theorem ofRole_foldl (list : List Decorations) (init : Decorations) (role : TokenKind) :
    (list.foldl (· ++ ·) init).ofRole role =
      init.ofRole role ++ list.flatMap fun decorations => decorations.ofRole role := by
  induction list generalizing init with
  | nil => simp
  | cons decorations list ih =>
      rw [List.foldl_cons, ih, ofRole_append, List.flatMap_cons, List.append_assoc]

theorem map_span_ofDescription (description : Option Token) :
    (ofDescription description).map Decoration.span = description.toList.map Token.span := by
  cases description <;> rfl

theorem map_span_ofRegion (r : Region) (role : TokenKind) :
    ((ofRegion r).ofRole role).map Decoration.span = (r.tokensOf role).map Token.span := by
  cases role with
  | key => rfl
  | name => cases hend : r.nameEnd <;> simp [ofRole, ofRegion, Region.tokensOf, Region.names, hend]
  | description => exact map_span_ofDescription r.description

theorem map_span_ofTag (t : Tag) (role : TokenKind) :
    ((ofTag t).ofRole role).map Decoration.span = (t.tokensOf role).map Token.span := by
  cases role with
  | key => rfl
  | name => rfl
  | description => exact map_span_ofDescription t.description

/-- What is set off for a role are the tokens of the role. -/
theorem map_span_ofParsed (parsed : ParsedRegions) (role : TokenKind) :
    ((ofParsed parsed).ofRole role).map Decoration.span =
      (parsed.tokensOf role).map Token.span := by
  have hnone : ({} : Decorations).ofRole role = [] := by cases role <;> rfl
  simp only [ofParsed, ofRole_foldl, hnone, List.nil_append, List.flatMap_append, List.flatMap_map,
    List.map_append, List.map_flatMap, map_span_ofRegion, map_span_ofTag, ParsedRegions.tokensOf]

end Decorations

theorem ParsesTo.nodup_spans {m : String → Nat → Option LineMatch} {lines : List String}
    {pairs : List (Nat × Nat)} {parsed : ParsedRegions} {dropped : Nat}
    (h : ParsesTo m lines pairs parsed dropped) (honLine : TokensOnLine m lines) (role : TokenKind) :
    ((parsed.tokensOf role).map Token.span).Nodup := by
  have hlines := h.nodup_lines honLine role
  have hmap : (parsed.tokensOf role).map (fun t => t.span.start.line) =
      ((parsed.tokensOf role).map Token.span).map fun s => s.start.line := by
    rw [List.map_map]
    rfl
  rw [hmap] at hlines
  exact hlines.of_map

/-! ## Providers -/

namespace Provider

/-- What is kept is the parse of some text by some markers. -/
structure FromLines (q : Provider LineMatcher) : Prop where
  matcher_eq : q.matcher = .ofMarkers q.matcher.markers
  parses : ∃ m lines pairs dropped,
    ParsesTo (MatchesLines.matchLine (LineMatcher.ofMarkers m)) lines pairs q.parsed dropped

variable {p : Provider LineMatcher}

theorem fromLines_of_empty (hmatcher : p.matcher = .ofMarkers p.matcher.markers)
    (hparsed : p.parsed = {}) : p.FromLines := by
  obtain ⟨pairs, hparses⟩ := parsesTo_pairingAt
    (MatchesLines.matchLine (LineMatcher.ofMarkers {})) []
  refine ⟨hmatcher, {}, [], pairs, 0, ?_⟩
  rw [hparsed]
  exact hparses

theorem IsFresh.fromLines (h : p.IsFresh) : p.FromLines := by
  rcases h with ⟨m, rfl⟩ | ⟨prefs, rfl⟩ <;> exact fromLines_of_empty rfl rfl

theorem FromLines.setEnabled (h : p.FromLines) (enabled : Bool) :
    (p.setEnabled enabled).FromLines := by
  unfold Provider.setEnabled
  split
  · exact h
  · exact fromLines_of_empty h.matcher_eq rfl

theorem FromLines.setMarkers (h : p.FromLines) (m : Markers) : (p.setMarkers m).FromLines := by
  unfold Provider.setMarkers
  split
  · exact h
  · exact ⟨rfl, h.parses⟩

theorem FromLines.setHighlight (h : p.FromLines) (highlight : Bool) :
    (p.setHighlight highlight).FromLines := ⟨h.matcher_eq, h.parses⟩

theorem keptBySettings_fromLines : KeptBySettings FromLines :=
  ⟨fun _ h => h.setMarkers, fun _ h => h.setEnabled, fun _ h => h.setHighlight,
    fun _ h => fromLines_of_empty h.matcher_eq rfl⟩

theorem FromLines.update (h : p.FromLines) (d : Document) (cancel : Cancellation) :
    (p.update d cancel).1.FromLines := by
  rcases p.update_cases d cancel with ⟨hsame, _⟩ | ⟨_, _, _, parsed, hparsed, hnew⟩
  · rw [hsame]
    exact h
  · rw [hnew]
    rw [h.matcher_eq] at hparsed
    obtain rfl := ParseRun.parsed?_eq_some _ _ _ hparsed
    obtain ⟨pairs, hparses⟩ := parsesTo_pairingAt
      (MatchesLines.matchLine (LineMatcher.ofMarkers p.matcher.markers)) d.lines
    exact ⟨h.matcher_eq, p.matcher.markers, d.lines, pairs, _, hparses⟩

theorem FromLines.step {k : Desk} (h : k.provider.FromLines) (event : CopyingEvent) :
    (k.stepCopying event).provider.FromLines := by
  cases event with
  | copy i => exact h
  | desk event => exact keptBySettings_fromLines.step h (fun d _ => h.update d) event

/-- What is held of a document is its parse by the current markers. -/
theorem Holds.parsesTo {d : Document} (h : p.Holds d) : ∃ pairs dropped,
    ParsesTo (MatchesLines.matchLine (LineMatcher.ofMarkers p.matcher.markers)) d.lines pairs p.parsed
      dropped := by
  obtain ⟨pairs, hparses⟩ := parsesTo_pairingAt
    (MatchesLines.matchLine (LineMatcher.ofMarkers p.matcher.markers)) d.lines
  have hparsed := ParseRun.parsed?_eq_some _ _ _ h.parsed_eq
  exact ⟨pairs, _, hparsed ▸ hparses⟩

/-- The tokens that are published of a document are apart and read their text in it, and with the
switch on each is set off once. -/
structure Publishes (q : Provider LineMatcher) (d : Document) : Prop where
  apart : q.parsed.tokens.Pairwise fun a b => a.span.Apart b.span
  reads : ∀ t ∈ q.parsed.tokens, t.ReadsIn d
  decorated : q.highlight = true → ∀ role, (q.decorations.ofRole role).map Decoration.span =
    (q.parsed.tokensOf role).map Token.span
  once : ∀ role, ((q.parsed.tokensOf role).map Token.span).Nodup

theorem Holds.publishes {d : Document} (h : p.Holds d) (hliteral : p.matcher.markers.Literal) :
    p.Publishes d := by
  obtain ⟨pairs, dropped, hparses⟩ := h.parsesTo
  refine ⟨hparses.pairwise_tokens hliteral, fun t ht => hparses.readsIn hliteral ht, ?_,
    hparses.nodup_spans (tokensOnLine_markers _ _)⟩
  intro hhighlight role
  rw [decorations, if_pos hhighlight]
  exact Decorations.map_span_ofParsed p.parsed role

end Provider

namespace Desk

open Workspace (history)

variable {p : Provider LineMatcher}

theorem fromLines_ofEvents (hp : p.IsFresh) (events : List CopyingEvent) :
    (ofEvents p events).provider.FromLines := by
  induction events using List.reverseRecOn with
  | nil => exact hp.fromLines
  | append_singleton events event ih =>
      rw [ofEvents_snoc]
      exact ih.step event

/-- After an update, whatever has happened before: the names are apart, and there is one renaming at
most at a position. If the update has left the parse of the document, which it has unless it is off, is
cancelled, or takes the document for another one of its version, and the markers are literal, then all
tokens are apart, read their text in the document and are set off once. -/
theorem published_ofEvents (hp : p.IsFresh) (events : List CopyingEvent) (d : Document)
    (cancel : Cancellation) :
    let k := ofEvents p events
    let q := (k.provider.update d cancel).1
    q.parsed.NamesApart ∧ q.RenamesOne ∧
    (q.Holds d → q.matcher.markers.Literal → q.Publishes d) ∧
    (k.provider.enabled = true → cancel.Spares d.lines →
      k.provider.version ≠ some d.version ∨
        d ∈ k.workspace.documents ∧ OneTextEach (history (workspaceEvents events)) →
      q.Holds d) := by
  intro k q
  have hlines : k.provider.FromLines := fromLines_ofEvents hp events
  obtain ⟨m, lines, pairs, dropped, hparses⟩ := (hlines.update d cancel).parses
  have hnames := hparses.namesApart (tokensOnLine_markers m lines)
  refine ⟨hnames, hnames.renamesOne, fun hholds => hholds.publishes, ?_⟩
  intro henabled hspares hversion
  rcases hversion with hne | ⟨hd, htext⟩
  · exact Provider.holds_update_of_ne hlines.matcher_eq hspares henabled hne
  · exact (coherent_ofEvents hp events htext).holds_update (mem_history_of_mem hd) hspares henabled

/-- Two regions of one name, of which the outer one ends without it, and a tag inside. -/
theorem published_ofEvents_nested :
    let d : Document :=
      { id := 1, text := "é #region a x y\n#region a\n#tag t z\n#endregion a\n#endregion" }
    let k := ofEvents (.ofMarkers {}) [.desk (.document (.create d.text))]
    let q := (k.provider.update d .never).1
    d ∈ k.workspace.documents ∧ q.Holds d ∧ q.Publishes d ∧ q.parsed.tokens.length = 11 ∧
      q.parsed.NamesApart ∧ (∃ target, q.prepareRename ⟨3, 12⟩ = .ok target) ∧
      q.prepareRename ⟨3, 12⟩ = RenameTarget.firstAt q.parsed.targets.reverse ⟨3, 12⟩ := by
  intro d k q
  obtain ⟨hnames, hrename, hpublish, hupdate⟩ := published_ofEvents (.inl ⟨{}, rfl⟩)
    [.desk (.document (.create d.text))] d .never
  have hversion : k.provider.version ≠ some d.version := nofun
  have hmarkers : q.matcher.markers = {} := by decide +kernel
  have hliteral : q.matcher.markers.Literal := by
    rw [hmarkers]
    exact LineMatcher.literal_default
  have hholds := hupdate rfl (Cancellation.spares_never _) (.inl hversion)
  have hat : ∃ t ∈ q.parsed.tokensOf .name, t.span.contains ⟨3, 12⟩ = true := by decide +kernel
  exact ⟨Array.mem_of_getElem? (i := 0) rfl, hholds, hpublish hholds hliteral, by decide +kernel,
    hnames, (hrename.ok_iff _).mpr hat, hrename.any_order _ _ (List.reverse_perm _)⟩

end Desk

end Waymark
