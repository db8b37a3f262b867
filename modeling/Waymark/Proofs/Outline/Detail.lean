import Waymark.Document
import Waymark.Outline.Symbol
import Waymark.Proofs.Region.Roles

/-!
# Kind and description in one text

The text of a symbol begins with its kind, and neither beginning is one of the other, so the kind and what
stands behind it can be read back whatever that is. A description that is missing is written like an empty
one. No token is empty, so the two are told apart as well on the symbols of a parse.
-/

namespace Waymark

/-! ## Reading the text -/

namespace OutlineKind

theorem dropPrefix?_eq_some_iff {start text rest : List Char} :
    dropPrefix? start text = some rest ↔ text = start ++ rest := by
  induction start generalizing text with
  | nil => simp [dropPrefix?]
  | cons a start ih =>
      cases text with
      | nil => simp [dropPrefix?]
      | cons b text =>
          rw [dropPrefix?, List.cons_append, List.cons.injEq]
          split
          case isTrue hab => rw [ih, eq_comm (a := b), and_iff_right hab]
          case isFalse hab => simp [Ne.symm hab]

/-- The kinds begin differently, whatever follows. -/
theorem kind_eq_of_detailPrefix_append {k k' : OutlineKind} {rest rest' : List Char}
    (h : k.detailPrefix.toList ++ rest = k'.detailPrefix.toList ++ rest') : k = k' := by
  cases k with
  | region =>
      cases k' with
      | region => rfl
      | tag => simp [detailPrefix] at h
  | tag =>
      cases k' with
      | region => simp [detailPrefix] at h
      | tag => rfl

theorem decodeDetail?_eq_some_iff {t r : String} {k : OutlineKind} :
    decodeDetail? t = some (k, r) ↔ t = k.detailPrefix ++ r := by
  have htext : t = k.detailPrefix ++ r ↔ t.toList = k.detailPrefix.toList ++ r.toList := by
    rw [← String.toList_append, String.toList_inj]
  have hread : ∀ k' : OutlineKind,
      ((dropPrefix? k'.detailPrefix.toList t.toList).map fun rest => (k', String.ofList rest)) =
          some (k, r) ↔ k' = k ∧ t = k.detailPrefix ++ r := by
    intro k'
    simp only [Option.map_eq_some_iff, dropPrefix?_eq_some_iff, Prod.mk.injEq, htext]
    constructor
    · rintro ⟨rest, hrest, rfl, rfl⟩
      exact ⟨rfl, by rw [String.toList_ofList, hrest]⟩
    · rintro ⟨rfl, hrest⟩
      exact ⟨r.toList, hrest, rfl, String.ofList_toList⟩
  have hother : ∀ k' : OutlineKind, k' ≠ k → t = k.detailPrefix ++ r →
      dropPrefix? k'.detailPrefix.toList t.toList = none := by
    intro k' hne ht
    refine Option.eq_none_iff_forall_ne_some.mpr fun rest hrest => hne ?_
    rw [dropPrefix?_eq_some_iff, htext.mp ht] at hrest
    exact (kind_eq_of_detailPrefix_append hrest).symm
  rw [decodeDetail?, List.findSome?_cons, List.findSome?_cons, List.findSome?_nil]
  constructor
  · intro h
    split at h
    case h_1 found hregion => exact ((hread .region).mp (hregion.trans h)).2
    case h_2 =>
      split at h
      case h_1 found htag => exact ((hread .tag).mp (htag.trans h)).2
      case h_2 => cases h
  · intro ht
    cases k with
    | region => rw [(hread .region).mpr ⟨rfl, ht⟩]
    | tag => rw [hother .region (by decide) ht, (hread .tag).mpr ⟨rfl, ht⟩]; rfl

end OutlineKind

/-! ## Symbols of a parse -/

/-- A description of a parse is never empty. -/
theorem ParsesTo.description_ne_empty {m : Markers} {lines : List String}
    {pairs : List (Nat × Nat)} {parsed : ParsedRegions} {dropped : Nat}
    (h : ParsesTo (MatchesLines.matchLine (LineMatcher.ofMarkers m)) lines pairs parsed dropped)
    {t : Token} (ht : t ∈ parsed.tokensOf .description) : t.text ≠ "" := by
  obtain ⟨i, found, hfound, htoken⟩ := h.exists_declared ht
  obtain ⟨line, _, _, hmatch⟩ := declaredAt?_eq_some.mp hfound
  have hstands := (LineMatcher.standsOn_of_matchLine hmatch).tokens t (.inr htoken)
  have hlength : t.text.toList.length = t.span.stop.column - t.span.start.column := by
    rw [hstands.text_eq, length_textOn hstands.stop_le]
  have hlt := hstands.start_lt_stop
  intro hempty
  rw [hempty] at hlength
  simp at hlength
  omega

namespace OutlineSymbol

/-- The symbol is one of the outline of some document under some markers. -/
def IsProjected (s : OutlineSymbol) : Prop :=
  ∃ (m : Markers) (d : Document) (cancel : Cancellation) (parsed : ParsedRegions) (revision : UInt64),
    (ParseRun.ofLines (LineMatcher.ofMarkers m) cancel d.lines).outcome.parsed? = some parsed ∧
      s ∈ (Outline.ofParsed parsed revision).symbols

/-- The description of a symbol is that of a token. -/
theorem exists_token_of_detail {parsed : ParsedRegions} {revision : UInt64} {s : OutlineSymbol}
    (hs : s ∈ (Outline.ofParsed parsed revision).symbols) {detail : String}
    (hdetail : s.detail = some detail) :
    ∃ t ∈ parsed.tokensOf .description, t.text = detail := by
  rcases List.mem_append.mp hs with hs | hs
  · obtain ⟨r, hr, rfl⟩ := List.mem_map.mp hs
    obtain ⟨t, ht, htext⟩ := Option.map_eq_some_iff.mp hdetail
    exact ⟨t, List.mem_append_left _ (List.mem_flatMap.mpr ⟨r, hr, Option.mem_toList.mpr ht⟩), htext⟩
  · obtain ⟨tag, htag, rfl⟩ := List.mem_map.mp hs
    obtain ⟨t, ht, htext⟩ := Option.map_eq_some_iff.mp hdetail
    exact ⟨t, List.mem_append_right _ (List.mem_flatMap.mpr ⟨tag, htag, Option.mem_toList.mpr ht⟩),
      htext⟩

theorem IsProjected.detail_ne_empty {s : OutlineSymbol} (h : s.IsProjected) : s.detail ≠ some "" := by
  obtain ⟨m, d, cancel, parsed, revision, hparsed, hs⟩ := h
  obtain ⟨pairs, hparses⟩ :=
    parsesTo_pairingAt (MatchesLines.matchLine (LineMatcher.ofMarkers m)) d.lines
  rw [← ParseRun.parsed?_eq_some _ _ _ hparsed] at hparses
  intro hempty
  obtain ⟨t, ht, htext⟩ := exists_token_of_detail hs hempty
  exact hparses.description_ne_empty ht htext

theorem decodeDetail?_encodedDetail (s : OutlineSymbol) :
    OutlineKind.decodeDetail? s.encodedDetail = some (s.kind, s.detail.getD "") :=
  OutlineKind.decodeDetail?_eq_some_iff.mpr rfl

theorem IsProjected.detail_eq_of_getD {s s' : OutlineSymbol} (h : s.IsProjected)
    (h' : s'.IsProjected) (heq : s.detail.getD "" = s'.detail.getD "") : s.detail = s'.detail := by
  have hne := h.detail_ne_empty
  have hne' := h'.detail_ne_empty
  cases hs : s.detail <;> cases hs' : s'.detail <;> simp_all

/-- Kind and description are read back from the text of a symbol of a parse, and the text is the same for
no others. What is read as a kind and a description is their text. -/
theorem encodedDetail_lossless :
    (∀ s : OutlineSymbol, s.IsProjected →
      ∃ r, OutlineKind.decodeDetail? s.encodedDetail = some (s.kind, r) ∧
        (∀ detail, s.detail = some detail → r = detail) ∧ (r = "" ↔ s.detail = none)) ∧
    (∀ s s' : OutlineSymbol, s.IsProjected → s'.IsProjected →
      (s.encodedDetail = s'.encodedDetail ↔ s.kind = s'.kind ∧ s.detail = s'.detail)) ∧
    (∀ t k r, OutlineKind.decodeDetail? t = some (k, r) →
      ∀ s : OutlineSymbol, s.kind = k → s.detail.getD "" = r → s.encodedDetail = t) := by
  refine ⟨fun s hs => ⟨_, s.decodeDetail?_encodedDetail, ?_, ?_⟩, fun s s' hs hs' => ⟨?_, ?_⟩, ?_⟩
  · intro detail hdetail
    rw [hdetail, Option.getD_some]
  · have hne := hs.detail_ne_empty
    cases hdetail : s.detail <;> simp_all
  · intro heq
    have hread := s.decodeDetail?_encodedDetail
    rw [heq, s'.decodeDetail?_encodedDetail] at hread
    obtain ⟨hkind, hdetail⟩ := Prod.mk.inj (Option.some.inj hread)
    exact ⟨hkind.symm, hs.detail_eq_of_getD hs' hdetail.symm⟩
  · rintro ⟨hkind, hdetail⟩
    rw [encodedDetail, encodedDetail, hkind, hdetail]
  · rintro t k r ht s rfl rfl
    exact (OutlineKind.decodeDetail?_eq_some_iff.mp ht).symm

/-- A description that begins like the text of another kind, and a tag without a description. -/
theorem encodedDetail_lossless_nested_prefix :
    ∃ s s' : OutlineSymbol, s.IsProjected ∧ s'.IsProjected ∧ s.detail = some "__om_Tag__x" ∧
      s'.detail = none ∧
      OutlineKind.decodeDetail? s.encodedDetail = some (.region, "__om_Tag__x") ∧
      OutlineKind.decodeDetail? s'.encodedDetail = some (.tag, "") ∧
      s.encodedDetail ≠ s'.encodedDetail := by
  let d : Document := { id := 1, text := "#region a __om_Tag__x\n#endregion\n#tag b" }
  let parsed : ParsedRegions :=
    { regions := [⟨⟨.key, "#region", .onLine 0 0 7⟩, ⟨.key, "#endregion", .onLine 1 0 10⟩,
        ⟨.name, "a", .onLine 0 8 9⟩, none, some ⟨.description, "__om_Tag__x", .onLine 0 10 21⟩,
        .onLine 0 0 21, .onLine 1 0 10⟩]
      tags := [⟨⟨.key, "#tag", .onLine 2 0 4⟩, ⟨.name, "b", .onLine 2 5 6⟩, none, .onLine 2 0 6⟩] }
  have hparsed : (ParseRun.ofLines (LineMatcher.ofMarkers {}) .never d.lines).outcome.parsed? =
      some parsed := by decide +kernel
  let s : OutlineSymbol := ⟨"a", some "__om_Tag__x", .region, ⟨⟨0, 0⟩, ⟨1, 10⟩⟩, .onLine 0 8 9⟩
  let s' : OutlineSymbol := ⟨"b", none, .tag, .onLine 2 0 6, .onLine 2 5 6⟩
  have hs : s.IsProjected := ⟨{}, d, .never, parsed, 0, hparsed, List.mem_cons_self⟩
  have hs' : s'.IsProjected :=
    ⟨{}, d, .never, parsed, 0, hparsed, List.mem_cons_of_mem _ List.mem_cons_self⟩
  obtain ⟨hread, hsame, _⟩ := encodedDetail_lossless
  obtain ⟨r, hr, hdetail, _⟩ := hread s hs
  obtain ⟨r', hr', _, hnone⟩ := hread s' hs'
  obtain rfl := hdetail _ rfl
  obtain rfl := hnone.mpr rfl
  refine ⟨s, s', hs, hs', rfl, rfl, hr, hr', fun heq => ?_⟩
  cases ((hsame s s' hs hs').mp heq).1

end OutlineSymbol

end Waymark
