import Waymark.Proofs.Document.Edits
import Waymark.Proofs.Region.Relabel

/-!
# What a renaming edits

At most one region or tag has a name at a position. The edits of a renaming there are one for each of
its names, on the lines of that region or tag and on no other.
-/

namespace Waymark

/-! ## Names at a position -/

/-- The names of a region: the one at its start, and the one at its end if there is one. -/
def Region.names (r : Region) : List Token := r.name :: r.nameEnd.toList

/-- One of the region's names stands at the position. -/
def Region.namedAt (r : Region) (position : Position) : Bool :=
  r.names.any fun name => name.span.contains position

/-- The tag's name stands at the position. -/
def Tag.namedAt (t : Tag) (position : Position) : Bool := t.name.span.contains position

/-- A region on the same lines, with the name changed if it stands at the position. -/
structure Region.Renamed (position : Position) (name : String) (r r' : Region) : Prop where
  start_eq : r'.start.start = r.start.start
  stop_eq : r'.stop.start = r.stop.start
  key_eq : r'.key.text = r.key.text
  keyEnd_eq : r'.keyEnd.text = r.keyEnd.text
  description_eq : r'.description.map Token.text = r.description.map Token.text
  name_eq : r'.name.text = if r.namedAt position then name else r.name.text
  nameEnd_eq : r'.nameEnd.map Token.text =
    r.nameEnd.map fun nameEnd => if r.namedAt position then name else nameEnd.text

/-- A tag on the same line, with the name changed if it stands at the position. -/
structure Tag.Renamed (position : Position) (name : String) (t t' : Tag) : Prop where
  line_eq : t'.line.start = t.line.start
  key_eq : t'.key.text = t.key.text
  description_eq : t'.description.map Token.text = t.description.map Token.text
  name_eq : t'.name.text = if t.namedAt position then name else t.name.text

/-- The edits put the name in the place of all names of a region or of a tag at the position. -/
theorem ParsedRegions.renameEdits_eq_ok {parsed : ParsedRegions} {position : Position} {name : String}
    {edits : List TextEdit} (h : parsed.renameEdits position name = .ok edits) :
    (∃ r ∈ parsed.regions, r.namedAt position = true ∧
      edits = r.names.map fun token => ⟨token.span, name⟩) ∨
    ∃ t ∈ parsed.tags, t.namedAt position = true ∧ edits = [⟨t.name.span, name⟩] := by
  rw [renameEdits, renameTarget] at h
  cases hregion : parsed.regions.findSome? (RenameTarget.ofRegion? position) with
  | some target =>
      rw [hregion] at h
      cases h
      obtain ⟨r, hr, htarget⟩ := List.exists_of_findSome?_eq_some hregion
      have hspans : target.spans = r.names.map Token.span ∧ r.namedAt position = true := by
        rw [RenameTarget.ofRegion?] at htarget
        cases hend : r.nameEnd with
        | none =>
            by_cases hname : r.name.span.contains position = true
            · simp [hend, hname] at htarget
              simp [← htarget, Region.namedAt, Region.names, hend, hname]
            · simp [hend, hname] at htarget
        | some nameEnd =>
            by_cases hname : r.name.span.contains position = true
            · simp [hend, hname] at htarget
              simp [← htarget, Region.namedAt, Region.names, hend, hname]
            · by_cases hnameEnd : nameEnd.span.contains position = true
              · simp [hend, hname, hnameEnd] at htarget
                simp [← htarget, Region.namedAt, Region.names, hend, hnameEnd]
              · simp [hend, hname, hnameEnd] at htarget
      refine .inl ⟨r, hr, hspans.2, ?_⟩
      show target.spans.map (fun span => (⟨span, name⟩ : TextEdit)) = _
      rw [hspans.1, List.map_map]
      rfl
  | none =>
      rw [hregion] at h
      cases htag : parsed.tags.findSome? (RenameTarget.ofTag? position) with
      | none =>
          rw [htag] at h
          cases h
      | some target =>
          rw [htag] at h
          cases h
          obtain ⟨t, ht, htarget⟩ := List.exists_of_findSome?_eq_some htag
          rw [RenameTarget.ofTag?] at htarget
          split at htarget
          case isTrue hname =>
            cases htarget
            exact .inr ⟨t, ht, hname, rfl⟩
          case isFalse => cases htarget

theorem Span.line_of_contains {i start stop : Nat} {position : Position}
    (h : (Span.onLine i start stop).contains position = true) : position.line = i := by
  simp only [Span.contains, Span.onLine, Bool.and_eq_true, decide_eq_true_eq, Position.le_def] at h
  omega

/-! ## The entry that is edited -/

/-- Every name stands on its own line. -/
def NamesOnLine (m : String → Nat → Option LineMatch) (lines : List String) : Prop :=
  ∀ i found token, declaredAt? m lines i = some found → found.name = some token →
    ∃ start stop, token.span = .onLine i start stop

/-- Exactly the lines of the entry with a name at the position are edited, as far as they have a
name. -/
structure EditedAt (m : String → Nat → Option LineMatch) (lines : List String)
    (pairs : List (Nat × Nat)) (position : Position) (edited : Nat → Prop) : Prop where
  stop : ∀ s e, (s, e) ∈ pairs → edited e → edited s
  start : ∀ s e, (s, e) ∈ pairs → edited s → ¬ edited e →
    ∀ texts, textsAt? m lines e = some texts → texts.name = none
  region : ∀ s e r, (s, e) ∈ pairs → regionAt? m lines (s, e) = some r →
    (r.namedAt position = true ↔ edited s)
  tag : ∀ i t, entryAt? m lines .tag i = some t → (t.namedAt position = true ↔ edited i)

section

variable {m : String → Nat → Option LineMatch} {lines : List String} {position : Position}

theorem line_of_tag_namedAt (hnames : NamesOnLine m lines) {i : Nat} {t : Tag}
    (ht : entryAt? m lines .tag i = some t) (hat : t.namedAt position = true) :
    position.line = i := by
  obtain ⟨found, _, hfound, _, _, hname, _⟩ := declaredAt?_of_entryAt? ht
  obtain ⟨start, stop, hspan⟩ := hnames i found t.name hfound hname
  rw [Tag.namedAt, hspan] at hat
  exact Span.line_of_contains hat

theorem line_of_region_namedAt (hnames : NamesOnLine m lines) {s e : Nat} {r : Region}
    (hr : regionAt? m lines (s, e) = some r) (hat : r.namedAt position = true) :
    position.line = s ∨ position.line = e := by
  obtain ⟨start, stop, hstart, hstop, _, _, hname, _, _, hnameEnd, _⟩ := declaredAt?_of_regionAt? hr
  obtain ⟨token, htoken, hcontains⟩ := List.any_eq_true.mp hat
  rcases List.mem_cons.mp htoken with rfl | hend
  · obtain ⟨a, b, hspan⟩ := hnames s start r.name hstart hname
    rw [hspan] at hcontains
    exact .inl (Span.line_of_contains hcontains)
  · rw [Option.mem_toList, hnameEnd] at hend
    obtain ⟨a, b, hspan⟩ := hnames e stop token hstop hend
    rw [hspan] at hcontains
    exact .inr (Span.line_of_contains hcontains)

end

section

variable {m : String → Nat → Option LineMatch} {lines : List String} {pairs : List (Nat × Nat)}
  {parsed : ParsedRegions} {dropped : Nat} {position : Position}

/-- What kind of line a line is. -/
def kindAt? (m : String → Nat → Option LineMatch) (lines : List String) (i : Nat) :
    Option MatchKind :=
  (declaredAt? m lines i).map LineMatch.kind

namespace ParsesTo

theorem exists_region (h : ParsesTo m lines pairs parsed dropped) {pair : Nat × Nat}
    (hpair : pair ∈ pairs) : ∃ r ∈ parsed.regions, regionAt? m lines pair = some r := by
  have hmem : regionAt? m lines pair ∈ parsed.regions.map some := by
    rw [h.regions_eq]
    exact List.mem_map_of_mem hpair
  obtain ⟨r, hr, heq⟩ := List.mem_map.mp hmem
  exact ⟨r, hr, heq.symm⟩

theorem exists_pair (h : ParsesTo m lines pairs parsed dropped) {r : Region}
    (hr : r ∈ parsed.regions) : ∃ pair ∈ pairs, regionAt? m lines pair = some r := by
  have hmem : some r ∈ pairs.map (regionAt? m lines) := by
    rw [← h.regions_eq]
    exact List.mem_map_of_mem hr
  exact List.mem_map.mp hmem

theorem kindAt?_of_mem (h : ParsesTo m lines pairs parsed dropped) {s e : Nat}
    (hpair : (s, e) ∈ pairs) :
    kindAt? m lines s = some .regionStart ∧ kindAt? m lines e = some .regionEnd := by
  obtain ⟨r, _, hr⟩ := h.exists_region hpair
  obtain ⟨start, stop, hstart, hstop, hkind, hkindEnd, _⟩ := declaredAt?_of_regionAt? hr
  rw [kindAt?, kindAt?, hstart, hstop, Option.map_some, Option.map_some, hkind, hkindEnd]
  exact ⟨rfl, rfl⟩

theorem start_ne_end (h : ParsesTo m lines pairs parsed dropped) {s e s' e' : Nat}
    (hpair : (s, e) ∈ pairs) (hpair' : (s', e') ∈ pairs) : s ≠ e' := by
  intro heq
  have hkind := (h.kindAt?_of_mem hpair).1
  have hkind' := (h.kindAt?_of_mem hpair').2
  rw [heq, hkind'] at hkind
  cases hkind

end ParsesTo

theorem kindAt?_of_tag {i : Nat} {t : Tag} (ht : entryAt? m lines .tag i = some t) :
    kindAt? m lines i = some .tag := by
  obtain ⟨found, _, hfound, _, hkind, _⟩ := declaredAt?_of_entryAt? ht
  rw [kindAt?, hfound, Option.map_some, hkind]

theorem ParsesTo.tag_ne (h : ParsesTo m lines pairs parsed dropped) {s e i : Nat} {t : Tag}
    (hpair : (s, e) ∈ pairs) (ht : entryAt? m lines .tag i = some t) : s ≠ i ∧ e ≠ i := by
  obtain ⟨hkindStart, hkindEnd⟩ := h.kindAt?_of_mem hpair
  have hkind := kindAt?_of_tag ht
  constructor
  · intro heq
    rw [heq, hkind] at hkindStart
    cases hkindStart
  · intro heq
    rw [heq, hkind] at hkindEnd
    cases hkindEnd

/-- A region with a name at the position is the only entry there. -/
theorem editedAt_of_region (h : ParsesTo m lines pairs parsed dropped) (hnames : NamesOnLine m lines)
    {s₀ e₀ : Nat} {r₀ : Region} (hpair₀ : (s₀, e₀) ∈ pairs)
    (hr₀ : regionAt? m lines (s₀, e₀) = some r₀) (hat₀ : r₀.namedAt position = true)
    {edited : Nat → Prop} (hedited : ∀ i, edited i ↔ i = s₀ ∨ i = e₀ ∧ r₀.nameEnd.isSome = true) :
    EditedAt m lines pairs position edited := by
  have hline₀ := line_of_region_namedAt hnames hr₀ hat₀
  have hs₀ : edited s₀ := (hedited s₀).mpr (.inl rfl)
  -- an edited start is that of the region
  have hstart : ∀ s e, (s, e) ∈ pairs → edited s → s = s₀ := by
    intro s e hpair hs
    rcases (hedited s).mp hs with heq | hend
    · exact heq
    · exact absurd hend.1 (h.start_ne_end hpair hpair₀)
  refine ⟨?_, ?_, ?_, ?_⟩
  · intro s e hpair he
    rcases (hedited e).mp he with heq | hend
    · exact absurd heq.symm (h.start_ne_end hpair₀ hpair)
    · rw [hend.1] at hpair
      rw [h.law.start_unique hpair hpair₀]
      exact hs₀
  · intro s e hpair hs he texts htexts
    rw [hstart s e hpair hs] at hpair
    have heq : e = e₀ := h.law.end_unique hpair hpair₀
    obtain ⟨_, stop, _, hstop, _, _, _, _, _, hnameEnd, _⟩ := declaredAt?_of_regionAt? hr₀
    rw [heq, textsAt?_of_declared hstop] at htexts
    cases htexts
    cases hname : stop.name with
    | none => simp [LineMatch.texts, hname]
    | some token => exact absurd ((hedited e).mpr (.inr ⟨heq, by simp [hnameEnd, hname]⟩)) he
  · intro s e r hpair hr
    constructor
    · intro hat
      have hline := line_of_region_namedAt hnames hr hat
      have hne := h.start_ne_end hpair hpair₀
      have hne₀ := h.start_ne_end hpair₀ hpair
      by_cases hs : s = s₀
      · rw [hs]
        exact hs₀
      · have heq : e = e₀ := by omega
        rw [heq] at hpair
        exact absurd (h.law.start_unique hpair hpair₀) hs
    · intro hs
      have heq := hstart s e hpair hs
      rw [heq] at hpair hr
      rw [h.law.end_unique hpair hpair₀, hr₀] at hr
      cases hr
      exact hat₀
  · intro i t ht
    obtain ⟨hs, he⟩ := h.tag_ne hpair₀ ht
    constructor
    · intro hat
      have hline := line_of_tag_namedAt hnames ht hat
      omega
    · intro hi
      rcases (hedited i).mp hi with heq | hend
      · exact absurd heq.symm hs
      · exact absurd hend.1.symm he

/-- A tag with its name at the position is the only entry there. -/
theorem editedAt_of_tag (h : ParsesTo m lines pairs parsed dropped) (hnames : NamesOnLine m lines)
    {i₀ : Nat} {t₀ : Tag} (ht₀ : entryAt? m lines .tag i₀ = some t₀)
    (hat₀ : t₀.namedAt position = true) {edited : Nat → Prop} (hedited : ∀ i, edited i ↔ i = i₀) :
    EditedAt m lines pairs position edited := by
  have hline₀ := line_of_tag_namedAt hnames ht₀ hat₀
  refine ⟨?_, ?_, ?_, ?_⟩
  · intro s e hpair he
    exact absurd ((hedited e).mp he) (h.tag_ne hpair ht₀).2
  · intro s e hpair hs
    exact absurd ((hedited s).mp hs) (h.tag_ne hpair ht₀).1
  · intro s e r hpair hr
    obtain ⟨hs, he⟩ := h.tag_ne hpair ht₀
    constructor
    · intro hat
      have hline := line_of_region_namedAt hnames hr hat
      omega
    · intro hedit
      exact absurd ((hedited s).mp hedit) hs
  · intro i t ht
    rw [hedited i]
    constructor
    · intro hat
      exact (line_of_tag_namedAt hnames ht hat).symm.trans hline₀
    · intro heq
      rw [heq, ht₀] at ht
      cases ht
      exact hat₀

/-! ## One entry, and its edits -/

theorem countP_eq_one {α : Type} [DecidableEq α] {list : List α} {accept : α → Bool} {a : α}
    (hnodup : list.Nodup) (ha : a ∈ list) (haccept : ∀ b ∈ list, accept b = true ↔ b = a) :
    list.countP accept = 1 := by
  have hcount : list.count a = 1 := by
    rw [hnodup.count, if_pos ha]
  rw [← hcount]
  apply List.countP_congr
  intro b hb
  rw [haccept b hb, beq_iff_eq]

theorem ParsesTo.countP_regions (h : ParsesTo m lines pairs parsed dropped) (accept : Region → Bool) :
    parsed.regions.countP accept = pairs.countP fun pair => (regionAt? m lines pair).any accept := by
  have hcount := congrArg (List.countP fun r => r.any accept) h.regions_eq
  rw [List.countP_map, List.countP_map] at hcount
  exact hcount

theorem ParsesTo.countP_tags (h : ParsesTo m lines pairs parsed dropped) (accept : Tag → Bool) :
    parsed.tags.countP accept =
      (List.range lines.length).countP fun i => (entryAt? m lines .tag i).any accept := by
  rw [h.tags_eq, List.countP_filterMap]
  apply List.countP_congr
  intro i _
  cases entryAt? m lines .tag i <;> rfl

/-- Number of entries with a name at the position. -/
def ParsedRegions.countAt (parsed : ParsedRegions) (position : Position) : Nat :=
  parsed.regions.countP (fun r => r.namedAt position) +
    parsed.tags.countP fun t => t.namedAt position

/-- Edits that put another name in the place of one name, each on a line of its own, and on all lines
of the entry at the position that have it. -/
structure NameEdits (m : String → Nat → Option LineMatch) (lines : List String)
    (pairs : List (Nat × Nat)) (position : Position) (old name : String) (edits : List TextEdit) :
    Prop where
  edited : EditedAt m lines pairs position fun i => ∃ e ∈ edits, e.line = i
  distinct : edits.Pairwise fun e e' => e.line ≠ e'.line
  names : ∀ e ∈ edits, ∃ i found token, declaredAt? m lines i = some found ∧
    found.name = some token ∧ token.text = old ∧ e = ⟨token.span, name⟩

/-- It does not matter in which order the edits are listed. -/
theorem NameEdits.perm {old name : String} {edits order : List TextEdit}
    (h : NameEdits m lines pairs position old name edits) (hperm : order.Perm edits) :
    NameEdits m lines pairs position old name order := by
  have hmem : (fun i => ∃ e ∈ order, e.line = i) = fun i => ∃ e ∈ edits, e.line = i := by
    funext i
    simp only [hperm.mem_iff]
  refine ⟨?_, ?_, ?_⟩
  · rw [hmem]
    exact h.edited
  · exact h.distinct.perm hperm.symm fun hne => hne.symm
  · intro e he
    exact h.names e (hperm.mem_iff.mp he)

/-- The end of a region has the name of its start, if it has one. -/
theorem ParsesTo.nameEnd_text (h : ParsesTo m lines pairs parsed dropped) {s e : Nat}
    (hpair : (s, e) ∈ pairs) {r : Region} (hr : regionAt? m lines (s, e) = some r) {nameEnd : Token}
    (hnameEnd : r.nameEnd = some nameEnd) : nameEnd.text = r.name.text := by
  obtain ⟨start, stop, hstart, hstop, _, _, hname, _, _, hend, _⟩ := declaredAt?_of_regionAt? hr
  obtain ⟨start', stop', hstart', hstop', _, _, label, hlabel, hfits⟩ :=
    (canClose_iff_fitsAt.mp ((h.law s e).mp hpair).1).1
  cases (textsAt?_of_declared hstart).symm.trans hstart'
  cases (textsAt?_of_declared hstop).symm.trans hstop'
  have hwas : some r.name.text = some label := by
    rw [← hlabel, LineMatch.texts, hname]
    rfl
  have heq : label = nameEnd.text := by
    apply hfits
    rw [LineMatch.texts, ← hend, hnameEnd]
    rfl
  rw [← heq]
  exact (Option.some.inj hwas).symm

theorem ParsesTo.countAt_of_region (h : ParsesTo m lines pairs parsed dropped) {s e : Nat}
    {r : Region} (hpair : (s, e) ∈ pairs) {edited : Nat → Prop}
    (hedited : ∀ i, edited i ↔ i = s ∨ i = e ∧ r.nameEnd.isSome = true)
    (hat : EditedAt m lines pairs position edited) : parsed.countAt position = 1 := by
  have hregions : parsed.regions.countP (fun r => r.namedAt position) = 1 := by
    rw [h.countP_regions]
    refine countP_eq_one h.nodup hpair ?_
    intro pair hpair'
    obtain ⟨r', _, hr'⟩ := h.exists_region hpair'
    rw [hr', Option.any_some, hat.region pair.1 pair.2 r' hpair' hr', hedited]
    constructor
    · intro hs
      rcases hs with heq | hend
      · have hpair'' : (s, pair.2) ∈ pairs := by
          rw [← heq]
          exact hpair'
        rw [Prod.ext_iff]
        exact ⟨heq, h.law.end_unique hpair'' hpair⟩
      · exact absurd hend.1 (h.start_ne_end hpair' hpair)
    · intro heq
      rw [heq]
      exact .inl rfl
  have htags : parsed.tags.countP (fun t => t.namedAt position) = 0 := by
    rw [List.countP_eq_zero]
    intro t ht hatt
    rw [h.tags_eq] at ht
    obtain ⟨i, _, hi⟩ := List.mem_filterMap.mp ht
    obtain ⟨hs, he⟩ := h.tag_ne hpair hi
    rcases (hedited i).mp ((hat.tag i t hi).mp hatt) with heq | hend
    · exact hs heq.symm
    · exact he hend.1.symm
  rw [ParsedRegions.countAt, hregions, htags]

theorem ParsesTo.countAt_of_tag (h : ParsesTo m lines pairs parsed dropped) {i : Nat} {t : Tag}
    (hi : i < lines.length) (ht : entryAt? m lines .tag i = some t) {edited : Nat → Prop}
    (hedited : ∀ j, edited j ↔ j = i) (hat : EditedAt m lines pairs position edited) :
    parsed.countAt position = 1 := by
  have hregions : parsed.regions.countP (fun r => r.namedAt position) = 0 := by
    rw [List.countP_eq_zero]
    intro r hr hatr
    obtain ⟨⟨s, e⟩, hpair, hregion⟩ := h.exists_pair hr
    exact (h.tag_ne hpair ht).1 ((hedited s).mp ((hat.region s e r hpair hregion).mp hatr))
  have htags : parsed.tags.countP (fun t => t.namedAt position) = 1 := by
    rw [h.countP_tags]
    refine countP_eq_one List.nodup_range (List.mem_range.mpr hi) ?_
    intro j _
    rw [← hedited j]
    cases hentry : entryAt? m lines .tag j with
    | none =>
        rw [hedited j]
        constructor
        · intro hnone
          cases hnone
        · intro heq
          rw [heq, ht] at hentry
          cases hentry
    | some t' => exact hat.tag j t' hentry
  rw [ParsedRegions.countAt, hregions, htags]

theorem ParsesTo.nameEdits_of_region (h : ParsesTo m lines pairs parsed dropped)
    (hnames : NamesOnLine m lines) {r : Region} (hmem : r ∈ parsed.regions)
    (hat : r.namedAt position = true) (name : String) :
    parsed.countAt position = 1 ∧
      NameEdits m lines pairs position r.name.text name
        (r.names.map fun token => ⟨token.span, name⟩) := by
  obtain ⟨⟨s, e⟩, hpair, hr⟩ := h.exists_pair hmem
  obtain ⟨start, stop, hstart, hstop, _, _, hname, _, _, hend, _⟩ := declaredAt?_of_regionAt? hr
  have hline : r.name.span.start.line = s := by
    obtain ⟨a, b, hspan⟩ := hnames s start r.name hstart hname
    rw [hspan]
    rfl
  have hendLine : ∀ token, r.nameEnd = some token → token.span.start.line = e := by
    intro token htoken
    obtain ⟨a, b, hspan⟩ := hnames e stop token hstop (hend.symm.trans htoken)
    rw [hspan]
    rfl
  have hedited : ∀ i, (∃ edit ∈ r.names.map fun token => (⟨token.span, name⟩ : TextEdit),
      edit.line = i) ↔ i = s ∨ i = e ∧ r.nameEnd.isSome = true := by
    intro i
    cases hnameEnd : r.nameEnd with
    | none => simp [Region.names, TextEdit.line, hnameEnd, hline, eq_comm]
    | some token =>
        simp [Region.names, TextEdit.line, hnameEnd, hline, hendLine token hnameEnd, eq_comm]
  have hat' := editedAt_of_region h hnames hpair hr hat hedited
  refine ⟨h.countAt_of_region hpair hedited hat', hat', ?_, ?_⟩
  · cases hnameEnd : r.nameEnd with
    | none => simp [Region.names, hnameEnd]
    | some token =>
        have hne := h.start_ne_end hpair hpair
        simp [Region.names, TextEdit.line, hnameEnd, hline, hendLine token hnameEnd, hne]
  · intro edit hedit
    obtain ⟨token, htoken, rfl⟩ := List.mem_map.mp hedit
    rcases List.mem_cons.mp htoken with rfl | hnameEnd
    · exact ⟨s, start, r.name, hstart, hname, rfl, rfl⟩
    · have hnameEnd := Option.mem_toList.mp hnameEnd
      exact ⟨e, stop, token, hstop, hend.symm.trans hnameEnd, h.nameEnd_text hpair hr hnameEnd, rfl⟩

theorem ParsesTo.nameEdits_of_tag (h : ParsesTo m lines pairs parsed dropped)
    (hnames : NamesOnLine m lines) {t : Tag} (hmem : t ∈ parsed.tags)
    (hat : t.namedAt position = true) (name : String) :
    parsed.countAt position = 1 ∧
      NameEdits m lines pairs position t.name.text name [⟨t.name.span, name⟩] := by
  rw [h.tags_eq] at hmem
  obtain ⟨i, hi, ht⟩ := List.mem_filterMap.mp hmem
  obtain ⟨found, _, hfound, _, _, hname, _⟩ := declaredAt?_of_entryAt? ht
  obtain ⟨a, b, hspan⟩ := hnames i found t.name hfound hname
  have hedited : ∀ j, (∃ edit ∈ [(⟨t.name.span, name⟩ : TextEdit)], edit.line = j) ↔ j = i := by
    intro j
    simp [TextEdit.line, hspan, Span.onLine, eq_comm]
  have hat' := editedAt_of_tag h hnames ht hat hedited
  refine ⟨h.countAt_of_tag (List.mem_range.mp hi) ht hedited hat', hat', List.pairwise_singleton _ _,
    ?_⟩
  intro edit hedit
  rw [List.mem_singleton.mp hedit]
  exact ⟨i, found, t.name, hfound, hname, rfl, rfl⟩

/-- The edits of a renaming are those of the one entry with a name at the position. -/
theorem ParsesTo.nameEdits (h : ParsesTo m lines pairs parsed dropped) (hnames : NamesOnLine m lines)
    {name : String} {edits : List TextEdit} (hedits : parsed.renameEdits position name = .ok edits) :
    parsed.countAt position = 1 ∧ edits ≠ [] ∧ edits.length ≤ 2 ∧
      ∃ old, NameEdits m lines pairs position old name edits := by
  rcases ParsedRegions.renameEdits_eq_ok hedits with ⟨r, hr, hat, rfl⟩ | ⟨t, ht, hat, rfl⟩
  · obtain ⟨hone, hnameEdits⟩ := h.nameEdits_of_region hnames hr hat name
    refine ⟨hone, by simp [Region.names], ?_, _, hnameEdits⟩
    cases hnameEnd : r.nameEnd <;> simp [Region.names, hnameEnd]
  · obtain ⟨hone, hnameEdits⟩ := h.nameEdits_of_tag hnames ht hat name
    exact ⟨hone, by simp, by simp, _, hnameEdits⟩

/-! ## Entries under another name -/

section

variable {lines' : List String} {edited : Nat → Prop} {old name : String}

theorem renamed_of_regionAt? (h : Relabelled m lines lines' edited old name)
    (hat : EditedAt m lines pairs position edited) {s e : Nat} {r r' : Region}
    (hpair : (s, e) ∈ pairs) (hr : regionAt? m lines (s, e) = some r)
    (hr' : regionAt? m lines' (s, e) = some r') : r.Renamed position name r' := by
  obtain ⟨start, stop, hstart, hstop, _, _, hname, hkey, hkeyEnd, hnameEnd, hdescription, hspan,
    hspanEnd⟩ := declaredAt?_of_regionAt? hr
  obtain ⟨start', stop', hstart', hstop', _, _, hname', hkey', hkeyEnd', hnameEnd', hdescription',
    hspan', hspanEnd'⟩ := declaredAt?_of_regionAt? hr'
  obtain ⟨hstartKey, hstartDescription, hstartEdited, hstartKept⟩ := h.declared hstart hstart'
  obtain ⟨hstopKey, _, hstopEdited, hstopKept⟩ := h.declared hstop hstop'
  have hat' := hat.region s e r hpair hr
  rw [hname', hname, Option.map_some, Option.map_some, Option.some.injEq] at hstartKept
  rw [hname', Option.map_some, Option.some.injEq] at hstartEdited
  rw [← hnameEnd', ← hnameEnd] at hstopKept
  rw [← hnameEnd'] at hstopEdited
  refine ⟨hspan'.trans hspan.symm, hspanEnd'.trans hspanEnd.symm, ?_, ?_, ?_, ?_, ?_⟩
  · rw [hkey', hkey, hstartKey]
  · rw [hkeyEnd', hkeyEnd, hstopKey]
  · rw [hdescription', hdescription, hstartDescription]
  · by_cases hs : edited s
    · rw [if_pos (hat'.mpr hs)]
      exact hstartEdited hs
    · rw [if_neg (mt hat'.mp hs)]
      exact hstartKept hs
  · by_cases he : edited e
    · obtain ⟨texts, htexts, hlabel, _⟩ := h.renamed e he
      cases (textsAt?_of_declared hstop).symm.trans htexts
      rw [LineMatch.texts, ← hnameEnd] at hlabel
      obtain ⟨token, htoken, _⟩ := Option.map_eq_some_iff.mp hlabel
      rw [hstopEdited he, htoken, Option.map_some, if_pos (hat'.mpr (hat.stop s e hpair he))]
    · rw [hstopKept he]
      cases htoken : r.nameEnd with
      | none => rfl
      | some token =>
          -- a start is not edited without its named end
          have hs : ¬ edited s := by
            intro hs
            have hnone := hat.start s e hpair hs he stop.texts (textsAt?_of_declared hstop)
            rw [LineMatch.texts, ← hnameEnd, htoken] at hnone
            cases hnone
          rw [Option.map_some, Option.map_some, if_neg (mt hat'.mp hs)]

theorem renamed_of_entryAt? (h : Relabelled m lines lines' edited old name)
    (hat : EditedAt m lines pairs position edited) {i : Nat} {t t' : Tag}
    (ht : entryAt? m lines .tag i = some t) (ht' : entryAt? m lines' .tag i = some t') :
    t.Renamed position name t' := by
  obtain ⟨found, span, hfound, hspan, _, hname, hentry⟩ := declaredAt?_of_entryAt? ht
  obtain ⟨found', span', hfound', hspan', _, hname', hentry'⟩ := declaredAt?_of_entryAt? ht'
  obtain ⟨hkey, hdescription, hedited, hkept⟩ := h.declared hfound hfound'
  have hat' := hat.tag i t ht
  rw [hname', hname, Option.map_some, Option.map_some, Option.some.injEq] at hkept
  rw [hname', Option.map_some, Option.some.injEq] at hedited
  refine ⟨?_, ?_, ?_, ?_⟩
  · rw [hentry, hentry']
    exact (start_of_lineSpan? hspan').trans (start_of_lineSpan? hspan).symm
  · rw [hentry, hentry']
    exact hkey
  · rw [hentry, hentry']
    exact hdescription
  · by_cases hi : edited i
    · rw [if_pos (hat'.mpr hi)]
      exact hedited hi
    · rw [if_neg (mt hat'.mp hi)]
      exact hkept hi

end

/-- A text has the same entries, with the name at the position changed, once the lines of the entry
there are relabelled. -/
theorem ParsesTo.renamed_of_relabelled {lines' : List String} {pairs' : List (Nat × Nat)}
    {parsed' : ParsedRegions} {dropped' : Nat} {edited : Nat → Prop} {old name : String}
    (h : ParsesTo m lines pairs parsed dropped) (h' : ParsesTo m lines' pairs' parsed' dropped')
    (hrel : Relabelled m lines lines' edited old name)
    (hat : EditedAt m lines pairs position edited) :
    List.Forall₂ (Region.Renamed position name) parsed.regions parsed'.regions ∧
      List.Forall₂ (Tag.Renamed position name) parsed.tags parsed'.tags := by
  have hpairs : pairs' = pairs := h.pairs_eq h' (hrel.isPairing h.law hat.stop hat.start)
  constructor
  · have hregions := h'.regions_eq
    rw [hpairs] at hregions
    refine (forall₂_of_map_some h.regions_eq hregions).imp ?_
    intro r r' hr
    obtain ⟨⟨s, e⟩, hpair, hwas, hnow⟩ := hr
    exact renamed_of_regionAt? hrel hat hpair hwas hnow
  · rw [h.tags_eq, h'.tags_eq, hrel.length_eq]
    refine (forall₂_filterMap (hrel.isSome_entryAt?_eq .tag) _).imp ?_
    intro t t' ht
    obtain ⟨i, hwas, hnow⟩ := ht
    exact renamed_of_entryAt? hrel hat hwas hnow

end

end Waymark
