import Mathlib.Data.List.Nodup
import Waymark.Proofs.Marker.Address
import Waymark.Proofs.Region.Target
import Waymark.Region.Provider

/-!
# The tokens of a parse

A line that belongs to a region or a tag belongs to no other, and gives at most one token of each role.
So the tokens of a role stand on different lines, and there is at most one name at a position: whichever
is tried first, the same one is found.
-/

namespace Waymark

/-- The token that a line gives for a role. -/
def LineMatch.tokenOf? (f : LineMatch) : TokenKind → Option Token
  | .key => some f.key
  | .name => f.name
  | .description => f.description

/-- The tokens of a region for a role. -/
def Region.tokensOf (r : Region) : TokenKind → List Token
  | .key => [r.key, r.keyEnd]
  | .name => r.names
  | .description => r.description.toList

/-- The tokens of a tag for a role. -/
def Tag.tokensOf (t : Tag) : TokenKind → List Token
  | .key => [t.key]
  | .name => [t.name]
  | .description => t.description.toList

/-- The tokens of a parse for a role, those of the regions first. -/
def ParsedRegions.tokensOf (parsed : ParsedRegions) (role : TokenKind) : List Token :=
  parsed.regions.flatMap (·.tokensOf role) ++ parsed.tags.flatMap (·.tokensOf role)

/-! ## Lines of entries -/

section

variable (m : String → Nat → Option LineMatch) (lines : List String)

/-- Every token of a line stands on it. -/
def TokensOnLine : Prop :=
  ∀ i found role t, declaredAt? m lines i = some found → found.tokenOf? role = some t →
    t.span.start.line = i ∧ t.span.stop.line = i

/-- The lines that declare a tag. -/
def tagLines : List Nat :=
  (List.range lines.length).filter fun i => (entryAt? m lines .tag i).isSome

/-- The lines of all entries: of each region that of its start and that of its end, and of each tag its
own. -/
def entryLines (pairs : List (Nat × Nat)) : List Nat :=
  pairs.flatMap (fun pair => [pair.1, pair.2]) ++ tagLines m lines

end

section

variable {α β γ : Type} {f : α → Option β}

theorem map_some_filterMap (list : List α) :
    (list.filterMap f).map some = (list.filter fun a => (f a).isSome).map f := by
  induction list with
  | nil => rfl
  | cons a list ih => cases hf : f a <;> simp [hf, ih]

theorem sublist_flatMap_of_map_some {list : List α} {values : List β} {g : β → List γ}
    {k : α → List γ} (hvalues : values.map some = list.map f)
    (h : ∀ a b, f a = some b → (g b).Sublist (k a)) :
    (values.flatMap g).Sublist (list.flatMap k) := by
  induction list generalizing values with
  | nil =>
      rw [List.map_eq_nil_iff.mp hvalues]
      exact .slnil
  | cons a list ih =>
      obtain ⟨b, values, rfl, hb, hrest⟩ := List.map_eq_cons_iff.mp hvalues
      rw [List.flatMap_cons, List.flatMap_cons]
      exact (h a b hb.symm).append (ih hrest)

end

section

variable {m : String → Nat → Option LineMatch} {lines : List String} {pairs : List (Nat × Nat)}
  {parsed : ParsedRegions} {dropped : Nat} {role : TokenKind} {t : Token}

theorem mem_tagLines {i : Nat} (hi : i ∈ tagLines m lines) :
    ∃ tag, entryAt? m lines .tag i = some tag :=
  Option.isSome_iff_exists.mp (List.mem_filter.mp hi).2

theorem tokensOnLine_markers (m : Markers) (lines : List String) :
    TokensOnLine (MatchesLines.matchLine (LineMatcher.ofMarkers m)) lines := by
  intro i found role t hfound ht
  obtain ⟨line, _, _, hmatch⟩ := declaredAt?_eq_some.mp hfound
  have hstands := LineMatcher.standsOn_of_matchLine hmatch
  cases role with
  | key =>
      obtain ⟨_, _, _, _, hf⟩ := LineMatcher.exists_find_of_matchLine hmatch
      rw [hf] at ht
      cases ht
      exact ⟨rfl, rfl⟩
  | name => exact (hstands.tokens t (.inl ht)).line_eq
  | description => exact (hstands.tokens t (.inr ht)).line_eq

/-- The tokens of a region are those of its two lines. -/
theorem tokensOf_of_regionAt? (role : TokenKind) {s e : Nat} {r : Region}
    (hr : regionAt? m lines (s, e) = some r) :
    ∃ start stop, declaredAt? m lines s = some start ∧ declaredAt? m lines e = some stop ∧
      (r.tokensOf role).Sublist
        ((start.tokenOf? role).toList ++ (stop.tokenOf? role).toList) := by
  obtain ⟨start, stop, hstart, hstop, _, _, hname, hkey, hkeyEnd, hnameEnd, hdescription, _⟩ :=
    declaredAt?_of_regionAt? hr
  refine ⟨start, stop, hstart, hstop, ?_⟩
  cases role with
  | key => simp [Region.tokensOf, LineMatch.tokenOf?, hkey, hkeyEnd]
  | name => simp [Region.tokensOf, Region.names, LineMatch.tokenOf?, hname, hnameEnd]
  | description =>
      rw [Region.tokensOf, hdescription]
      exact List.sublist_append_left _ _

/-- The tokens of a tag are those of its line. -/
theorem tokensOf_of_entryAt? (role : TokenKind) {kind : MatchKind} {i : Nat} {tag : Tag}
    (htag : entryAt? m lines kind i = some tag) :
    ∃ found, declaredAt? m lines i = some found ∧
      tag.tokensOf role = (found.tokenOf? role).toList := by
  obtain ⟨found, _, hfound, _, _, hname, hentry⟩ := declaredAt?_of_entryAt? htag
  refine ⟨found, hfound, ?_⟩
  cases role with
  | key => rw [hentry]; rfl
  | name => simp [Tag.tokensOf, LineMatch.tokenOf?, hname]
  | description => rw [hentry]; rfl

theorem lines_toList_sublist (honLine : TokensOnLine m lines) {i : Nat} {found : LineMatch}
    (hfound : declaredAt? m lines i = some found) (role : TokenKind) :
    ((found.tokenOf? role).toList.map fun t => t.span.start.line).Sublist [i] := by
  cases ht : found.tokenOf? role with
  | none => exact List.nil_sublist _
  | some t =>
      have hline := (honLine i found role t hfound ht).1
      simp [hline]

namespace ParsesTo

variable (h : ParsesTo m lines pairs parsed dropped)

include h

/-- A line that belongs to an entry belongs to no other. -/
theorem nodup_entryLines : (entryLines m lines pairs).Nodup := by
  have hpairs : (pairs.flatMap fun pair => [pair.1, pair.2]).Nodup := by
    refine List.pairwise_flatMap.mpr ⟨fun pair hpair => ?_, ?_⟩
    · simpa using h.start_ne_end hpair hpair
    · refine h.nodup.imp_of_mem fun {a b} ha hb hne => ?_
      have hstart : a.1 ≠ b.1 := fun heq =>
        hne (Prod.ext heq (h.law.end_unique ha (by rw [heq]; exact hb)))
      have hend : a.2 ≠ b.2 := fun heq =>
        hne (Prod.ext (h.law.start_unique ha (by rw [heq]; exact hb)) heq)
      -- a start never stands on the line of an end: the two declare different kinds
      have hcross := h.start_ne_end ha hb
      have hcross' := h.start_ne_end hb ha
      simp only [List.mem_cons, List.not_mem_nil, or_false]
      rintro x (rfl | rfl) y (rfl | rfl)
      · exact hstart
      · exact hcross
      · exact hcross'.symm
      · exact hend
  refine List.nodup_append.mpr ⟨hpairs, List.nodup_range.filter _, ?_⟩
  rintro x hx y hy rfl
  obtain ⟨pair, hpair, hmem⟩ := List.mem_flatMap.mp hx
  obtain ⟨tag, htag⟩ := mem_tagLines hy
  obtain ⟨hs, he⟩ := h.tag_ne hpair htag
  simp only [List.mem_cons, List.not_mem_nil, or_false] at hmem
  rcases hmem with heq | heq
  · exact hs heq.symm
  · exact he heq.symm

theorem tags_map_some : parsed.tags.map some = (tagLines m lines).map (entryAt? m lines .tag) := by
  rw [h.tags_eq, map_some_filterMap, tagLines]

/-- A token of a parse is that of a line. -/
theorem exists_declared (ht : t ∈ parsed.tokensOf role) :
    ∃ i found, declaredAt? m lines i = some found ∧ found.tokenOf? role = some t := by
  rcases List.mem_append.mp ht with ht | ht
  · obtain ⟨r, hr, ht⟩ := List.mem_flatMap.mp ht
    obtain ⟨⟨s, e⟩, _, hregion⟩ := h.exists_pair hr
    obtain ⟨start, stop, hstart, hstop, htokens⟩ := tokensOf_of_regionAt? role hregion
    rcases List.mem_append.mp (htokens.subset ht) with ht | ht
    · exact ⟨s, start, hstart, Option.mem_toList.mp ht⟩
    · exact ⟨e, stop, hstop, Option.mem_toList.mp ht⟩
  · obtain ⟨tag, htag, ht⟩ := List.mem_flatMap.mp ht
    rw [h.tags_eq] at htag
    obtain ⟨i, _, hentry⟩ := List.mem_filterMap.mp htag
    obtain ⟨found, hfound, htokens⟩ := tokensOf_of_entryAt? role hentry
    rw [htokens] at ht
    exact ⟨i, found, hfound, Option.mem_toList.mp ht⟩

variable (honLine : TokensOnLine m lines)

include honLine

/-- Each line of an entry gives at most one token of a role. -/
theorem lines_sublist (role : TokenKind) :
    ((parsed.tokensOf role).map fun t => t.span.start.line).Sublist
      (entryLines m lines pairs) := by
  rw [ParsedRegions.tokensOf, List.map_append, List.map_flatMap, List.map_flatMap, entryLines]
  refine List.Sublist.append ?_ ?_
  · refine sublist_flatMap_of_map_some h.regions_eq fun pair r hr => ?_
    obtain ⟨start, stop, hstart, hstop, htokens⟩ := tokensOf_of_regionAt? role hr
    refine (htokens.map _).trans ?_
    rw [List.map_append]
    exact (lines_toList_sublist honLine hstart role).append
      (lines_toList_sublist honLine hstop role)
  · have hsublist := sublist_flatMap_of_map_some (k := fun i => [i]) h.tags_map_some
      (g := fun tag => (tag.tokensOf role).map fun t => t.span.start.line) fun i tag htag => by
        obtain ⟨found, hfound, htokens⟩ := tokensOf_of_entryAt? role htag
        rw [htokens]
        exact lines_toList_sublist honLine hfound role
    rwa [List.flatMap_singleton'] at hsublist

theorem nodup_lines (role : TokenKind) :
    ((parsed.tokensOf role).map fun t => t.span.start.line).Nodup :=
  (h.lines_sublist honLine role).nodup h.nodup_entryLines

theorem single_line (ht : t ∈ parsed.tokensOf role) : t.span.start.line = t.span.stop.line := by
  obtain ⟨i, found, hfound, htoken⟩ := h.exists_declared ht
  obtain ⟨hstart, hstop⟩ := honLine i found role t hfound htoken
  rw [hstart, hstop]

end ParsesTo

end

/-! ## One name at a position -/

theorem Span.line_eq_of_contains {s : Span} (hline : s.start.line = s.stop.line) {p : Position}
    (h : s.contains p = true) : s.start.line = p.line := by
  simp only [contains, Bool.and_eq_true, decide_eq_true_eq, Position.le_def] at h
  omega

/-- Every name stands on a line of its own, and so at most one stands at a position. -/
structure ParsedRegions.NamesApart (parsed : ParsedRegions) : Prop where
  single_line : ∀ t ∈ parsed.tokensOf .name, t.span.start.line = t.span.stop.line
  lines : ((parsed.tokensOf .name).map fun t => t.span.start.line).Nodup
  one_at : ∀ p, (parsed.tokensOf .name).countP (fun t => t.span.contains p) ≤ 1

theorem ParsesTo.namesApart {m : String → Nat → Option LineMatch} {lines : List String}
    {pairs : List (Nat × Nat)} {parsed : ParsedRegions} {dropped : Nat}
    (h : ParsesTo m lines pairs parsed dropped) (honLine : TokensOnLine m lines) :
    parsed.NamesApart := by
  have hlines := h.nodup_lines honLine .name
  refine ⟨fun t ht => h.single_line honLine ht, hlines, fun p => ?_⟩
  -- a name at the position stands on its line, and only one name does
  have hcontains : (parsed.tokensOf .name).countP (fun t => t.span.contains p) ≤
      (parsed.tokensOf .name).countP fun t => t.span.start.line == p.line := by
    refine List.countP_mono_left fun t ht hat => ?_
    exact beq_iff_eq.mpr (Span.line_eq_of_contains (h.single_line honLine ht) hat)
  have hcount : (parsed.tokensOf .name).countP (fun t => t.span.start.line == p.line) =
      ((parsed.tokensOf .name).map fun t => t.span.start.line).count p.line := by
    rw [List.count, List.countP_map]
    rfl
  rw [hcount] at hcontains
  exact Nat.le_trans hcontains (List.nodup_iff_count_le_one.mp hlines p.line)

/-! ## Trying the names in any order -/

/-- What is renamed at the names of a region. -/
def Region.targets (r : Region) : List RenameTarget :=
  r.names.map fun t => ⟨t.span, t.text, r.names.map Token.span⟩

/-- What is renamed at the name of a tag. -/
def Tag.targets (t : Tag) : List RenameTarget := [⟨t.name.span, t.name.text, [t.name.span]⟩]

/-- What is renamed at the names of a parse. -/
def ParsedRegions.targets (parsed : ParsedRegions) : List RenameTarget :=
  parsed.regions.flatMap Region.targets ++ parsed.tags.flatMap Tag.targets

/-- Try some targets in order: the first one with its name at the position counts. -/
def RenameTarget.firstAt (targets : List RenameTarget) (p : Position) :
    Except RenameError RenameTarget :=
  match targets.find? fun target => target.range.contains p with
  | some target => .ok target
  | none => .error (.noSymbolAt p)

theorem RenameTarget.ofRegion?_eq (p : Position) (r : Region) :
    ofRegion? p r = r.targets.find? fun target => target.range.contains p := by
  cases hend : r.nameEnd with
  | none =>
      cases hname : r.name.span.contains p <;>
        simp [ofRegion?, Region.targets, Region.names, hend, hname]
  | some nameEnd =>
      cases hname : r.name.span.contains p <;> cases hnameEnd : nameEnd.span.contains p <;>
        simp [ofRegion?, Region.targets, Region.names, hend, hname, hnameEnd]

theorem RenameTarget.ofTag?_eq (p : Position) (t : Tag) :
    ofTag? p t = t.targets.find? fun target => target.range.contains p := by
  cases hname : t.name.span.contains p <;> simp [ofTag?, Tag.targets, hname]

theorem ParsedRegions.renameTarget_eq (parsed : ParsedRegions) (p : Position) :
    parsed.renameTarget p = RenameTarget.firstAt parsed.targets p := by
  have hregions : RenameTarget.ofRegion? p = fun r =>
      r.targets.find? fun target => target.range.contains p :=
    funext (RenameTarget.ofRegion?_eq p)
  have htags : RenameTarget.ofTag? p = fun t =>
      t.targets.find? fun target => target.range.contains p :=
    funext (RenameTarget.ofTag?_eq p)
  have hfind : ((parsed.regions.findSome? (RenameTarget.ofRegion? p)).orElse fun _ =>
      parsed.tags.findSome? (RenameTarget.ofTag? p)) =
        parsed.targets.find? fun target => target.range.contains p := by
    rw [targets, List.find?_append, List.find?_flatMap, List.find?_flatMap, hregions, htags,
      Option.orElse_eq_or]
  cases htarget : parsed.targets.find? fun target => target.range.contains p with
  | none => simp only [renameTarget, RenameTarget.firstAt, hfind, htarget]
  | some target => simp only [renameTarget, RenameTarget.firstAt, hfind, htarget]

theorem ParsedRegions.map_range_targets (parsed : ParsedRegions) :
    parsed.targets.map RenameTarget.range = (parsed.tokensOf .name).map Token.span := by
  have hregion : ∀ r : Region,
      r.targets.map RenameTarget.range = (r.tokensOf .name).map Token.span := by
    intro r
    rw [Region.targets, List.map_map]
    rfl
  simp only [targets, tokensOf, List.map_append, List.map_flatMap, hregion]
  rfl

theorem find?_eq_of_perm {α : Type} {list list' : List α} {accept : α → Bool}
    (hperm : list'.Perm list) (hone : list.countP accept ≤ 1) :
    list'.find? accept = list.find? accept := by
  have hfilter := hperm.filter accept
  rw [List.countP_eq_length_filter] at hone
  rw [← List.head?_filter, ← List.head?_filter]
  cases hlist : list.filter accept with
  | nil => rw [hlist] at hfilter; rw [hfilter.eq_nil]
  | cons a rest =>
      rw [hlist, List.length_cons] at hone
      obtain rfl : rest = [] := List.length_eq_zero_iff.mp (by omega)
      rw [hlist] at hfilter
      rw [hfilter.eq_singleton]

/-- A position is renamed if and only if a name stands there, and the order in which the names are tried
does not matter. -/
structure Provider.RenamesOne {μ : Type} (q : Provider μ) : Prop where
  ok_iff : ∀ p, (∃ target, q.prepareRename p = .ok target) ↔
    ∃ t ∈ q.parsed.tokensOf .name, t.span.contains p = true
  any_order : ∀ p order, List.Perm order q.parsed.targets →
    q.prepareRename p = RenameTarget.firstAt order p

theorem ParsedRegions.NamesApart.renamesOne {μ : Type} {q : Provider μ}
    (h : q.parsed.NamesApart) : q.RenamesOne where
  ok_iff p := by
    have hany : (q.parsed.targets.any fun target => target.range.contains p) =
        (q.parsed.tokensOf .name).any fun t => t.span.contains p := by
      have hmap := congrArg (List.any · fun s => s.contains p) q.parsed.map_range_targets
      rwa [List.any_map, List.any_map] at hmap
    rw [Provider.prepareRename, ParsedRegions.renameTarget_eq, RenameTarget.firstAt,
      ← List.any_eq_true, ← hany]
    cases hfind : q.parsed.targets.find? fun target => target.range.contains p with
    | none => simpa using List.find?_eq_none.mp hfind
    | some target =>
        have hmem := List.mem_of_find?_eq_some hfind
        have hat := List.find?_some hfind
        simpa using ⟨target, hmem, hat⟩
  any_order p order hperm := by
    have hcount : q.parsed.targets.countP (fun target => target.range.contains p) =
        (q.parsed.tokensOf .name).countP fun t => t.span.contains p := by
      have hmap := congrArg (List.countP fun s => s.contains p) q.parsed.map_range_targets
      rwa [List.countP_map, List.countP_map] at hmap
    rw [Provider.prepareRename, ParsedRegions.renameTarget_eq, RenameTarget.firstAt,
      RenameTarget.firstAt, find?_eq_of_perm hperm (hcount ▸ h.one_at p)]

end Waymark
