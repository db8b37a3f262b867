import Mathlib.Data.List.Basic
import Waymark.Completion
import Waymark.Document
import Waymark.Proofs.Marker.Columns
import Waymark.Proofs.Marker.Renamed
import Waymark.Proofs.Region.Pairing
import Waymark.Proofs.Text.Line

/-!
# Snippets declare what is put in them

A snippet writes marker lines with places to fill in, and the patterns of the same markers read marker
lines. Filled in, a pair of markers is read as one region and a tag as one tag, with the name and the
description that were put in. The start is tried first in every line, but the only blank of an end line
stands behind the whole marker, so a start that is read there is a suffix of the end.
-/

namespace Waymark

open Text

/-! ## Filling in -/

/-- Put texts in the place of others, all at once: from left to right, wherever one of the others stands.
Some characters are passed over first. -/
def fillIn (places : List (List Char × List Char)) : (passed : Nat) → List Char → List Char
  | _, [] => []
  | passed + 1, _ :: rest => fillIn places passed rest
  | 0, c :: rest =>
    match places.find? fun place => place.1.isPrefixOf (c :: rest) with
    | some place => place.2 ++ fillIn places (place.1.length - 1) rest
    | none => c :: fillIn places 0 rest

/-- What is put in the places of a snippet. -/
structure Filling where
  name : String
  description : String
  body : String
  deriving DecidableEq, Repr

namespace Filling

def places (f : Filling) : List (List Char × List Char) :=
  [("$\x7b1:name\x7d".toList, f.name.toList),
    ("$\x7b2:description\x7d".toList, f.description.toList), ("$0".toList, f.body.toList)]

/-- The text of a snippet with its places filled in. -/
def expand (f : Filling) (item : CompletionItem) : String :=
  String.ofList (fillIn f.places 0 item.insertText.toList)

/-- A word for the name, a description that nothing stands before, and everything within its line. -/
structure WellFormed (f : Filling) : Prop where
  name_ne : f.name.toList ≠ []
  name_word : ∀ c ∈ f.name.toList, isNameChar c = true
  description_ne : f.description.toList ≠ []
  description_start : ∀ c ∈ f.description.toList.head?, isGap c = false
  description_line : ∀ c ∈ f.description.toList, isLineBreak c = false
  body_line : ∀ c ∈ f.body.toList, isLineBreak c = false

theorem wellFormed_iff {f : Filling} :
    (!f.name.toList.isEmpty && f.name.toList.all isNameChar && !f.description.toList.isEmpty &&
      f.description.toList.head?.all (fun c => !isGap c) &&
      f.description.toList.all (fun c => !isLineBreak c) &&
      f.body.toList.all fun c => !isLineBreak c) = true ↔ f.WellFormed := by
  simp only [Bool.and_eq_true, List.all_eq_true, Option.all_eq_true, Bool.not_eq_true',
    List.isEmpty_eq_false_iff]
  constructor
  · rintro ⟨⟨⟨⟨⟨hname, hword⟩, hdescription⟩, hstart⟩, hline⟩, hbody⟩
    exact ⟨hname, hword, hdescription, hstart, hline, hbody⟩
  · rintro ⟨hname, hword, hdescription, hstart, hline, hbody⟩
    exact ⟨⟨⟨⟨⟨hname, hword⟩, hdescription⟩, hstart⟩, hline⟩, hbody⟩

instance (f : Filling) : Decidable f.WellFormed := decidable_of_iff _ wellFormed_iff

variable (f : Filling)

theorem fillIn_of_no_sign {text : List Char} (htext : '$' ∉ text) (more : List Char) :
    fillIn f.places 0 (text ++ more) = text ++ fillIn f.places 0 more := by
  induction text with
  | nil => rfl
  | cons c text ih =>
      obtain ⟨hc, htext⟩ := List.ne_and_not_mem_of_not_mem_cons htext
      have hnone : f.places.find? (fun place => place.1.isPrefixOf (c :: (text ++ more))) = none := by
        simp [places, hc]
      rw [List.cons_append, fillIn, hnone]
      dsimp only
      rw [ih htext, List.cons_append]

theorem fillIn_name (more : List Char) :
    fillIn f.places 0 ("$\x7b1:name\x7d".toList ++ more) =
      f.name.toList ++ fillIn f.places 0 more := by
  simp [fillIn, places]

theorem fillIn_description (more : List Char) :
    fillIn f.places 0 ("$\x7b2:description\x7d".toList ++ more) =
      f.description.toList ++ fillIn f.places 0 more := by
  simp [fillIn, places]

theorem fillIn_body (more : List Char) :
    fillIn f.places 0 ("$0".toList ++ more) = f.body.toList ++ fillIn f.places 0 more := by
  simp [fillIn, places]

end Filling

/-- Markers that stand for themselves and hold neither blanks nor the sign that places begin with. -/
structure Markers.Simple (m : Markers) : Prop where
  literal : m.Literal
  solid : m.Solid
  no_sign : ∀ kind, '$' ∉ (m.textOf kind).toList

namespace Filling

variable {m : Markers} {f : Filling}

/-- The line of a start or of a tag. -/
def labelLine (f : Filling) (marker : String) : List Char :=
  marker.toList ++ ' ' :: (f.name.toList ++ ' ' :: f.description.toList)

/-- The line of an end. -/
def endLine (f : Filling) (marker : String) : List Char :=
  marker.toList ++ ' ' :: f.name.toList

theorem fillIn_label {marker : String} (hmarker : '$' ∉ marker.toList) (more : List Char) :
    fillIn f.places 0 (marker.toList ++ (CompletionItem.fields.toList ++ more)) =
      f.labelLine marker ++ fillIn f.places 0 more := by
  have hfields : CompletionItem.fields.toList =
      [' '] ++ ("$\x7b1:name\x7d".toList ++ ([' '] ++ "$\x7b2:description\x7d".toList)) := by
    decide
  rw [hfields]
  simp only [List.append_assoc]
  rw [f.fillIn_of_no_sign hmarker, f.fillIn_of_no_sign (by simp), f.fillIn_name,
    f.fillIn_of_no_sign (by simp), f.fillIn_description]
  simp [labelLine]

theorem toList_expand_tag (hm : m.Simple) (command : Option String) :
    (f.expand (.tag m command)).toList = f.labelLine m.tag := by
  have hmarker : '$' ∉ m.tag.toList := hm.no_sign .tag
  have hitem : (CompletionItem.tag m command).insertText.toList =
      m.tag.toList ++ (CompletionItem.fields.toList ++ []) := by
    simp [CompletionItem.tag]
  rw [expand, hitem, fillIn_label hmarker, String.toList_ofList]
  exact List.append_nil _

theorem toList_expand_regionPair (hm : m.Simple) (command : Option String) :
    (f.expand (.regionPair m command)).toList =
      f.labelLine m.regionStart ++ '\n' :: (f.body.toList ++ '\n' :: f.endLine m.regionEnd) := by
  have hstart : '$' ∉ m.regionStart.toList := hm.no_sign .regionStart
  have hend : '$' ∉ m.regionEnd.toList := hm.no_sign .regionEnd
  have hitem : (CompletionItem.regionPair m command).insertText.toList =
      m.regionStart.toList ++ (CompletionItem.fields.toList ++ (['\n'] ++ ("$0".toList ++
        (['\n'] ++ (m.regionEnd.toList ++ ([' '] ++ ("$\x7b1:name\x7d".toList ++ []))))))) := by
    simp [CompletionItem.regionPair]
  rw [expand, hitem, fillIn_label hstart, f.fillIn_of_no_sign (by simp), f.fillIn_body,
    f.fillIn_of_no_sign (by simp), f.fillIn_of_no_sign hend, f.fillIn_of_no_sign (by simp),
    f.fillIn_name, String.toList_ofList]
  simp [endLine, fillIn]

end Filling

/-! ## The lines of an expanded snippet -/

theorem breakLines_lines {first : List (List Char)} {last : List Char}
    (hfirst : ∀ line ∈ first, ∀ c ∈ line, isLineBreak c = false)
    (hlast : ∀ c ∈ last, isLineBreak c = false) :
    breakLines (first.flatMap (· ++ ['\n']) ++ last) = first.map (· ++ ['\n']) ++ [last] := by
  induction first with
  | nil =>
      obtain ⟨line, more, hnil, happend⟩ := breakLines_plain_append hlast []
      cases hnil
      simpa using happend
  | cons line first ih =>
      have hrest := ih fun line hline => hfirst line (List.mem_cons_of_mem _ hline)
      obtain ⟨front, more, hfront, happend⟩ := breakLines_plain_append
        (hfirst line List.mem_cons_self) ('\n' :: (first.flatMap (· ++ ['\n']) ++ last))
      have hbreak : breakLines ('\n' :: (first.flatMap (· ++ ['\n']) ++ last)) =
          ['\n'] :: breakLines (first.flatMap (· ++ ['\n']) ++ last) := rfl
      rw [hbreak, hrest] at hfront
      cases hfront
      simpa using happend

theorem Document.lines_of_plain {d : Document} {first : List (List Char)} {last : List Char}
    (hfirst : ∀ line ∈ first, ∀ c ∈ line, isLineBreak c = false)
    (hlast : ∀ c ∈ last, isLineBreak c = false)
    (hchars : d.chars = first.flatMap (· ++ ['\n']) ++ last) :
    d.lines = (first ++ [last]).map String.ofList := by
  have htrim : ∀ line ∈ first, trimLine (line ++ ['\n']) = line := fun line hline =>
    (trimLine_plain_append (hfirst line hline) ['\n']).trans (List.append_nil line)
  have hend : trimLine last = last := by
    have happend := trimLine_plain_append hlast []
    rwa [List.append_nil, show trimLine [] = [] from rfl, List.append_nil] at happend
  rw [lines, rawLines, hchars, breakLines_lines hfirst hlast, List.map_append, List.map_append,
    List.map_map, List.map_singleton, List.map_singleton, hend]
  congr 1
  exact List.map_congr_left fun line hline => by simp [htrim line hline]

namespace Filling

variable {m : Markers} {f : Filling} {kind : MatchKind}

theorem no_break_labelLine (hm : m.Simple) (hf : f.WellFormed) (kind : MatchKind) :
    ∀ c ∈ f.labelLine (m.textOf kind), isLineBreak c = false := by
  have hname : ∀ c ∈ f.name.toList, isLineBreak c = false := fun c hc =>
    isLineBreak_eq_false (by simpa [isNameChar] using hf.name_word c hc)
  simp only [labelLine, List.forall_mem_append, List.forall_mem_cons]
  exact ⟨fun c hc => isLineBreak_eq_false ((hm.solid kind).2 c hc), rfl, hname, rfl,
    hf.description_line⟩

theorem no_break_endLine (hm : m.Simple) (hf : f.WellFormed) :
    ∀ c ∈ f.endLine m.regionEnd, isLineBreak c = false := by
  have hmarker : ∀ c ∈ m.regionEnd.toList, isLineBreak c = false := fun c hc =>
    isLineBreak_eq_false ((hm.solid .regionEnd).2 c hc)
  simp only [endLine, List.forall_mem_append, List.forall_mem_cons]
  exact ⟨hmarker, rfl, fun c hc => isLineBreak_eq_false
    (by simpa [isNameChar] using hf.name_word c hc)⟩

theorem lines_regionPair (hm : m.Simple) (hf : f.WellFormed) {command : Option String} {d : Document}
    (hd : d.text = f.expand (.regionPair m command)) :
    d.lines = [String.ofList (f.labelLine m.regionStart), f.body,
      String.ofList (f.endLine m.regionEnd)] := by
  have hchars : d.chars = [f.labelLine m.regionStart, f.body.toList].flatMap (· ++ ['\n']) ++
      f.endLine m.regionEnd := by
    simp [Document.chars, hd, toList_expand_regionPair hm]
  have hfirst : ∀ line ∈ [f.labelLine m.regionStart, f.body.toList], ∀ c ∈ line,
      isLineBreak c = false := by
    simpa using ⟨no_break_labelLine hm hf .regionStart, hf.body_line⟩
  simpa using Document.lines_of_plain hfirst (no_break_endLine hm hf) hchars

theorem lines_tag (hm : m.Simple) (hf : f.WellFormed) {command : Option String} {d : Document}
    (hd : d.text = f.expand (.tag m command)) : d.lines = [String.ofList (f.labelLine m.tag)] := by
  have hchars : d.chars = ([] : List (List Char)).flatMap (· ++ ['\n']) ++ f.labelLine m.tag := by
    simp [Document.chars, hd, toList_expand_tag hm]
  exact Document.lines_of_plain (by simp) (no_break_labelLine hm hf .tag) hchars

end Filling

/-! ## What the lines declare -/

namespace LineMatcher

variable {m : Markers} {kind : MatchKind}

/-- A line that begins with a marker declares what stands behind it, unless a marker that is tried before
stands somewhere in the line. -/
theorem matchLine_of_head (hm : m.Literal)
    (hsome : ((ofMarkers m).patternOf kind).pattern.isSome = true) (behind : List Char)
    (hgap : startsWithGap behind = true)
    (hearlier : ∀ kind' : MatchKind, kind'.rank < kind.rank →
      Absent m kind' ((m.textOf kind).toList ++ behind)) (lineNumber : Nat) :
    matchLine (ofMarkers m) (String.ofList ((m.textOf kind).toList ++ behind)) lineNumber =
      some (tokensBehind kind (m.textOf kind) lineNumber 0 behind) := by
  refine (matchLine_eq_some_iff hm _ _ _).mpr ⟨kind, 0, ?_, ?_, ?_⟩
  · rw [String.toList_ofList]
    exact ⟨Nat.zero_le _, ⟨hsome, behind, rfl, fun _ => hgap⟩, fun j hj => absurd hj (Nat.not_lt_zero j)⟩
  · rw [String.toList_ofList]
    exact hearlier
  · rw [String.toList_ofList, Nat.zero_add, List.drop_left]

end LineMatcher

namespace Filling

open LineMatcher

variable {m : Markers} {f : Filling} {kind : MatchKind}

/-- A line says what is filled in. -/
structure Says (f : Filling) (kind : MatchKind) (found : LineMatch) : Prop where
  kind_eq : found.kind = kind
  name_eq : found.name.map Token.text = some f.name
  description_eq : kind ≠ .regionEnd → found.description.map Token.text = some f.description

theorem says_labelLine (hm : m.Simple) (hf : f.WellFormed) (hkind : kind ≠ .regionEnd)
    (hsome : ((ofMarkers m).patternOf kind).pattern.isSome = true)
    (hearlier : ∀ kind' : MatchKind, kind'.rank < kind.rank →
      Absent m kind' (f.labelLine (m.textOf kind))) (lineNumber : Nat) :
    ∃ found, matchLine (ofMarkers m) (String.ofList (f.labelLine (m.textOf kind))) lineNumber =
      some found ∧ f.Says kind found := by
  have hsplit := tokensBehind_split kind (m.textOf kind) lineNumber 0 (List.cons_ne_nil ' ' [])
    (by simp [isGap]) hf.name_ne hf.name_word (y := ' ' :: f.description.toList)
    (by rintro c ⟨⟩; rfl)
  have hmatch := matchLine_of_head hm.literal hsome
    (' ' :: (f.name.toList ++ ' ' :: f.description.toList)) rfl hearlier lineNumber
  rw [List.singleton_append] at hsplit
  rw [hsplit] at hmatch
  refine ⟨_, hmatch, rfl, by simp, fun _ => ?_⟩
  have hline : '\n' ∉ f.description.toList := fun hmem =>
    Bool.noConfusion (hf.description_line '\n' hmem)
  rw [if_neg hkind, stretch?_behind_space hf.description_ne hf.description_start hline,
    String.ofList_toList]

/-- Only in front of its blank can a start stand in an end line, and then it ends the end. -/
theorem absent_start_endLine (hm : m.Simple) (hf : f.WellFormed)
    (hsuffix : ¬ m.regionStart.toList <:+ m.regionEnd.toList) :
    Absent m .regionStart (f.endLine m.regionEnd) := by
  rintro j _ ⟨_, behind, htext, hgap⟩
  obtain ⟨c, rest, rfl, hc⟩ := head?_of_startsWithGap (hgap (by decide))
  have hblank := isBlank_of_isGap hc
  have hend : c ∉ m.regionEnd.toList := fun hmem => by
    have hsolid := (hm.solid .regionEnd).2 c hmem
    rw [hblank] at hsolid
    cases hsolid
  have hname : c ∉ f.name.toList := fun hmem => by
    have hword := hf.name_word c hmem
    rw [isNameChar, hblank] at hword
    cases hword
  have hline := List.take_append_drop j (f.endLine m.regionEnd)
  rw [htext, ← List.append_assoc, endLine] at hline
  obtain ⟨hmarker, _, _⟩ := (List.append_cons_inj_of_notMem hend hname).mp hline.symm
  exact hsuffix ⟨_, hmarker.symm⟩

theorem says_endLine (hm : m.Simple) (hf : f.WellFormed)
    (hsome : ((ofMarkers m).patternOf .regionEnd).pattern.isSome = true)
    (hsuffix : ¬ m.regionStart.toList <:+ m.regionEnd.toList) (lineNumber : Nat) :
    ∃ found, matchLine (ofMarkers m) (String.ofList (f.endLine m.regionEnd)) lineNumber =
      some found ∧ f.Says .regionEnd found := by
  have hsplit := tokensBehind_split .regionEnd (m.textOf .regionEnd) lineNumber 0
    (List.cons_ne_nil ' ' []) (by simp [isGap]) hf.name_ne hf.name_word (y := []) (by simp)
  have hearlier : ∀ kind' : MatchKind, kind'.rank < MatchKind.regionEnd.rank →
      Absent m kind' ((m.textOf .regionEnd).toList ++ ' ' :: f.name.toList) := by
    intro kind' hrank
    cases kind' with
    | regionStart => exact absent_start_endLine hm hf hsuffix
    | regionEnd => exact absurd hrank (Nat.lt_irrefl _)
    | tag => exact absurd hrank (by decide)
  have hmatch := matchLine_of_head hm.literal hsome (' ' :: f.name.toList) rfl hearlier lineNumber
  rw [List.append_nil, List.singleton_append] at hsplit
  rw [hsplit] at hmatch
  exact ⟨_, hmatch, rfl, by simp, fun hkind => absurd rfl hkind⟩

theorem exists_word (hm : m.Simple) (kind : MatchKind) (behind : List Char) :
    ∃ c ∈ (String.ofList ((m.textOf kind).toList ++ behind)).toList, Unicode.isBlank c = false := by
  obtain ⟨hne, hsolid⟩ := hm.solid kind
  obtain ⟨c, rest, hcons⟩ := List.exists_cons_of_ne_nil hne
  have hc : c ∈ (m.textOf kind).toList := hcons ▸ List.mem_cons_self
  refine ⟨c, ?_, hsolid c hc⟩
  rw [String.toList_ofList]
  exact List.mem_append_left _ hc

/-! ## What a parse of the snippet finds -/

/-- A region says what is filled in, on both of its lines. -/
structure IsRegion (f : Filling) (r : Region) : Prop where
  name_eq : r.name.text = f.name
  nameEnd_eq : r.nameEnd.map Token.text = some f.name
  description_eq : r.description.map Token.text = some f.description

structure IsTag (f : Filling) (t : Tag) : Prop where
  name_eq : t.name.text = f.name
  description_eq : t.description.map Token.text = some f.description

theorem Says.exists_name {found : LineMatch} (h : f.Says kind found) :
    ∃ name, found.name = some name ∧ name.text = f.name :=
  Option.map_eq_some_iff.mp h.name_eq

theorem outcome_eq {lines : List String} {n : Nat} {s : Pairing} (hlength : lines.length = n)
    (hs : pairingAt (matchLine (ofMarkers m)) lines n = s) :
    (ParseRun.ofLines (ofMarkers m) .never lines).outcome =
      .complete s.parsed n s.unpaired.length := by
  subst hlength hs
  exact ParseRun.outcome_never (ofMarkers m) lines

theorem outcome_regionPair (hm : m.Simple) (hf : f.WellFormed)
    (hstart : ((ofMarkers m).patternOf .regionStart).pattern.isSome = true)
    (hend : ((ofMarkers m).patternOf .regionEnd).pattern.isSome = true)
    (hsuffix : ¬ m.regionStart.toList <:+ m.regionEnd.toList)
    (hbody : isBlankLine f.body.toList = true ∨ ∃ i, matchLine (ofMarkers m) f.body i = none)
    {command : Option String} {d : Document} (hd : d.text = f.expand (.regionPair m command)) :
    ∃ r, (ParseRun.ofLines (ofMarkers m) .never d.lines).outcome = .complete ⟨[r], []⟩ 3 0 ∧
      f.IsRegion r := by
  obtain ⟨opening, hopening, hsays⟩ := says_labelLine (f := f) hm hf (by decide) hstart
    (fun kind' hrank => absurd hrank (Nat.not_lt_zero _)) 0
  obtain ⟨closing, hclosing, hsays'⟩ := says_endLine (f := f) hm hf hend hsuffix 2
  obtain ⟨name, hname, htext⟩ := hsays.exists_name
  obtain ⟨name', hname', htext'⟩ := hsays'.exists_name
  obtain ⟨c, hc, hword⟩ := exists_word hm .regionStart (' ' :: (f.name.toList ++ ' ' :: f.description.toList))
  obtain ⟨c', hc', hword'⟩ := exists_word hm .regionEnd (' ' :: f.name.toList)
  have hsilent : declaredAt? (matchLine (ofMarkers m)) d.lines 1 = none := by
    rw [declaredAt?, lines_regionPair hm hf hd]
    rcases hbody with hblank | ⟨i, hnone⟩
    · simp [hblank]
    · simp [matchLine_eq_none_iff.mpr (matchLine_eq_none_iff.mp hnone)]
  have hlines := lines_regionPair hm hf hd
  have hfirst : declaredAt? (matchLine (ofMarkers m)) d.lines 0 = some opening :=
    declaredAt?_of_word (by rw [hlines]; rfl) hc hword hopening
  have hlast : declaredAt? (matchLine (ofMarkers m)) d.lines 2 = some closing :=
    declaredAt?_of_word (by rw [hlines]; rfl) hc' hword' hclosing
  let span : Span := .onLine 0 0 (String.ofList (f.labelLine m.regionStart)).toList.length
  have hopen : (pairingAt (matchLine (ofMarkers m)) d.lines 2).unpaired =
      [⟨opening.key, name, opening.description, span⟩] ∧
      (pairingAt (matchLine (ofMarkers m)) d.lines 2).parsed = {} := by
    rw [pairingAt_succ_of_not_declared hsilent,
      pairingAt_succ_of_declared (by rw [hlines]; rfl) hfirst, Pairing.feed, hsays.kind_eq, hname]
    exact ⟨rfl, rfl⟩
  have hmeets : ∀ n ∈ closing.name, n.text = name.text := by
    rw [hname']
    rintro n ⟨⟩
    rw [htext', htext]
  have hclosed := pairingAt_succ_of_declared (i := 2) (by rw [hlines]; rfl) hlast
  rw [Pairing.feed_end hopen.1 hsays'.kind_eq hmeets, hopen.2] at hclosed
  exact ⟨_, outcome_eq (by rw [hlines]; rfl) hclosed, htext, hsays'.name_eq,
    hsays.description_eq (by decide)⟩

theorem outcome_tag (hm : m.Simple) (hf : f.WellFormed)
    (htag : ((ofMarkers m).patternOf .tag).pattern.isSome = true) {command : Option String}
    (hsilent : ∀ kind : MatchKind, kind ≠ .tag →
      ((ofMarkers m).patternOf kind).find? (f.expand (.tag m command)).toList = none)
    {d : Document} (hd : d.text = f.expand (.tag m command)) :
    ∃ t, (ParseRun.ofLines (ofMarkers m) .never d.lines).outcome = .complete ⟨[], [t]⟩ 1 0 ∧
      f.IsTag t := by
  have hearlier : ∀ kind' : MatchKind, kind'.rank < MatchKind.tag.rank →
      Absent m kind' (f.labelLine (m.textOf .tag)) := by
    intro kind' hrank
    have hnone := hsilent kind' fun heq => Nat.lt_irrefl _ (heq ▸ hrank)
    rw [toList_expand_tag hm] at hnone
    exact (absent_iff_find?_eq_none hm.literal).mpr hnone
  obtain ⟨found, hfound, hsays⟩ := says_labelLine (f := f) hm hf (by decide) htag hearlier 0
  obtain ⟨name, hname, htext⟩ := hsays.exists_name
  obtain ⟨c, hc, hword⟩ := exists_word hm .tag (' ' :: (f.name.toList ++ ' ' :: f.description.toList))
  have hlines := lines_tag hm hf hd
  have hdeclared : declaredAt? (matchLine (ofMarkers m)) d.lines 0 = some found :=
    declaredAt?_of_word (by rw [hlines]; rfl) hc hword hfound
  have hfed := pairingAt_succ_of_declared (i := 0) (by rw [hlines]; rfl) hdeclared
  rw [Pairing.feed, hsays.kind_eq, hname] at hfed
  exact ⟨_, outcome_eq (by rw [hlines]; rfl) hfed, htext, hsays.description_eq (by decide)⟩

end Filling

/-! ## The snippets for a line -/

namespace CompletionItem

open LineMatcher

/-- Each of the snippets that are offered for a line declares what is put in it, whatever that is. A pair of
markers whose start and end have patterns is read as one region, provided that a start does not end the end
and that the line in between declares nothing. A tag that has a pattern is read as one tag, provided that
neither a start nor an end is read in its line. -/
theorem forLine_declares {m : Markers} (hm : m.Simple) {f : Filling} (hf : f.WellFormed) (line : String) :
    (forLine m line).map CompletionItem.kind = [.regionPair, .tag] ∧
      ∀ item ∈ forLine m line, ∀ d : Document, d.text = f.expand item →
        (item.kind = .regionPair →
          (ofMarkers m).regionStart.pattern.isSome = true →
          (ofMarkers m).regionEnd.pattern.isSome = true →
          ¬ m.regionStart.toList <:+ m.regionEnd.toList →
          (isBlankLine f.body.toList = true ∨ ∃ i, matchLine (ofMarkers m) f.body i = none) →
          ∃ r, (ParseRun.ofLines (ofMarkers m) .never d.lines).outcome = .complete ⟨[r], []⟩ 3 0 ∧
            f.IsRegion r) ∧
        (item.kind = .tag →
          (ofMarkers m).tag.pattern.isSome = true →
          (ofMarkers m).regionStart.find? (f.expand item).toList = none →
          (ofMarkers m).regionEnd.find? (f.expand item).toList = none →
          ∃ t, (ParseRun.ofLines (ofMarkers m) .never d.lines).outcome = .complete ⟨[], [t]⟩ 1 0 ∧
            f.IsTag t) := by
  refine ⟨rfl, fun item hitem d hd => ?_⟩
  simp only [forLine, List.mem_cons, List.not_mem_nil, or_false] at hitem
  rcases hitem with rfl | rfl
  · refine ⟨fun _ hstart hend hsuffix hbody => ?_, nofun⟩
    exact Filling.outcome_regionPair hm hf hstart hend hsuffix hbody hd
  · refine ⟨nofun, fun _ htag hstart hend => ?_⟩
    refine Filling.outcome_tag hm hf htag (fun kind hkind => ?_) hd
    cases kind with
    | regionStart => exact hstart
    | regionEnd => exact hend
    | tag => exact absurd rfl hkind

/-- Markers full of signs that mean something in a pattern, filled in with a name and a description that
begin with the start. -/
theorem forLine_declares_marker_in_name :
    let m : Markers := { regionStart := "(*", regionEnd := "(*)", tag := "(?", escape := true }
    let f : Filling := ⟨"(*n", "(*! ", "\t"⟩
    m.Simple ∧ f.WellFormed ∧
      (∃ r, (ParseRun.ofLines (ofMarkers m) .never
          (Document.lines { id := 1, text := f.expand (.regionPair m none) })).outcome =
            .complete ⟨[r], []⟩ 3 0 ∧ f.IsRegion r) ∧
      ∃ t, (ParseRun.ofLines (ofMarkers m) .never
          (Document.lines { id := 1, text := f.expand (.tag m none) })).outcome =
            .complete ⟨[], [t]⟩ 1 0 ∧ f.IsTag t := by
  intro m f
  have hm : m.Simple := by
    refine ⟨.inl rfl, ?_, ?_⟩
    · intro kind
      cases kind <;> simp [Markers.textOf, m, Unicode.isBlank]
    · intro kind
      cases kind <;> simp [Markers.textOf, m]
  have hf : f.WellFormed := by decide
  obtain ⟨_, hall⟩ := forLine_declares hm hf "x"
  have hpair : CompletionItem.regionPair m none ∈ forLine m "x" := by decide +kernel
  have htag : CompletionItem.tag m none ∈ forLine m "x" := by decide +kernel
  have hpatterns : ∀ kind, ((ofMarkers m).patternOf kind).pattern.isSome = true := by
    intro kind
    cases kind <;> decide +kernel
  have hsuffix : ¬ m.regionStart.toList <:+ m.regionEnd.toList := by decide
  have hbody : isBlankLine f.body.toList = true := by decide
  have hstart : (ofMarkers m).regionStart.find? (f.expand (.tag m none)).toList = none := by decide +kernel
  have hend : (ofMarkers m).regionEnd.find? (f.expand (.tag m none)).toList = none := by decide +kernel
  exact ⟨hm, hf,
    (hall _ hpair ⟨1, _, none, 0⟩ rfl).1 rfl (hpatterns .regionStart) (hpatterns .regionEnd) hsuffix (.inl hbody),
    (hall _ htag ⟨1, _, none, 0⟩ rfl).2 rfl (hpatterns .tag) hstart hend⟩

end CompletionItem

/-! ## Markers that are too large -/

theorem regions_of_no_start {m : Markers} (hm : m.Literal)
    (hstart : ((LineMatcher.ofMarkers m).patternOf .regionStart).pattern = none)
    (lines : List String) (i : Nat) :
    (pairingAt (LineMatcher.matchLine (.ofMarkers m)) lines i).unpaired = [] ∧
      (pairingAt (LineMatcher.matchLine (.ofMarkers m)) lines i).parsed.regions = [] := by
  induction i with
  | zero => exact ⟨rfl, rfl⟩
  | succ i ih =>
      cases hdeclared : declaredAt? (LineMatcher.matchLine (.ofMarkers m)) lines i with
      | none => rwa [pairingAt_succ_of_not_declared hdeclared]
      | some found =>
          obtain ⟨line, hline, _, hmatch⟩ := declaredAt?_eq_some.mp hdeclared
          obtain ⟨kind, j, hfirst, _, rfl⟩ := (LineMatcher.matchLine_eq_some_iff hm line i _).mp hmatch
          have hcompiles := hfirst.stands.1
          rw [pairingAt_succ_of_declared hline hdeclared, Pairing.feed]
          cases kind with
          | regionStart =>
              rw [hstart] at hcompiles
              cases hcompiles
          | regionEnd => simpa [tokensBehind, ih.1] using ih
          | tag =>
              simp only [tokensBehind]
              split <;> simp_all

namespace Markers

theorem simple_longStart {n : Nat} (hn : n ≠ 0) : (longStart n).Simple := by
  refine ⟨literal_longStart n, fun kind => ⟨?_, ?_⟩, fun kind hmem => ?_⟩
  · cases kind with
    | regionStart =>
        rw [textOf, toList_longStart]
        simpa using hn
    | regionEnd => simp [textOf, longStart]
    | tag => simp [textOf, longStart]
  · exact forall_mem_longStart (P := fun c => Unicode.isBlank c = false) rfl rfl rfl n kind
  · exact forall_mem_longStart (P := (· ≠ '$')) (by decide) (by decide) (by decide) n kind _ hmem rfl

end Markers

/-- A start that is too large for a pattern is written by the snippet, but not read. -/
theorem CompletionItem.not_declares_long_start :
    let m : Markers := .longStart 400000
    let f : Filling := ⟨"n", "d", ""⟩
    m.Simple ∧ f.WellFormed ∧ ¬ m.regionStart.toList <:+ m.regionEnd.toList ∧
      isBlankLine f.body.toList = true ∧
      ∀ d : Document, d.text = f.expand (.regionPair m none) →
        ¬ ∃ r tags lineCount dropped,
          (ParseRun.ofLines (LineMatcher.ofMarkers m) .never d.lines).outcome =
            .complete ⟨[r], tags⟩ lineCount dropped := by
  intro m f
  have hm : m.Simple := Markers.simple_longStart (by decide)
  have hsuffix : ¬ m.regionStart.toList <:+ m.regionEnd.toList := by
    intro hsuffix
    have hlength := hsuffix.length_le
    rw [Markers.toList_longStart, List.length_replicate] at hlength
    exact absurd hlength (by decide)
  have hf : f.WellFormed := by decide
  refine ⟨hm, hf, hsuffix, rfl, ?_⟩
  rintro d _ ⟨r, tags, lineCount, dropped, houtcome⟩
  have hparse := ParseRun.outcome_never (LineMatcher.ofMarkers m) d.lines
  have hnone := (regions_of_no_start hm.literal (Markers.pattern_longStart (by decide)) d.lines
    d.lines.length).2
  rw [houtcome] at hparse
  injection hparse with hparsed
  have hregions : [r] = [] := (congrArg ParsedRegions.regions hparsed).trans hnone
  cases hregions

end Waymark
