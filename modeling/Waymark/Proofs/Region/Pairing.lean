import Waymark.Proofs.Region.Declared

/-!
# The law of pairing

An end closes the latest start before it that is still open and has its name. That law determines the
pairs of a text, and a parse comes to just these: after every line the stack holds the starts that no
end so far has closed, the latest first, so the first one that fits is the latest of all.
-/

namespace Waymark

/-! ## The law -/

section

variable (m : String → Nat → Option LineMatch) (lines : List String)

/-- The start on line `s` is open before the end on line `e`, and has its name if it has one. -/
def CanClose (P : Nat → Nat → Prop) (s e : Nat) : Prop :=
  ∃ start found, entryAt? m lines .regionStart s = some start ∧ endAt? m lines e = some found ∧ s < e ∧
    (∀ name, found.name = some name → start.name.text = name.text) ∧ ∀ e' < e, ¬ P s e'

/-- Every end closes the latest start that it can close, and nothing else is closed. -/
def IsPairing (P : Nat → Nat → Prop) : Prop :=
  ∀ s e, P s e ↔ CanClose m lines P s e ∧ ∀ s', CanClose m lines P s' e → s' ≤ s

end

section

variable {m : String → Nat → Option LineMatch} {lines : List String} {P Q : Nat → Nat → Prop}

theorem canClose_congr {s e : Nat} (h : ∀ e' < e, P s e' ↔ Q s e') :
    CanClose m lines P s e ↔ CanClose m lines Q s e := by
  have hopen : (∀ e' < e, ¬ P s e') ↔ ∀ e' < e, ¬ Q s e' := by
    constructor
    · intro hP e' he' hQ
      exact hP e' he' ((h e' he').mpr hQ)
    · intro hQ e' he' hP
      exact hQ e' he' ((h e' he').mp hP)
  simp only [CanClose, hopen]

/-- The law has one solution at most. -/
theorem IsPairing.unique (hP : IsPairing m lines P) (hQ : IsPairing m lines Q) (s e : Nat) :
    P s e ↔ Q s e := by
  induction e using Nat.strongRecOn generalizing s with
  | _ e ih =>
      have hclose : ∀ s', CanClose m lines P s' e ↔ CanClose m lines Q s' e :=
        fun s' => canClose_congr fun e' he' => ih e' he' s'
      rw [hP s e, hQ s e, hclose s]
      simp only [hclose]

end

/-! ## The parse, line by line -/

section

variable (m : String → Nat → Option LineMatch) (lines : List String)

/-- Take one line into account. -/
def feedLine (s : Pairing) (i : Nat) : Pairing :=
  match declaredAt? m lines i, lineSpan? lines i with
  | some found, some span => s.feed found span
  | _, _ => s

/-- What has been found before a line. -/
def pairingAt : Nat → Pairing
  | 0 => {}
  | i + 1 => feedLine m lines (pairingAt i) i

/-- Either a parse comes to the end, with what the lines say, or it was cancelled. -/
theorem resume_drop (cancel : Cancellation) (n i calls : Nat) (hi : i + n = lines.length) :
    let run := ParseRun.resume m cancel lines.length i calls (pairingAt m lines i) (lines.drop i)
    run.outcome = .complete (pairingAt m lines lines.length).parsed lines.length
        (pairingAt m lines lines.length).unpaired.length ∨
      ∃ j calls, run.outcome = .cancelled j lines.length ∧ (cancel.spend calls).isTripped = true := by
  induction n generalizing i calls with
  | zero =>
      have hend : i = lines.length := by omega
      rw [hend, List.drop_length]
      exact .inl rfl
  | succ n ih =>
      have hlt : i < lines.length := by omega
      have hline : lines[i]? = some lines[i] := List.getElem?_eq_getElem hlt
      rw [List.drop_eq_getElem_cons hlt, ParseRun.resume]
      cases htripped : (cancel.spend calls).isTripped with
      | true => exact .inr ⟨i, calls, rfl, htripped⟩
      | false =>
          simp only [Bool.false_eq_true, if_false]
          by_cases hblank : Text.isBlankLine lines[i].toList = true
          · have hfeed : pairingAt m lines (i + 1) = pairingAt m lines i := by
              simp [pairingAt, feedLine, declaredAt?, hline, hblank]
            rw [if_pos hblank, ← hfeed]
            exact ih (i + 1) calls (by omega)
          · rw [if_neg hblank]
            have hrest := ih (i + 1) (calls + 1) (by omega)
            cases hfound : m lines[i] i with
            | none =>
                have hfeed : pairingAt m lines (i + 1) = pairingAt m lines i := by
                  simp [pairingAt, feedLine, declaredAt?, hline, hfound]
                rw [hfeed] at hrest
                exact hrest
            | some found =>
                have hfeed : pairingAt m lines (i + 1) =
                    (pairingAt m lines i).feed found (.onLine i 0 lines[i].toList.length) := by
                  simp [pairingAt, feedLine, declaredAt?, lineSpan?, hline, hblank, hfound]
                rw [hfeed] at hrest
                exact hrest

/-! ## The invariant -/

/-- What has been found before a line: `pairs` are the starts and ends that the law pairs there, and
`waiting` are the other starts, the latest first. -/
structure PairedBefore (i : Nat) (s : Pairing) (pairs : List (Nat × Nat)) (waiting : List Nat) :
    Prop where
  law : ∀ a e, (a, e) ∈ pairs ↔ e < i ∧ CanClose m lines (fun a e => (a, e) ∈ pairs) a e ∧
    ∀ a', CanClose m lines (fun a e => (a, e) ∈ pairs) a' e → a' ≤ a
  waits : ∀ a, a ∈ waiting ↔
    a < i ∧ (entryAt? m lines .regionStart a).isSome = true ∧ ∀ e, (a, e) ∉ pairs
  latest : waiting.Pairwise (· > ·)
  ends : (pairs.map Prod.snd).Pairwise (· < ·)
  starts : (pairs.map Prod.fst).Nodup
  unpaired_eq : s.unpaired.map some = waiting.map (entryAt? m lines .regionStart)
  regions_eq : s.parsed.regions.map some = pairs.map (regionAt? m lines)
  tags_eq : s.parsed.tags = (List.range i).filterMap (entryAt? m lines .tag)
  count : pairs.length + waiting.length =
    (List.range i).countP fun a => (entryAt? m lines .regionStart a).isSome

end

section

variable {m : String → Nat → Option LineMatch} {lines : List String} {i : Nat} {s : Pairing}
  {pairs : List (Nat × Nat)} {waiting : List Nat}

theorem pairedBefore_zero : PairedBefore m lines 0 {} [] [] := by
  refine ⟨?_, ?_, .nil, .nil, .nil, rfl, rfl, rfl, rfl⟩
  · simp
  · simp

theorem closes_iff {name : Option Token} {start : Tag} :
    Pairing.closes name start = true ↔
      ∀ token, name = some token → start.name.text = token.text := by
  cases name <;> simp [Pairing.closes]

/-- A start that waits on top is closed by an end without a name, and by one with its name. -/
theorem Pairing.feed_end {s : Pairing} {found : LineMatch} {span : Span} {start : Tag} {waiting : List Tag}
    (hwaiting : s.unpaired = start :: waiting) (hkind : found.kind = .regionEnd)
    (hname : ∀ n ∈ found.name, n.text = start.name.text) :
    s.feed found span =
      { unpaired := waiting
        parsed.regions := s.parsed.regions ++ [region start found span]
        parsed.tags := s.parsed.tags } := by
  have hcloses : closes found.name start = true :=
    closes_iff.mpr fun n hn => (hname n hn).symm
  rw [feed, hkind, hwaiting]
  simp [List.find?_cons_of_pos hcloses, List.eraseP_cons_of_pos hcloses]

theorem pairingAt_succ_of_declared {line : String} {found : LineMatch} {i : Nat}
    (hline : lines[i]? = some line) (hfound : declaredAt? m lines i = some found) :
    pairingAt m lines (i + 1) =
      (pairingAt m lines i).feed found (.onLine i 0 line.toList.length) := by
  simp [pairingAt, feedLine, hfound, lineSpan?, hline]

theorem pairingAt_succ_of_not_declared {i : Nat} (hfound : declaredAt? m lines i = none) :
    pairingAt m lines (i + 1) = pairingAt m lines i := by
  simp [pairingAt, feedLine, hfound]

theorem not_canClose_of_endAt?_eq_none {a : Nat} (hend : endAt? m lines i = none) :
    ¬ CanClose m lines P a i := by
  intro hclose
  obtain ⟨_, found, _, hfound, _⟩ := hclose
  rw [hend] at hfound
  cases hfound

namespace PairedBefore

theorem lt_of_mem (h : PairedBefore m lines i s pairs waiting) {a e : Nat} (hmem : (a, e) ∈ pairs) :
    e < i :=
  ((h.law a e).mp hmem).1

/-- What can be closed at a line waits there. -/
theorem canClose_iff (h : PairedBefore m lines i s pairs waiting) {found : LineMatch}
    (hend : endAt? m lines i = some found) (a : Nat) :
    CanClose m lines (fun a e => (a, e) ∈ pairs) a i ↔ a ∈ waiting ∧
      ∃ start, entryAt? m lines .regionStart a = some start ∧
        Pairing.closes found.name start = true := by
  rw [h.waits a]
  constructor
  · intro hleft
    obtain ⟨start, found', hstart, hfound', hlt, hname, hopen⟩ := hleft
    rw [hend] at hfound'
    cases hfound'
    refine ⟨⟨hlt, by simp [hstart], ?_⟩, start, hstart, closes_iff.mpr hname⟩
    intro e hmem
    exact hopen e (h.lt_of_mem hmem) hmem
  · intro hright
    obtain ⟨⟨hlt, _, hopen⟩, start, hstart, hcloses⟩ := hright
    exact ⟨start, found, hstart, hend, hlt, closes_iff.mp hcloses, fun e' _ => hopen e'⟩

/-- The law up to a line says what it says up to the next one, if nothing is closed there. -/
theorem law_succ_of_not (h : PairedBefore m lines i s pairs waiting)
    (hclose : ∀ a, ¬ CanClose m lines (fun a e => (a, e) ∈ pairs) a i) (a e : Nat) :
    (a, e) ∈ pairs ↔ e < i + 1 ∧ CanClose m lines (fun a e => (a, e) ∈ pairs) a e ∧
      ∀ a', CanClose m lines (fun a e => (a, e) ∈ pairs) a' e → a' ≤ a := by
  rw [h.law a e]
  constructor
  · intro hleft
    obtain ⟨hlt, hlaw⟩ := hleft
    exact ⟨by omega, hlaw⟩
  · intro hright
    obtain ⟨hlt, hlaw⟩ := hright
    have hne : e ≠ i := by
      intro heq
      subst heq
      exact hclose a hlaw.1
    exact ⟨by omega, hlaw⟩

theorem waits_succ_of_not (h : PairedBefore m lines i s pairs waiting)
    (hstart : entryAt? m lines .regionStart i = none) (a : Nat) :
    a ∈ waiting ↔ a < i + 1 ∧ (entryAt? m lines .regionStart a).isSome = true ∧
      ∀ e, (a, e) ∉ pairs := by
  rw [h.waits a]
  constructor
  · intro hleft
    obtain ⟨hlt, hrest⟩ := hleft
    exact ⟨by omega, hrest⟩
  · intro hright
    obtain ⟨hlt, hsome, hopen⟩ := hright
    have hne : a ≠ i := by
      intro heq
      subst heq
      rw [hstart] at hsome
      cases hsome
    exact ⟨by omega, hsome, hopen⟩

theorem count_succ_of_not (h : PairedBefore m lines i s pairs waiting)
    (hstart : entryAt? m lines .regionStart i = none) :
    pairs.length + waiting.length =
      (List.range (i + 1)).countP fun a => (entryAt? m lines .regionStart a).isSome := by
  rw [h.count, List.range_succ, List.countP_append]
  simp [hstart]

/-- A line that neither opens nor closes adds its tag, if it has one. -/
theorem pass (h : PairedBefore m lines i s pairs waiting)
    (hstart : entryAt? m lines .regionStart i = none)
    (hclose : ∀ a, ¬ CanClose m lines (fun a e => (a, e) ∈ pairs) a i) :
    PairedBefore m lines (i + 1)
      { s with parsed.tags := s.parsed.tags ++ (entryAt? m lines .tag i).toList } pairs waiting := by
  refine ⟨h.law_succ_of_not hclose, h.waits_succ_of_not hstart, h.latest, h.ends, h.starts,
    h.unpaired_eq, h.regions_eq, ?_, h.count_succ_of_not hstart⟩
  change s.parsed.tags ++ (entryAt? m lines .tag i).toList = _
  rw [h.tags_eq, List.range_succ, List.filterMap_append]
  cases htag : entryAt? m lines .tag i <;> simp [htag]

theorem skip (h : PairedBefore m lines i s pairs waiting)
    (hstart : entryAt? m lines .regionStart i = none) (htag : entryAt? m lines .tag i = none)
    (hclose : ∀ a, ¬ CanClose m lines (fun a e => (a, e) ∈ pairs) a i) :
    PairedBefore m lines (i + 1) s pairs waiting := by
  have hpass := h.pass hstart hclose
  rw [htag, Option.toList_none, List.append_nil] at hpass
  exact hpass

/-- A start comes to wait. -/
theorem push (h : PairedBefore m lines i s pairs waiting) {start : Tag}
    (hstart : entryAt? m lines .regionStart i = some start) (htag : entryAt? m lines .tag i = none)
    (hend : endAt? m lines i = none) :
    PairedBefore m lines (i + 1) { s with unpaired := start :: s.unpaired } pairs
      (i :: waiting) := by
  have hopen : ∀ e, (i, e) ∉ pairs := by
    intro e hmem
    obtain ⟨_, ⟨_, _, _, _, hlt, _⟩, _⟩ := (h.law i e).mp hmem
    have := h.lt_of_mem hmem
    omega
  refine ⟨h.law_succ_of_not fun a => not_canClose_of_endAt?_eq_none hend, ?_, ?_, h.ends, h.starts,
    ?_, h.regions_eq, ?_, ?_⟩
  · intro a
    rw [List.mem_cons, h.waits a]
    constructor
    · intro hleft
      rcases hleft with rfl | ⟨hlt, hrest⟩
      · exact ⟨by omega, by simp [hstart], hopen⟩
      · exact ⟨by omega, hrest⟩
    · intro hright
      obtain ⟨hlt, hrest⟩ := hright
      by_cases ha : a = i
      · exact .inl ha
      · exact .inr ⟨by omega, hrest⟩
  · refine List.pairwise_cons.mpr ⟨?_, h.latest⟩
    intro a ha
    exact ((h.waits a).mp ha).1
  · rw [List.map_cons, List.map_cons, h.unpaired_eq, hstart]
  · rw [List.range_succ, List.filterMap_append, ← h.tags_eq]
    simp [htag]
  · have hcount := h.count
    rw [List.range_succ, List.countP_append, ← hcount, List.length_cons]
    simp [hstart]
    omega

/-- The latest start that an end can close is closed by it. -/
theorem law_succ_of_latest (h : PairedBefore m lines i s pairs waiting) {a : Nat}
    (hclose : CanClose m lines (fun a e => (a, e) ∈ pairs) a i)
    (hlatest : ∀ a', CanClose m lines (fun a e => (a, e) ∈ pairs) a' i → a' ≤ a) (b e : Nat) :
    (b, e) ∈ pairs ++ [(a, i)] ↔ e < i + 1 ∧
      CanClose m lines (fun b e => (b, e) ∈ pairs ++ [(a, i)]) b e ∧
      ∀ a', CanClose m lines (fun b e => (b, e) ∈ pairs ++ [(a, i)]) a' e → a' ≤ b := by
  -- the new pair does not matter to ends up to its own
  have hcongr : ∀ e < i + 1, ∀ b, CanClose m lines (fun b e => (b, e) ∈ pairs ++ [(a, i)]) b e ↔
      CanClose m lines (fun b e => (b, e) ∈ pairs) b e := by
    intro e he b
    apply canClose_congr
    intro e' he'
    have hne : e' ≠ i := by omega
    simp [hne]
  have hmem : (b, e) ∈ pairs ++ [(a, i)] ↔ (b, e) ∈ pairs ∨ b = a ∧ e = i := by simp
  rw [hmem]
  constructor
  · intro hleft
    rcases hleft with hold | ⟨rfl, rfl⟩
    · obtain ⟨hlt, hlaw⟩ := (h.law b e).mp hold
      have he : e < i + 1 := by omega
      simp only [hcongr e he]
      exact ⟨he, hlaw⟩
    · have he : e < e + 1 := by omega
      simp only [hcongr e he]
      exact ⟨he, hclose, hlatest⟩
  · intro hright
    obtain ⟨he, hlaw⟩ := hright
    simp only [hcongr e he] at hlaw
    by_cases hnew : e = i
    · rw [hnew] at hlaw
      have hle := hlatest b hlaw.1
      have hge := hlaw.2 a hclose
      exact .inr ⟨by omega, hnew⟩
    · exact .inl ((h.law b e).mpr ⟨by omega, hlaw⟩)

/-- The first start that fits is the latest one that can be closed. -/
theorem exists_latest (h : PairedBefore m lines i s pairs waiting) {found : LineMatch} {start : Tag}
    (hend : endAt? m lines i = some found)
    (hfind : s.unpaired.find? (Pairing.closes found.name) = some start) :
    ∃ a laterLines earlierLines, waiting = laterLines ++ a :: earlierLines ∧
      entryAt? m lines .regionStart a = some start ∧
      (s.unpaired.eraseP (Pairing.closes found.name)).map some =
        (laterLines ++ earlierLines).map (entryAt? m lines .regionStart) ∧
      CanClose m lines (fun a e => (a, e) ∈ pairs) a i ∧
      ∀ a', CanClose m lines (fun a e => (a, e) ∈ pairs) a' i → a' ≤ a := by
  obtain ⟨hcloses, later, earlier, hsplit, hlater⟩ := List.find?_eq_some_iff_append.mp hfind
  have hmap := h.unpaired_eq
  rw [hsplit, List.map_append, List.map_cons] at hmap
  obtain ⟨laterLines, restLines, hwaiting, hlaterLines, hrest⟩ := List.map_eq_append_iff.mp hmap.symm
  obtain ⟨a, earlierLines, hrestLines, hstartAt, hearlierLines⟩ := List.map_eq_cons_iff.mp hrest
  rw [hrestLines] at hwaiting
  have hmem : ∀ b, b ∈ waiting ↔ b ∈ laterLines ∨ b = a ∨ b ∈ earlierLines := by
    intro b
    rw [hwaiting, List.mem_append, List.mem_cons]
  have hclose := (h.canClose_iff hend a).mpr ⟨(hmem a).mpr (.inr (.inl rfl)), start, hstartAt, hcloses⟩
  have herase : s.unpaired.eraseP (Pairing.closes found.name) = later ++ earlier := by
    rw [hsplit, List.eraseP_append_right _ (by simpa using hlater), List.eraseP_cons_of_pos hcloses]
  refine ⟨a, laterLines, earlierLines, hwaiting, hstartAt, ?_, hclose, ?_⟩
  · rw [herase, List.map_append, List.map_append, hlaterLines, hearlierLines]
  · intro a' hclose'
    obtain ⟨hwait, start', hstart', hcloses'⟩ := (h.canClose_iff hend a').mp hclose'
    rcases (hmem a').mp hwait with hin | rfl | hin
    · -- a later start that fits would have been found first
      have hin' : some start' ∈ later.map some := by
        rw [← hlaterLines, ← hstart']
        exact List.mem_map_of_mem hin
      obtain ⟨t, ht, htt⟩ := List.mem_map.mp hin'
      cases htt
      have hno := hlater start' ht
      rw [hcloses'] at hno
      cases hno
    · exact Nat.le_refl _
    · have hlatest := h.latest
      rw [hwaiting, List.pairwise_append, List.pairwise_cons] at hlatest
      exact Nat.le_of_lt (hlatest.2.1.1 a' hin)

/-- What waits once a start is taken out. -/
theorem mem_rest_iff (h : PairedBefore m lines i s pairs waiting) {a : Nat}
    {laterLines earlierLines : List Nat} (hwaiting : waiting = laterLines ++ a :: earlierLines)
    (b : Nat) : b ∈ laterLines ++ earlierLines ↔ b ∈ waiting ∧ b ≠ a := by
  have hlatest := h.latest
  rw [hwaiting, List.pairwise_append, List.pairwise_cons] at hlatest
  obtain ⟨_, ⟨hearlier, _⟩, hcross⟩ := hlatest
  rw [hwaiting, List.mem_append, List.mem_append, List.mem_cons]
  constructor
  · intro hleft
    rcases hleft with hin | hin
    · have := hcross b hin a List.mem_cons_self
      exact ⟨.inl hin, by omega⟩
    · have := hearlier b hin
      exact ⟨.inr (.inr hin), by omega⟩
  · intro hright
    obtain ⟨hin | rfl | hin, hne⟩ := hright
    · exact .inl hin
    · exact absurd rfl hne
    · exact .inr hin

theorem ends_snoc (h : PairedBefore m lines i s pairs waiting) (a : Nat) :
    ((pairs ++ [(a, i)]).map Prod.snd).Pairwise (· < ·) := by
  rw [List.map_append, List.pairwise_append]
  refine ⟨h.ends, List.pairwise_singleton _ _, ?_⟩
  intro e he e' he'
  obtain ⟨⟨b, e⟩, hpair, rfl⟩ := List.mem_map.mp he
  rw [List.mem_singleton.mp he']
  exact h.lt_of_mem hpair

theorem starts_snoc (h : PairedBefore m lines i s pairs waiting) {a : Nat} (ha : a ∈ waiting) :
    ((pairs ++ [(a, i)]).map Prod.fst).Nodup := by
  rw [List.map_append, List.nodup_append]
  refine ⟨h.starts, by simp, ?_⟩
  intro b hb a' ha' heq
  obtain ⟨⟨b, e⟩, hpair, rfl⟩ := List.mem_map.mp hb
  have hab : b = a := heq.trans (List.mem_singleton.mp ha')
  rw [hab] at hpair
  exact ((h.waits a).mp ha).2.2 e hpair

/-- An end takes out the latest start that it can close. -/
theorem close (h : PairedBefore m lines i s pairs waiting) {found : LineMatch} {span : Span}
    {start : Tag} (hstart : entryAt? m lines .regionStart i = none)
    (htag : entryAt? m lines .tag i = none) (hend : endAt? m lines i = some found)
    (hspan : lineSpan? lines i = some span)
    (hfind : s.unpaired.find? (Pairing.closes found.name) = some start) :
    ∃ a waiting', PairedBefore m lines (i + 1)
      { unpaired := s.unpaired.eraseP (Pairing.closes found.name)
        parsed.regions := s.parsed.regions ++ [Pairing.region start found span]
        parsed.tags := s.parsed.tags } (pairs ++ [(a, i)]) waiting' := by
  obtain ⟨a, laterLines, earlierLines, hwaiting, hstartAt, hunpaired, hclose, hbest⟩ :=
    h.exists_latest hend hfind
  have ha : a ∈ waiting := by
    rw [hwaiting]
    simp
  have hregion : regionAt? m lines (a, i) = some (Pairing.region start found span) := by
    simp [regionAt?, hstartAt, hend, hspan, Pairing.region]
  refine ⟨a, laterLines ++ earlierLines, h.law_succ_of_latest hclose hbest, ?_, ?_, h.ends_snoc a,
    h.starts_snoc ha, hunpaired, ?_, ?_, ?_⟩
  · intro b
    rw [h.mem_rest_iff hwaiting, h.waits_succ_of_not hstart]
    simp only [List.mem_append, List.mem_singleton, Prod.mk.injEq, not_or, not_and]
    constructor
    · intro hleft
      obtain ⟨⟨hlt, hsome, hopen⟩, hne⟩ := hleft
      exact ⟨hlt, hsome, fun e => ⟨hopen e, fun heq => absurd heq hne⟩⟩
    · intro hright
      obtain ⟨hlt, hsome, hopen⟩ := hright
      exact ⟨⟨hlt, hsome, fun e => (hopen e).1⟩, fun heq => (hopen i).2 heq rfl⟩
  · have hsublist : (laterLines ++ earlierLines).Sublist waiting := by
      rw [hwaiting]
      exact (List.Sublist.refl _).append (List.sublist_cons_self _ _)
    exact h.latest.sublist hsublist
  · rw [List.map_append, List.map_append, h.regions_eq, List.map_singleton, List.map_singleton,
      hregion]
  · rw [List.range_succ, List.filterMap_append, ← h.tags_eq]
    simp [htag]
  · rw [← h.count_succ_of_not hstart, hwaiting]
    simp only [List.length_append, List.length_cons, List.length_nil]
    omega

end PairedBefore

/-- An end that finds no start that fits can close none. -/
theorem PairedBefore.not_canClose (h : PairedBefore m lines i s pairs waiting) {found : LineMatch}
    (hend : endAt? m lines i = some found)
    (hfind : s.unpaired.find? (Pairing.closes found.name) = none) (a : Nat) :
    ¬ CanClose m lines (fun a e => (a, e) ∈ pairs) a i := by
  intro hclose
  obtain ⟨hwait, start, hentry, hcloses⟩ := (h.canClose_iff hend a).mp hclose
  have hmem : some start ∈ s.unpaired.map some := by
    rw [h.unpaired_eq, ← hentry]
    exact List.mem_map_of_mem hwait
  obtain ⟨t, ht, htt⟩ := List.mem_map.mp hmem
  cases htt
  exact List.find?_eq_none.mp hfind start ht hcloses

/-- One line keeps the invariant, whatever it declares. -/
theorem PairedBefore.step (h : PairedBefore m lines i s pairs waiting) :
    ∃ pairs' waiting', PairedBefore m lines (i + 1) (feedLine m lines s i) pairs' waiting' := by
  cases hfound : declaredAt? m lines i with
  | none =>
      refine ⟨pairs, waiting, ?_⟩
      rw [feedLine, hfound]
      refine h.skip (entryAt?_of_not_declared hfound) (entryAt?_of_not_declared hfound) ?_
      intro a
      exact not_canClose_of_endAt?_eq_none (endAt?_of_not_declared hfound)
  | some found =>
      obtain ⟨span, hspan⟩ := lineSpan?_of_declared hfound
      have hother : ∀ kind, found.kind ≠ kind → entryAt? m lines kind i = none :=
        fun kind => entryAt?_of_ne hfound
      have hnoend : found.kind ≠ .regionEnd →
          ∀ a, ¬ CanClose m lines (fun a e => (a, e) ∈ pairs) a i :=
        fun hkind a => not_canClose_of_endAt?_eq_none (endAt?_of_ne hfound hkind)
      have hfeed : feedLine m lines s i = s.feed found span := by rw [feedLine, hfound, hspan]
      rw [hfeed]
      cases hkind : found.kind with
      | regionStart =>
          have hend : found.kind ≠ .regionEnd := by simp [hkind]
          have htag := hother .tag (by simp [hkind])
          cases hname : found.name with
          | none =>
              refine ⟨pairs, waiting, ?_⟩
              simpa only [Pairing.feed, hkind, hname] using
                h.skip (entryAt?_of_nameless hfound hname) htag (hnoend hend)
          | some name =>
              have hstart := entryAt?_of_named hfound hspan hkind hname
              refine ⟨pairs, i :: waiting, ?_⟩
              simpa only [Pairing.feed, hkind, hname] using
                h.push hstart htag (endAt?_of_ne hfound hend)
      | tag =>
          have hstart := hother .regionStart (by simp [hkind])
          have hclose := hnoend (by simp [hkind])
          refine ⟨pairs, waiting, ?_⟩
          cases hname : found.name with
          | none =>
              simpa only [Pairing.feed, hkind, hname] using
                h.skip hstart (entryAt?_of_nameless hfound hname) hclose
          | some name =>
              have hpass := h.pass hstart hclose
              rw [entryAt?_of_named hfound hspan hkind hname, Option.toList_some] at hpass
              simpa only [Pairing.feed, hkind, hname] using hpass
      | regionEnd =>
          have hend := endAt?_of_eq hfound hkind
          have hstart := hother .regionStart (by simp [hkind])
          have htag := hother .tag (by simp [hkind])
          cases hfind : s.unpaired.find? (Pairing.closes found.name) with
          | none =>
              refine ⟨pairs, waiting, ?_⟩
              simpa only [Pairing.feed, hkind, hfind] using
                h.skip hstart htag (h.not_canClose hend hfind)
          | some start =>
              obtain ⟨a, waiting', hclose⟩ := h.close hstart htag hend hspan hfind
              refine ⟨pairs ++ [(a, i)], waiting', ?_⟩
              simpa only [Pairing.feed, hkind, hfind] using hclose

theorem exists_pairedBefore (m : String → Nat → Option LineMatch) (lines : List String) (i : Nat) :
    ∃ pairs waiting, PairedBefore m lines i (pairingAt m lines i) pairs waiting := by
  induction i with
  | zero => exact ⟨[], [], pairedBefore_zero⟩
  | succ i ih =>
      obtain ⟨pairs, waiting, h⟩ := ih
      exact h.step

end

/-! ## The whole parse -/

/-- What a parse comes to: the regions are those of the pairs, in the order of their ends. -/
structure ParsesTo (m : String → Nat → Option LineMatch) (lines : List String)
    (pairs : List (Nat × Nat)) (parsed : ParsedRegions) (dropped : Nat) : Prop where
  law : IsPairing m lines fun s e => (s, e) ∈ pairs
  unique : ∀ P, IsPairing m lines P → ∀ s e, P s e ↔ (s, e) ∈ pairs
  ends : (pairs.map Prod.snd).Pairwise (· < ·)
  starts : (pairs.map Prod.fst).Nodup
  regions_eq : parsed.regions.map some = pairs.map (regionAt? m lines)
  tags_eq : parsed.tags = (List.range lines.length).filterMap (entryAt? m lines .tag)
  count : parsed.regions.length + dropped =
    (List.range lines.length).countP fun i => (entryAt? m lines .regionStart i).isSome

theorem lt_of_canClose {m : String → Nat → Option LineMatch} {lines : List String}
    {P : Nat → Nat → Prop} {s e : Nat} (h : CanClose m lines P s e) : e < lines.length := by
  obtain ⟨_, found, _, hend, _⟩ := h
  cases hline : lines[e]? with
  | none => simp [endAt?, declaredAt?, hline] at hend
  | some line => exact (List.getElem?_eq_some_iff.mp hline).1

theorem parsesTo_pairingAt (m : String → Nat → Option LineMatch) (lines : List String) :
    ∃ pairs, ParsesTo m lines pairs (pairingAt m lines lines.length).parsed
      (pairingAt m lines lines.length).unpaired.length := by
  obtain ⟨pairs, waiting, h⟩ := exists_pairedBefore m lines lines.length
  have hlaw : IsPairing m lines fun s e => (s, e) ∈ pairs := by
    intro s e
    refine (h.law s e).trans ?_
    constructor
    · exact fun hpair => hpair.2
    · exact fun hpair => ⟨lt_of_canClose hpair.1, hpair⟩
  have hregions : (pairingAt m lines lines.length).parsed.regions.length = pairs.length := by
    have hlength := congrArg List.length h.regions_eq
    simpa using hlength
  have hunpaired : (pairingAt m lines lines.length).unpaired.length = waiting.length := by
    have hlength := congrArg List.length h.unpaired_eq
    simpa using hlength
  refine ⟨pairs, hlaw, fun P hP => hP.unique hlaw, h.ends, h.starts, h.regions_eq, h.tags_eq, ?_⟩
  rw [hregions, hunpaired]
  exact h.count

namespace ParseRun

variable {μ : Type} [MatchesLines μ]

theorem outcome_never (matcher : μ) (lines : List String) :
    (ofLines matcher .never lines).outcome =
      .complete (pairingAt (MatchesLines.matchLine matcher) lines lines.length).parsed lines.length
        (pairingAt (MatchesLines.matchLine matcher) lines lines.length).unpaired.length := by
  rcases resume_drop (MatchesLines.matchLine matcher) lines .never lines.length 0 0 (by omega)
    with hcomplete | ⟨j, calls, _, htripped⟩
  · exact hcomplete
  · cases htripped

theorem parsed?_eq_some (matcher : μ) (cancel : Cancellation) (lines : List String)
    {parsed : ParsedRegions} (h : (ofLines matcher cancel lines).outcome.parsed? = some parsed) :
    parsed = (pairingAt (MatchesLines.matchLine matcher) lines lines.length).parsed := by
  rcases resume_drop (MatchesLines.matchLine matcher) lines cancel lines.length 0 0 (by omega)
    with hcomplete | ⟨j, calls, hcancelled, _⟩
  · have houtcome : (ofLines matcher cancel lines).outcome = _ := hcomplete
    rw [houtcome] at h
    exact (Option.some.inj h).symm
  · have houtcome : (ofLines matcher cancel lines).outcome = _ := hcancelled
    rw [houtcome] at h
    cases h

/-- A parse that is not cancelled comes to the end, and what it finds is determined by the law of
pairing. -/
theorem outcome_ofLines (matcher : μ) (lines : List String) :
    ∃ pairs parsed dropped,
      (ofLines matcher .never lines).outcome = .complete parsed lines.length dropped ∧
        ParsesTo (MatchesLines.matchLine matcher) lines pairs parsed dropped := by
  obtain ⟨pairs, hparses⟩ := parsesTo_pairingAt (MatchesLines.matchLine matcher) lines
  exact ⟨pairs, _, _, outcome_never matcher lines, hparses⟩

end ParseRun

end Waymark
