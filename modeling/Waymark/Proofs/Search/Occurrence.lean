import Mathlib.Data.List.Forall2
import Waymark.Proofs.Pattern.Nearest
import Waymark.Proofs.Search.Predicate
import Waymark.Proofs.Text.Column

/-!
# The first occurrence

What a query finds is the occurrence of its pattern that begins first, and of the ones that begin there the
one that stops first. Plain text therefore finds its first occurrence, whether the text itself is searched
for or a pattern that says its characters one by one.
-/

namespace Waymark.Search

open Waymark.Pattern Waymark.Text

/-- An occurrence of a pattern begins at a column, and another column is right behind it. -/
def Occupies (gap : Nat → Nat → Prop) (agrees : Char → Char → Bool) (text : List Char) :
    List Char → Nat → Nat → Prop
  | [], a, e => e = a
  | c :: cs, a, e => CharAt (agrees c) text a ∧ FollowsTo gap agrees text cs (a + 1) e

section

variable {gap : Nat → Nat → Prop} {agrees : Char → Char → Bool} {text pattern : List Char}

theorem begins_iff_exists {a : Nat} :
    Begins gap agrees text pattern a ↔ ∃ e, Occupies gap agrees text pattern a e := by
  cases pattern with
  | nil => simp [Begins, Occupies]
  | cons c cs => simp [Begins, Occupies, follows_iff_exists]

theorem Occupies.lt_length {c : Char} {cs : List Char} {a e : Nat}
    (h : Occupies gap agrees text (c :: cs) a e) : a < text.length := by
  obtain ⟨⟨d, hd, _⟩, _⟩ := h
  exact (List.getElem?_eq_some_iff.mp hd).1

end

/-! ## Threads of a query -/

theorem ascends_run_textRest {ignoreCase : Bool} {cs : List Char} {label : List Nat}
    {ts : List Thread} (h : Ascends ts) :
    Ascends (((Expr.catAll (textRest ignoreCase cs)).compile false label).run ts) := by
  induction cs generalizing ts label with
  | nil => exact h
  | cons c cs ih =>
      change Ascends (((Expr.catAll (textRest ignoreCase cs)).compile false (1 :: label)).run
        (((Reading.literal { ignoreCase := ignoreCase } c).compile false (0 :: label)).run ts))
      rw [literal_eq]
      exact ih h.run_one

theorem ascends_run_fuzzyRest {text : List Char} {ignoreCase : Bool} {cs : List Char}
    {label : List Nat} {ts : List Thread} (h : Ascends ts) (hts : ∀ t ∈ ts, t.On text) :
    Ascends (((Expr.catAll (fuzzyRest ignoreCase cs)).compile false label).run ts) := by
  induction cs generalizing ts label with
  | nil => exact h
  | cons c cs ih =>
      change Ascends (((Expr.catAll (fuzzyRest ignoreCase cs)).compile false (1 :: 1 :: label)).run
        (((Reading.literal { ignoreCase := ignoreCase } c).compile false (0 :: 1 :: label)).run
          ((lazyGap.compile false (0 :: label)).run ts)))
      rw [literal_eq, compile_lazyGap]
      exact ih (h.run_star_one hts).run_one (run_one_on (run_star_one_on false hts))

theorem ascends_run_rest (mode : SearchMode) {text : List Char} {ignoreCase : Bool}
    {cs : List Char} {label : List Nat} {ts : List Thread} (h : Ascends ts)
    (hts : ∀ t ∈ ts, t.On text) :
    Ascends (((Expr.catAll (mode.rest ignoreCase cs)).compile false label).run ts) := by
  cases mode with
  | fuzzy => exact ascends_run_fuzzyRest h hts
  | literal | regex => exact ascends_run_textRest h

/-! ## Plain text -/

theorem isLeast_of_occurrence? {needle text : List Char} {a : Nat}
    (h : occurrence? needle text = some a) :
    IsLeast {b | needle.isPrefixOf (text.drop b) = true} a := by
  induction text generalizing a with
  | nil =>
      have hneedle : needle = [] ∧ 0 = a := by simpa [occurrence?] using h
      obtain ⟨rfl, rfl⟩ := hneedle
      exact ⟨rfl, fun b _ => Nat.zero_le b⟩
  | cons c text ih =>
      rw [occurrence?] at h
      split at h
      case isTrue hhere =>
        obtain rfl := Option.some.inj h
        exact ⟨hhere, fun b _ => Nat.zero_le b⟩
      case isFalse hhere =>
        obtain ⟨b, hb, rfl⟩ := Option.map_eq_some_iff.mp h
        obtain ⟨hmem, hleast⟩ := ih hb
        refine ⟨hmem, ?_⟩
        intro i hi
        cases i with
        | zero => exact absurd hi hhere
        | succ i => exact Nat.succ_le_succ (hleast hi)

theorem followsTo_adjacent_iff {agrees : Char → Char → Bool} {text cs : List Char} {a e : Nat} :
    FollowsTo (fun a b => b = a) agrees text cs a e ↔
      Follows (fun a b => b = a) agrees text cs a ∧ e = a + cs.length := by
  induction cs generalizing a with
  | nil => simp [FollowsTo, Follows]
  | cons c cs ih =>
      simp only [FollowsTo, Follows, ih, List.length_cons, exists_eq_left, and_assoc]
      rw [show a + 1 + cs.length = a + (cs.length + 1) by omega]

theorem occupies_adjacent_iff {agrees : Char → Char → Bool} {text pattern : List Char} {a e : Nat} :
    Occupies (fun a b => b = a) agrees text pattern a e ↔
      Follows (fun a b => b = a) agrees text pattern a ∧ e = a + pattern.length := by
  rw [← followsTo_adjacent_iff]
  cases pattern <;> simp [Occupies, FollowsTo]

/-! ## What a predicate finds -/

namespace Predicate.Seeks

variable {mode : SearchMode} {ignoreCase : Bool} {pattern : List Char} {p p' : Predicate}

/-- The columns where a predicate finds something are those of the occurrence that begins first, and of
the ones that begin there of the one that stops first. -/
theorem isLeast_of_columns? (h : p.Seeks mode ignoreCase pattern) {text : List Char} {a e : Nat}
    (hcolumns : p.columns? text = some (a, e)) :
    IsLeast {a | ∃ e, Occupies (mode.Gap text) (agrees ignoreCase) text pattern a e} a ∧
      IsLeast {e | Occupies (mode.Gap text) (agrees ignoreCase) text pattern a e} e := by
  cases h with
  | plain c cs hmode hcase =>
      subst hmode hcase
      obtain ⟨start, hstart, heq⟩ := Option.map_eq_some_iff.mp hcolumns
      obtain ⟨rfl, rfl⟩ := Prod.mk.inj heq
      have hleast := isLeast_of_occurrence? hstart
      simp only [isPrefixOf_drop_iff] at hleast
      have hfits : ∀ a e, Occupies (SearchMode.literal.Gap text) (agrees false) text (c :: cs) a e ↔ _ :=
        fun a e => occupies_adjacent_iff
      simp only [hfits, exists_and_left, exists_eq, and_true]
      exact ⟨hleast, ⟨hleast.1, rfl⟩, fun e he => Nat.le_of_eq he.2.symm⟩
  | pattern c cs =>
      obtain ⟨found, hfound, heq⟩ := Option.map_eq_some_iff.mp hcolumns
      obtain ⟨rfl, rfl⟩ := Prod.mk.inj heq
      rw [literal_eq] at hfound
      refine Node.isLeast_of_findFrom ?_ ?_ (fun a e he => Nat.le_of_lt he.lt_length) hfound
      · intro before a ha e
        change StandsAt (((Expr.catAll (mode.rest ignoreCase cs)).compile false [1]).run
          ((Node.one (agrees ignoreCase c)).run [.start before a (text.drop a)])) e ↔ _
        rw [standsAt_run_rest mode ignoreCase cs [1] (run_one_on (start_on before ha))]
        simp only [standsAt_run_one_start before ha, and_assoc, exists_and_left, exists_eq_left,
          Occupies]
      · intro before a ha
        exact ascends_run_rest mode (ascends_singleton _).run_one (run_one_on (start_on before ha))

theorem lt_length (h : p.Seeks mode ignoreCase pattern) {gap : Nat → Nat → Prop}
    {agrees : Char → Char → Bool} {text : List Char} {a e : Nat}
    (he : Occupies gap agrees text pattern a e) : a < text.length := by
  cases h with
  | plain c cs => exact he.lt_length
  | pattern c cs => exact he.lt_length

theorem isSome_columns?_iff (h : p.Seeks mode ignoreCase pattern) (text : String) :
    (p.columns? text.toList).isSome = true ↔
      ∃ a e, Occupies (mode.Gap text.toList) (agrees ignoreCase) text.toList pattern a e := by
  have hfind : (p.find? text).isSome = (p.columns? text.toList).isSome := Option.isSome_map
  rw [← hfind, h.isSome_find?_iff]
  simp only [begins_iff_exists]
  constructor
  · intro hleft
    obtain ⟨a, _, e, he⟩ := hleft
    exact ⟨a, e, he⟩
  · intro hright
    obtain ⟨a, e, he⟩ := hright
    exact ⟨a, Nat.le_of_lt (h.lt_length he), e, he⟩

theorem columns?_eq_some_iff (h : p.Seeks mode ignoreCase pattern) (text : String) {a e : Nat} :
    p.columns? text.toList = some (a, e) ↔
      IsLeast {a | ∃ e, Occupies (mode.Gap text.toList) (agrees ignoreCase) text.toList pattern a e} a ∧
        IsLeast {e | Occupies (mode.Gap text.toList) (agrees ignoreCase) text.toList pattern a e} e := by
  refine ⟨h.isLeast_of_columns?, ?_⟩
  intro hright
  obtain ⟨hstart, hstop⟩ := hright
  obtain ⟨⟨a', e'⟩, hcolumns⟩ :=
    Option.isSome_iff_exists.mp ((h.isSome_columns?_iff text).mpr ⟨a, e, hstop.1⟩)
  obtain ⟨hstart', hstop'⟩ := h.isLeast_of_columns? hcolumns
  obtain rfl := hstart'.unique hstart
  obtain rfl := hstop'.unique hstop
  exact hcolumns

/-- Two predicates that look for the same thing find the same. -/
theorem find?_congr (h : p.Seeks mode ignoreCase pattern) (h' : p'.Seeks mode ignoreCase pattern)
    (text : String) : p.find? text = p'.find? text := by
  have hcolumns : p.columns? text.toList = p'.columns? text.toList := by
    apply Option.ext
    rintro ⟨a, e⟩
    rw [h.columns?_eq_some_iff, h'.columns?_eq_some_iff]
  rw [find?, find?, hcolumns]

end Predicate.Seeks

/-! ## Occurrences in bytes -/

/-- A stretch of a text, cut between characters, whose characters stand for those of a pattern one by
one. -/
def IsOccurrence (ignoreCase : Bool) (pattern text : List Char) (r : ByteRange) : Prop :=
  ∃ before inside behind, text = before ++ (inside ++ behind) ∧
    r = ⟨byteLength before, byteLength (before ++ inside)⟩ ∧
    List.Forall₂ (fun c d => agrees ignoreCase c d = true) pattern inside

theorem follows_adjacent_iff {agrees : Char → Char → Bool} {text pattern : List Char} {a : Nat} :
    Follows (fun a b => b = a) agrees text pattern a ↔
      ∃ inside behind, text.drop a = inside ++ behind ∧
        List.Forall₂ (fun c d => agrees c d = true) pattern inside := by
  induction pattern generalizing a with
  | nil => simp [Follows]
  | cons c cs ih =>
      simp only [Follows, exists_eq_left, ih]
      constructor
      · intro hleft
        obtain ⟨⟨d, hd, hagrees⟩, inside, behind, hrest, hinside⟩ := hleft
        obtain ⟨hlt, hget⟩ := List.getElem?_eq_some_iff.mp hd
        refine ⟨d :: inside, behind, ?_, .cons hagrees hinside⟩
        rw [List.drop_eq_getElem_cons hlt, hget, hrest, List.cons_append]
      · intro hright
        obtain ⟨inside, behind, hdrop, hinside⟩ := hright
        cases hinside with
        | @cons _ d _ inside hagrees hinside =>
            have hd : text[a]? = some d := by
              simpa using congrArg List.head? hdrop
            have hrest : text.drop (a + 1) = inside ++ behind := by
              simpa using congrArg List.tail hdrop
            exact ⟨⟨d, hd, hagrees⟩, inside, behind, hrest, hinside⟩

theorem isOccurrence_iff {ignoreCase : Bool} {pattern text : List Char} {r : ByteRange} :
    IsOccurrence ignoreCase pattern text r ↔ ∃ a, a ≤ text.length ∧
      Follows (fun a b => b = a) (agrees ignoreCase) text pattern a ∧
      r = ⟨byteOfColumn text a, byteOfColumn text (a + pattern.length)⟩ := by
  constructor
  · intro hleft
    obtain ⟨before, inside, behind, rfl, rfl, hinside⟩ := hleft
    refine ⟨before.length, by simp, follows_adjacent_iff.mpr ⟨inside, behind, by simp, hinside⟩, ?_⟩
    rw [byteOfColumn, byteOfColumn, List.take_left, hinside.length_eq, ← List.length_append,
      ← List.append_assoc, List.take_left]
  · intro hright
    obtain ⟨a, _, hfollows, rfl⟩ := hright
    obtain ⟨inside, behind, hdrop, hinside⟩ := follows_adjacent_iff.mp hfollows
    have htake : text.take (a + pattern.length) = text.take a ++ inside := by
      rw [List.take_add, hdrop, hinside.length_eq, List.take_left]
    refine ⟨text.take a, inside, behind, ?_, ?_, hinside⟩
    · rw [← hdrop, List.take_append_drop]
    · rw [byteOfColumn, byteOfColumn, htake]

theorem Predicate.Seeks.find?_eq_some_iff {ignoreCase : Bool} {pattern : List Char} {p : Predicate}
    (h : p.Seeks .literal ignoreCase pattern) (text : String) {r : ByteRange} :
    p.find? text = some r ↔ IsOccurrence ignoreCase pattern text.toList r ∧
      ∀ r', IsOccurrence ignoreCase pattern text.toList r' → r.start ≤ r'.start := by
  have hfits : ∀ a e, Occupies (SearchMode.literal.Gap text.toList) (agrees ignoreCase) text.toList
      pattern a e ↔ _ := fun a e => occupies_adjacent_iff
  have hlength : ∀ a, Follows (fun a b => b = a) (agrees ignoreCase) text.toList pattern a →
      a ≤ text.toList.length := by
    intro a ha
    exact Nat.le_of_lt (h.lt_length ((hfits a _).mpr ⟨ha, rfl⟩))
  have hleast : ∀ a e, p.columns? text.toList = some (a, e) ↔
      IsLeast {a | Follows (fun a b => b = a) (agrees ignoreCase) text.toList pattern a} a ∧
        e = a + pattern.length := by
    intro a e
    rw [h.columns?_eq_some_iff]
    simp only [hfits, exists_and_left, exists_eq, and_true]
    constructor
    · intro hleft
      obtain ⟨hstart, hstop⟩ := hleft
      exact ⟨hstart, hstop.1.2⟩
    · intro hright
      obtain ⟨hstart, rfl⟩ := hright
      exact ⟨hstart, ⟨hstart.1, rfl⟩, fun e he => Nat.le_of_eq he.2.symm⟩
  constructor
  · intro hleft
    obtain ⟨⟨a, e⟩, hcolumns, rfl⟩ := Option.map_eq_some_iff.mp hleft
    obtain ⟨hstart, rfl⟩ := (hleast a e).mp hcolumns
    refine ⟨isOccurrence_iff.mpr ⟨a, hlength a hstart.1, hstart.1, rfl⟩, ?_⟩
    intro r' hr'
    obtain ⟨b, hb, hfollows, rfl⟩ := isOccurrence_iff.mp hr'
    exact (byteOfColumn_le_iff (hlength a hstart.1) hb).mpr (hstart.2 hfollows)
  · intro hright
    obtain ⟨hoccurrence, hfirst⟩ := hright
    obtain ⟨a, ha, hfollows, rfl⟩ := isOccurrence_iff.mp hoccurrence
    refine Option.map_eq_some_iff.mpr ⟨(a, a + pattern.length), (hleast _ _).mpr ⟨?_, rfl⟩, rfl⟩
    refine ⟨hfollows, ?_⟩
    intro b hb
    have hle := hfirst _ (isOccurrence_iff.mpr ⟨b, hlength b hb, hb, rfl⟩)
    exact (byteOfColumn_le_iff ha (hlength b hb)).mp hle

/-! ## Queries for plain text -/

theorem forall₂_agrees_false {pattern inside : List Char} :
    List.Forall₂ (fun c d => agrees false c d = true) pattern inside ↔ inside = pattern := by
  have hexact : (fun c d => agrees false c d = true) = fun c d : Char => c = d := by
    funext c d
    exact propext ⟨fun h => (beq_iff_eq.mp h).symm, fun h => beq_iff_eq.mpr h.symm⟩
  rw [hexact, List.forall₂_eq_eq_eq]
  exact eq_comm

/-- A query for plain text finds the first stretch whose characters are those of its pattern, up to case
if lower case leaves the pattern as it is, and nothing if there is none. Where case matters the text is
searched for as it is, and its pattern with every sign quoted would find the same. -/
theorem Query.find?_first_occurrence {q : Query} (hmode : q.mode = .literal) (hpattern : q.pattern ≠ "")
    (hread : q.Readable) :
    ∃ p, q.compile? = some p ∧
      (∀ (text : String) (r : ByteRange), p.find? text = some r ↔
        IsOccurrence (!q.caseSensitive) q.pattern.toList text.toList r ∧
          ∀ r', IsOccurrence (!q.caseSensitive) q.pattern.toList text.toList r' →
            r.start ≤ r'.start) ∧
      (∀ text : String, p.find? text = none ↔
        ∀ r, ¬ IsOccurrence (!q.caseSensitive) q.pattern.toList text.toList r) ∧
      (q.caseSensitive = true →
        (∀ (text : String) (r : ByteRange), p.find? text = some r →
          r.stop = r.start + byteLength q.pattern.toList) ∧
        (ofPatternText false (Pattern.quote q.pattern.toList) ≠ .never →
          ∀ text, (ofPatternText false (Pattern.quote q.pattern.toList)).find? text =
            p.find? text)) := by
  have hne : q.pattern.toList ≠ [] := fun hnil => hpattern (String.toList_eq_nil_iff.mp hnil)
  obtain ⟨p, hp⟩ := exists_compile? hne
  have hseeks : p.Seeks .literal (!q.caseSensitive) q.pattern.toList :=
    hmode ▸ Query.seeks (by simp [hmode]) hp hread
  have hsome : ∀ (text : String) (r : ByteRange), p.find? text = some r ↔ _ :=
    fun text r => hseeks.find?_eq_some_iff text
  refine ⟨p, hp, hsome, ?_, ?_⟩
  · intro text
    rw [← Option.not_isSome_iff_eq_none, Option.isSome_iff_exists, not_exists]
    constructor
    · intro hnone r hoccurrence
      -- an occurrence anywhere makes the predicate find the first one
      obtain ⟨a, ha, hfollows, _⟩ := isOccurrence_iff.mp hoccurrence
      have hfound := (hseeks.isSome_columns?_iff text).mpr
        ⟨a, _, occupies_adjacent_iff.mpr ⟨hfollows, rfl⟩⟩
      obtain ⟨columns, hcolumns⟩ := Option.isSome_iff_exists.mp hfound
      exact hnone _ (Option.map_eq_some_iff.mpr ⟨columns, hcolumns, rfl⟩)
    · intro hnone r hfound
      exact hnone r ((hsome text r).mp hfound).1
  · intro hcase
    rw [hcase] at hseeks hsome
    refine ⟨?_, ?_⟩
    · intro text r hfound
      obtain ⟨before, inside, behind, _, rfl, hinside⟩ := ((hsome text r).mp hfound).1
      rw [forall₂_agrees_false.mp hinside, byteLength_append]
    · intro hquoted text
      cases hchars : q.pattern.toList with
      | nil => exact absurd hchars hne
      | cons c cs =>
          rw [hchars] at hquoted hseeks
          exact (seeks_quote hquoted).find?_congr hseeks text

/-- The sign for kelvin takes three bytes and is a `k` up to case. -/
theorem Query.find?_first_occurrence_kelvin :
    let q : Query := { pattern := "k" }
    q.caseSensitive = false ∧ ∃ p, q.compile? = some p ∧ p.find? "5 \u212Ak" = some ⟨2, 5⟩ ∧
      IsOccurrence true ['k'] "5 \u212Ak".toList ⟨2, 5⟩ ∧
      ∀ r', IsOccurrence true ['k'] "5 \u212Ak".toList r' → 2 ≤ r'.start := by
  intro q
  have hread : q.Readable := readable_of_byteLength rfl (by decide)
  have hcase : q.caseSensitive = false := by decide +kernel
  have hchars : q.pattern.toList = ['k'] := by decide
  obtain ⟨p, hp, hfinds, _⟩ := find?_first_occurrence (q := q) rfl (by decide) hread
  have hfound : (q.compile?.bind fun p => p.find? "5 \u212Ak") = some ⟨2, 5⟩ := by decide +kernel
  rw [hp] at hfound
  rw [hcase, hchars, Bool.not_false] at hfinds
  exact ⟨hcase, p, hp, hfound, (hfinds _ _).mp hfound⟩

end Waymark.Search
