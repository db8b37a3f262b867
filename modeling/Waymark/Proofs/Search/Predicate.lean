import Waymark.Proofs.Pattern.Place
import Waymark.Proofs.Pattern.Text
import Waymark.Proofs.Unicode.Lower
import Waymark.Search.Query

/-!
# What queries find

A query for plain text finds its characters side by side, and a query for letters in order finds them
with anything between them except line feeds. Hence a query that narrows another one finds nothing in
a text where that one finds nothing, whichever of the two minds case: a pattern can begin to mind case
as it grows, but not stop.
-/

namespace Waymark.Search

open Waymark.Pattern

/-! ## Occurrences -/

/-- Whether a character of a text stands for one of a pattern. -/
def agrees (ignoreCase : Bool) (c d : Char) : Bool :=
  if ignoreCase then Unicode.sameUpToCase d c else d == c

/-- How far the place of the next character of a pattern may be from the end of the last one. -/
def SearchMode.Gap (text : List Char) : SearchMode → Nat → Nat → Prop
  | .fuzzy, a, b => Passes (· != '\n') text a b
  | .literal, a, b => b = a
  | .regex, a, b => b = a

/-- The characters of a pattern follow one another in a text from a column on. -/
def Follows (gap : Nat → Nat → Prop) (agrees : Char → Char → Bool) (text : List Char) :
    List Char → Nat → Prop
  | [], _ => True
  | c :: cs, a => ∃ b, gap a b ∧ CharAt (agrees c) text b ∧ Follows gap agrees text cs (b + 1)

/-- The characters of a pattern follow one another from a column on, and another column is right behind the
last one. -/
def FollowsTo (gap : Nat → Nat → Prop) (agrees : Char → Char → Bool) (text : List Char) :
    List Char → Nat → Nat → Prop
  | [], a, e => e = a
  | c :: cs, a, e =>
    ∃ b, gap a b ∧ CharAt (agrees c) text b ∧ FollowsTo gap agrees text cs (b + 1) e

/-- An occurrence of a pattern begins at a column. -/
def Begins (gap : Nat → Nat → Prop) (agrees : Char → Char → Bool) (text : List Char) :
    List Char → Nat → Prop
  | [], _ => True
  | c :: cs, a => CharAt (agrees c) text a ∧ Follows gap agrees text cs (a + 1)

theorem follows_iff_exists {gap : Nat → Nat → Prop} {agrees : Char → Char → Bool}
    {text pattern : List Char} {a : Nat} :
    Follows gap agrees text pattern a ↔ ∃ e, FollowsTo gap agrees text pattern a e := by
  induction pattern generalizing a with
  | nil => simp [Follows, FollowsTo]
  | cons c pattern ih =>
      simp only [Follows, FollowsTo, ih]
      constructor
      · intro hleft
        obtain ⟨b, hgap, hchar, e, hrest⟩ := hleft
        exact ⟨e, b, hgap, hchar, hrest⟩
      · intro hright
        obtain ⟨e, b, hgap, hchar, hrest⟩ := hright
        exact ⟨b, hgap, hchar, e, hrest⟩

/-- A pattern occurs where a longer one does, if it is compared no more strictly. -/
theorem Follows.of_append {gap : Nat → Nat → Prop} {strict loose : Char → Char → Bool}
    {text pattern more : List Char} {a : Nat}
    (hloose : ∀ c d, strict c d = true → loose c d = true)
    (h : Follows gap strict text (pattern ++ more) a) : Follows gap loose text pattern a := by
  induction pattern generalizing a with
  | nil => trivial
  | cons c pattern ih =>
      obtain ⟨b, hgap, hchar, hrest⟩ := h
      exact ⟨b, hgap, hchar.mono (hloose c), ih hrest⟩

theorem Begins.of_append {gap : Nat → Nat → Prop} {strict loose : Char → Char → Bool}
    {text pattern more : List Char} {a : Nat}
    (hloose : ∀ c d, strict c d = true → loose c d = true)
    (h : Begins gap strict text (pattern ++ more) a) : Begins gap loose text pattern a := by
  cases pattern with
  | nil => trivial
  | cons c pattern => exact ⟨h.1.mono (hloose c), h.2.of_append hloose⟩

theorem agrees_mono {ignoreCase ignoreCase' : Bool} (h : ignoreCase = true → ignoreCase' = true)
    (c d : Char) (hcd : agrees ignoreCase c d = true) : agrees ignoreCase' c d = true := by
  cases ignoreCase with
  | true => simpa [agrees, h rfl] using hcd
  | false =>
      have heq : d = c := by simpa [agrees] using hcd
      subst heq
      cases ignoreCase' <;> simp [agrees]

/-! ## Plain text in which case matters -/

theorem isPrefixOf_drop_iff (needle text : List Char) (a : Nat) :
    needle.isPrefixOf (text.drop a) = true ↔
      Follows (fun a b => b = a) (agrees false) text needle a := by
  induction needle generalizing a with
  | nil => simp [Follows]
  | cons c needle ih =>
      have hfollows : Follows (fun a b => b = a) (agrees false) text (c :: needle) a ↔
          CharAt (agrees false c) text a ∧
            Follows (fun a b => b = a) (agrees false) text needle (a + 1) := by
        simp [Follows]
      rw [hfollows, ← ih]
      cases hrest : text.drop a with
      | nil =>
          have hend : text[a]? = none := by
            rw [List.getElem?_eq_none_iff]
            exact List.drop_eq_nil_iff.mp hrest
          simp [CharAt, hend]
      | cons d rest =>
          have hchar : text[a]? = some d := by
            have hhead := congrArg List.head? hrest
            simpa using hhead
          have htail : text.drop (a + 1) = rest := by
            simpa using congrArg List.tail hrest
          have hcd : c = d ↔ d = c := eq_comm
          simp [CharAt, hchar, htail, agrees, hcd]

theorem isSome_occurrence?_iff (needle text : List Char) :
    (occurrence? needle text).isSome = true ↔
      ∃ a, a ≤ text.length ∧ needle.isPrefixOf (text.drop a) = true := by
  induction text with
  | nil => cases needle <;> simp [occurrence?]
  | cons c text ih =>
      by_cases hhere : needle.isPrefixOf (c :: text) = true
      · have hfound : (occurrence? needle (c :: text)).isSome = true := by
          simp [occurrence?, hhere]
        simp only [hfound, true_iff]
        exact ⟨0, Nat.zero_le _, hhere⟩
      · have hlater : (occurrence? needle (c :: text)).isSome = (occurrence? needle text).isSome := by
          simp [occurrence?, hhere]
        rw [hlater, ih]
        constructor
        · intro hleft
          obtain ⟨a, ha, h⟩ := hleft
          exact ⟨a + 1, by simpa using ha, h⟩
        · intro hright
          obtain ⟨a, ha, h⟩ := hright
          cases a with
          | zero => exact absurd h hhere
          | succ a => exact ⟨a, by simpa using ha, h⟩

/-! ## Patterns of characters -/

theorem literal_eq (ignoreCase : Bool) (c : Char) :
    Reading.literal { ignoreCase := ignoreCase } c = .one (agrees ignoreCase c) c.utf8Size := by
  cases ignoreCase <;> rfl

/-- As little as possible between two characters, without a line feed. -/
def lazyGap : Expr := .repeated (.one (· != '\n') 24) 0 none false

theorem compile_lazyGap (label : List Nat) :
    lazyGap.compile false label = .star false (.one (· != '\n')) := rfl

/-- What stands in the pattern of a query behind its first character. -/
def textRest (ignoreCase : Bool) (cs : List Char) : List Expr :=
  cs.map (Reading.literal { ignoreCase := ignoreCase })

/-- What stands in the pattern of letters in order behind its first letter. -/
def fuzzyRest (ignoreCase : Bool) (cs : List Char) : List Expr :=
  cs.flatMap fun c => [lazyGap, Reading.literal { ignoreCase := ignoreCase } c]

variable {text : List Char}

theorem ne_nil_iff_standsAt (ts : List Thread) : ts ≠ [] ↔ ∃ a, StandsAt ts a := by
  constructor
  · intro h
    obtain ⟨t, ht⟩ := List.exists_mem_of_ne_nil ts h
    exact ⟨t.column, t, ht, rfl⟩
  · intro hright
    obtain ⟨a, t, ht, _⟩ := hright
    exact List.ne_nil_of_mem ht

theorem standsAt_run_textRest (ignoreCase : Bool) (cs : List Char) (label : List Nat)
    {ts : List Thread} (hts : ∀ t ∈ ts, t.On text) {e : Nat} :
    StandsAt (((Expr.catAll (textRest ignoreCase cs)).compile false label).run ts) e ↔
      ∃ a, StandsAt ts a ∧
        FollowsTo (SearchMode.literal.Gap text) (agrees ignoreCase) text cs a e := by
  induction cs generalizing ts label with
  | nil =>
      change StandsAt ts e ↔ _
      simp [FollowsTo]
  | cons c cs ih =>
      change StandsAt (((Expr.catAll (textRest ignoreCase cs)).compile false (1 :: label)).run
        (((Reading.literal { ignoreCase := ignoreCase } c).compile false (0 :: label)).run ts)) e ↔ _
      rw [literal_eq]
      change StandsAt (Node.run _ ((Node.one (agrees ignoreCase c)).run ts)) e ↔ _
      rw [ih _ (run_one_on hts)]
      simp only [standsAt_run_one hts]
      constructor
      · intro hleft
        obtain ⟨_, ⟨a, ha, hchar, rfl⟩, hrest⟩ := hleft
        exact ⟨a, ha, a, rfl, hchar, hrest⟩
      · intro hright
        obtain ⟨a, ha, b, hgap, hchar, hrest⟩ := hright
        have hb : b = a := hgap
        subst hb
        exact ⟨b + 1, ⟨b, ha, hchar, rfl⟩, hrest⟩

theorem standsAt_run_fuzzyRest (ignoreCase : Bool) (cs : List Char) (label : List Nat)
    {ts : List Thread} (hts : ∀ t ∈ ts, t.On text) {e : Nat} :
    StandsAt (((Expr.catAll (fuzzyRest ignoreCase cs)).compile false label).run ts) e ↔
      ∃ a, StandsAt ts a ∧
        FollowsTo (SearchMode.fuzzy.Gap text) (agrees ignoreCase) text cs a e := by
  induction cs generalizing ts label with
  | nil =>
      change StandsAt ts e ↔ _
      simp [FollowsTo]
  | cons c cs ih =>
      change StandsAt (((Expr.catAll (fuzzyRest ignoreCase cs)).compile false (1 :: 1 :: label)).run
        (((Reading.literal { ignoreCase := ignoreCase } c).compile false (0 :: 1 :: label)).run
          ((lazyGap.compile false (0 :: label)).run ts))) e ↔ _
      rw [literal_eq, compile_lazyGap]
      have hgap : ∀ t ∈ (Node.star false (.one (· != '\n'))).run ts, t.On text :=
        run_star_one_on false hts
      change StandsAt (Node.run _ ((Node.one (agrees ignoreCase c)).run _)) e ↔ _
      rw [ih _ (run_one_on hgap)]
      simp only [standsAt_run_one hgap, standsAt_run_star_one false hts]
      constructor
      · intro hleft
        obtain ⟨_, ⟨b, ⟨a, ha, hpass⟩, hchar, rfl⟩, hrest⟩ := hleft
        exact ⟨a, ha, b, hpass, hchar, hrest⟩
      · intro hright
        obtain ⟨a, ha, b, hpass, hchar, hrest⟩ := hright
        exact ⟨b + 1, ⟨b, ⟨a, ha, hpass⟩, hchar, rfl⟩, hrest⟩

/-- What stands in the pattern of a query behind its first character. -/
def SearchMode.rest (mode : SearchMode) (ignoreCase : Bool) (cs : List Char) : List Expr :=
  match mode with
  | .fuzzy => fuzzyRest ignoreCase cs
  | .literal | .regex => textRest ignoreCase cs

theorem standsAt_run_rest (mode : SearchMode) (ignoreCase : Bool) (cs : List Char) (label : List Nat)
    {ts : List Thread} (hts : ∀ t ∈ ts, t.On text) {e : Nat} :
    StandsAt (((Expr.catAll (mode.rest ignoreCase cs)).compile false label).run ts) e ↔
      ∃ a, StandsAt ts a ∧ FollowsTo (mode.Gap text) (agrees ignoreCase) text cs a e := by
  cases mode with
  | fuzzy => exact standsAt_run_fuzzyRest ignoreCase cs label hts
  | literal => exact standsAt_run_textRest ignoreCase cs label hts
  | regex => exact standsAt_run_textRest ignoreCase cs label hts

theorem run_rest_ne_nil_iff (mode : SearchMode) (ignoreCase : Bool) (cs : List Char)
    (label : List Nat) {ts : List Thread} (hts : ∀ t ∈ ts, t.On text) :
    ((Expr.catAll (mode.rest ignoreCase cs)).compile false label).run ts ≠ [] ↔
      ∃ a, StandsAt ts a ∧ Follows (mode.Gap text) (agrees ignoreCase) text cs a := by
  simp only [ne_nil_iff_standsAt, standsAt_run_rest mode ignoreCase cs label hts, follows_iff_exists]
  constructor
  · intro hleft
    obtain ⟨e, a, ha, hrest⟩ := hleft
    exact ⟨a, ha, e, hrest⟩
  · intro hright
    obtain ⟨a, ha, e, hrest⟩ := hright
    exact ⟨e, a, ha, hrest⟩

theorem start_on (before : Option Char) {a : Nat} (ha : a ≤ text.length) :
    ∀ t ∈ [Thread.start before a (text.drop a)], t.On text := by
  intro t ht
  rw [List.mem_singleton] at ht
  subst ht
  exact ⟨ha, rfl⟩

theorem standsAt_run_one_start {accept : Char → Bool} (before : Option Char) {a column : Nat}
    (ha : a ≤ text.length) :
    StandsAt ((Node.one accept).run [.start before a (text.drop a)]) column ↔
      CharAt accept text a ∧ column = a + 1 := by
  rw [standsAt_run_one (start_on before ha)]
  simp only [standsAt_singleton, Thread.start, exists_eq_left']

/-! ## Reading the patterns of queries -/

/-- The pattern of letters in order, each letter with what stands before it. -/
theorem fuzzyText_cons (c : Char) (cs : List Char) :
    Query.fuzzyText (c :: cs) =
      Pattern.quote [c] ++ cs.flatMap fun d => '.' :: '*' :: '?' :: Pattern.quote [d] := by
  induction cs generalizing c with
  | nil => simp [Query.fuzzyText, List.intercalate]
  | cons d cs ih =>
      have hcons : Query.fuzzyText (c :: d :: cs) =
          Pattern.quote [c] ++ ('.' :: '*' :: '?' :: Query.fuzzyText (d :: cs)) := by
        simp [Query.fuzzyText, List.intercalate]
      rw [hcons, ih]
      simp

theorem run_lazyGap (ignoreCase : Bool) (r : Reading) (more : List Char)
    (h : r.flags = { ignoreCase := ignoreCase }) :
    r.run ('.' :: '*' :: '?' :: more) = (r.push lazyGap 1).run more := by
  have hspaced : r.flags.spaced = false := by rw [h]
  have hdot : r.step '.' ('*' :: '?' :: more) =
      some (r.push (.one (· != '\n') 24) 0, '*' :: '?' :: more) := by
    simp [Reading.step, Reading.dot?, h]
  have hstar : (r.push (.one (· != '\n') 24) 0).step '*' ('?' :: more) =
      some (r.push lazyGap 1, more) := by
    simp [Reading.step, Reading.readGreedy, Reading.repeatLast?, Reading.push, Body.add,
      Alternative.add, h, lazyGap]
  have hpushed : (r.push (.one (· != '\n') 24) 0).flags.spaced = false := hspaced
  rw [Reading.run_cons hspaced hdot,
    Reading.run_cons hpushed hstar]

theorem run_fuzzy_append (ignoreCase : Bool) (cs : List Char) (r : Reading)
    (h : r.flags = { ignoreCase := ignoreCase }) :
    r.run (cs.flatMap fun d => '.' :: '*' :: '?' :: Pattern.quote [d]) =
      some (r.pushAll (cs.flatMap fun c =>
        [(lazyGap, 1), (Reading.literal { ignoreCase := ignoreCase } c, 0)])) := by
  induction cs generalizing r with
  | nil => exact Reading.run_nil r
  | cons c cs ih =>
      rw [List.flatMap_cons]
      change r.run ('.' :: '*' :: '?' :: (Pattern.quote [c] ++ _)) = _
      have hflags : (r.push lazyGap 1).flags = { ignoreCase := ignoreCase } := h
      rw [run_lazyGap ignoreCase r _ h, Reading.run_quote_append _ _ _ (by rw [hflags]),
        ih _ (by simp [hflags]), hflags]
      rfl

/-- Letters in order are read as such, as long as they are not too large. -/
theorem read?_fuzzyText (ignoreCase : Bool) (c : Char) (cs : List Char) :
    Pattern.read? ignoreCase (Query.fuzzyText (c :: cs)) =
      if (Expr.catAll (Reading.literal { ignoreCase := ignoreCase } c :: fuzzyRest ignoreCase cs)).cost
          ≤ Reading.maxCost then
        some ⟨(Expr.catAll (Reading.literal { ignoreCase := ignoreCase } c ::
          fuzzyRest ignoreCase cs)).compile false []⟩
      else none := by
  let flags : Flags := { ignoreCase := ignoreCase }
  let parts := (Reading.literal flags c, 0) ::
    cs.flatMap fun c => [(lazyGap, 1), (Reading.literal flags c, 0)]
  have hrun : ({ flags := flags } : Reading).run (Query.fuzzyText (c :: cs)) =
      some (({ flags := flags } : Reading).pushAll parts) := by
    rw [fuzzyText_cons, Reading.run_quote_append _ _ _ rfl,
      run_fuzzy_append ignoreCase cs _ (by simp [flags])]
    rfl
  have hexprs : parts.map Prod.fst = Reading.literal flags c :: fuzzyRest ignoreCase cs := by
    simp [parts, fuzzyRest, flags, List.map_flatMap]
  have hheight : ∀ part ∈ parts, part.2 ≤ 8 := by
    intro part hpart
    simp only [parts, List.mem_cons, List.mem_flatMap, List.not_mem_nil, or_false] at hpart
    rcases hpart with rfl | ⟨d, _, rfl | rfl⟩ <;> simp
  rw [Pattern.read?, Expr.read?, hrun, Option.bind_some, Reading.result?_pushAll _ _ _ hheight, hexprs]
  split <;> rfl

/-! ## Finding -/

/-- The pattern of the query is not too large. Plain text and letters in order have no other way of
not being read. -/
def Query.Readable (q : Query) : Prop :=
  q.mode ≠ .regex → q.compile? ≠ some .never

theorem begins_eq_follows (agrees : Char → Char → Bool) (pattern : List Char) (a : Nat) :
    Begins (fun a b => b = a) agrees text pattern a ↔
      Follows (fun a b => b = a) agrees text pattern a := by
  cases pattern <;> simp [Begins, Follows]

theorem isSome_find?_pattern_iff {p : Pattern} {c : Char} {gap : Nat → Nat → Prop}
    {agrees : Char → Char → Bool} {cs : List Char} {cost : Nat} {rest : List Expr} {text : String}
    (hp : p.node = (Expr.catAll (.one (agrees c) cost :: rest)).compile false [])
    (hrest : ∀ ts : List Thread, (∀ t ∈ ts, t.On text.toList) →
      (((Expr.catAll rest).compile false [1]).run ts ≠ [] ↔
        ∃ a, StandsAt ts a ∧ Follows gap agrees text.toList cs a)) :
    ((Predicate.pattern p).find? text).isSome = true ↔
      ∃ a, a ≤ text.toList.length ∧ Begins gap agrees text.toList (c :: cs) a := by
  have hbegins : ∀ before a, a ≤ text.toList.length →
      (p.node.run [.start before a (text.toList.drop a)] ≠ [] ↔
        Begins gap agrees text.toList (c :: cs) a) := by
    intro before a ha
    rw [hp]
    change ((Expr.catAll rest).compile false [1]).run
      ((Node.one (agrees c)).run [.start before a (text.toList.drop a)]) ≠ [] ↔ _
    rw [hrest _ (run_one_on (start_on before ha))]
    simp only [standsAt_run_one_start before ha, and_assoc, exists_and_left, exists_eq_left, Begins]
  have hsearch := isSome_findFrom_iff hbegins none (Nat.zero_le _)
  simpa [Predicate.find?, Predicate.columns?, Pattern.find?] using hsearch

theorem isSome_find?_literal_iff (needle : List Char) (text : String) :
    ((Predicate.literal needle).find? text).isSome = true ↔
      ∃ a, a ≤ text.toList.length ∧
        Begins (fun a b => b = a) (agrees false) text.toList needle a := by
  have hsearch := isSome_occurrence?_iff needle text.toList
  simp only [isPrefixOf_drop_iff] at hsearch
  simpa [Predicate.find?, Predicate.columns?, begins_eq_follows] using hsearch

theorem compile?_of_ne_nil {q : Query} {c : Char} {cs : List Char}
    (hpattern : q.pattern.toList = c :: cs) :
    q.compile? = some (match q.mode with
      | .literal =>
        if !q.caseSensitive then Query.ofPatternText true (Pattern.quote (c :: cs))
        else .literal (c :: cs)
      | .regex => Query.ofPatternText (!q.caseSensitive) (c :: cs)
      | .fuzzy => Query.ofPatternText (!q.caseSensitive) (Query.fuzzyText (c :: cs))) := by
  cases hmode : q.mode <;> simp [Query.compile?, hpattern, hmode]

theorem Query.compile?_eq_none_iff (q : Query) : q.compile? = none ↔ q.pattern.toList = [] := by
  cases hpattern : q.pattern.toList with
  | nil => simp [compile?, hpattern]
  | cons c cs => simp [compile?_of_ne_nil hpattern]

/-- The two forms that the predicate of a text takes: the text itself, or a pattern that says its characters
one by one. -/
inductive Predicate.Seeks (mode : SearchMode) (ignoreCase : Bool) : List Char → Predicate → Prop
  | plain (c : Char) (cs : List Char) (hmode : mode = .literal) (hcase : ignoreCase = false) :
    Seeks mode ignoreCase (c :: cs) (.literal (c :: cs))
  | pattern (c : Char) (cs : List Char) :
    Seeks mode ignoreCase (c :: cs)
      (.pattern ⟨(Expr.catAll (Reading.literal { ignoreCase := ignoreCase } c ::
        mode.rest ignoreCase cs)).compile false []⟩)

/-- A text that is read as the pattern for some characters gives the predicate that seeks them, unless it
is too large. -/
theorem seeks_of_read? {mode : SearchMode} {ignoreCase : Bool} {c : Char} {cs text : List Char}
    {fits : Prop} [Decidable fits]
    (htext : Pattern.read? ignoreCase text =
      if fits then some ⟨(Expr.catAll (Reading.literal { ignoreCase := ignoreCase } c ::
        mode.rest ignoreCase cs)).compile false []⟩
      else none)
    (hread : Query.ofPatternText ignoreCase text ≠ .never) :
    (Query.ofPatternText ignoreCase text).Seeks mode ignoreCase (c :: cs) := by
  rw [Query.ofPatternText, htext] at hread ⊢
  by_cases hfits : fits
  · rw [if_pos hfits]
    exact .pattern c cs
  · rw [if_neg hfits] at hread
    exact absurd rfl hread

theorem seeks_quote {ignoreCase : Bool} {c : Char} {cs : List Char}
    (hread : Query.ofPatternText ignoreCase (Pattern.quote (c :: cs)) ≠ .never) :
    (Query.ofPatternText ignoreCase (Pattern.quote (c :: cs))).Seeks .literal ignoreCase (c :: cs) :=
  seeks_of_read? (read?_quote ignoreCase (c :: cs)) hread

theorem seeks_fuzzyText {ignoreCase : Bool} {c : Char} {cs : List Char}
    (hread : Query.ofPatternText ignoreCase (Query.fuzzyText (c :: cs)) ≠ .never) :
    (Query.ofPatternText ignoreCase (Query.fuzzyText (c :: cs))).Seeks .fuzzy ignoreCase (c :: cs) :=
  seeks_of_read? (read?_fuzzyText ignoreCase c cs) hread

theorem Query.seeks {q : Query} {p : Predicate} (hmode : q.mode ≠ .regex) (hp : q.compile? = some p)
    (hread : q.Readable) : p.Seeks q.mode (!q.caseSensitive) q.pattern.toList := by
  have hnever : p ≠ .never := fun h => hread hmode (h ▸ hp)
  cases hpattern : q.pattern.toList with
  | nil => simp [compile?, hpattern] at hp
  | cons c cs =>
      rw [compile?_of_ne_nil hpattern, Option.some.injEq] at hp
      subst hp
      cases hm : q.mode with
      | regex => exact absurd hm hmode
      | literal =>
          cases hcase : q.caseSensitive with
          | true => exact .plain c cs rfl rfl
          | false =>
              simp only [hm, hcase] at hnever
              exact seeks_quote hnever
      | fuzzy =>
          simp only [hm] at hnever
          exact seeks_fuzzyText hnever

theorem Predicate.Seeks.isSome_find?_iff {mode : SearchMode} {ignoreCase : Bool}
    {pattern : List Char} {p : Predicate} (h : p.Seeks mode ignoreCase pattern) (text : String) :
    (p.find? text).isSome = true ↔ ∃ a, a ≤ text.toList.length ∧
      Begins (mode.Gap text.toList) (agrees ignoreCase) text.toList pattern a := by
  cases h with
  | plain c cs hmode hcase =>
      subst hmode hcase
      exact isSome_find?_literal_iff (c :: cs) text
  | pattern c cs =>
      exact isSome_find?_pattern_iff (by rw [literal_eq]) fun ts hts =>
        run_rest_ne_nil_iff mode ignoreCase cs [1] hts

/-- Where the predicate of a query finds something: wherever an occurrence of its pattern begins. -/
theorem isSome_find?_iff {q : Query} {p : Predicate} (hmode : q.mode ≠ .regex)
    (hp : q.compile? = some p) (hread : q.Readable) (text : String) :
    (p.find? text).isSome = true ↔ ∃ a, a ≤ text.toList.length ∧
      Begins (q.mode.Gap text.toList) (agrees !q.caseSensitive) text.toList q.pattern.toList a :=
  (Query.seeks hmode hp hread).isSome_find?_iff text

theorem Query.readable_of_byteLength {q : Query} (hmode : q.mode = .literal)
    (hsize : Waymark.Text.byteLength q.pattern.toList + 1 ≤ Reading.maxCost) : q.Readable := by
  intro _ hnever
  cases hpattern : q.pattern.toList with
  | nil => simp [compile?, hpattern] at hnever
  | cons c cs =>
      rw [compile?_of_ne_nil hpattern, hmode] at hnever
      rw [hpattern] at hsize
      cases hcase : q.caseSensitive with
      | true => simp [hcase] at hnever
      | false =>
          simp only [hcase, ofPatternText, read?_quote, if_pos hsize] at hnever
          simp at hnever

/-! ## Narrowing -/

theorem caseSensitive_iff (q : Query) :
    q.caseSensitive = true ↔ ¬ ∀ c ∈ q.pattern.toList, Unicode.IsLowerForm c := by
  rw [← Unicode.lower_eq_self_iff, Query.caseSensitive, bne_iff_ne]

/-- What one query narrows from another: how it is read and what it lets pass stay the same, and the
pattern grows. -/
structure Query.Narrows (q previous : Query) : Prop where
  mode_eq : q.mode = previous.mode
  mode_ne : q.mode ≠ .regex
  kindFilter_eq : q.kindFilter = previous.kindFilter
  pattern_eq : ∃ more, q.pattern.toList = previous.pattern.toList ++ more

theorem Query.narrows_iff (q previous : Query) :
    q.narrows previous = true ↔ q.Narrows previous := by
  constructor
  · intro h
    simp only [narrows, Bool.and_eq_true, beq_iff_eq, bne_iff_ne, List.isPrefixOf_iff_prefix] at h
    obtain ⟨⟨⟨hmode, hne⟩, hkind⟩, more, hmore⟩ := h
    exact ⟨hmode, hne, hkind, more, hmore.symm⟩
  · intro hright
    obtain ⟨hmode, hne, hkind, more, hmore⟩ := hright
    simp only [narrows, Bool.and_eq_true, beq_iff_eq, bne_iff_ne, List.isPrefixOf_iff_prefix]
    exact ⟨⟨⟨hmode, hne⟩, hkind⟩, more, hmore.symm⟩

/-- A pattern does not stop minding case as it grows. -/
theorem Query.Narrows.caseSensitive {q previous : Query} (h : q.Narrows previous)
    (hprevious : previous.caseSensitive = true) : q.caseSensitive = true := by
  obtain ⟨more, hmore⟩ := h.pattern_eq
  rw [caseSensitive_iff] at hprevious ⊢
  intro hall
  apply hprevious
  intro c hc
  exact hall c (by rw [hmore]; exact List.mem_append_left more hc)

/-- A pattern that grew from one with characters has characters. -/
theorem Query.Narrows.compile?_eq_none {q previous : Query} (h : q.Narrows previous)
    (hq : q.compile? = none) : previous.compile? = none := by
  obtain ⟨more, hmore⟩ := h.pattern_eq
  rw [q.compile?_eq_none_iff.mp hq] at hmore
  exact previous.compile?_eq_none_iff.mpr (List.append_eq_nil_iff.mp hmore.symm).1

/-- What a narrower query finds, the wider one finds too. -/
theorem Query.Narrows.isSome_find? {q previous : Query} {p p' : Predicate} (h : q.Narrows previous)
    (hq : q.Readable) (hprevious : previous.Readable) (hp : previous.compile? = some p)
    (hp' : q.compile? = some p') {text : String} (hfound : (p'.find? text).isSome = true) :
    (p.find? text).isSome = true := by
  obtain ⟨more, hmore⟩ := h.pattern_eq
  have hmode : previous.mode ≠ .regex := h.mode_eq ▸ h.mode_ne
  obtain ⟨a, ha, hbegins⟩ := (isSome_find?_iff h.mode_ne hp' hq text).mp hfound
  refine (isSome_find?_iff hmode hp hprevious text).mpr ⟨a, ha, ?_⟩
  rw [hmore, h.mode_eq] at hbegins
  refine hbegins.of_append (agrees_mono ?_)
  intro hignore
  cases hcase : previous.caseSensitive with
  | false => rfl
  | true =>
      rw [h.caseSensitive hcase] at hignore
      exact hignore

theorem Predicate.find?_never (text : String) : Predicate.never.find? text = none := rfl

/-- Where the wider query finds nothing, the narrower one finds nothing either, even if it cannot be read. -/
theorem Query.Narrows.find?_eq_none {q previous : Query} {p p' : Predicate} (h : q.Narrows previous)
    (hprevious : previous.Readable) (hp : previous.compile? = some p) (hp' : q.compile? = some p')
    {text : String} (hnone : p.find? text = none) : p'.find? text = none := by
  by_cases hnever : p' = .never
  · rw [hnever, Predicate.find?_never]
  · have hq : q.Readable := fun _ hq => hnever (Option.some.inj (hp'.symm.trans hq))
    cases hfound : p'.find? text with
    | none => rfl
    | some range =>
        have hwider := h.isSome_find? hq hprevious hp hp' (Option.isSome_of_eq_some hfound)
        rw [hnone] at hwider
        cases hwider

theorem Query.exists_compile? {q : Query} (hpattern : q.pattern.toList ≠ []) :
    ∃ p, q.compile? = some p := by
  cases hcompile : q.compile? with
  | none => exact absurd (q.compile?_eq_none_iff.mp hcompile) hpattern
  | some p => exact ⟨p, rfl⟩

/-- A query that narrows another one finds nothing in any text where that one finds nothing, whether plain text
or letters in order are asked for. It minds case if the other does, and may begin to. -/
theorem Query.find?_eq_none_of_narrows {q previous : Query} (hpattern : previous.pattern ≠ "")
    (h : q.narrows previous = true) (hread : previous.Readable) :
    (previous.caseSensitive = true → q.caseSensitive = true) ∧
      ∃ p p', previous.compile? = some p ∧ q.compile? = some p' ∧
        ∀ text, p.find? text = none → p'.find? text = none := by
  have hnarrows := (q.narrows_iff previous).mp h
  obtain ⟨more, hmore⟩ := hnarrows.pattern_eq
  have hprevious : previous.pattern.toList ≠ [] :=
    fun hnil => hpattern (String.toList_inj.mp (by rw [hnil]; rfl))
  have hq : q.pattern.toList ≠ [] := by
    rw [hmore]
    exact List.append_ne_nil_of_left_ne_nil hprevious more
  obtain ⟨p, hp⟩ := exists_compile? hprevious
  obtain ⟨p', hp'⟩ := exists_compile? hq
  exact ⟨hnarrows.caseSensitive, p, p', hp, hp', fun _ hnone => hnarrows.find?_eq_none hread hp hp' hnone⟩

/-- One more letter makes the query mind case: first a pattern is searched for, then plain text. -/
theorem Query.find?_eq_none_of_narrows_minding_case :
    let previous : Query := { pattern := "ab" }
    let q : Query := { pattern := "abC" }
    previous.caseSensitive = false ∧ q.caseSensitive = true ∧ q.narrows previous = true ∧
      ∃ p', q.compile? = some p' ∧ p'.find? "BA AC" = none := by
  intro previous q
  have hread : previous.Readable := readable_of_byteLength rfl (by decide)
  have hnarrows : q.narrows previous = true := by decide +kernel
  obtain ⟨_, p, p', hp, hp', hfinds⟩ := find?_eq_none_of_narrows (by decide) hnarrows hread
  have hnone : (previous.compile?.bind fun p => p.find? "BA AC") = none := by decide +kernel
  rw [hp] at hnone
  exact ⟨by decide +kernel, by decide +kernel, hnarrows, p', hp', hfinds "BA AC" hnone⟩

end Waymark.Search
