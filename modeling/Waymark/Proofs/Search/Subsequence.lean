import Mathlib.Data.List.Chain
import Mathlib.Order.Nat
import Waymark.Proofs.Search.Occurrence

/-!
# Letters in order

A query for letters in order finds them wherever they stand in this order without a line feed between two
that follow one another. It begins at the first column from which this can be done and then takes every
letter where it comes next. This never leads past another choice of places: the stretch up to the next place
of a letter has no line feed, and a letter that stands before another of its places is none itself.
-/

namespace Waymark.Search

open Waymark.Pattern Waymark.Text

/-- One column lies behind another, with no line feed between the two. -/
def OnwardInLine (text : List Char) (a b : Nat) : Prop :=
  a < b ∧ ∀ k, a < k → k < b → text[k]? ≠ some '\n'

/-- The characters of a pattern stand at these columns, each in line with the one before. -/
structure Spells (ignoreCase : Bool) (text pattern : List Char) (places : List Nat) : Prop where
  chars : List.Forall₂ (fun c a => CharAt (agrees ignoreCase c) text a) pattern places
  inLine : places.IsChain (OnwardInLine text)

/-- Taking each of these characters where it comes next, from one column on, leads to another. -/
inductive TakesNext (ignoreCase : Bool) (text : List Char) : Nat → List Char → Nat → Prop
  | nil {a : Nat} : TakesNext ignoreCase text a [] a
  | cons {a b last : Nat} {c : Char} {cs : List Char}
      (next : IsLeast {b | OnwardInLine text a b ∧ CharAt (agrees ignoreCase c) text b} b)
      (rest : TakesNext ignoreCase text b cs last) : TakesNext ignoreCase text a (c :: cs) last

/-! ## Line feeds -/

theorem ofNat_ne_lineFeed {code : Nat} (h : 0x61 ≤ code) : Char.ofNat code ≠ '\n' := by
  intro heq
  by_cases hvalid : code.isValidChar
  · have hcode : (Char.ofNatAux code hvalid).toNat = code := rfl
    rw [Char.ofNat, dif_pos hvalid] at heq
    rw [heq] at hcode
    have hfeed : ('\n').toNat = 10 := rfl
    omega
  · rw [Char.ofNat, dif_neg hvalid] at heq
    cases heq

theorem le_image_of_mem_foldRuns : ∀ run ∈ Unicode.foldRuns, 0x61 ≤ run.image := by
  decide +kernel

/-- No other character is a line feed up to case. -/
theorem eq_lineFeed_of_fold {d : Char} (h : Unicode.fold d = '\n') : d = '\n' := by
  rw [Unicode.fold, Unicode.CaseRun.apply] at h
  cases hrun : Unicode.foldRuns.findSome? (·.image? d.toNat) with
  | none => simpa [hrun] using h
  | some code =>
      obtain ⟨run, hmem, himage⟩ := List.exists_of_findSome?_eq_some hrun
      have hbound := le_image_of_mem_foldRuns run hmem
      rw [Unicode.CaseRun.image?] at himage
      split at himage <;> cases himage
      rw [hrun, Option.getD_some] at h
      exact absurd h (ofNat_ne_lineFeed (Nat.le_add_right_of_le hbound))

theorem eq_lineFeed_of_agrees {ignoreCase : Bool} {c d : Char}
    (hfeed : agrees ignoreCase c '\n' = true) (hd : agrees ignoreCase c d = true) : d = '\n' := by
  cases ignoreCase with
  | false => exact (beq_iff_eq.mp hd).trans (beq_iff_eq.mp hfeed).symm
  | true =>
      have hsame : Unicode.fold d = Unicode.fold '\n' :=
        (beq_iff_eq.mp hd).trans (beq_iff_eq.mp hfeed).symm
      have hfold : Unicode.fold '\n' = '\n' := by decide +kernel
      exact eq_lineFeed_of_fold (hsame.trans hfold)

section

variable {ignoreCase : Bool} {text : List Char}

theorem passes_iff_onwardInLine {accept : Char → Bool} {a b : Nat} (hb : CharAt accept text b) :
    Passes (· != '\n') text (a + 1) b ↔ OnwardInLine text a b := by
  obtain ⟨_, hchar, _⟩ := hb
  have hlt : b < text.length := (List.getElem?_eq_some_iff.mp hchar).1
  constructor
  · intro hleft
    obtain ⟨hle, hall⟩ := hleft
    refine ⟨hle, ?_⟩
    intro k hak hkb hfeed
    obtain ⟨d, hd, hne⟩ := hall k hak hkb
    rw [hfeed] at hd
    obtain rfl := Option.some.inj hd
    simp at hne
  · intro hright
    obtain ⟨hlt', hall⟩ := hright
    refine ⟨hlt', ?_⟩
    intro k hak hkb
    have hk : k < text.length := Nat.lt_trans hkb hlt
    refine ⟨text[k], List.getElem?_eq_getElem hk, ?_⟩
    rw [bne_iff_ne]
    intro hfeed
    exact hall k hak hkb (by rw [List.getElem?_eq_getElem hk, hfeed])

/-! ## Choices of places -/

theorem follows_fuzzy_iff {cs : List Char} {a : Nat} :
    Follows (SearchMode.fuzzy.Gap text) (agrees ignoreCase) text cs (a + 1) ↔
      ∃ places, List.Forall₂ (fun c b => CharAt (agrees ignoreCase c) text b) cs places ∧
        (a :: places).IsChain (OnwardInLine text) := by
  induction cs generalizing a with
  | nil => simp [Follows]
  | cons c cs ih =>
      simp only [Follows, ih]
      constructor
      · intro hleft
        obtain ⟨b, hgap, hchar, places, hplaces, hchain⟩ := hleft
        exact ⟨b :: places, .cons hchar hplaces, .cons_cons ((passes_iff_onwardInLine hchar).mp hgap) hchain⟩
      · intro hright
        obtain ⟨places, hplaces, hchain⟩ := hright
        cases hplaces with
        | @cons _ b _ places hchar hplaces =>
            obtain ⟨honward, hchain⟩ := List.isChain_cons_cons.mp hchain
            exact ⟨b, (passes_iff_onwardInLine hchar).mpr honward, hchar, places, hplaces, hchain⟩

theorem begins_fuzzy_iff {c : Char} {cs : List Char} {a : Nat} :
    Begins (SearchMode.fuzzy.Gap text) (agrees ignoreCase) text (c :: cs) a ↔
      ∃ places, Spells ignoreCase text (c :: cs) (a :: places) := by
  rw [Begins, follows_fuzzy_iff]
  constructor
  · intro hleft
    obtain ⟨hchar, places, hplaces, hchain⟩ := hleft
    exact ⟨places, .cons hchar hplaces, hchain⟩
  · intro hright
    obtain ⟨places, hchars, hchain⟩ := hright
    obtain ⟨hchar, hplaces⟩ := List.forall₂_cons.mp hchars
    exact ⟨hchar, places, hplaces, hchain⟩

/-! ## The next place each time -/

theorem TakesNext.followsTo {a last : Nat} {cs : List Char}
    (h : TakesNext ignoreCase text a cs last) :
    FollowsTo (SearchMode.fuzzy.Gap text) (agrees ignoreCase) text cs (a + 1) (last + 1) := by
  induction h with
  | nil => rfl
  | cons next _ ih =>
      obtain ⟨honward, hchar⟩ := next.1
      exact ⟨_, (passes_iff_onwardInLine hchar).mpr honward, hchar, ih⟩

/-- No line feed lies between the place where a character comes next and a later place for it. -/
theorem not_lineFeed_behind_next {c : Char} {a next place k : Nat}
    (hnext : IsLeast {b | OnwardInLine text a b ∧ CharAt (agrees ignoreCase c) text b} next)
    (honward : OnwardInLine text a place) (hchar : CharAt (agrees ignoreCase c) text place)
    (hk : next < k) (hkplace : k ≤ place) : text[k]? ≠ some '\n' := by
  obtain ⟨⟨hanext, _⟩, d, hd, hagrees⟩ := hnext.1
  intro hfeed
  rcases Nat.eq_or_lt_of_le hkplace with rfl | hlt
  · -- the character would be a line feed, at its next place too
    obtain ⟨f, hf, hfagrees⟩ := hchar
    obtain rfl := Option.some.inj (hf.symm.trans hfeed)
    obtain rfl := eq_lineFeed_of_agrees hfagrees hagrees
    exact honward.2 next hanext hk hd
  · exact honward.2 k (Nat.lt_trans hanext hk) hlt hfeed

/-- Taking each character where it comes next leads no further than another choice of places that starts
later in the same line. -/
theorem exists_takesNext_of_followsTo {cs : List Char} {a b e : Nat} (hab : a ≤ b)
    (hline : ∀ k, a < k → k ≤ b → text[k]? ≠ some '\n')
    (h : FollowsTo (SearchMode.fuzzy.Gap text) (agrees ignoreCase) text cs (b + 1) e) :
    ∃ last, TakesNext ignoreCase text a cs last ∧ last + 1 ≤ e := by
  induction cs generalizing a b with
  | nil =>
      obtain rfl : e = b + 1 := h
      exact ⟨a, .nil, Nat.succ_le_succ hab⟩
  | cons c cs ih =>
      obtain ⟨place, hgap, hchar, hrest⟩ := h
      obtain ⟨hbplace, hbetween⟩ := (passes_iff_onwardInLine hchar).mp hgap
      have honward : OnwardInLine text a place := by
        refine ⟨by omega, ?_⟩
        intro k hak hk
        by_cases hkb : k ≤ b
        · exact hline k hak hkb
        · exact hbetween k (by omega) hk
      classical
      obtain ⟨next, hnext⟩ : ∃ next,
          IsLeast {b | OnwardInLine text a b ∧ CharAt (agrees ignoreCase c) text b} next :=
        ⟨_, Nat.isLeast_find ⟨place, honward, hchar⟩⟩
      obtain ⟨last, hlast, hle⟩ := ih (hnext.2 ⟨honward, hchar⟩)
        (fun k hk hkplace => not_lineFeed_behind_next hnext honward hchar hk hkplace) hrest
      exact ⟨last, .cons hnext hlast, hle⟩

theorem TakesNext.unique {a last last' : Nat} {cs : List Char}
    (h : TakesNext ignoreCase text a cs last) (h' : TakesNext ignoreCase text a cs last') :
    last = last' := by
  induction h with
  | nil =>
      cases h'
      rfl
  | cons next _ ih =>
      cases h' with
      | cons next' rest' =>
          obtain rfl := next.unique next'
          exact ih rest'

theorem isLeast_followsTo_iff {cs : List Char} {a e : Nat} :
    IsLeast {e | FollowsTo (SearchMode.fuzzy.Gap text) (agrees ignoreCase) text cs (a + 1) e} e ↔
      ∃ last, TakesNext ignoreCase text a cs last ∧ e = last + 1 := by
  have hahead : ∀ e, FollowsTo (SearchMode.fuzzy.Gap text) (agrees ignoreCase) text cs (a + 1) e →
      ∃ last, TakesNext ignoreCase text a cs last ∧ last + 1 ≤ e := fun e he =>
    exists_takesNext_of_followsTo (Nat.le_refl a) (fun k hak hka => absurd hka (by omega)) he
  constructor
  · intro hleft
    obtain ⟨last, hlast, hle⟩ := hahead e hleft.1
    exact ⟨last, hlast, Nat.le_antisymm (hleft.2 hlast.followsTo) hle⟩
  · intro hright
    obtain ⟨last, hlast, rfl⟩ := hright
    refine ⟨hlast.followsTo, ?_⟩
    intro e he
    obtain ⟨last', hlast', hle⟩ := hahead e he
    rwa [hlast.unique hlast']

end

/-! ## Queries for letters in order -/

/-- A query for letters in order finds something exactly in the texts that spell its pattern, up to case if
lower case leaves the pattern as it is. What it finds begins at the first place where the pattern can begin,
and stops behind the last character when each one is taken where it comes next. -/
theorem Query.find?_spells {q : Query} (hmode : q.mode = .fuzzy) (hpattern : q.pattern ≠ "")
    (hread : q.Readable) :
    ∃ p, q.compile? = some p ∧ ∀ text : String,
      ((p.find? text).isSome = true ↔
        ∃ places, Spells (!q.caseSensitive) text.toList q.pattern.toList places) ∧
      ∀ r, p.find? text = some r ↔ ∃ first last,
        IsLeast {a | ∃ places, Spells (!q.caseSensitive) text.toList q.pattern.toList (a :: places)}
          first ∧
        TakesNext (!q.caseSensitive) text.toList first q.pattern.toList.tail last ∧
        r = ⟨byteOfColumn text.toList first, byteOfColumn text.toList (last + 1)⟩ := by
  obtain ⟨c, cs, hchars⟩ : ∃ c cs, q.pattern.toList = c :: cs := by
    cases hchars : q.pattern.toList with
    | nil => exact absurd (String.toList_eq_nil_iff.mp hchars) hpattern
    | cons c cs => exact ⟨c, cs, rfl⟩
  obtain ⟨p, hp⟩ := exists_compile? (q := q) (by simp [hchars])
  have hseeks : p.Seeks .fuzzy (!q.caseSensitive) (c :: cs) :=
    hchars ▸ hmode ▸ Query.seeks (by simp [hmode]) hp hread
  rw [hchars, List.tail_cons]
  refine ⟨p, hp, fun text => ⟨?_, ?_⟩⟩
  · have hfind : (p.find? text).isSome = (p.columns? text.toList).isSome := Option.isSome_map
    rw [hfind, hseeks.isSome_columns?_iff]
    simp only [← begins_iff_exists, begins_fuzzy_iff]
    constructor
    · intro hleft
      obtain ⟨a, places, hspells⟩ := hleft
      exact ⟨a :: places, hspells⟩
    · intro hright
      obtain ⟨places, hspells⟩ := hright
      cases places with
      | nil => cases hspells.chars
      | cons a places => exact ⟨a, places, hspells⟩
  · intro r
    have hcolumns : ∀ first e, p.columns? text.toList = some (first, e) ↔
        IsLeast {a | ∃ places, Spells (!q.caseSensitive) text.toList (c :: cs) (a :: places)} first ∧
          ∃ last, TakesNext (!q.caseSensitive) text.toList first cs last ∧ e = last + 1 := by
      intro first e
      rw [hseeks.columns?_eq_some_iff]
      simp only [← begins_iff_exists, begins_fuzzy_iff]
      refine and_congr_right fun hfirst => ?_
      obtain ⟨places, hspells⟩ := hfirst.1
      obtain ⟨hchar, _⟩ := List.forall₂_cons.mp hspells.chars
      rw [← isLeast_followsTo_iff]
      simp only [Occupies, hchar, true_and]
    constructor
    · intro hleft
      obtain ⟨⟨first, e⟩, hfound, rfl⟩ := Option.map_eq_some_iff.mp hleft
      obtain ⟨hfirst, last, hlast, rfl⟩ := (hcolumns first e).mp hfound
      exact ⟨first, last, hfirst, hlast, rfl⟩
    · intro hright
      obtain ⟨first, last, hfirst, hlast, rfl⟩ := hright
      exact Option.map_eq_some_iff.mpr ⟨_, (hcolumns first _).mpr ⟨hfirst, last, hlast, rfl⟩, rfl⟩

/-- The first letter begins no match, since a line feed follows. Both letters are found in other forms, one
of three bytes and one of two. -/
theorem Query.find?_spells_second_line :
    let q : Query := { pattern := "ks", mode := .fuzzy }
    let text := "k\n\u212A1\u017Fs"
    q.caseSensitive = false ∧ ∃ p, q.compile? = some p ∧ p.find? text = some ⟨2, 8⟩ ∧
      ∃ first last,
        IsLeast {a | ∃ places, Spells true text.toList ['k', 's'] (a :: places)} first ∧
        TakesNext true text.toList first ['s'] last ∧
        (⟨2, 8⟩ : ByteRange) = ⟨byteOfColumn text.toList first, byteOfColumn text.toList (last + 1)⟩ := by
  intro q text
  have hcase : q.caseSensitive = false := by decide +kernel
  have hchars : q.pattern.toList = ['k', 's'] := by decide
  have hfound : (q.compile?.bind fun p => p.find? text) = some ⟨2, 8⟩ := by decide +kernel
  have hread : q.Readable := by
    intro _ hnever
    rw [hnever] at hfound
    cases hfound
  obtain ⟨p, hp, hfinds⟩ := find?_spells (q := q) rfl (by decide) hread
  rw [hp] at hfound
  rw [hcase, hchars, Bool.not_false] at hfinds
  exact ⟨hcase, p, hp, hfound, ((hfinds text).2 _).mp hfound⟩

end Waymark.Search
