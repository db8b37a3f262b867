import Mathlib.Data.List.Forall2
import Waymark.Proofs.Region.Pairing

/-!
# Pairing under another name

The law of pairing reads the names of lines and nothing else of their texts. If fewer starts have the
name of an end, but each end still has the name of the start that it closes, the pairs stay as they
are. So a new name may be given to a start and its end, or to a tag.
-/

namespace Waymark

/-- What a line declares, without the places in it. -/
structure LineTexts where
  kind : MatchKind
  key : String
  name : Option String
  description : Option String
  deriving DecidableEq, Repr

/-- The texts of what a line declares. -/
def LineMatch.texts (found : LineMatch) : LineTexts :=
  { kind := found.kind
    key := found.key.text
    name := found.name.map Token.text
    description := found.description.map Token.text }

/-- A start has a name, and it is the one of the end, if that has one. -/
def LineTexts.Fits (start stop : LineTexts) : Prop :=
  start.kind = .regionStart ∧ stop.kind = .regionEnd ∧
    ∃ label, start.name = some label ∧ ∀ name, stop.name = some name → label = name

section

variable (m : String → Nat → Option LineMatch) (lines : List String)

/-- The texts of what a line declares. -/
def textsAt? (i : Nat) : Option LineTexts :=
  (declaredAt? m lines i).map LineMatch.texts

/-- The start on one line fits the end on another one. -/
def FitsAt (s e : Nat) : Prop :=
  ∃ start stop, textsAt? m lines s = some start ∧ textsAt? m lines e = some stop ∧ start.Fits stop

end

section

variable {m : String → Nat → Option LineMatch} {lines : List String}

theorem textsAt?_of_declared {i : Nat} {found : LineMatch}
    (hfound : declaredAt? m lines i = some found) : textsAt? m lines i = some found.texts := by
  simp [textsAt?, hfound]

/-- What can be closed by an end depends on the names alone. -/
theorem canClose_iff_fitsAt {P : Nat → Nat → Prop} {s e : Nat} :
    CanClose m lines P s e ↔ FitsAt m lines s e ∧ s < e ∧ ∀ e' < e, ¬ P s e' := by
  constructor
  · intro hclose
    obtain ⟨start, stop, hstart, hstop, hlt, hname, hopen⟩ := hclose
    obtain ⟨found, span, hfound, _, hkind, hlabel, _⟩ := declaredAt?_of_entryAt? hstart
    obtain ⟨hdeclared, hend⟩ := declaredAt?_of_endAt? hstop
    refine ⟨⟨found.texts, stop.texts, textsAt?_of_declared hfound, textsAt?_of_declared hdeclared,
      hkind, hend, start.name.text, ?_, ?_⟩, hlt, hopen⟩
    · rw [LineMatch.texts, hlabel]
      rfl
    · intro name hstopName
      obtain ⟨token, htoken, rfl⟩ := Option.map_eq_some_iff.mp hstopName
      exact hname token htoken
  · intro hfits
    obtain ⟨⟨start, stop, hstart, hstop, hkind, hend, label, hlabel, hname⟩, hlt, hopen⟩ := hfits
    obtain ⟨found, hfound, rfl⟩ := Option.map_eq_some_iff.mp hstart
    obtain ⟨found', hfound', rfl⟩ := Option.map_eq_some_iff.mp hstop
    obtain ⟨token, htoken, rfl⟩ := Option.map_eq_some_iff.mp hlabel
    obtain ⟨span, hspan⟩ := lineSpan?_of_declared hfound
    refine ⟨_, found', entryAt?_of_named hfound hspan hkind htoken, endAt?_of_eq hfound' hend, hlt, ?_,
      hopen⟩
    intro name hstopName
    exact hname name.text (Option.map_eq_some_iff.mpr ⟨name, hstopName, rfl⟩)

end

/-! ## Pairs that stay -/

namespace IsPairing

variable {m : String → Nat → Option LineMatch} {lines lines' : List String} {P : Nat → Nat → Prop}

theorem start_unique (hP : IsPairing m lines P) {s s' e : Nat} (h : P s e) (h' : P s' e) : s = s' := by
  obtain ⟨hclose, hlatest⟩ := (hP s e).mp h
  obtain ⟨hclose', hlatest'⟩ := (hP s' e).mp h'
  have hle := hlatest s' hclose'
  have hge := hlatest' s hclose
  omega

theorem end_unique (hP : IsPairing m lines P) {s e e' : Nat} (h : P s e) (h' : P s e') : e = e' := by
  have hopen := (canClose_iff_fitsAt.mp ((hP s e).mp h).1).2.2
  have hopen' := (canClose_iff_fitsAt.mp ((hP s e').mp h').1).2.2
  by_cases hlt : e < e'
  · exact absurd h (hopen' e hlt)
  · by_cases hgt : e' < e
    · exact absurd h' (hopen e' hgt)
    · omega

/-- An end that can close a start closes one. -/
theorem exists_start (hP : IsPairing m lines P) {s e : Nat} (h : CanClose m lines P s e) :
    ∃ s₁, P s₁ e := by
  -- the latest of the starts that can be closed, by induction on the room left above `s`
  have hlt := (canClose_iff_fitsAt.mp h).2.1
  obtain ⟨room, hroom⟩ := Nat.exists_eq_add_of_lt hlt
  induction room using Nat.strongRecOn generalizing s with
  | _ room ih =>
      by_cases hlater : ∃ s', CanClose m lines P s' e ∧ s < s'
      · obtain ⟨s', hclose', hgt⟩ := hlater
        have hlt' := (canClose_iff_fitsAt.mp hclose').2.1
        exact ih (e - s' - 1) (by omega) hclose' hlt' (by omega)
      · refine ⟨s, (hP s e).mpr ⟨h, ?_⟩⟩
        intro s' hclose'
        by_cases hle : s' ≤ s
        · exact hle
        · exact absurd ⟨s', hclose', by omega⟩ hlater

/-- If no more starts fit than before, and those that are paired still do, the pairing is the same. -/
theorem of_fits (hP : IsPairing m lines P) (hfewer : ∀ s e, FitsAt m lines' s e → FitsAt m lines s e)
    (hkept : ∀ s e, P s e → FitsAt m lines' s e) : IsPairing m lines' P := by
  have hclose : ∀ s e, CanClose m lines' P s e → CanClose m lines P s e := by
    intro s e h
    obtain ⟨hfits, hlt, hopen⟩ := canClose_iff_fitsAt.mp h
    exact canClose_iff_fitsAt.mpr ⟨hfewer s e hfits, hlt, hopen⟩
  have hpaired : ∀ s e, P s e → CanClose m lines' P s e ∧ ∀ s', CanClose m lines' P s' e → s' ≤ s := by
    intro s e h
    obtain ⟨hwas, hlatest⟩ := (hP s e).mp h
    obtain ⟨_, hlt, hopen⟩ := canClose_iff_fitsAt.mp hwas
    refine ⟨canClose_iff_fitsAt.mpr ⟨hkept s e h, hlt, hopen⟩, ?_⟩
    intro s' hclose'
    exact hlatest s' (hclose s' e hclose')
  intro s e
  constructor
  · exact hpaired s e
  · intro h
    obtain ⟨hclose', hlatest'⟩ := h
    obtain ⟨s₁, h₁⟩ := hP.exists_start (hclose s e hclose')
    obtain ⟨hclose₁, hlatest₁⟩ := hpaired s₁ e h₁
    have hle := hlatest' s₁ hclose₁
    have hge := hlatest₁ s hclose'
    have heq : s₁ = s := by omega
    rw [← heq]
    exact h₁

end IsPairing

/-! ## Lines with another name -/

/-- Some lines of one name have another one, which no line had. Nothing else changes. -/
structure Relabelled (m : String → Nat → Option LineMatch) (lines lines' : List String)
    (edited : Nat → Prop) (old name : String) : Prop where
  length_eq : lines'.length = lines.length
  kept : ∀ i, ¬ edited i → textsAt? m lines' i = textsAt? m lines i
  renamed : ∀ i, edited i → ∃ texts, textsAt? m lines i = some texts ∧ texts.name = some old ∧
    textsAt? m lines' i = some { texts with name := some name }
  fresh : ∀ i texts, textsAt? m lines i = some texts → texts.name ≠ some name

namespace Relabelled

variable {m : String → Nat → Option LineMatch} {lines lines' : List String} {edited : Nat → Prop}
  {old name : String}

theorem fitsAt_of_fitsAt (h : Relabelled m lines lines' edited old name) {s e : Nat}
    (hfits : FitsAt m lines' s e) : FitsAt m lines s e := by
  obtain ⟨start, stop, hstart, hstop, hkind, hend, label, hlabel, hname⟩ := hfits
  by_cases hs : edited s
  · obtain ⟨wasStart, hwasStart, hwasName, hnow⟩ := h.renamed s hs
    cases hnow.symm.trans hstart
    cases hlabel
    by_cases he : edited e
    · obtain ⟨wasStop, hwasStop, hwasStopName, hnow'⟩ := h.renamed e he
      cases hnow'.symm.trans hstop
      refine ⟨wasStart, wasStop, hwasStart, hwasStop, hkind, hend, old, hwasName, ?_⟩
      intro label hlabel
      exact Option.some.inj (hwasStopName.symm.trans hlabel)
    · -- the end can only be one without a name
      have hwasStop : textsAt? m lines e = some stop := (h.kept e he).symm.trans hstop
      refine ⟨wasStart, stop, hwasStart, hwasStop, hkind, hend, old, hwasName, ?_⟩
      intro label hlabel
      have heq := hname label hlabel
      rw [← heq] at hlabel
      exact absurd hlabel (h.fresh e stop hwasStop)
  · have hwasStart : textsAt? m lines s = some start := (h.kept s hs).symm.trans hstart
    by_cases he : edited e
    · obtain ⟨wasStop, _, _, hnow⟩ := h.renamed e he
      cases hnow.symm.trans hstop
      have heq := hname name rfl
      rw [heq] at hlabel
      exact absurd hlabel (h.fresh s start hwasStart)
    · have hwasStop : textsAt? m lines e = some stop := (h.kept e he).symm.trans hstop
      exact ⟨start, stop, hwasStart, hwasStop, hkind, hend, label, hlabel, hname⟩

theorem fitsAt_of_closed (h : Relabelled m lines lines' edited old name) {s e : Nat}
    (hend : edited e → edited s)
    (hstart : edited s → ¬ edited e → ∀ texts, textsAt? m lines e = some texts → texts.name = none)
    (hfits : FitsAt m lines s e) : FitsAt m lines' s e := by
  obtain ⟨start, stop, hwasStart, hwasStop, hkind, hkindEnd, label, hlabel, hname⟩ := hfits
  by_cases hs : edited s
  · obtain ⟨start', hwasStart', _, hnow⟩ := h.renamed s hs
    cases hwasStart'.symm.trans hwasStart
    by_cases he : edited e
    · obtain ⟨stop', hwasStop', _, hnow'⟩ := h.renamed e he
      cases hwasStop'.symm.trans hwasStop
      refine ⟨_, _, hnow, hnow', hkind, hkindEnd, name, rfl, ?_⟩
      intro label' hlabel'
      exact Option.some.inj hlabel'
    · refine ⟨_, stop, hnow, (h.kept e he).trans hwasStop, hkind, hkindEnd, name, rfl, ?_⟩
      intro label' hlabel'
      rw [hstart hs he stop hwasStop] at hlabel'
      cases hlabel'
  · have he : ¬ edited e := fun he => hs (hend he)
    exact ⟨start, stop, (h.kept s hs).trans hwasStart, (h.kept e he).trans hwasStop, hkind, hkindEnd,
      label, hlabel, hname⟩

/-- The pairs stay if a start is edited with each named end that closes it, and no other end is. -/
theorem isPairing (h : Relabelled m lines lines' edited old name) {P : Nat → Nat → Prop}
    (hP : IsPairing m lines P) (hend : ∀ s e, P s e → edited e → edited s)
    (hstart : ∀ s e, P s e → edited s → ¬ edited e →
      ∀ texts, textsAt? m lines e = some texts → texts.name = none) :
    IsPairing m lines' P := by
  refine hP.of_fits ?_ ?_
  · intro s e hfits
    exact h.fitsAt_of_fitsAt hfits
  · intro s e hpair
    have hfits := (canClose_iff_fitsAt.mp ((hP s e).mp hpair).1).1
    exact h.fitsAt_of_closed (hend s e hpair) (hstart s e hpair) hfits

end Relabelled

/-! ## Entries of the two texts -/

section

variable {m : String → Nat → Option LineMatch} {lines : List String}

theorem isSome_entryAt? {kind : MatchKind} {i : Nat} :
    (entryAt? m lines kind i).isSome =
      (textsAt? m lines i).any fun texts => texts.kind = kind && texts.name.isSome := by
  cases hfound : declaredAt? m lines i with
  | none => simp [entryAt?_of_not_declared hfound, textsAt?, hfound]
  | some found =>
      obtain ⟨span, hspan⟩ := lineSpan?_of_declared hfound
      rw [entryAt?_of_declared hfound hspan, textsAt?_of_declared hfound]
      by_cases hkind : found.kind = kind
      · simp [LineMatch.nameAs?, LineMatch.texts, hkind]
      · simp [LineMatch.nameAs?, LineMatch.texts, hkind]

end

namespace Relabelled

variable {m : String → Nat → Option LineMatch} {lines lines' : List String} {edited : Nat → Prop}
  {old name : String}

/-- Only the name of a line can change. -/
theorem declared (h : Relabelled m lines lines' edited old name) {i : Nat} {found found' : LineMatch}
    (hfound : declaredAt? m lines i = some found) (hfound' : declaredAt? m lines' i = some found') :
    found'.key.text = found.key.text ∧
      found'.description.map Token.text = found.description.map Token.text ∧
      (edited i → found'.name.map Token.text = some name) ∧
      (¬ edited i → found'.name.map Token.text = found.name.map Token.text) := by
  have htexts := textsAt?_of_declared hfound
  have htexts' := textsAt?_of_declared hfound'
  by_cases hi : edited i
  · obtain ⟨texts, hwas, _, hnow⟩ := h.renamed i hi
    cases htexts.symm.trans hwas
    have heq : found'.texts = { found.texts with name := some name } :=
      Option.some.inj (htexts'.symm.trans hnow)
    refine ⟨congrArg LineTexts.key heq, congrArg LineTexts.description heq, ?_, ?_⟩
    · intro _
      exact congrArg LineTexts.name heq
    · intro hnot
      exact absurd hi hnot
  · have heq : found'.texts = found.texts :=
      Option.some.inj (htexts'.symm.trans ((h.kept i hi).trans htexts))
    refine ⟨congrArg LineTexts.key heq, congrArg LineTexts.description heq, ?_, ?_⟩
    · intro hedited
      exact absurd hedited hi
    · intro _
      exact congrArg LineTexts.name heq

theorem isSome_entryAt?_eq (h : Relabelled m lines lines' edited old name) (kind : MatchKind)
    (i : Nat) : (entryAt? m lines kind i).isSome = (entryAt? m lines' kind i).isSome := by
  rw [isSome_entryAt?, isSome_entryAt?]
  by_cases hi : edited i
  · obtain ⟨texts, hwas, hname, hnow⟩ := h.renamed i hi
    rw [hwas, hnow]
    simp [hname]
  · rw [h.kept i hi]

end Relabelled

/-! ## Two parses side by side -/

namespace ParsesTo

variable {m : String → Nat → Option LineMatch} {lines lines' : List String}
  {pairs pairs' : List (Nat × Nat)} {parsed parsed' : ParsedRegions} {dropped dropped' : Nat}

theorem nodup (h : ParsesTo m lines pairs parsed dropped) : pairs.Nodup := by
  refine (List.pairwise_map.mp h.ends).imp ?_
  intro a b hlt heq
  rw [heq] at hlt
  omega

/-- Parses that come to the same pairs list them in the same order. -/
theorem pairs_eq (h : ParsesTo m lines pairs parsed dropped)
    (h' : ParsesTo m lines' pairs' parsed' dropped')
    (hlaw : IsPairing m lines' fun s e => (s, e) ∈ pairs) : pairs' = pairs := by
  have hmem : ∀ pair, pair ∈ pairs' ↔ pair ∈ pairs :=
    fun pair => (h'.unique _ hlaw pair.1 pair.2).symm
  have hperm : pairs'.Perm pairs := (List.perm_ext_iff_of_nodup h'.nodup h.nodup).mpr hmem
  refine hperm.eq_of_pairwise ?_ (List.pairwise_map.mp h'.ends) (List.pairwise_map.mp h.ends)
  intro a b _ _ hab hba
  omega

end ParsesTo

section

variable {α β : Type}

theorem forall₂_of_map_some {f g : α → Option β} {list : List α} {first second : List β}
    (hfirst : first.map some = list.map f) (hsecond : second.map some = list.map g) :
    List.Forall₂ (fun a b => ∃ x ∈ list, f x = some a ∧ g x = some b) first second := by
  induction list generalizing first second with
  | nil =>
      rw [List.map_eq_nil_iff.mp hfirst, List.map_eq_nil_iff.mp hsecond]
      exact .nil
  | cons x list ih =>
      obtain ⟨a, first, rfl, ha, hfirst⟩ := List.map_eq_cons_iff.mp hfirst
      obtain ⟨b, second, rfl, hb, hsecond⟩ := List.map_eq_cons_iff.mp hsecond
      refine .cons ⟨x, List.mem_cons_self, ha.symm, hb.symm⟩ ((ih hfirst hsecond).imp ?_)
      intro c d hcd
      obtain ⟨y, hy, hrest⟩ := hcd
      exact ⟨y, List.mem_cons_of_mem x hy, hrest⟩

theorem forall₂_filterMap {f g : α → Option β} (h : ∀ x, (f x).isSome = (g x).isSome)
    (list : List α) :
    List.Forall₂ (fun a b => ∃ x, f x = some a ∧ g x = some b) (list.filterMap f)
      (list.filterMap g) := by
  induction list with
  | nil => exact .nil
  | cons x list ih =>
      have hx := h x
      cases hf : f x with
      | none =>
          cases hg : g x with
          | none => simpa [hf, hg] using ih
          | some b => simp [hf, hg] at hx
      | some a =>
          cases hg : g x with
          | none => simp [hf, hg] at hx
          | some b =>
              rw [List.filterMap_cons_some hf, List.filterMap_cons_some hg]
              exact .cons ⟨x, hf, hg⟩ ih

end

end Waymark
