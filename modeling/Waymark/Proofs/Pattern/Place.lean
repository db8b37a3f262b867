import Waymark.Proofs.Pattern.Forward

/-!
# Places that matching reaches

A thread stands in a text if what it has left is what follows its column. For such threads the set of
columns that a node leads to is all that later nodes depend on: repetition of a character class drops a
thread only if another one has come to its column.
-/

namespace Waymark.Pattern

open Waymark.Text

/-- The text holds an acceptable character at a column. -/
def CharAt (accept : Char → Bool) (text : List Char) (column : Nat) : Prop :=
  ∃ c, text[column]? = some c ∧ accept c = true

/-- All characters between two columns are acceptable. -/
def Passes (accept : Char → Bool) (text : List Char) (a b : Nat) : Prop :=
  a ≤ b ∧ ∀ i, a ≤ i → i < b → CharAt accept text i

theorem passes_refl (accept : Char → Bool) (text : List Char) (a : Nat) :
    Passes accept text a a :=
  ⟨Nat.le_refl a, fun _ h₁ h₂ => absurd h₂ (Nat.not_lt.mpr h₁)⟩

theorem passes_iff {accept : Char → Bool} {text : List Char} {a b : Nat} :
    Passes accept text a b ↔ b = a ∨ CharAt accept text a ∧ Passes accept text (a + 1) b := by
  constructor
  · intro ⟨hle, hall⟩
    by_cases hab : b = a
    · exact .inl hab
    · refine .inr ⟨hall a (Nat.le_refl a) (by omega), by omega, ?_⟩
      intro i hi hib
      exact hall i (by omega) hib
  · intro hright
    rcases hright with rfl | ⟨hchar, hle, hall⟩
    · exact passes_refl accept text b
    · refine ⟨by omega, ?_⟩
      intro i hi hib
      by_cases hia : i = a
      · subst hia
        exact hchar
      · exact hall i (by omega) hib

theorem CharAt.mono {accept accept' : Char → Bool} {text : List Char} {a : Nat}
    (h : ∀ c, accept c = true → accept' c = true) (ha : CharAt accept text a) :
    CharAt accept' text a := by
  obtain ⟨c, hc, hacc⟩ := ha
  exact ⟨c, hc, h c hacc⟩

/-- The thread stands in a text. -/
def Thread.On (text : List Char) (t : Thread) : Prop :=
  t.column ≤ text.length ∧ t.rest = text.drop t.column

/-- Some thread stands at the column. -/
def StandsAt (ts : List Thread) (column : Nat) : Prop :=
  ∃ t ∈ ts, t.column = column

@[simp] theorem not_standsAt_nil (column : Nat) : ¬ StandsAt [] column := by
  simp [StandsAt]

theorem standsAt_append {ts us : List Thread} {column : Nat} :
    StandsAt (ts ++ us) column ↔ StandsAt ts column ∨ StandsAt us column := by
  simp [StandsAt, or_and_right, exists_or]

theorem standsAt_singleton {t : Thread} {column : Nat} :
    StandsAt [t] column ↔ t.column = column := by
  simp [StandsAt]

/-! ## Taking one character -/

variable {text : List Char} {accept : Char → Bool}

theorem Thread.On.charAt_iff {t : Thread} (h : t.On text) :
    CharAt accept text t.column ↔ ∃ c rest, t.rest = c :: rest ∧ accept c = true := by
  obtain ⟨_, hrest⟩ := h
  rw [hrest]
  constructor
  · intro hleft
    obtain ⟨c, hc, hacc⟩ := hleft
    obtain ⟨hlt, hget⟩ := List.getElem?_eq_some_iff.mp hc
    refine ⟨c, text.drop (t.column + 1), ?_, hacc⟩
    rw [List.drop_eq_getElem_cons hlt, hget]
  · intro hright
    obtain ⟨c, rest, hdrop, hacc⟩ := hright
    refine ⟨c, ?_, hacc⟩
    have hhead : (text.drop t.column)[0]? = some c := by
      rw [hdrop]
      rfl
    rwa [List.getElem?_drop, Nat.add_zero] at hhead

theorem Thread.On.advance {t t' : Thread} (h : t.On text) (ht : t.advance? accept = some t') :
    t'.On text ∧ t'.column = t.column + 1 ∧ CharAt accept text t.column ∧
      t'.rest.length + 1 = t.rest.length := by
  unfold advance? at ht
  cases hrest : t.rest with
  | nil => simp [hrest] at ht
  | cons c rest =>
      simp only [hrest] at ht
      split at ht
      · rename_i hacc
        cases ht
        have hchar : CharAt accept text t.column := h.charAt_iff.mpr ⟨c, rest, hrest, hacc⟩
        obtain ⟨hle, hdrop⟩ := h
        have hlen : t.column < text.length := by
          have := congrArg List.length (hrest.symm.trans hdrop)
          simp only [List.length_cons, List.length_drop] at this
          omega
        refine ⟨⟨hlen, ?_⟩, rfl, hchar, rfl⟩
        have htail := congrArg List.tail (hrest.symm.trans hdrop)
        simpa using htail
      · cases ht

theorem Thread.On.advance?_eq_none {t : Thread} (h : t.On text)
    (hchar : ¬ CharAt accept text t.column) : t.advance? accept = none := by
  cases hadv : t.advance? accept with
  | none => rfl
  | some t' => exact absurd (h.advance hadv).2.2.1 hchar

theorem Thread.On.exists_advance {t : Thread} (h : t.On text)
    (hchar : CharAt accept text t.column) : ∃ t', t.advance? accept = some t' := by
  obtain ⟨c, rest, hrest, hacc⟩ := h.charAt_iff.mp hchar
  refine ⟨⟨some c, rest, t.column + 1, t.marks, []⟩, ?_⟩
  simp [advance?, hrest, hacc]

theorem run_one_on {ts : List Thread} (hts : ∀ t ∈ ts, t.On text) :
    ∀ t ∈ (Node.one accept).run ts, t.On text := by
  intro t' ht'
  obtain ⟨t, ht, hadv⟩ := List.mem_filterMap.mp ht'
  exact ((hts t ht).advance hadv).1

theorem standsAt_run_one {ts : List Thread} (hts : ∀ t ∈ ts, t.On text) {column : Nat} :
    StandsAt ((Node.one accept).run ts) column ↔
      ∃ a, StandsAt ts a ∧ CharAt accept text a ∧ column = a + 1 := by
  constructor
  · intro hleft
    obtain ⟨t', ht', rfl⟩ := hleft
    obtain ⟨t, ht, hadv⟩ := List.mem_filterMap.mp ht'
    obtain ⟨_, hcolumn, hchar, _⟩ := (hts t ht).advance hadv
    exact ⟨t.column, ⟨t, ht, rfl⟩, hchar, hcolumn⟩
  · intro hright
    obtain ⟨a, ⟨t, ht, rfl⟩, hchar, rfl⟩ := hright
    obtain ⟨t', hadv⟩ := (hts t ht).exists_advance hchar
    exact ⟨t', List.mem_filterMap.mpr ⟨t, ht, hadv⟩, ((hts t ht).advance hadv).2.1⟩

/-! ## Repeating a character class -/

/-- From a column on, a set of columns holds what can be passed to from its members. -/
def ClosedFrom (accept : Char → Bool) (text : List Char) (start : Nat) (seen : ColumnSet) : Prop :=
  ∀ a, start ≤ a → seen.has a = true → CharAt accept text a → seen.has (a + 1) = true

theorem ClosedFrom.passes {start a b : Nat} {seen : ColumnSet}
    (h : ClosedFrom accept text start seen) (hstart : start ≤ a) (ha : seen.has a = true)
    (hab : Passes accept text a b) : seen.has b = true := by
  obtain ⟨hle, hall⟩ := hab
  induction hle with
  | refl => exact ha
  | @step b hle ih =>
      have hle : a ≤ b := hle
      have hb : seen.has b = true := ih fun i hi hib => hall i hi (by omega)
      exact h b (by omega) hb (hall b hle (by omega))

/-- What the rounds of a character class from one thread come to: they add the columns that can be
passed to, and leave one thread at each that was not there before. -/
structure RoundsSpec (accept : Char → Bool) (text : List Char) (column : Nat) (seen : ColumnSet)
    (result : List Thread × ColumnSet) : Prop where
  on : ∀ t ∈ result.1, t.On text
  stands : ∀ b, StandsAt result.1 b ↔ seen.has b = false ∧ Passes accept text column b
  seen : ∀ b, result.2.has b = true ↔ seen.has b = true ∨ Passes accept text column b

/-- A thread at a column that is already there adds nothing. -/
theorem RoundsSpec.old {column : Nat} {seen : ColumnSet} (hold : seen.has column = true)
    (hseen : ClosedFrom accept text column seen) :
    RoundsSpec accept text column seen ([], seen) := by
  have hpassed : ∀ b, Passes accept text column b → seen.has b = true :=
    fun b hb => hseen.passes (Nat.le_refl _) hold hb
  constructor
  · simp
  · intro b
    constructor
    · intro h
      exact absurd h (not_standsAt_nil b)
    · intro hright
      obtain ⟨hnew, hb⟩ := hright
      rw [hpassed b hb] at hnew
      cases hnew
  · intro b
    exact ⟨.inl, fun h => h.elim id (hpassed b)⟩

/-- The result of a thread that takes part, from the result of the rounds behind it. -/
theorem RoundsSpec.cons (greedy : Bool) (again : List Thread × ColumnSet) {t : Thread}
    {seen : ColumnSet} (ht : t.On text) (hnew : seen.has t.column = false)
    (hon : ∀ u ∈ again.1, u.On text)
    (hstands : ∀ b, StandsAt again.1 b ↔ (seen.insert t.column).has b = false ∧
      CharAt accept text t.column ∧ Passes accept text (t.column + 1) b)
    (hseen : ∀ b, again.2.has b = true ↔ (seen.insert t.column).has b = true ∨
      CharAt accept text t.column ∧ Passes accept text (t.column + 1) b) :
    RoundsSpec accept text t.column seen
      (if greedy then again.1 ++ [t] else t :: again.1, again.2) := by
  have hmem : ∀ u, u ∈ (if greedy then again.1 ++ [t] else t :: again.1) ↔ u ∈ again.1 ∨ u = t := by
    intro u
    cases greedy <;> simp [or_comm]
  constructor
  · intro u hu
    rcases (hmem u).mp hu with hu | rfl
    · exact hon u hu
    · exact ht
  · intro b
    have hsplit : StandsAt (if greedy then again.1 ++ [t] else t :: again.1) b ↔
        StandsAt again.1 b ∨ t.column = b := by
      simp only [StandsAt, hmem, or_and_right, exists_or, exists_eq_left]
    have hpass : Passes accept text t.column b ↔ _ := passes_iff
    rw [hsplit, hstands, hpass, ColumnSet.has_insert]
    by_cases hb : t.column = b
    · subst hb
      simp [hnew]
    · have hb' : ¬ b = t.column := fun h => hb h.symm
      simp [hb, hb']
  · intro b
    have hpass : Passes accept text t.column b ↔ _ := passes_iff
    rw [hseen, hpass, ColumnSet.has_insert]
    by_cases hb : t.column = b
    · subst hb
      simp
    · have hb' : ¬ b = t.column := fun h => hb h.symm
      simp [hb, hb']

/-- A thread with no acceptable character before it is alone. -/
theorem RoundsSpec.stop {t : Thread} {seen : ColumnSet} (ht : t.On text)
    (hnew : seen.has t.column = false) (hend : ¬ CharAt accept text t.column) :
    RoundsSpec accept text t.column seen ([t], seen.insert t.column) := by
  have hspec : RoundsSpec accept text t.column seen
      (if true then [] ++ [t] else t :: [], seen.insert t.column) :=
    .cons true ([], seen.insert t.column) ht hnew (by simp) (by simp [hend]) (by simp [hend])
  simpa using hspec

theorem rounds_spec (greedy : Bool) {room : Nat} {t : Thread} {seen : ColumnSet}
    (ht : t.On text) (hroom : t.rest.length ≤ room) (hseen : ClosedFrom accept text t.column seen) :
    RoundsSpec accept text t.column seen
      (rounds (fun s => (Node.one accept).run [s]) greedy room t seen) := by
  induction room generalizing t seen with
  | zero =>
      rw [rounds_zero]
      split
      · rename_i hold
        exact .old hold hseen
      · rename_i hnew
        have hend : ¬ CharAt accept text t.column := by
          rw [ht.charAt_iff, List.length_eq_zero_iff.mp (Nat.le_zero.mp hroom)]
          simp
        exact .stop ht (by simpa using hnew) hend
  | succ room ih =>
      rw [rounds_succ]
      split
      · rename_i hold
        exact .old hold hseen
      · rename_i hnew
        by_cases hchar : CharAt accept text t.column
        · obtain ⟨t', hadv⟩ := ht.exists_advance hchar
          obtain ⟨ht', hcolumn, -, hlen⟩ := ht.advance hadv
          have honward : ((Node.one accept).run [t]).filter
              (fun next => next.rest.length < t.rest.length) = [t'] := by
            have hlt : t'.rest.length < t.rest.length := by omega
            simp [run_one, hadv, hlt]
          have hclosed : ClosedFrom accept text t'.column (seen.insert t.column) := by
            intro a ha hmem hcharA
            have hne : ¬ t.column = a := by omega
            have hold : seen.has a = true := by simpa [hne] using hmem
            simp [hseen a (by omega) hold hcharA]
          have hspec := ih ht' (by omega) hclosed
          rw [hcolumn] at hspec
          simp only [honward, collect, List.append_nil]
          exact .cons greedy _ ht (by simpa using hnew) hspec.on
            (by simpa [hchar] using hspec.stands) (by simpa [hchar] using hspec.seen)
        · have honward : ((Node.one accept).run [t]).filter
              (fun next => next.rest.length < t.rest.length) = [] := by
            simp [run_one, ht.advance?_eq_none hchar]
          simp only [honward, collect, List.nil_append, ite_self]
          exact .stop ht (by simpa using hnew) hchar

/-- The rounds leave a set that holds what can be passed to from its members. -/
theorem RoundsSpec.closedFrom {column : Nat} {seen : ColumnSet} {result : List Thread × ColumnSet}
    (hspec : RoundsSpec accept text column seen result) (hseen : ClosedFrom accept text 0 seen) :
    ClosedFrom accept text 0 result.2 := by
  intro a _ ha hchar
  rw [hspec.seen] at ha ⊢
  rcases ha with ha | ⟨hle, hall⟩
  · exact .inl (hseen a (Nat.zero_le a) ha hchar)
  · refine .inr ⟨by omega, ?_⟩
    intro i hi hib
    by_cases hia : i = a
    · subst hia
      exact hchar
    · exact hall i hi (by omega)

/-- The columns of a repeated character class are those that can be passed to. -/
theorem collect_rounds (greedy : Bool) {ts : List Thread} {seen : ColumnSet}
    (hts : ∀ t ∈ ts, t.On text) (hseen : ClosedFrom accept text 0 seen) :
    let result := collect
      (fun t => rounds (fun s => (Node.one accept).run [s]) greedy t.rest.length t) ts seen
    (∀ t ∈ result.1, t.On text) ∧
      ∀ b, StandsAt result.1 b ↔
        seen.has b = false ∧ ∃ a, StandsAt ts a ∧ Passes accept text a b := by
  induction ts generalizing seen with
  | nil => simp [collect]
  | cons t ts ih =>
      have ht : t.On text := hts t List.mem_cons_self
      have hspec := rounds_spec greedy ht (Nat.le_refl _) fun a _ => hseen a (Nat.zero_le a)
      generalize hresult : rounds (fun s => (Node.one accept).run [s]) greedy t.rest.length t seen =
        result at hspec
      have hclosed := hspec.closedFrom hseen
      obtain ⟨hon, hstands⟩ := ih (fun u hu => hts u (List.mem_cons_of_mem t hu)) hclosed
      simp only [collect, hresult]
      refine ⟨?_, ?_⟩
      · intro u hu
        rcases List.mem_append.mp hu with hu | hu
        · exact hspec.on u hu
        · exact hon u hu
      · intro b
        have hcons : (∃ a, StandsAt (t :: ts) a ∧ Passes accept text a b) ↔
            Passes accept text t.column b ∨ ∃ a, StandsAt ts a ∧ Passes accept text a b := by
          simp [StandsAt, or_and_right, exists_or]
        have hnew : result.2.has b = false ↔
            seen.has b = false ∧ ¬ Passes accept text t.column b := by
          rw [← Bool.not_eq_true, hspec.seen, not_or, Bool.not_eq_true]
        rw [standsAt_append, hspec.stands, hstands, hcons, hnew]
        by_cases hpass : Passes accept text t.column b <;> simp [hpass]

theorem run_star_one_on (greedy : Bool) {ts : List Thread} (hts : ∀ t ∈ ts, t.On text) :
    ∀ t ∈ (Node.star greedy (.one accept)).run ts, t.On text :=
  (collect_rounds greedy hts (by simp [ClosedFrom])).1

theorem standsAt_run_star_one (greedy : Bool) {ts : List Thread} (hts : ∀ t ∈ ts, t.On text)
    {b : Nat} : StandsAt ((Node.star greedy (.one accept)).run ts) b ↔
      ∃ a, StandsAt ts a ∧ Passes accept text a b := by
  have hempty : ClosedFrom accept text 0 .empty := by simp [ClosedFrom]
  have hcollect := (collect_rounds greedy hts hempty).2 b
  rw [run_star, hcollect]
  simp

/-! ## Searching a text -/

/-- A search finds something exactly if a match begins somewhere. -/
theorem isSome_findFrom_iff {node : Node} {Begins : Nat → Prop}
    (hnode : ∀ before a, a ≤ text.length →
      (node.run [.start before a (text.drop a)] ≠ [] ↔ Begins a))
    (before : Option Char) {a : Nat} (ha : a ≤ text.length) :
    (node.findFrom before a (text.drop a)).isSome = true ↔
      ∃ b, a ≤ b ∧ b ≤ text.length ∧ Begins b := by
  have hmatch : ∀ before a, a ≤ text.length →
      ((node.matchAt? before a (text.drop a)).isSome = true ↔ Begins a) := by
    intro before a ha
    rw [← hnode before a ha, Node.matchAt?]
    cases node.run [.start before a (text.drop a)] <;> simp
  generalize hrest : text.drop a = rest
  induction rest generalizing before a with
  | nil =>
      have hend : text.length ≤ a := List.drop_eq_nil_iff.mp hrest
      rw [Node.findFrom, ← hrest, hmatch before a ha]
      constructor
      · intro h
        exact ⟨a, Nat.le_refl a, ha, h⟩
      · intro hright
        obtain ⟨b, hab, hb, h⟩ := hright
        rwa [show a = b by omega]
  | cons c rest ih =>
      have hlt : a < text.length := by
        have := congrArg List.length hrest
        simp only [List.length_drop, List.length_cons] at this
        omega
      have hnext : text.drop (a + 1) = rest := by
        simpa using congrArg List.tail hrest
      have hor : (node.findFrom before a (c :: rest)).isSome = true ↔
          Begins a ∨ (node.findFrom (some c) (a + 1) rest).isSome = true := by
        rw [← hmatch before a ha, Node.findFrom, hrest]
        cases node.matchAt? before a (c :: rest) <;> simp
      refine hor.trans ((or_congr_right (ih (some c) hlt hnext)).trans ?_)
      constructor
      · intro hleft
        rcases hleft with h | ⟨b, hab, hb, h⟩
        · exact ⟨a, Nat.le_refl a, ha, h⟩
        · exact ⟨b, by omega, hb, h⟩
      · intro hright
        obtain ⟨b, hab, hb, h⟩ := hright
        by_cases hba : b = a
        · exact .inl (hba ▸ h)
        · exact .inr ⟨b, by omega, hb, h⟩

end Waymark.Pattern
