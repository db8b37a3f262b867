import Waymark.Region.Parse

/-!
# What the lines of a text declare

A line declares the start of a region, its end or a tag, whatever the lines around it are. Which starts
and ends make regions is another matter.
-/

namespace Waymark

/-- The name that a line of a kind gives. -/
def LineMatch.nameAs? (found : LineMatch) (kind : MatchKind) : Option Token :=
  if found.kind = kind then found.name else none

section

variable (m : String → Nat → Option LineMatch) (lines : List String)

/-- What a line declares; a blank one declares nothing. -/
def declaredAt? (i : Nat) : Option LineMatch := do
  let line ← lines[i]?
  if Text.isBlankLine line.toList then none else m line i

/-- The whole of a line. -/
def lineSpan? (i : Nat) : Option Span := do
  let line ← lines[i]?
  return .onLine i 0 line.toList.length

/-- A named line of a kind. -/
def entryAt? (kind : MatchKind) (i : Nat) : Option Tag := do
  let found ← declaredAt? m lines i
  let name ← found.nameAs? kind
  let span ← lineSpan? lines i
  return ⟨found.key, name, found.description, span⟩

/-- The end on a line. -/
def endAt? (i : Nat) : Option LineMatch :=
  (declaredAt? m lines i).filter fun found => found.kind = .regionEnd

/-- The region from a start line to an end line. -/
def regionAt? (pair : Nat × Nat) : Option Region := do
  let start ← entryAt? m lines .regionStart pair.1
  let found ← endAt? m lines pair.2
  let span ← lineSpan? lines pair.2
  return { key := start.key, keyEnd := found.key, name := start.name, nameEnd := found.name
           description := start.description, start := start.line, stop := span }

end

section

variable {m : String → Nat → Option LineMatch} {lines : List String} {i : Nat} {found : LineMatch}

theorem declaredAt?_eq_some :
    declaredAt? m lines i = some found ↔
      ∃ line, lines[i]? = some line ∧ Text.isBlankLine line.toList = false ∧ m line i = some found := by
  cases hline : lines[i]? with
  | none => simp [declaredAt?, hline]
  | some line =>
      cases hblank : Text.isBlankLine line.toList <;> simp [declaredAt?, hline, hblank]

theorem declaredAt?_of_word {line : String} {c : Char} (hline : lines[i]? = some line)
    (hc : c ∈ line.toList) (hword : Unicode.isBlank c = false) (hmatch : m line i = some found) :
    declaredAt? m lines i = some found := by
  refine declaredAt?_eq_some.mpr ⟨line, hline, ?_, hmatch⟩
  rw [Text.isBlankLine, List.all_eq_false]
  exact ⟨c, hc, by simp [hword]⟩

theorem lineSpan?_of_declared (hfound : declaredAt? m lines i = some found) :
    ∃ span, lineSpan? lines i = some span := by
  obtain ⟨line, hline, _⟩ := declaredAt?_eq_some.mp hfound
  refine ⟨.onLine i 0 line.toList.length, ?_⟩
  rw [lineSpan?, hline]
  rfl

theorem start_of_lineSpan? {span : Span} (hspan : lineSpan? lines i = some span) :
    span.start = ⟨i, 0⟩ := by
  obtain ⟨line, _, hline⟩ := Option.bind_eq_some_iff.mp hspan
  cases hline
  rfl

/-! ## Entries -/

section

variable {kind : MatchKind}

theorem entryAt?_of_not_declared (hfound : declaredAt? m lines i = none) :
    entryAt? m lines kind i = none := by
  rw [entryAt?, hfound]
  rfl

theorem entryAt?_of_declared (hfound : declaredAt? m lines i = some found) {span : Span}
    (hspan : lineSpan? lines i = some span) :
    entryAt? m lines kind i =
      (found.nameAs? kind).map fun name => ⟨found.key, name, found.description, span⟩ := by
  simp only [entryAt?, hfound, hspan]
  cases hname : found.nameAs? kind <;> simp [hname]

theorem entryAt?_of_named (hfound : declaredAt? m lines i = some found) {span : Span}
    (hspan : lineSpan? lines i = some span) (hkind : found.kind = kind) {name : Token}
    (hname : found.name = some name) :
    entryAt? m lines kind i = some ⟨found.key, name, found.description, span⟩ := by
  rw [entryAt?_of_declared hfound hspan, LineMatch.nameAs?, if_pos hkind, hname]
  rfl

theorem entryAt?_of_nameless (hfound : declaredAt? m lines i = some found)
    (hname : found.name = none) : entryAt? m lines kind i = none := by
  obtain ⟨span, hspan⟩ := lineSpan?_of_declared hfound
  rw [entryAt?_of_declared hfound hspan, LineMatch.nameAs?, hname]
  split <;> rfl

theorem entryAt?_of_ne (hfound : declaredAt? m lines i = some found) (hkind : found.kind ≠ kind) :
    entryAt? m lines kind i = none := by
  obtain ⟨span, hspan⟩ := lineSpan?_of_declared hfound
  rw [entryAt?_of_declared hfound hspan, LineMatch.nameAs?, if_neg hkind]
  rfl

theorem declaredAt?_of_entryAt? {entry : Tag} (hentry : entryAt? m lines kind i = some entry) :
    ∃ found span, declaredAt? m lines i = some found ∧ lineSpan? lines i = some span ∧
      found.kind = kind ∧ found.name = some entry.name ∧
      entry = ⟨found.key, entry.name, found.description, span⟩ := by
  cases hfound : declaredAt? m lines i with
  | none =>
      rw [entryAt?_of_not_declared hfound] at hentry
      cases hentry
  | some found =>
      obtain ⟨span, hspan⟩ := lineSpan?_of_declared hfound
      rw [entryAt?_of_declared hfound hspan, Option.map_eq_some_iff] at hentry
      obtain ⟨name, hname, rfl⟩ := hentry
      rw [LineMatch.nameAs?] at hname
      split at hname
      case isTrue hkind => exact ⟨found, span, rfl, hspan, hkind, hname, rfl⟩
      case isFalse => cases hname

end

/-! ## Ends and regions -/

theorem endAt?_of_not_declared (hfound : declaredAt? m lines i = none) :
    endAt? m lines i = none := by
  rw [endAt?, hfound]
  rfl

theorem endAt?_of_eq (hfound : declaredAt? m lines i = some found) (hkind : found.kind = .regionEnd) :
    endAt? m lines i = some found := by
  simp [endAt?, hfound, hkind]

theorem endAt?_of_ne (hfound : declaredAt? m lines i = some found) (hkind : found.kind ≠ .regionEnd) :
    endAt? m lines i = none := by
  simp [endAt?, hfound, hkind]

theorem declaredAt?_of_endAt? (hend : endAt? m lines i = some found) :
    declaredAt? m lines i = some found ∧ found.kind = .regionEnd := by
  rw [endAt?, Option.filter_eq_some_iff] at hend
  exact ⟨hend.1, by simpa using hend.2⟩

/-- A region is made of what its two lines declare. -/
theorem declaredAt?_of_regionAt? {s e : Nat} {r : Region} (hr : regionAt? m lines (s, e) = some r) :
    ∃ start stop, declaredAt? m lines s = some start ∧ declaredAt? m lines e = some stop ∧
      start.kind = .regionStart ∧ stop.kind = .regionEnd ∧ start.name = some r.name ∧
      r.key = start.key ∧ r.keyEnd = stop.key ∧ r.nameEnd = stop.name ∧
      r.description = start.description ∧ r.start.start = ⟨s, 0⟩ ∧ r.stop.start = ⟨e, 0⟩ := by
  obtain ⟨start, hstart, hr⟩ := Option.bind_eq_some_iff.mp hr
  obtain ⟨stop, hstop, hr⟩ := Option.bind_eq_some_iff.mp hr
  obtain ⟨spanEnd, hspanEnd, hr⟩ := Option.bind_eq_some_iff.mp hr
  cases hr
  obtain ⟨found, span, hfound, hspan, hkind, hname, hentry⟩ := declaredAt?_of_entryAt? hstart
  obtain ⟨hdeclared, hend⟩ := declaredAt?_of_endAt? hstop
  refine ⟨found, stop, hfound, hdeclared, hkind, hend, hname, ?_, rfl, rfl, ?_, ?_,
    start_of_lineSpan? hspanEnd⟩
  · exact congrArg Tag.key hentry
  · exact congrArg Tag.description hentry
  · have hline : start.line = span := congrArg Tag.line hentry
    rw [hline]
    exact start_of_lineSpan? hspan

end

end Waymark
