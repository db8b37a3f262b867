import Waymark.Document
import Waymark.Forest
import Waymark.Outline.Symbol
import Waymark.Proofs.Marker.Suffix
import Waymark.Proofs.Text.Line

/-!
# Forests laid out as lines

A forest of regions and tags is written with the default markers, each region from a line with its start to
a line with its end, with any other lines in between. A layout is a forest together with all that can be
chosen in that: what stands before the markers, which ends repeat the name, and the other lines.
-/

namespace Waymark

open Text

/-- What an outline says of a region or tag, without the places. -/
structure Entry where
  kind : OutlineKind
  name : String
  detail : Option String
  deriving DecidableEq, Repr

def OutlineSymbol.entry (s : OutlineSymbol) : Entry := ⟨s.kind, s.name, s.detail⟩

/-- A text within a line, without the sign that all default markers begin with. -/
structure IsFiller (text : List Char) : Prop where
  no_sign : '#' ∉ text
  no_break : ∀ c ∈ text, isLineBreak c = false

theorem isFiller_iff {text : List Char} :
    (text.all fun c => c != '#' && !isLineBreak c) = true ↔ IsFiller text := by
  simp only [List.all_eq_true, Bool.and_eq_true, bne_iff_ne, Bool.not_eq_true']
  constructor
  · exact fun h => ⟨fun hmem => (h '#' hmem).1 rfl, fun c hc => (h c hc).2⟩
  · exact fun h c hc => ⟨fun heq => h.no_sign (heq ▸ hc), h.no_break c hc⟩

instance (text : List Char) : Decidable (IsFiller text) := decidable_of_iff _ isFiller_iff

theorem IsFiller.space {text : List Char} (h : IsFiller text) : IsFiller (' ' :: text) :=
  ⟨by simpa using h.no_sign, List.forall_mem_cons.mpr ⟨rfl, h.no_break⟩⟩

/-- A name, and perhaps a description. -/
structure Label where
  name : String
  detail : Option String := none
  deriving DecidableEq, Repr

namespace Label

def entry (l : Label) (kind : OutlineKind) : Entry := ⟨kind, l.name, l.detail⟩

def tail (l : Label) : String :=
  match l.detail with
  | none => ""
  | some detail => " " ++ detail

/-- A label that can be told from the line it is in. -/
structure WellFormed (l : Label) : Prop where
  name_ne : l.name.toList ≠ []
  name_word : ∀ c ∈ l.name.toList, Unicode.isBlank c = false
  name_no_sign : '#' ∉ l.name.toList
  detail_ne : ∀ detail ∈ l.detail, detail.toList ≠ []
  detail_start : ∀ detail ∈ l.detail, ∀ c ∈ detail.toList.head?, isGap c = false
  detail_filler : ∀ detail ∈ l.detail, IsFiller detail.toList

variable {l : Label}

theorem wellFormed_iff :
    (!l.name.toList.isEmpty && l.name.toList.all (fun c => !Unicode.isBlank c && c != '#') &&
      l.detail.all fun detail => !detail.toList.isEmpty && !detail.toList.head?.any isGap &&
        decide (IsFiller detail.toList)) = true ↔ l.WellFormed := by
  have hhead : ∀ text : List Char,
      (!text.head?.any isGap) = true ↔ ∀ c ∈ text.head?, isGap c = false := by
    intro text
    cases text <;> simp
  simp only [Bool.and_eq_true, List.all_eq_true, Option.all_eq_true, hhead, bne_iff_ne,
    Bool.not_eq_true', List.isEmpty_eq_false_iff, decide_eq_true_eq]
  constructor
  · rintro ⟨⟨hne, hname⟩, hdetail⟩
    exact ⟨hne, fun c hc => (hname c hc).1, fun hmem => (hname '#' hmem).2 rfl,
      fun d hd => (hdetail d hd).1.1, fun d hd => (hdetail d hd).1.2, fun d hd => (hdetail d hd).2⟩
  · intro h
    refine ⟨⟨h.name_ne, fun c hc => ⟨h.name_word c hc, ?_⟩⟩, fun d hd =>
      ⟨⟨h.detail_ne d hd, h.detail_start d hd⟩, h.detail_filler d hd⟩⟩
    exact fun heq => h.name_no_sign (heq ▸ hc)

instance : Decidable l.WellFormed := decidable_of_iff _ wellFormed_iff

theorem WellFormed.filler_name (h : l.WellFormed) : IsFiller l.name.toList :=
  ⟨h.name_no_sign, fun c hc => isLineBreak_eq_false (h.name_word c hc)⟩

theorem WellFormed.filler_tail (h : l.WellFormed) : IsFiller l.tail.toList := by
  rw [tail]
  split
  · exact ⟨by simp, by simp⟩
  · rename_i detail hdetail
    rw [String.toList_append]
    exact (h.detail_filler detail hdetail).space

end Label

/-- A forest with the choices that are made in writing it out. -/
inductive Layout
  | done
  /-- A line that declares nothing. -/
  | filler (line : String) (rest : Layout)
  | tag (lead : String) (label : Label) (rest : Layout)
  /-- A region, the end of which may repeat the name. -/
  | region (lead : String) (label : Label) (inner : Layout) (endLead : String) (named : Bool)
    (rest : Layout)
  deriving DecidableEq, Repr

namespace Layout

def forest : Layout → Forest Entry
  | done => .nil
  | filler _ rest => rest.forest
  | tag _ label rest => .node (label.entry .tag) .nil rest.forest
  | region _ label inner _ _ rest => .node (label.entry .region) inner.forest rest.forest

def labelLine (lead marker : String) (label : Label) : String :=
  lead ++ marker ++ " " ++ label.name ++ label.tail

def endLine (lead : String) (name : Option String) : String :=
  lead ++ "#endregion" ++ (name.elim "" fun name => " " ++ name)

def lines : Layout → List String
  | done => []
  | filler line rest => line :: rest.lines
  | tag lead label rest => labelLine lead "#tag" label :: rest.lines
  | region lead label inner endLead named rest =>
    labelLine lead "#region" label :: inner.lines ++
      endLine endLead (if named then some label.name else none) :: rest.lines

def WellFormed : Layout → Prop
  | done => True
  | filler line rest => IsFiller line.toList ∧ rest.WellFormed
  | tag lead label rest => IsFiller lead.toList ∧ label.WellFormed ∧ rest.WellFormed
  | region lead label inner endLead _ rest =>
    IsFiller lead.toList ∧ label.WellFormed ∧ inner.WellFormed ∧ IsFiller endLead.toList ∧
      rest.WellFormed

instance decidableWellFormed : (l : Layout) → Decidable l.WellFormed
  | done => inferInstanceAs (Decidable True)
  | filler line rest =>
    have := decidableWellFormed rest
    inferInstanceAs (Decidable (IsFiller line.toList ∧ rest.WellFormed))
  | tag lead label rest =>
    have := decidableWellFormed rest
    inferInstanceAs (Decidable (IsFiller lead.toList ∧ label.WellFormed ∧ rest.WellFormed))
  | region lead label inner endLead _ rest =>
    have := decidableWellFormed inner
    have := decidableWellFormed rest
    inferInstanceAs (Decidable (IsFiller lead.toList ∧ label.WellFormed ∧ inner.WellFormed ∧
      IsFiller endLead.toList ∧ rest.WellFormed))

/-- A layout with an empty line at its end. -/
def endEmpty : Layout → Layout
  | done => filler "" done
  | filler line rest => filler line rest.endEmpty
  | tag lead label rest => tag lead label rest.endEmpty
  | region lead label inner endLead named rest => region lead label inner endLead named rest.endEmpty

theorem forest_endEmpty (l : Layout) : l.endEmpty.forest = l.forest := by
  induction l with
  | done => rfl
  | filler line rest ih => exact ih
  | tag lead label rest ih => simp only [endEmpty, forest, ih]
  | region lead label inner endLead named rest _ ih => simp only [endEmpty, forest, ih]

theorem lines_endEmpty (l : Layout) : l.endEmpty.lines = l.lines ++ [""] := by
  induction l with
  | done => rfl
  | filler line rest ih => simp [endEmpty, lines, ih]
  | tag lead label rest ih => simp [endEmpty, lines, ih]
  | region lead label inner endLead named rest _ ih => simp [endEmpty, lines, ih]

theorem WellFormed.endEmpty {l : Layout} (h : l.WellFormed) : l.endEmpty.WellFormed := by
  induction l with
  | done => exact ⟨⟨by simp, by simp⟩, trivial⟩
  | filler line rest ih => exact ⟨h.1, ih h.2⟩
  | tag lead label rest ih => exact ⟨h.1, h.2.1, ih h.2.2⟩
  | region lead label inner endLead named rest _ ih =>
      obtain ⟨hlead, hlabel, hinner, hend, hrest⟩ := h
      exact ⟨hlead, hlabel, hinner, hend, ih hrest⟩

end Layout

/-! ## Lines of a layout are lines of the text -/

/-- Lines are written one after another, each with a line feed or a carriage return and a line feed behind
it. These may be missing behind the last line. -/
inductive Written : List String → String → Prop
  | nil : Written [] ""
  | last (line : String) : Written [line] line
  | cons (line : String) {ending : String} {lines : List String} {text : String}
    (hending : ending = "\n" ∨ ending = "\r\n") (h : Written lines text) :
    Written (line :: lines) (line ++ ending ++ text)

/-- A text writes a forest out if it is made of the lines of a layout of the forest. -/
def IsRendering (f : Forest Entry) (text : String) : Prop :=
  ∃ l : Layout, l.WellFormed ∧ l.forest = f ∧ Written l.lines text

namespace Layout

theorem toList_labelLine (lead marker : String) (label : Label) :
    (labelLine lead marker label).toList =
      lead.toList ++ (marker.toList ++ ' ' :: (label.name.toList ++ label.tail.toList)) := by
  simp [labelLine]

theorem toList_endLine (lead : String) (name : Option String) :
    (endLine lead name).toList =
      lead.toList ++ ("#endregion".toList ++ (name.elim "" fun name => " " ++ name).toList) := by
  rw [endLine, String.toList_append, String.toList_append, List.append_assoc]

theorem filler_endName {label : Label} (h : label.WellFormed) {name : Option String}
    (hname : ∀ n ∈ name, n = label.name) :
    IsFiller (name.elim "" fun name => " " ++ name).toList := by
  cases name with
  | none => exact ⟨by simp, by simp⟩
  | some n =>
      rw [hname n rfl, Option.elim_some, String.toList_append]
      exact h.filler_name.space

theorem no_break_labelLine {lead marker : String} {label : Label} (hlead : IsFiller lead.toList)
    (hmarker : (marker.toList.all fun c => !isLineBreak c) = true) (hlabel : label.WellFormed) :
    ∀ c ∈ (labelLine lead marker label).toList, isLineBreak c = false := by
  rw [toList_labelLine]
  simp only [List.forall_mem_append, List.forall_mem_cons]
  exact ⟨hlead.no_break, by simpa using hmarker, rfl, hlabel.filler_name.no_break,
    hlabel.filler_tail.no_break⟩

theorem no_break_endLine {lead : String} {label : Label} {name : Option String}
    (hlead : IsFiller lead.toList) (hlabel : label.WellFormed) (hname : ∀ n ∈ name, n = label.name) :
    ∀ c ∈ (endLine lead name).toList, isLineBreak c = false := by
  have hmarker : ("#endregion".toList.all fun c => !isLineBreak c) = true := rfl
  rw [toList_endLine]
  simp only [List.forall_mem_append]
  exact ⟨hlead.no_break, by simpa using List.all_eq_true.mp hmarker,
    (filler_endName hlabel hname).no_break⟩

theorem endName_eq {label : Label} {named : Bool} :
    ∀ n ∈ (if named then some label.name else none), n = label.name := by
  cases named <;> simp

theorem WellFormed.no_break {l : Layout} (h : l.WellFormed) :
    ∀ line ∈ l.lines, ∀ c ∈ line.toList, isLineBreak c = false := by
  induction l with
  | done => simp [lines]
  | filler line rest ih =>
      obtain ⟨hline, hrest⟩ := h
      simp only [lines, List.forall_mem_cons]
      exact ⟨hline.no_break, ih hrest⟩
  | tag lead label rest ih =>
      obtain ⟨hlead, hlabel, hrest⟩ := h
      simp only [lines, List.forall_mem_cons]
      exact ⟨no_break_labelLine hlead rfl hlabel, ih hrest⟩
  | region lead label inner endLead named rest ihi ihr =>
      obtain ⟨hlead, hlabel, hinner, hend, hrest⟩ := h
      simp only [lines, List.cons_append, List.forall_mem_cons, List.forall_mem_append]
      exact ⟨no_break_labelLine hlead rfl hlabel, ihi hinner,
        no_break_endLine hend hlabel endName_eq, ihr hrest⟩

end Layout

theorem trimLine_plain {line ending : List Char} (hline : ∀ c ∈ line, isLineBreak c = false)
    (hending : ending = [] ∨ ending = ['\n'] ∨ ending = ['\r', '\n']) :
    trimLine (line ++ ending) = line := by
  have hnone : trimLine ending = [] := by
    rcases hending with rfl | rfl | rfl <;> rfl
  cases line with
  | nil => simpa using hnone
  | cons c line =>
      have htrim := trimLine_append ⟨List.cons_ne_nil c line, hline⟩ [] ending
      rw [hnone] at htrim
      simpa using htrim

/-- The lines of a written text are the lines that were written, and an empty one behind the last end. -/
theorem Written.lines_eq {lines : List String} {text : String} (h : Written lines text)
    (hplain : ∀ line ∈ lines, ∀ c ∈ line.toList, isLineBreak c = false) :
    (breakLines text.toList).map (fun line => String.ofList (trimLine line)) = lines ∨
      (breakLines text.toList).map (fun line => String.ofList (trimLine line)) = lines ++ [""] := by
  induction h with
  | nil => exact .inr rfl
  | last line =>
      have hline := hplain line List.mem_cons_self
      obtain ⟨first, more, hnil, hbreak⟩ := breakLines_plain_append hline []
      cases hnil
      rw [List.append_nil] at hbreak
      have htrim := trimLine_plain hline (.inl rfl)
      rw [List.append_nil] at htrim
      exact .inl (by rw [hbreak, List.map_singleton, htrim, String.ofList_toList])
  | @cons line ending lines text hending hmore ih =>
      have hline := hplain line List.mem_cons_self
      have hrest := ih fun line hmem => hplain line (List.mem_cons_of_mem _ hmem)
      have hends : breakLines (ending.toList ++ text.toList) =
          ending.toList :: breakLines text.toList := by
        rcases hending with rfl | rfl <;> rfl
      obtain ⟨first, more, hfirst, hbreak⟩ := breakLines_plain_append hline
        (ending.toList ++ text.toList)
      rw [hends] at hfirst
      cases hfirst
      have htrim : trimLine (line.toList ++ ending.toList) = line.toList :=
        trimLine_plain hline (by rcases hending with rfl | rfl <;> simp)
      rw [String.toList_append, String.toList_append, List.append_assoc, hbreak, List.map_cons, htrim,
        String.ofList_toList, List.cons_append, List.cons.injEq, List.cons.injEq]
      simpa using hrest

/-- The lines of a document that writes out a forest are those of a layout. -/
theorem IsRendering.exists_layout {f : Forest Entry} {d : Document} (h : IsRendering f d.text) :
    ∃ l : Layout, l.WellFormed ∧ l.forest = f ∧ d.lines = l.lines := by
  obtain ⟨l, hl, hforest, hwritten⟩ := h
  rcases hwritten.lines_eq hl.no_break with hlines | hlines
  · exact ⟨l, hl, hforest, hlines⟩
  · refine ⟨l.endEmpty, hl.endEmpty, ?_, ?_⟩
    · rw [Layout.forest_endEmpty, hforest]
    · rw [Layout.lines_endEmpty]
      exact hlines

/-! ## Forests that can be written out -/

/-- Names and descriptions can be told from their lines, and nothing stands below a tag. -/
def Writable : Forest Entry → Prop
  | .nil => True
  | .node e below after =>
    Label.WellFormed ⟨e.name, e.detail⟩ ∧ (e.kind = .tag → below = .nil) ∧ Writable below ∧
      Writable after

theorem exists_written (lines : List String) : ∃ text, Written lines text := by
  induction lines with
  | nil => exact ⟨"", .nil⟩
  | cons line lines ih =>
      obtain ⟨text, htext⟩ := ih
      exact ⟨line ++ "\n" ++ text, .cons line (.inl rfl) htext⟩

theorem Writable.exists_layout {f : Forest Entry} (h : Writable f) :
    ∃ l : Layout, l.WellFormed ∧ l.forest = f := by
  have hempty : IsFiller "".toList := ⟨by simp, by simp⟩
  induction f with
  | nil => exact ⟨.done, trivial, rfl⟩
  | node e below after ihb iha =>
      obtain ⟨hlabel, hleaf, hbelow, hafter⟩ := h
      obtain ⟨inner, hinner, hinnerForest⟩ := ihb hbelow
      obtain ⟨rest, hrest, hrestForest⟩ := iha hafter
      obtain ⟨kind, name, detail⟩ := e
      cases kind with
      | tag =>
          refine ⟨.tag "" ⟨name, detail⟩ rest, ⟨hempty, hlabel, hrest⟩, ?_⟩
          rw [Layout.forest, hrestForest, hleaf rfl]
          rfl
      | region =>
          refine ⟨.region "" ⟨name, detail⟩ inner "" true rest,
            ⟨hempty, hlabel, hinner, hempty, hrest⟩, ?_⟩
          rw [Layout.forest, hinnerForest, hrestForest]
          rfl

theorem Layout.WellFormed.writable {l : Layout} (h : l.WellFormed) : Writable l.forest := by
  induction l with
  | done => trivial
  | filler line rest ih => exact ih h.2
  | tag lead label rest ih => exact ⟨h.2.1, fun _ => rfl, trivial, ih h.2.2⟩
  | region lead label inner endLead named rest ihi ihr =>
      obtain ⟨_, hlabel, hinner, _, hrest⟩ := h
      exact ⟨hlabel, by simp [Label.entry], ihi hinner, ihr hrest⟩

/-- The forests that can be written out are those with well formed labels in which tags are leaves. -/
theorem exists_isRendering_iff {f : Forest Entry} : (∃ text, IsRendering f text) ↔ Writable f := by
  constructor
  · rintro ⟨_, l, hl, rfl, _⟩
    exact hl.writable
  · intro h
    obtain ⟨l, hl, hforest⟩ := h.exists_layout
    obtain ⟨text, htext⟩ := exists_written l.lines
    exact ⟨text, l, hl, hforest, htext⟩

end Waymark
