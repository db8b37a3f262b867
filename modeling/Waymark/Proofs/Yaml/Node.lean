import Waymark.Proofs.Yaml.Mapping

/-!
# The tree of a written mapping

The tokens of an entry add its key and its value to the mapping that is being read. After a list of texts the
mapping is not the innermost collection yet, but the next token takes it there, so that what it does is what
it would do in the mapping.
-/

namespace Waymark.Yaml

open Scalar

variable {entries : List (Node × Node)} {items : List Node} {key : Node} {g : Growth} {t : Token}

namespace Growth

/-- A block mapping that is the whole document, before the sign of a key. -/
def atKeySign (entries : List (Node × Node)) : Growth :=
  { inner := .keySign {} entries, outer := [.document false] }

/-- The mapping after the sign of the value that belongs to a key. -/
def atValue (entries : List (Node × Node)) (key : Node) : Growth :=
  { inner := .value {} entries key, outer := [.document false] }

/-- The list that is the value of a key, before the dash of an item. -/
def atDash (entries : List (Node × Node)) (key : Node) (items : List Node) : Growth :=
  { inner := .dash true {} items, outer := [.value {} entries key, .document false] }

/-- At the next key, and at the end, the mapping has these entries. -/
def Holds (g : Growth) (entries : List (Node × Node)) : Prop :=
  ∀ t, t = .key ∨ t = .blockEnd → g.feed? t = (atKeySign entries).feed? t

/-! ## Tokens -/

theorem feed?_key_scalar_value (name : List Char) :
    [.key, .scalar .plain name, .value].foldlM feed? (atKeySign entries) =
      some (atValue entries (.scalar {} .plain name)) :=
  rfl

theorem feed?_scalar (style : ScalarStyle) (text : List Char) :
    [.scalar style text].foldlM feed? (atValue entries key) =
      some (atKeySign (entries ++ [(key, .scalar {} style text)])) :=
  rfl

theorem feed?_noItems : [.flowSequenceStart, .flowSequenceEnd].foldlM feed? (atValue entries key) =
    some (atKeySign (entries ++ [(key, .sequence {} [])])) :=
  rfl

/-- The first item of a list. -/
theorem feed?_firstItem (text : List Char) :
    [.blockEntry, .scalar (styleOf text) text].foldlM feed? (atValue entries key) =
      some (atDash entries key [WrittenValue.scalar text]) :=
  rfl

/-- An item behind others. -/
theorem feed?_item (text : List Char) :
    [.blockEntry, .scalar (styleOf text) text].foldlM feed? (atDash entries key items) =
      some (atDash entries key (items ++ [WrittenValue.scalar text])) :=
  rfl

theorem holds_atKeySign (entries : List (Node × Node)) : (atKeySign entries).Holds entries :=
  fun _ _ => rfl

/-- A list ends at the next key of the mapping around it, and at the end of that. -/
theorem holds_atDash : (atDash entries key items).Holds (entries ++ [(key, .sequence {} items)]) := by
  rintro t (rfl | rfl) <;> rfl

/-! ## Entries -/

theorem foldlM_itemTokens (texts : List (List Char)) :
    (WrittenValue.itemTokens texts).foldlM feed? (atDash entries key items) =
      some (atDash entries key (items ++ texts.map WrittenValue.scalar)) := by
  induction texts generalizing items with
  | nil => simp [WrittenValue.itemTokens]
  | cons text texts ih =>
      rw [WrittenValue.itemTokens, List.flatMap_cons, List.foldlM_append, feed?_item]
      have hitems : (WrittenValue.itemTokens texts).foldlM feed?
          (atDash entries key (items ++ [WrittenValue.scalar text])) = some _ := ih
      simpa [WrittenValue.itemTokens] using hitems

/-- The tokens of a value add it to the mapping. -/
theorem exists_foldlM_value (entries : List (Node × Node)) (key : Node) (v : WrittenValue) :
    ∃ g, v.tokens.foldlM feed? (atValue entries key) = some g ∧ g.Holds (entries ++ [(key, v.node)]) := by
  match v with
  | .asIs text => exact ⟨_, feed?_scalar .plain text, holds_atKeySign _⟩
  | .styled text => exact ⟨_, feed?_scalar (styleOf text) text, holds_atKeySign _⟩
  | .list [] => exact ⟨_, feed?_noItems, holds_atKeySign _⟩
  | .list (text :: texts) =>
      refine ⟨_, ?_, holds_atDash⟩
      have htokens : (WrittenValue.list (text :: texts)).tokens =
          [.blockEntry, .scalar (styleOf text) text] ++ WrittenValue.itemTokens texts := rfl
      rw [htokens, List.foldlM_append, feed?_firstItem]
      exact foldlM_itemTokens texts

/-- The tokens of an entry add it to the mapping. -/
theorem Holds.entry (h : g.Holds entries) (e : WrittenEntry) :
    ∃ next, e.tokens.foldlM feed? g = some next ∧ next.Holds (entries ++ [e.nodes]) := by
  obtain ⟨next, hnext, hholds⟩ := exists_foldlM_value entries (.scalar {} .plain e.name) e.value
  refine ⟨next, ?_, hholds⟩
  have hkey : [.key, .scalar .plain e.name, .value].foldlM feed? g =
      some (atValue entries (.scalar {} .plain e.name)) := by
    rw [List.foldlM_cons, h .key (.inl rfl), ← List.foldlM_cons, feed?_key_scalar_value]
  have htokens : e.tokens = [.key, .scalar .plain e.name, .value] ++ e.value.tokens := rfl
  rw [htokens, List.foldlM_append, hkey]
  exact hnext

/-- The tokens of all entries, one after the other. -/
theorem Holds.run (h : g.Holds entries) (written : List WrittenEntry) :
    ∃ next, (written.flatMap WrittenEntry.tokens).foldlM feed? g = some next ∧
      next.Holds (entries ++ written.map WrittenEntry.nodes) := by
  induction written generalizing g entries with
  | nil => exact ⟨g, rfl, by simpa using h⟩
  | cons e written ih =>
      obtain ⟨middle, hmiddle, hholds⟩ := h.entry e
      obtain ⟨next, hnext, hlast⟩ := ih hholds
      refine ⟨next, ?_, by simpa using hlast⟩
      rw [List.flatMap_cons, List.foldlM_append, hmiddle]
      exact hnext

end Growth

/-! ## The whole tree -/

namespace Node

end Node

end Waymark.Yaml
