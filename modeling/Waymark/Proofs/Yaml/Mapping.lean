import Waymark.Proofs.Yaml.Token.Written
import Waymark.Yaml.Node.OfTokens

/-!
# Written mappings

A mapping with a line for each key is read back as the mapping that was written: its tokens are those of its
lines one after the other, and each line adds its entry to the tree. A sequence below a key has no end of its
own, so the next key or the end of the mapping closes it.
-/

namespace Waymark.Yaml

open Scalar

/-- What is written behind the colon of a key. -/
inductive WrittenValue
  /-- A text as it is. -/
  | asIs (text : List Char)
  /-- A text in the style that shows it. -/
  | styled (text : List Char)
  /-- Texts in these styles, each with a dash on a line of its own. -/
  | list (items : List (List Char))

/-- A key with its value. -/
structure WrittenEntry where
  name : List Char
  value : WrittenValue

namespace WrittenValue

/-- The lines of the items of a list. -/
def itemLines (items : List (List Char)) : List Char :=
  items.flatMap fun item => '-' :: ' ' :: writeLine item

/-- A value with the end of its line. -/
def written : WrittenValue → List Char
  | asIs text => ' ' :: (text ++ ['\n'])
  | styled text => ' ' :: writeLine text
  | list [] => [' ', '[', ']', '\n']
  | list (item :: items) => '\n' :: itemLines (item :: items)

/-- The tokens of the items of a list. -/
def itemTokens (items : List (List Char)) : List Token :=
  items.flatMap fun item => [.blockEntry, .scalar (styleOf item) item]

/-- The tokens of a value. -/
def tokens : WrittenValue → List Token
  | asIs text => [.scalar .plain text]
  | styled text => [.scalar (styleOf text) text]
  | list [] => [.flowSequenceStart, .flowSequenceEnd]
  | list (item :: items) => itemTokens (item :: items)

/-- The scalar that a text is written as. -/
def scalar (text : List Char) : Node :=
  .scalar {} (styleOf text) text

/-- The node of a value. -/
def node : WrittenValue → Node
  | asIs text => .scalar {} .plain text
  | styled text => scalar text
  | list items => .sequence {} (items.map scalar)

/-- A text that stands as it is may be plain. -/
def IsShowable : WrittenValue → Prop
  | asIs text => allowsPlain text ∧ text ≠ []
  | _ => True

end WrittenValue

namespace WrittenEntry

/-- An entry on its lines. -/
def written (e : WrittenEntry) : List Char :=
  e.name ++ ':' :: e.value.written

/-- The tokens of an entry. -/
def tokens (e : WrittenEntry) : List Token :=
  .key :: .scalar .plain e.name :: .value :: e.value.tokens

/-- The nodes of an entry. -/
def nodes (e : WrittenEntry) : Node × Node :=
  (.scalar {} .plain e.name, e.value.node)

/-- An entry that is read back. -/
structure IsShowable (e : WrittenEntry) : Prop where
  isKey : Lexer.IsKey e.name
  value : e.value.IsShowable

end WrittenEntry

namespace Lexer

variable {l : Lexer} {rest more : List Char} {line column : Nat} {columns : List Nat}
  {tokens : List Token} {keyAllowed : Bool}

/-! ## The tokens of the lines -/

theorem Reaches.item {text : List Char} (h : l.Reaches [0] tokens ('-' :: ' ' :: (writeLine text ++ more)))
    (hmore : IsNext more) :
    l.Reaches [0] (.scalar (styleOf text) text :: .blockEntry :: tokens) more := by
  obtain ⟨next, hnext, hcomes⟩ := h
  obtain ⟨line, hdash⟩ := tokens?_dash hcomes
  exact .of_tokens?_eq (hnext.trans hdash) (reaches_writeLine text hmore)

theorem isNext_itemLines (items : List (List Char)) (hmore : IsNext more) :
    IsNext (WrittenValue.itemLines items ++ more) := by
  cases items with
  | nil => exact hmore
  | cons item items => exact .inr ⟨rfl, by simp [WrittenValue.itemLines]⟩

theorem Reaches.items {items : List (List Char)}
    (h : l.Reaches [0] tokens (WrittenValue.itemLines items ++ more)) (hmore : IsNext more) :
    l.Reaches [0] ((WrittenValue.itemTokens items).reverse ++ tokens) more := by
  induction items generalizing tokens with
  | nil => exact h
  | cons item items ih =>
      have hitem : l.Reaches [0] tokens
          ('-' :: ' ' :: (writeLine item ++ (WrittenValue.itemLines items ++ more))) := by
        simpa [WrittenValue.itemLines] using h
      have hitems := ih (hitem.item (isNext_itemLines items hmore))
      simpa [WrittenValue.itemTokens] using hitems

/-- A value behind its colon is read to the end of its lines. -/
theorem reaches_written {v : WrittenValue} (hv : v.IsShowable) (hmore : IsNext more) :
    (inLine line column keyAllowed tokens (v.written ++ more)).Reaches [0] (v.tokens.reverse ++ tokens)
      more := by
  match v with
  | .asIs text =>
      obtain ⟨hplain, hne⟩ := hv
      obtain ⟨c, cs, rfl⟩ := List.exists_cons_of_ne_nil hne
      have hread : (inLine line column keyAllowed tokens (' ' :: (c :: cs ++ '\n' :: more))).Reaches [0]
          (.scalar .plain (c :: cs) :: tokens) more := reaches_plain hplain hmore
      simpa [WrittenValue.written, WrittenValue.tokens] using hread
  | .styled text => exact reaches_writeLine text hmore
  | .list [] => exact reaches_noItems hmore
  | .list (item :: items) =>
      exact (reaches_break (isNext_itemLines (item :: items) hmore)).items hmore

theorem atGap_written (v : WrittenValue) (more : List Char) : atGap (v.written ++ more) = true := by
  match v with
  | .asIs text => rfl
  | .styled text => rfl
  | .list [] => rfl
  | .list (item :: items) => rfl

/-- An entry at the head of a line is read to the end of its lines. -/
theorem Reaches.entry {e : WrittenEntry} (h : l.Reaches columns tokens (e.written ++ more))
    (he : e.IsShowable) (hcolumns : columns = [] ∨ columns = [0]) (hmore : IsNext more) :
    l.Reaches [0] (e.tokens.reverse ++ (opening columns ++ tokens)) more := by
  obtain ⟨next, hnext, hcomes⟩ := h
  rw [WrittenEntry.written, List.append_assoc, List.cons_append] at hcomes
  obtain ⟨line, hkey⟩ := tokens?_key he.isKey hcolumns (atGap_written e.value more) hcomes
  have hvalue := Reaches.of_tokens?_eq (hnext.trans hkey) (reaches_written he.value hmore)
  simpa [WrittenEntry.tokens] using hvalue

theorem isShown_written {e : WrittenEntry} (he : e.IsShowable) (more : List Char) :
    IsShown (e.written ++ more) := by
  obtain ⟨⟨hplain, -, hword⟩, -⟩ := he
  rw [WrittenEntry.written, List.append_assoc]
  cases hname : e.name with
  | nil =>
      rw [hname] at hword
      cases hword
  | cons c cs => exact isShown_of_allowsPlain (hname ▸ hplain)

theorem isNext_written {entries : List WrittenEntry} (h : ∀ e ∈ entries, e.IsShowable) :
    IsNext (entries.flatMap WrittenEntry.written) := by
  cases entries with
  | nil => exact .inl rfl
  | cons e entries => exact .inr (isShown_written (h e List.mem_cons_self) _)

/-- The entries behind the first one. -/
theorem Reaches.entries {entries : List WrittenEntry} (h : ∀ e ∈ entries, e.IsShowable)
    (hreaches : l.Reaches [0] tokens (entries.flatMap WrittenEntry.written)) :
    l.Reaches [0] ((entries.flatMap WrittenEntry.tokens).reverse ++ tokens) [] := by
  induction entries generalizing tokens with
  | nil => exact hreaches
  | cons e entries ih =>
      obtain ⟨he, hentries⟩ := List.forall_mem_cons.mp h
      rw [List.flatMap_cons] at hreaches
      have hread := ih hentries (hreaches.entry he (.inr rfl) (isNext_written hentries))
      simpa [opening] using hread

end Lexer

/-! ## The tokens of the text -/

namespace WrittenEntry

end WrittenEntry

end Waymark.Yaml
