import Waymark.Marker.Markers
import Waymark.Pattern.Basic
import Waymark.Text.Column

/-!
# Reading texts that stand for themselves

A quoted text, and a text without pattern signs, is read as the sequence of its characters. The reader
lemmas below follow one reading part by part: a part that is complete is pushed, and what has been
pushed in the end is the sequence the pattern says, unless it is too large.
-/

namespace Waymark.Pattern

namespace Reading

/-! ## Single steps -/

theorem run_nil (r : Reading) : r.run [] = some r := by
  rw [run_eq]
  cases hspaced : r.flags.spaced <;> simp [Flags.skip, Flags.skipSpaced, hspaced]

theorem run_cons {r r' : Reading} {c : Char} {rest rest' : List Char}
    (h : r.flags.spaced = false) (hstep : r.step c rest = some (r', rest')) :
    r.run (c :: rest) = r'.run rest' := by
  rw [run_eq, Flags.skip_of_not_spaced h]
  simp [hstep]

theorem step_plain (r : Reading) {c : Char} (rest : List Char)
    (hc : Markers.isPatternSign c = false) :
    r.step c rest = some (r.push (literal r.flags c) 0, rest) := by
  have hsign : c ≠ '\\' ∧ c ≠ '.' ∧ c ≠ '+' ∧ c ≠ '*' ∧ c ≠ '?' ∧ c ≠ '(' ∧ c ≠ ')' ∧ c ≠ '|' ∧
      c ≠ '[' ∧ c ≠ ']' ∧ c ≠ '\x7b' ∧ c ≠ '\x7d' ∧ c ≠ '^' ∧ c ≠ '$' := by
    simpa [Markers.isPatternSign] using hc
  simp only [step]
  split <;> simp_all

theorem read_escaped (flags : Flags) {c : Char} (rest : List Char) (hc : Escape.isMeta c = true) :
    Escape.read flags (c :: rest) = some (.char c false, rest) := by
  simp only [Escape.isMeta, List.contains_eq_mem, List.mem_cons, List.not_mem_nil, or_false,
    decide_eq_true_eq] at hc
  rcases hc with rfl | rfl | rfl | rfl | rfl | rfl | rfl | rfl | rfl | rfl | rfl | rfl | rfl | rfl |
    rfl | rfl | rfl | rfl <;> rfl

theorem step_escaped (r : Reading) {c : Char} (rest : List Char) (hc : Escape.isMeta c = true) :
    r.step '\\' (c :: rest) = some (r.push (literal r.flags c) 0, rest) := by
  simp [step, read_escaped r.flags rest hc, atom?]

/-- The signs of patterns are among those that quoting puts a backslash before. -/
theorem isPatternSign_eq_false {c : Char} (hc : Escape.isMeta c = false) :
    Markers.isPatternSign c = false := by
  simp only [Escape.isMeta, Markers.isPatternSign, List.contains_eq_mem, List.mem_cons,
    List.not_mem_nil, or_false, decide_eq_false_iff_not, not_or] at hc ⊢
  simp [hc]

/-! ## Parts pushed one after the other -/

/-- Add parts, each with its levels of nesting, to the alternative being read. -/
def pushAll (r : Reading) (parts : List (Expr × Nat)) : Reading :=
  parts.foldl (fun r part => r.push part.1 part.2) r

@[simp] theorem pushAll_nil (r : Reading) : r.pushAll [] = r := rfl

@[simp] theorem pushAll_cons (r : Reading) (part : Expr × Nat) (parts : List (Expr × Nat)) :
    r.pushAll (part :: parts) = (r.push part.1 part.2).pushAll parts := rfl

theorem pushAll_append (r : Reading) (first second : List (Expr × Nat)) :
    r.pushAll (first ++ second) = (r.pushAll first).pushAll second := by
  simp [pushAll]

/-- Pushing changes nothing but the items of the alternative being read. -/
theorem pushAll_eq (r : Reading) (parts : List (Expr × Nat)) :
    r.pushAll parts = { r with
      body := ⟨⟨(parts.map fun part => ⟨some part.1, part.2⟩).reverse ++ r.body.current.items⟩,
        r.body.earlier⟩ } := by
  induction parts generalizing r with
  | nil => rfl
  | cons part parts ih =>
      rw [pushAll_cons, ih]
      simp [push, Body.add, Alternative.add]

@[simp] theorem flags_pushAll (r : Reading) (parts : List (Expr × Nat)) :
    (r.pushAll parts).flags = r.flags := by
  rw [pushAll_eq]

/-- The parts that the characters of a text are. -/
def textParts (flags : Flags) (text : List Char) : List (Expr × Nat) :=
  text.map fun c => (literal flags c, 0)

theorem run_plain_append {text : List Char} (r : Reading) (more : List Char)
    (h : r.flags.spaced = false) (htext : Markers.hasPatternSigns text = false) :
    r.run (text ++ more) = (r.pushAll (textParts r.flags text)).run more := by
  induction text generalizing r with
  | nil => rfl
  | cons c text ih =>
      obtain ⟨hc, htext⟩ : Markers.isPatternSign c = false ∧
          Markers.hasPatternSigns text = false := by
        simpa [Markers.hasPatternSigns] using htext
      rw [List.cons_append, run_cons h (step_plain r _ hc),
        ih (r.push (literal r.flags c) 0) h htext]
      rfl

theorem run_quote_append (r : Reading) (text more : List Char) (h : r.flags.spaced = false) :
    r.run (quote text ++ more) = (r.pushAll (textParts r.flags text)).run more := by
  induction text generalizing r with
  | nil => rfl
  | cons c text ih =>
      have hquote : quote (c :: text) =
          (if Escape.isMeta c then ['\\', c] else [c]) ++ quote text := by
        simp [quote]
      rw [hquote, List.append_assoc]
      cases hc : Escape.isMeta c with
      | true =>
          rw [if_pos rfl]
          change r.run ('\\' :: c :: (quote text ++ more)) = _
          rw [run_cons h (step_escaped r _ hc),
            ih (r.push (literal r.flags c) 0) h]
          rfl
      | false =>
          rw [if_neg (by simp)]
          change r.run (c :: (quote text ++ more)) = _
          rw [run_cons h (step_plain r _ (isPatternSign_eq_false hc)),
            ih (r.push (literal r.flags c) 0) h]
          rfl

/-! ## The whole pattern -/

theorem foldl_max_le {heights : List Nat} {start bound : Nat} (hstart : start ≤ bound)
    (h : ∀ height ∈ heights, height ≤ bound) : heights.foldl Nat.max start ≤ bound := by
  induction heights generalizing start with
  | nil => exact hstart
  | cons height heights ih =>
      simp only [List.mem_cons, forall_eq_or_imp] at h
      exact ih (Nat.max_le.mpr ⟨hstart, h.1⟩) h.2

theorem expr_parts (parts : List (Expr × Nat)) :
    Alternative.expr ⟨(parts.map fun part => ⟨some part.1, part.2⟩).reverse⟩ =
      Expr.catAll (parts.map Prod.fst) := by
  rw [Alternative.expr, List.reverse_reverse, List.filterMap_map]
  exact congrArg Expr.catAll (congrFun List.filterMap_eq_map parts)

/-- A single alternative says its parts in order. Only its size can be refused, if none of the parts
is deep. -/
theorem result?_pushAll (flags : Flags) (names : List String) (parts : List (Expr × Nat))
    (hheight : ∀ part ∈ parts, part.2 ≤ 8) :
    ({ flags := flags, names := names : Reading }.pushAll parts).result? =
      if (Expr.catAll (parts.map Prod.fst)).cost ≤ maxCost then
        some (Expr.catAll (parts.map Prod.fst))
      else none := by
  have hdeep : Alternative.height ⟨(parts.map fun part => ⟨some part.1, part.2⟩).reverse⟩ ≤ 9 := by
    have hmax : Alternative.deepest
        (((parts.map fun part => (⟨some part.1, part.2⟩ : Item)).reverse).map Item.height) ≤ 8 := by
      apply foldl_max_le (Nat.zero_le _)
      intro height hmem
      simp only [List.map_reverse, List.map_map, List.mem_reverse, List.mem_map,
        Function.comp_apply] at hmem
      obtain ⟨part, hpart, rfl⟩ := hmem
      exact hheight part hpart
    unfold Alternative.height
    dsimp only
    split <;> omega
  have hwhole : Alternative.deepest
      [Alternative.height ⟨(parts.map fun part => ⟨some part.1, part.2⟩).reverse⟩] ≤ maxHeight := by
    apply foldl_max_le (Nat.zero_le _)
    intro height hmem
    rw [List.mem_singleton] at hmem
    subst hmem
    exact Nat.le_trans hdeep (by decide)
  rw [pushAll_eq]
  simp only [result?, Body.close, List.append_nil, List.map_cons, List.map_nil, List.reverse_nil,
    List.isEmpty_nil, if_true, expr_parts]
  simp [hwhole]

end Reading

/-! ## Text as a pattern -/

/-- What a text says when every character stands for itself. -/
def Expr.ofText (flags : Flags) (text : List Char) : Expr :=
  Expr.catAll (text.map (Reading.literal flags))

theorem cost_literal (flags : Flags) (c : Char) :
    (Reading.literal flags c).cost = c.utf8Size := rfl

theorem cost_ofText (flags : Flags) (text : List Char) :
    (Expr.ofText flags text).cost = Waymark.Text.byteLength text + 1 := by
  induction text with
  | nil => rfl
  | cons c text ih =>
      change (Reading.literal flags c).cost + (Expr.ofText flags text).cost = _
      rw [ih, cost_literal, Waymark.Text.byteLength_cons]
      omega

/-- A quoted text is read as its characters, as long as it is not too large. -/
theorem read?_quote (ignoreCase : Bool) (text : List Char) :
    read? ignoreCase (quote text) =
      if Waymark.Text.byteLength text + 1 ≤ Reading.maxCost then
        some ⟨(Expr.ofText { ignoreCase := ignoreCase } text).compile false []⟩
      else none := by
  have hrun := Reading.run_quote_append { flags := { ignoreCase := ignoreCase } } text [] rfl
  rw [List.append_nil, Reading.run_nil] at hrun
  have hexpr : (Reading.textParts { ignoreCase := ignoreCase } text).map Prod.fst =
      text.map (Reading.literal { ignoreCase := ignoreCase }) := by
    simp [Reading.textParts]
  rw [read?, Expr.read?, hrun, Option.bind_some, Reading.result?_pushAll, hexpr]
  · change Option.map _ (if (Expr.ofText _ text).cost ≤ _ then some (Expr.ofText _ text) else none) = _
    rw [cost_ofText]
    split <;> rfl
  · intro part hpart
    simp only [Reading.textParts, List.mem_map] at hpart
    obtain ⟨c, _, rfl⟩ := hpart
    exact Nat.zero_le _

end Waymark.Pattern
