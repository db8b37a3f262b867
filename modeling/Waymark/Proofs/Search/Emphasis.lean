import Waymark.Proofs.Pattern.Forward
import Waymark.Proofs.Text.Column
import Waymark.Search.Emphasis

/-!
# Emphasised labels

A stretch is set off in a label if it lies in the label and cuts no character, and the label is left as it is
otherwise; no slice is taken that does not exist. The stretch that a predicate finds begins and ends between
characters of the label, so it can always be set off.
-/

namespace Waymark.Search

open Text

/-- The markup is the label with the stretch set off. -/
def Emphasises (label : String) (r : ByteRange) (markup : String) : Prop :=
  ∃ before inside behind, label.toList = before ++ (inside ++ behind) ∧
    r = ⟨byteLength before, byteLength (before ++ inside)⟩ ∧
    markup =
      String.ofList (before ++ emphasisOpen.toList ++ inside ++ emphasisClose.toList ++ behind)

theorem splitAtByte?_append (before behind : List Char) :
    splitAtByte? (byteLength before) (before ++ behind) = some (before, behind) := by
  induction before with
  | nil => simp [splitAtByte?]
  | cons c rest ih =>
      obtain ⟨size, hsize⟩ := Nat.exists_eq_add_of_lt c.utf8Size_pos
      have hlength : byteLength (c :: rest) = size + byteLength rest + 1 := by
        rw [byteLength_cons]
        omega
      have hle : c.utf8Size ≤ size + byteLength rest + 1 := by omega
      have hleft : size + byteLength rest + 1 - c.utf8Size = byteLength rest := by omega
      rw [hlength, List.cons_append, splitAtByte?, if_pos hle, hleft, ih]
      rfl

theorem parts?_append (before inside behind : List Char) :
    ByteRange.parts? ⟨byteLength before, byteLength (before ++ inside)⟩ (before ++ (inside ++ behind)) =
      some (before, inside, behind) := by
  have hle : byteLength before ≤ byteLength before + byteLength inside := Nat.le_add_right _ _
  rw [ByteRange.parts?, byteLength_append, if_pos hle, Nat.add_sub_cancel_left,
    splitAtByte?_append]
  simp [splitAtByte?_append]

/-! ## Slices -/

/-- A character of a text begins at a byte offset, or the text ends there. -/
def IsBoundary (text : List Char) (offset : Nat) : Prop :=
  ∃ before behind, text = before ++ behind ∧ offset = byteLength before

/-- A stretch lies in a text and cuts no character. -/
structure ByteRange.Fits (r : ByteRange) (text : List Char) : Prop where
  start_le_stop : r.start ≤ r.stop
  stop_le : r.stop ≤ byteLength text
  start_boundary : IsBoundary text r.start
  stop_boundary : IsBoundary text r.stop

theorem splitAtByte?_eq_some_iff {offset : Nat} {text before behind : List Char} :
    splitAtByte? offset text = some (before, behind) ↔
      text = before ++ behind ∧ offset = byteLength before := by
  constructor
  · intro hleft
    induction text generalizing offset before with
    | nil =>
        cases offset with
        | zero =>
            obtain ⟨rfl, rfl⟩ := Prod.mk.inj (Option.some.inj hleft)
            exact ⟨rfl, rfl⟩
        | succ offset => cases hleft
    | cons c text ih =>
        cases offset with
        | zero =>
            obtain ⟨rfl, rfl⟩ := Prod.mk.inj (Option.some.inj hleft)
            exact ⟨rfl, rfl⟩
        | succ offset =>
            rw [splitAtByte?] at hleft
            split at hleft
            case isTrue hle =>
              obtain ⟨⟨inside, _⟩, hsplit, heq⟩ := Option.map_eq_some_iff.mp hleft
              obtain ⟨rfl, rfl⟩ := Prod.mk.inj heq
              obtain ⟨rfl, hlength⟩ := ih hsplit
              exact ⟨rfl, by rw [byteLength_cons]; omega⟩
            case isFalse => cases hleft
  · intro hright
    obtain ⟨rfl, rfl⟩ := hright
    exact splitAtByte?_append before behind

theorem parts?_eq_some_iff {r : ByteRange} {text before inside behind : List Char} :
    r.parts? text = some (before, inside, behind) ↔ text = before ++ (inside ++ behind) ∧
      r = ⟨byteLength before, byteLength (before ++ inside)⟩ := by
  constructor
  · intro hleft
    rw [ByteRange.parts?] at hleft
    split at hleft
    case isTrue hle =>
      obtain ⟨⟨before', rest⟩, hfirst, hleft⟩ := Option.bind_eq_some_iff.mp hleft
      obtain ⟨⟨inside', behind'⟩, hsecond, heq⟩ := Option.bind_eq_some_iff.mp hleft
      cases heq
      obtain ⟨rfl, hstart⟩ := splitAtByte?_eq_some_iff.mp hfirst
      obtain ⟨rfl, hlength⟩ := splitAtByte?_eq_some_iff.mp hsecond
      refine ⟨rfl, ?_⟩
      have hstop : r.stop = byteLength (before ++ inside) := by
        rw [byteLength_append]
        omega
      rw [← hstart, ← hstop]
    case isFalse => cases hleft
  · intro hright
    obtain ⟨rfl, rfl⟩ := hright
    exact parts?_append before inside behind

theorem fits_iff {r : ByteRange} {text : List Char} :
    r.Fits text ↔ ∃ before inside behind, text = before ++ (inside ++ behind) ∧
      r = ⟨byteLength before, byteLength (before ++ inside)⟩ := by
  constructor
  · intro hfits
    obtain ⟨before, rest, rfl, hstart⟩ := hfits.start_boundary
    obtain ⟨upto, behind, hsplit, hstop⟩ := hfits.stop_boundary
    have hr : r = ⟨byteLength before, byteLength upto⟩ := by rw [← hstart, ← hstop]
    have hle : byteLength before ≤ byteLength upto := hstart ▸ hstop ▸ hfits.start_le_stop
    rcases List.append_eq_append_iff.mp hsplit with ⟨inside, rfl, rfl⟩ | ⟨overlap, rfl, rfl⟩
    · exact ⟨before, inside, behind, rfl, hr⟩
    · -- the second end lies before the first one only if nothing is between them
      rw [byteLength_append] at hle
      obtain rfl : overlap = [] := byteLength_eq_zero_iff.mp (by omega)
      exact ⟨upto, [], rest, by simp, by simpa using hr⟩
  · intro hright
    obtain ⟨before, inside, behind, rfl, rfl⟩ := hright
    refine ⟨?_, ?_, ⟨before, _, rfl, rfl⟩, ⟨before ++ inside, behind, by simp, rfl⟩⟩
    · simp only [byteLength_append]
      omega
    · simp only [byteLength_append]
      omega

/-- The part of a text on a stretch, if the stretch fits it. -/
def slice? (text : List Char) (r : ByteRange) : Option (List Char) :=
  (r.parts? text).map fun (_, inside, _) => inside

/-- A label with a stretch of it emphasised, put together from slices of which none may fail. -/
def emphasiseBySlices? (label : String) (highlight : Option ByteRange) : Option String :=
  match highlight with
  | none => some label
  | some r =>
    if (slice? label.toList r).isSome then do
      let before ← slice? label.toList ⟨0, r.start⟩
      let inside ← slice? label.toList r
      let behind ← slice? label.toList ⟨r.stop, byteLength label.toList⟩
      return String.ofList <|
        before ++ emphasisOpen.toList ++ inside ++ emphasisClose.toList ++ behind
    else some label

/-- A slice exists exactly on a stretch that fits. -/
theorem isSome_slice?_iff {text : List Char} {r : ByteRange} :
    (slice? text r).isSome = true ↔ r.Fits text := by
  rw [slice?, Option.isSome_map, fits_iff, Option.isSome_iff_exists]
  constructor
  · intro hleft
    obtain ⟨⟨before, inside, behind⟩, hparts⟩ := hleft
    exact ⟨before, inside, behind, parts?_eq_some_iff.mp hparts⟩
  · intro hright
    obtain ⟨before, inside, behind, hparts⟩ := hright
    exact ⟨_, parts?_eq_some_iff.mpr hparts⟩

theorem slice?_append (before inside behind : List Char) :
    slice? (before ++ (inside ++ behind)) ⟨byteLength before, byteLength (before ++ inside)⟩ =
      some inside := by
  rw [slice?, parts?_append, Option.map_some]

/-- Where the stretch itself exists, so does what is before it and what is behind it. -/
theorem emphasiseBySlices?_eq (label : String) (highlight : Option ByteRange) :
    emphasiseBySlices? label highlight = some (emphasise label highlight) := by
  cases highlight with
  | none => rfl
  | some r =>
      cases hparts : r.parts? label.toList with
      | none => simp [emphasiseBySlices?, emphasise, slice?, hparts]
      | some parts =>
          obtain ⟨before, inside, behind⟩ := parts
          obtain ⟨hlabel, rfl⟩ := parts?_eq_some_iff.mp hparts
          have hbefore : slice? label.toList ⟨0, byteLength before⟩ = some before := by
            rw [hlabel]
            exact slice?_append [] before (inside ++ behind)
          have hinside : slice? label.toList ⟨byteLength before, byteLength (before ++ inside)⟩ =
              some inside := by
            rw [hlabel]
            exact slice?_append before inside behind
          have hbehind : slice? label.toList
              ⟨byteLength (before ++ inside), byteLength label.toList⟩ = some behind := by
            have hend := slice?_append (before ++ inside) behind []
            rwa [List.append_nil, List.append_assoc, ← hlabel] at hend
          simp [emphasiseBySlices?, emphasise, hparts, hbefore, hinside, hbehind]

/-! ## What emphasising does -/

/-- A stretch that fits the label is set off. -/
theorem emphasises_of_fits {label : String} {r : ByteRange} (h : r.Fits label.toList) :
    Emphasises label r (emphasise label (some r)) := by
  obtain ⟨before, inside, behind, hlabel, hr⟩ := fits_iff.mp h
  refine ⟨before, inside, behind, hlabel, hr, ?_⟩
  rw [emphasise, Option.bind_some, parts?_eq_some_iff.mpr ⟨hlabel, hr⟩]

/-- The label stays as it is if there is no stretch that fits it. -/
theorem emphasise_of_not_fits {label : String} {highlight : Option ByteRange}
    (h : ∀ r, highlight = some r → ¬ r.Fits label.toList) : emphasise label highlight = label := by
  have hnone : (highlight.bind fun r => r.parts? label.toList) = none := by
    rw [Option.bind_eq_none_iff]
    intro r hr
    have hslice : ¬ (slice? label.toList r).isSome = true := fun hsome =>
      h r hr (isSome_slice?_iff.mp hsome)
    rwa [slice?, Option.isSome_map, Option.not_isSome_iff_eq_none] at hslice
  rw [emphasise, hnone]

/-! ## What a predicate finds -/

theorem Predicate.start_le_stop {p : Predicate} {text : List Char} {start stop : Nat}
    (h : p.columns? text = some (start, stop)) : start ≤ stop := by
  cases p with
  | literal needle =>
      obtain ⟨column, _, heq⟩ := Option.map_eq_some_iff.mp h
      cases heq
      exact Nat.le_add_right _ _
  | pattern pattern =>
      obtain ⟨found, hfound, heq⟩ := Option.map_eq_some_iff.mp h
      cases heq
      exact (Pattern.Node.within_of_findFrom hfound).start_le_stop
  | never => cases h

/-- What a predicate finds in a label fits the label. -/
theorem fits_of_find? {p : Predicate} {label : String} {r : ByteRange}
    (h : p.find? label = some r) : r.Fits label.toList := by
  obtain ⟨⟨start, stop⟩, hcolumns, hr⟩ := Option.map_eq_some_iff.mp h
  obtain ⟨length, hlength⟩ := Nat.exists_eq_add_of_le (Predicate.start_le_stop hcolumns)
  have hsplit : label.toList = label.toList.take start ++
      ((label.toList.drop start).take length ++ (label.toList.drop start).drop length) := by
    rw [List.take_append_drop, List.take_append_drop]
  have htake : label.toList.take stop =
      label.toList.take start ++ (label.toList.drop start).take length := by
    rw [hlength, List.take_add]
  refine fits_iff.mpr ⟨_, _, _, hsplit, ?_⟩
  rw [← htake, ← hr]
  rfl

/-- The label with what a predicate finds in it is the label with that stretch set off. -/
theorem emphasises_find? {p : Predicate} {label : String} {r : ByteRange}
    (h : p.find? label = some r) : Emphasises label r (emphasise label (some r)) :=
  emphasises_of_fits (fits_of_find? h)

end Waymark.Search
