import Waymark.Proofs.Marker.Renamed

/-!
# Lines with the default markers

All default markers begin with the same sign and go on with different letters. So a line in which the sign
stands once declares what its only marker says, and a line without the sign declares nothing.
-/

namespace Waymark.LineMatcher

variable {kind : MatchKind}

theorem literal_default : Markers.Literal {} := .inr fun kind => by cases kind <;> decide

theorem isSome_pattern_default (kind : MatchKind) :
    ((ofMarkers {}).patternOf kind).pattern.isSome = true := by
  cases kind <;> decide +kernel

def letters : MatchKind → List Char
  | .regionStart => ['r', 'e', 'g', 'i', 'o', 'n']
  | .regionEnd => ['e', 'n', 'd', 'r', 'e', 'g', 'i', 'o', 'n']
  | .tag => ['t', 'a', 'g']

theorem textOf_default (kind : MatchKind) :
    (Markers.textOf {} kind).toList = '#' :: letters kind := by
  cases kind <;> rfl

theorem eq_of_letters {kind' : MatchKind} {behind behind' : List Char}
    (h : letters kind ++ behind = letters kind' ++ behind') : kind = kind' := by
  cases kind <;> cases kind' <;> simp [letters] at h <;> rfl

/-- A sign that stands once in a line stands in one place only. -/
theorem drop_eq_cons {lead tail more : List Char} {sign : Char} {j : Nat} (hlead : sign ∉ lead)
    (htail : sign ∉ tail) (h : (lead ++ sign :: tail).drop j = sign :: more) :
    j = lead.length ∧ more = tail := by
  induction lead generalizing j with
  | nil =>
      cases j with
      | zero => exact ⟨rfl, (List.cons.inj h).2.symm⟩
      | succ j =>
          have hmem : sign ∈ tail.drop j := by
            rw [List.nil_append, List.drop_succ_cons] at h
            simp [h]
          exact absurd (List.mem_of_mem_drop hmem) htail
  | cons c lead ih =>
      cases j with
      | zero => exact absurd (by simp [(List.cons.inj h).1]) hlead
      | succ j =>
          obtain ⟨hj, hmore⟩ := ih (fun hmem => hlead (List.mem_cons_of_mem c hmem)) h
          exact ⟨by rw [hj, List.length_cons], hmore⟩

theorem matchLine_of_no_sign {line : String} (hline : '#' ∉ line.toList) (lineNumber : Nat) :
    matchLine (ofMarkers {}) line lineNumber = none := by
  rw [matchLine_eq_none_iff_absent literal_default]
  intro kind j hj hstands
  obtain ⟨_, behind, htext, _⟩ := hstands
  rw [textOf_default, List.cons_append] at htext
  exact hline (List.mem_of_mem_drop (by rw [htext]; exact List.mem_cons_self))

/-- The only sign of a line begins its marker. -/
theorem matchLine_of_marker (kind : MatchKind) {line : String} {lead behind : List Char}
    (hline : line.toList = lead ++ ((Markers.textOf {} kind).toList ++ behind)) (hlead : '#' ∉ lead)
    (hbehind : '#' ∉ behind) (hgap : kind ≠ .regionEnd → startsWithGap behind = true)
    (lineNumber : Nat) :
    matchLine (ofMarkers {}) line lineNumber =
      some (tokensBehind kind (Markers.textOf {} kind) lineNumber lead.length behind) := by
  have hsign : line.toList = lead ++ '#' :: (letters kind ++ behind) := by
    rw [hline, textOf_default, List.cons_append]
  have htail : '#' ∉ letters kind ++ behind := by
    cases kind <;> simp [letters, hbehind]
  -- a marker of any kind can only begin at the sign
  have hplace : ∀ kind' j, Markers.Stands {} kind' (line.toList.drop j) → j = lead.length ∧ kind' = kind := by
    intro kind' j hstands
    obtain ⟨_, behind', htext, _⟩ := hstands
    rw [textOf_default, List.cons_append, hsign] at htext
    obtain ⟨hj, hletters⟩ := drop_eq_cons hlead htail htext
    exact ⟨hj, eq_of_letters hletters⟩
  have hdrop : line.toList.drop lead.length = (Markers.textOf {} kind).toList ++ behind := by
    rw [hline, List.drop_left]
  have hfirst : Markers.FirstStands {} kind line.toList lead.length := by
    refine ⟨by simp [hline], ?_, ?_⟩
    · rw [hdrop]
      exact ⟨isSome_pattern_default kind, behind, rfl, hgap⟩
    · intro j hj hstands
      exact Nat.ne_of_lt hj (hplace kind j hstands).1
  refine (matchLine_eq_some_iff literal_default line lineNumber _).mpr
    ⟨kind, lead.length, hfirst, ?_, ?_⟩
  · intro kind' hrank j _ hstands
    rw [(hplace kind' j hstands).2] at hrank
    exact Nat.lt_irrefl _ hrank
  · rw [← List.drop_drop, hdrop, List.drop_left]

end Waymark.LineMatcher
