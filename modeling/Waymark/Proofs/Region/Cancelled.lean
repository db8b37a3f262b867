import Waymark.Proofs.Region.Rename

/-!
# Parses that are cancelled

A token is looked at before every line and trips when the matcher is called. So a parse that is to be
cancelled by a call goes on as if it were not up to the line of that call, and stops before the next line,
blank or not. If there is no next line it comes to the end as if there had been no token. Nothing of a
parse that was cancelled gets into a provider.
-/

namespace Waymark

namespace ParseRun

/-! ## One line -/

/-- How often the matcher is called for some lines: once for each that is not blank. -/
def callsFor (lines : List String) : Nat :=
  lines.countP fun line => !Text.isBlankLine line.toList

theorem callsFor_cons (line : String) (lines : List String) :
    callsFor (line :: lines) = (if Text.isBlankLine line.toList then 0 else 1) + callsFor lines := by
  cases hblank : Text.isBlankLine line.toList <;> simp [callsFor, hblank, Nat.add_comm]

/-- What has been found once a line has been looked at. -/
def lookAt (m : String → Nat → Option LineMatch) (i : Nat) (s : Pairing) (line : String) : Pairing :=
  if Text.isBlankLine line.toList then s
  else
    match m line i with
    | none => s
    | some found => s.feed found (.onLine i 0 line.toList.length)

section

variable {m : String → Nat → Option LineMatch} {cancel : Cancellation} {lineCount i calls : Nat}
  {s : Pairing} {line : String} {rest : List String}

theorem resume_tripped (h : (cancel.spend calls).isTripped = true) :
    resume m cancel lineCount i calls s (line :: rest) = ⟨calls, .cancelled i lineCount⟩ := by
  rw [resume, if_pos h]

theorem resume_not_tripped (h : (cancel.spend calls).isTripped = false) :
    resume m cancel lineCount i calls s (line :: rest) =
      resume m cancel lineCount (i + 1) (calls + if Text.isBlankLine line.toList then 0 else 1)
        (lookAt m i s line) rest := by
  rw [resume, h]
  cases hblank : Text.isBlankLine line.toList with
  | true => simp [lookAt, hblank]
  | false => cases hfound : m line i <;> simp [lookAt, hblank, hfound]

theorem resume_never :
    resume m .never lineCount i calls s (line :: rest) =
      resume m .never lineCount (i + 1) (calls + if Text.isBlankLine line.toList then 0 else 1)
        (lookAt m i s line) rest :=
  resume_not_tripped rfl

/-! ## All lines that are left -/

/-- A token that trips before no line makes no difference. -/
theorem resume_of_spared
    (h : ∀ j < rest.length, (cancel.spend (calls + callsFor (rest.take j))).isTripped = false) :
    resume m cancel lineCount i calls s rest = resume m .never lineCount i calls s rest := by
  induction rest generalizing i calls s with
  | nil => rfl
  | cons line rest ih =>
      have hhere : (cancel.spend calls).isTripped = false := h 0 (Nat.succ_pos _)
      rw [resume_not_tripped hhere, resume_never]
      apply ih
      intro j hj
      have hnext := h (j + 1) (Nat.succ_lt_succ hj)
      rwa [List.take_succ_cons, callsFor_cons, ← Nat.add_assoc] at hnext

/-- A parse stops before the first line before which its token has tripped. -/
theorem resume_stops {j : Nat} (hj : j < rest.length)
    (hbefore : ∀ j' < j, (cancel.spend (calls + callsFor (rest.take j'))).isTripped = false)
    (htripped : (cancel.spend (calls + callsFor (rest.take j))).isTripped = true) :
    resume m cancel lineCount i calls s rest =
      ⟨calls + callsFor (rest.take j), .cancelled (i + j) lineCount⟩ := by
  induction rest generalizing i calls s j with
  | nil => exact absurd hj (Nat.not_lt_zero j)
  | cons line rest ih =>
      cases j with
      | zero => exact resume_tripped htripped
      | succ j =>
          have hhere : (cancel.spend calls).isTripped = false := hbefore 0 (Nat.succ_pos _)
          rw [List.take_succ_cons, callsFor_cons, ← Nat.add_assoc] at htripped
          have hlater : i + (j + 1) = i + 1 + j := by omega
          rw [resume_not_tripped hhere, List.take_succ_cons, callsFor_cons, ← Nat.add_assoc, hlater]
          refine ih (Nat.lt_of_succ_lt_succ hj) ?_ htripped
          intro j' hj'
          have hnext := hbefore (j' + 1) (Nat.succ_lt_succ hj')
          rwa [List.take_succ_cons, callsFor_cons, ← Nat.add_assoc] at hnext

theorem calls_resume_never :
    (resume m .never lineCount i calls s rest).calls = calls + callsFor rest := by
  induction rest generalizing i calls s with
  | nil => rfl
  | cons line rest ih =>
      rw [resume_never, ih, callsFor_cons, Nat.add_assoc]

end

end ParseRun

/-! ## Tokens that spare a parse -/

/-- A token that is not tripped before any line: by then the lines before that are not blank have been
matched. -/
def Cancellation.Spares (cancel : Cancellation) (lines : List String) : Prop :=
  ∀ i < lines.length, (cancel.spend
    ((lines.take i).countP fun line => !Text.isBlankLine line.toList)).isTripped = false

instance (cancel : Cancellation) (lines : List String) : Decidable (cancel.Spares lines) :=
  inferInstanceAs (Decidable (∀ i < lines.length, _))

theorem Cancellation.spares_never (lines : List String) : Cancellation.never.Spares lines :=
  fun _ _ => rfl

theorem Cancellation.isTripped_spend (k calls : Nat) :
    ((⟨some k⟩ : Cancellation).spend calls).isTripped = decide (k ≤ calls) := by
  rw [Bool.eq_iff_iff]
  simp [spend, isTripped]
  omega

namespace ParseRun

variable {μ : Type} [MatchesLines μ]

theorem ofLines_of_spares (matcher : μ) {cancel : Cancellation} {lines : List String}
    (h : cancel.Spares lines) : ofLines matcher cancel lines = ofLines matcher .never lines := by
  apply resume_of_spared
  intro j hj
  rw [Nat.zero_add]
  exact h j hj

/-! ## Tokens that trip at a call -/

/-- A line is the `k`-th of those that are not blank. -/
structure IsNthNonBlank (lines : List String) (k i : Nat) : Prop where
  nonBlank : ∃ line, lines[i]? = some line ∧ Text.isBlankLine line.toList = false
  count : callsFor (lines.take i) + 1 = k

variable {lines : List String} {k i : Nat}

theorem callsFor_take_mono (lines : List String) {i j : Nat} (h : i ≤ j) :
    callsFor (lines.take i) ≤ callsFor (lines.take j) := by
  have hprefix : (lines.take i).Sublist (lines.take j) := (List.take_prefix_take_left h).sublist
  exact hprefix.countP_le

theorem callsFor_take_succ {line : String} (hline : lines[i]? = some line) :
    callsFor (lines.take (i + 1)) =
      callsFor (lines.take i) + if Text.isBlankLine line.toList then 0 else 1 := by
  rw [List.take_add_one, hline, callsFor, List.countP_append]
  cases hblank : Text.isBlankLine line.toList <;> simp [callsFor, hblank]

theorem IsNthNonBlank.callsFor_eq (h : IsNthNonBlank lines k i) :
    callsFor (lines.take (i + 1)) = k := by
  obtain ⟨line, hline, hblank⟩ := h.nonBlank
  rw [callsFor_take_succ hline, hblank]
  exact h.count

/-- Every call that has been made was made for a line. -/
theorem exists_isNthNonBlank (hk : 1 ≤ k) {j : Nat} (hj : j ≤ lines.length)
    (hcalls : k ≤ callsFor (lines.take j)) : ∃ i < j, IsNthNonBlank lines k i := by
  induction j with
  | zero =>
      have hnone : callsFor (lines.take 0) = 0 := rfl
      omega
  | succ j ih =>
      have hline : lines[j]? = some lines[j] := List.getElem?_eq_getElem hj
      by_cases hearlier : k ≤ callsFor (lines.take j)
      · obtain ⟨i, hi, hnth⟩ := ih (by omega) hearlier
        exact ⟨i, by omega, hnth⟩
      · rw [callsFor_take_succ hline] at hcalls
        refine ⟨j, Nat.lt_succ_self j, ⟨lines[j], hline, ?_⟩, ?_⟩
        · cases hblank : Text.isBlankLine lines[j].toList with
          | false => rfl
          | true => simp only [hblank, if_true] at hcalls; omega
        · split at hcalls <;> omega

/-- What comes of a parse of some lines whose token trips at the `k`-th call of the matcher, `run`, next to
the parse that is never cancelled, `free`. The call for the last line comes too late to cancel anything. -/
structure TripsAt (lines : List String) (k : Nat) (free run : ParseRun) : Prop where
  cancelled_iff : run.outcome.parsed? = none ↔
    k = 0 ∨ ∃ i, IsNthNonBlank lines k i ∧ i + 1 ≠ lines.length
  at_start : k = 0 → run = ⟨0, .cancelled 0 lines.length⟩
  behind_call : ∀ i, IsNthNonBlank lines k i → i + 1 ≠ lines.length →
    run = ⟨k, .cancelled (i + 1) lines.length⟩
  complete : run.outcome.parsed? ≠ none → run = free

theorem ofLines_zero (matcher : μ) (hlines : lines ≠ []) :
    ofLines matcher ⟨some 0⟩ lines = ⟨0, .cancelled 0 lines.length⟩ :=
  resume_stops (j := 0) (List.length_pos_iff.mpr hlines) (fun j' hj' => absurd hj' (Nat.not_lt_zero j'))
    rfl

theorem ofLines_behind_call (matcher : μ) (hnth : IsNthNonBlank lines k i)
    (hlast : i + 1 ≠ lines.length) :
    ofLines matcher ⟨some k⟩ lines = ⟨k, .cancelled (i + 1) lines.length⟩ := by
  obtain ⟨line, hline, _⟩ := hnth.nonBlank
  have hlt : i < lines.length := (List.getElem?_eq_some_iff.mp hline).1
  have hstops : ofLines matcher ⟨some k⟩ lines =
      ⟨0 + callsFor (lines.take (i + 1)), .cancelled (0 + (i + 1)) lines.length⟩ := by
    refine resume_stops (by omega) ?_ ?_
    · intro j hj
      have hmono := callsFor_take_mono lines (Nat.le_of_lt_succ hj)
      have hcount := hnth.count
      rw [Nat.zero_add, Cancellation.isTripped_spend, decide_eq_false_iff_not]
      omega
    · rw [Nat.zero_add, Cancellation.isTripped_spend, hnth.callsFor_eq, decide_eq_true_eq]
  rw [hstops, hnth.callsFor_eq, Nat.zero_add, Nat.zero_add]

theorem spares_of_no_call_before (hk : k ≠ 0)
    (hlast : ∀ i, IsNthNonBlank lines k i → i + 1 = lines.length) :
    (⟨some k⟩ : Cancellation).Spares lines := by
  intro j hj
  change ((⟨some k⟩ : Cancellation).spend (callsFor (lines.take j))).isTripped = false
  rw [Cancellation.isTripped_spend, decide_eq_false_iff_not]
  intro hcalls
  obtain ⟨i, hi, hnth⟩ := exists_isNthNonBlank (by omega) (Nat.le_of_lt hj) hcalls
  have hend := hlast i hnth
  omega

/-- A parse that is never cancelled comes to the end. -/
theorem ofLines_never (matcher : μ) (lines : List String) :
    ∃ parsed dropped, ofLines matcher .never lines =
      ⟨callsFor lines, .complete parsed lines.length dropped⟩ := by
  have hcalls : (ofLines matcher .never lines).calls = callsFor lines :=
    calls_resume_never.trans (Nat.zero_add _)
  refine ⟨(pairingAt (MatchesLines.matchLine matcher) lines lines.length).parsed,
    (pairingAt (MatchesLines.matchLine matcher) lines lines.length).unpaired.length, ?_⟩
  rw [← hcalls, ← outcome_never matcher lines]

theorem parsed?_never_ne_none (matcher : μ) (lines : List String) :
    (ofLines matcher .never lines).outcome.parsed? ≠ none := by
  obtain ⟨parsed, dropped, hfree⟩ := ofLines_never matcher lines
  rw [hfree]
  exact Option.some_ne_none _

theorem tripsAt_ofLines (matcher : μ) (hlines : lines ≠ []) (k : Nat) :
    TripsAt lines k (ofLines matcher .never lines) (ofLines matcher ⟨some k⟩ lines) := by
  by_cases hk : k = 0
  · subst hk
    have hrun := ofLines_zero matcher hlines
    refine ⟨?_, fun _ => hrun, ?_, ?_⟩
    · rw [hrun]
      exact ⟨fun _ => .inl rfl, fun _ => rfl⟩
    · intro i hnth
      exact absurd hnth.count (Nat.succ_ne_zero _)
    · rw [hrun]
      exact fun h => absurd rfl h
  by_cases hcall : ∃ i, IsNthNonBlank lines k i ∧ i + 1 ≠ lines.length
  · have hcancelled : (ofLines matcher ⟨some k⟩ lines).outcome.parsed? = none := by
      obtain ⟨i, hnth, hlast⟩ := hcall
      rw [ofLines_behind_call matcher hnth hlast]
      rfl
    refine ⟨⟨fun _ => .inr hcall, fun _ => hcancelled⟩, fun h => absurd h hk, ?_, ?_⟩
    · exact fun i hnth hlast => ofLines_behind_call matcher hnth hlast
    · exact fun h => absurd hcancelled h
  · have hspares : (⟨some k⟩ : Cancellation).Spares lines := by
      refine spares_of_no_call_before hk fun i hnth => ?_
      by_contra hlast
      exact hcall ⟨i, hnth, hlast⟩
    have hrun := ofLines_of_spares matcher hspares
    refine ⟨?_, fun h => absurd h hk, ?_, fun _ => hrun⟩
    · rw [hrun]
      exact ⟨fun h => absurd h (parsed?_never_ne_none matcher lines),
        fun h => absurd (h.resolve_left hk) hcall⟩
    · exact fun i hnth hlast => absurd ⟨i, hnth, hlast⟩ hcall

end ParseRun

namespace Provider

variable {μ : Type} [MatchesLines μ] {p : Provider μ} {d : Document} {cancel : Cancellation}

/-- An update whose parse is cancelled leaves the provider as it was. -/
theorem update_of_cancelled
    (h : (ParseRun.ofLines p.matcher cancel d.lines).outcome.parsed? = none) :
    (p.update d cancel).1 = p ∧ (p.update d cancel).2.updated = false := by
  simp only [update, h]
  split <;> exact ⟨rfl, rfl⟩

/-- A provider that is on and has not parsed the version puts the parse of the document in its place. -/
theorem update_of_parsed {parsed : ParsedRegions} (henabled : p.enabled = true)
    (hversion : p.version ≠ some d.version)
    (h : (ParseRun.ofLines p.matcher cancel d.lines).outcome.parsed? = some parsed) :
    p.update d cancel =
      ({ p with version := some d.version, parsed := parsed, outline := .ofParsed parsed d.revision },
        ⟨true, some (ParseRun.ofLines p.matcher cancel d.lines)⟩) := by
  rw [update_of_parses cancel henabled hversion, h]

end Provider

theorem Document.lines_ne_nil (d : Document) : d.lines ≠ [] := by
  rw [lines, Ne, List.map_eq_nil_iff]
  exact Text.breakLines_ne_nil d.chars

/-- A parse that the `k`-th call of the matcher cancels stops before the line behind that call, having
called it `k` times, and is the whole parse if there is no such line. An update over a parse that was
cancelled changes nothing, so that the next one parses the whole document. -/
theorem Provider.tripped_update_exact {μ : Type} [MatchesLines μ] (p : Provider μ) (d : Document)
    (k : Nat) :
    let free := ParseRun.ofLines p.matcher .never d.lines
    let run := ParseRun.ofLines p.matcher ⟨some k⟩ d.lines
    (∃ parsed dropped, free = ⟨ParseRun.callsFor d.lines, .complete parsed d.lineCount dropped⟩) ∧
    ParseRun.TripsAt d.lines k free run ∧
    (run.outcome.parsed? = none →
      (p.update d ⟨some k⟩).1 = p ∧ (p.update d ⟨some k⟩).2.updated = false ∧
        (p.enabled = true → p.version ≠ some d.version →
          ∃ parsed, free.outcome.parsed? = some parsed ∧
            ((p.update d ⟨some k⟩).1.update d .never) =
              ({ p with
                version := some d.version, parsed := parsed,
                outline := .ofParsed parsed d.revision }, ⟨true, some free⟩))) := by
  intro free run
  obtain ⟨parsed, dropped, hfree⟩ := ParseRun.ofLines_never p.matcher d.lines
  have hcount : d.lineCount = d.lines.length := by simp [Document.lineCount, Document.lines]
  refine ⟨⟨parsed, dropped, hcount ▸ hfree⟩,
    ParseRun.tripsAt_ofLines p.matcher d.lines_ne_nil k, ?_⟩
  intro hcancelled
  obtain ⟨hsame, hupdated⟩ := update_of_cancelled hcancelled
  refine ⟨hsame, hupdated, ?_⟩
  intro henabled hversion
  have hparsed : free.outcome.parsed? = some parsed := by
    simp only [free, hfree, ParseOutcome.parsed?]
  refine ⟨parsed, hparsed, ?_⟩
  rw [hsame]
  exact update_of_parsed henabled hversion hparsed

/-- The matcher is called for a start, and the next line is blank. -/
theorem Provider.tripped_update_exact_before_blank_line :
    let d : Document := { id := 1, text := "#region a\n \n#endregion a" }
    let p := ofMarkers {}
    ParseRun.ofLines p.matcher ⟨some 1⟩ d.lines = ⟨1, .cancelled 1 3⟩ ∧
      (p.update d ⟨some 1⟩).1.version = none ∧
      ((p.update d ⟨some 1⟩).1.update d .never).1.version = some d.version := by
  intro d p
  obtain ⟨_, htrips, hupdate⟩ := tripped_update_exact p d 1
  have hfirst : ParseRun.IsNthNonBlank d.lines 1 0 :=
    ⟨⟨"#region a", by decide +kernel, by decide +kernel⟩, by decide +kernel⟩
  have hcount : d.lines.length = 3 := by decide +kernel
  have hrun := htrips.behind_call 0 hfirst (by decide +kernel)
  rw [hcount] at hrun
  obtain ⟨hsame, _, hnext⟩ := hupdate (by rw [hrun]; rfl)
  obtain ⟨parsed, _, hafter⟩ := hnext rfl (by decide)
  refine ⟨hrun, ?_, ?_⟩
  · rw [hsame]
    rfl
  · rw [hafter]

end Waymark
