import Waymark.Proofs.Region.Memo

/-!
# Reloading preferences

What a provider is after an update that was not cancelled is told by its markers, its two switches and the
document. Nothing of what it was used for before is left, so it makes no difference whether preferences are
taken by a provider that has been at work or by a new one.
-/

namespace Waymark

attribute [ext] Provider

namespace Provider

/-- A provider that is off has nothing but its matcher and its switches. -/
def BareIfOff (p : Provider LineMatcher) : Prop :=
  p.enabled = false → p = { matcher := p.matcher, enabled := false, highlight := p.highlight }

variable {p q : Provider LineMatcher}

theorem bareIfOff_of_enabled (h : p.enabled = true) : p.BareIfOff := by
  intro hoff
  rw [h] at hoff
  cases hoff

theorem bareIfOff_clear (p : Provider LineMatcher) : p.clear.BareIfOff := by
  intro hoff
  have hoff : p.enabled = false := hoff
  rw [clear, hoff]

theorem IsFresh.bareIfOff (h : p.IsFresh) : p.BareIfOff := by
  rcases h with ⟨m, rfl⟩ | ⟨prefs, rfl⟩
  · exact bareIfOff_of_enabled rfl
  · intro hoff
    have hoff : prefs.enabled = false := hoff
    rw [ofPreferences, hoff]
    rfl

theorem BareIfOff.setEnabled (h : p.BareIfOff) (enabled : Bool) : (p.setEnabled enabled).BareIfOff := by
  unfold Provider.setEnabled
  split
  · exact h
  · exact bareIfOff_clear _

theorem BareIfOff.setHighlight (h : p.BareIfOff) (highlight : Bool) :
    (p.setHighlight highlight).BareIfOff := by
  intro hoff
  have hbare := h hoff
  rw [Provider.setHighlight, hbare]

theorem BareIfOff.setMarkers (h : p.BareIfOff) (m : Markers) : (p.setMarkers m).BareIfOff := by
  unfold Provider.setMarkers
  split
  · exact h
  · intro hoff
    have hbare := h hoff
    rw [hbare]

theorem keptBySettings_bareIfOff : KeptBySettings BareIfOff :=
  ⟨fun _ h => h.setMarkers, fun _ h => h.setEnabled, fun _ h => h.setHighlight,
    fun p _ => bareIfOff_clear p⟩

theorem BareIfOff.applyPreferences (h : p.BareIfOff) (prefs : Preferences) :
    (p.applyPreferences prefs).BareIfOff :=
  keptBySettings_bareIfOff.applyPreferences h prefs

theorem BareIfOff.update (h : p.BareIfOff) (d : Document) (cancel : Cancellation) :
    (p.update d cancel).1.BareIfOff := by
  rcases p.update_cases d cancel with ⟨hsame, _⟩ | ⟨henabled, _, _, parsed, _, hnew⟩
  · rw [hsame]
    exact h
  · rw [hnew]
    exact bareIfOff_of_enabled henabled

theorem BareIfOff.step {k : Desk} (h : k.provider.BareIfOff) (event : DeskEvent) :
    (k.step event).provider.BareIfOff :=
  keptBySettings_bareIfOff.step h (fun d _ => h.update d) event

/-! ## What an update leaves -/

/-- An update leaves the settings alone. -/
theorem settings_update (p : Provider LineMatcher) (d : Document) (cancel : Cancellation) :
    (p.update d cancel).1.matcher = p.matcher ∧ (p.update d cancel).1.enabled = p.enabled ∧
      (p.update d cancel).1.highlight = p.highlight := by
  rcases p.update_cases d cancel with ⟨hsame, _⟩ | ⟨_, _, _, parsed, _, hnew⟩
  · rw [hsame]
    exact ⟨rfl, rfl, rfl⟩
  · rw [hnew]
    exact ⟨rfl, rfl, rfl⟩

theorem version_update {d : Document} {cancel : Cancellation} (hspares : cancel.Spares d.lines)
    (henabled : p.enabled = true) : (p.update d cancel).1.version = some d.version := by
  by_cases hversion : p.version = some d.version
  · have hskip : (!p.enabled || p.version == some d.version) = true := by simp [hversion]
    rw [update, if_pos hskip]
    exact hversion
  · rw [update_of_parses cancel henabled hversion, ParseRun.ofLines_of_spares p.matcher hspares,
      ParseRun.outcome_never]
    rfl

theorem update_of_off {d : Document} {cancel : Cancellation} (hoff : p.enabled = false) :
    (p.update d cancel).1 = p := by
  rw [update, hoff]
  rfl

/-- Providers of the same settings are the same once they have been updated. -/
theorem Coherent.update_eq {Seen : Document → Prop} (hp : p.Coherent Seen) (hq : q.Coherent Seen)
    (hpoff : p.BareIfOff) (hqoff : q.BareIfOff) (hmatcher : p.matcher = q.matcher)
    (henabled : p.enabled = q.enabled) (hhighlight : p.highlight = q.highlight) {d : Document}
    (hd : Seen d) {cancel cancel' : Cancellation} (hspares : cancel.Spares d.lines)
    (hspares' : cancel'.Spares d.lines) : (p.update d cancel).1 = (q.update d cancel').1 := by
  cases hswitch : p.enabled with
  | false =>
      have hswitch' : q.enabled = false := henabled ▸ hswitch
      rw [update_of_off hswitch, update_of_off hswitch', hpoff hswitch, hqoff hswitch', hmatcher,
        hhighlight]
  | true =>
      have hswitch' : q.enabled = true := henabled ▸ hswitch
      obtain ⟨hpm, hpe, hph⟩ := p.settings_update d cancel
      obtain ⟨hqm, hqe, hqh⟩ := q.settings_update d cancel'
      have hpholds := hp.holds_update hd hspares hswitch
      have hqholds := hq.holds_update hd hspares' hswitch'
      have hparsed : (p.update d cancel).1.parsed = (q.update d cancel').1.parsed := by
        have hboth := hpholds.parsed_eq
        rw [hpm, hmatcher, ← hqm, hqholds.parsed_eq] at hboth
        exact (Option.some.inj hboth).symm
      ext1
      · rw [hpm, hqm, hmatcher]
      · rw [version_update hspares hswitch, version_update hspares' hswitch']
      · exact hparsed
      · rw [hpholds.outline_eq, hqholds.outline_eq, hparsed]
      · rw [hpe, hqe, henabled]
      · rw [hph, hqh, hhighlight]

/-- Taking preferences leaves the settings that they ask for. -/
theorem settings_applyPreferences (hmatcher : p.matcher = .ofMarkers p.matcher.markers)
    (prefs : Preferences) :
    (p.applyPreferences prefs).matcher = .ofMarkers prefs.markers ∧
      (p.applyPreferences prefs).enabled = prefs.enabled ∧
      (p.applyPreferences prefs).highlight = prefs.highlight := by
  have hmarkers : (p.setMarkers prefs.markers).matcher = .ofMarkers prefs.markers := by
    unfold Provider.setMarkers
    split
    · rename_i heq
      rw [hmatcher, heq]
    · rfl
  refine ⟨?_, ?_, rfl⟩
  · change ((p.setMarkers prefs.markers).setEnabled prefs.enabled).matcher = _
    unfold Provider.setEnabled
    split <;> exact hmarkers
  · change ((p.setMarkers prefs.markers).setEnabled prefs.enabled).enabled = _
    unfold Provider.setEnabled
    split
    · assumption
    · rfl

end Provider

namespace Desk

variable {p : Provider LineMatcher}

theorem bareIfOff_after (hp : p.IsFresh) (events : List DeskEvent) :
    (after p events).provider.BareIfOff := by
  induction events using List.reverseRecOn with
  | nil => exact hp.bareIfOff
  | append_singleton events event ih =>
      rw [after_snoc]
      exact ih.step event

/-- Whatever a provider has been used for: once it takes other preferences and is updated with a document, it
is the provider that is made from these preferences and updated with the document. -/
theorem update_applyPreferences_eq (hp : p.IsFresh) (events : List DeskEvent)
    (hfew : ∀ i, (documentEvents events).countP (DocumentEvent.edits i) < UInt64.size)
    (prefs : Preferences) {d : Document} (hd : d ∈ (after p events).workspace.documents)
    {cancel cancel' : Cancellation} (hspares : cancel.Spares d.lines)
    (hspares' : cancel'.Spares d.lines) :
    (((after p events).provider.applyPreferences prefs).update d cancel).1 =
      ((Provider.ofPreferences prefs).update d cancel').1 := by
  have hcoherent := coherent_after hp events hfew
  have hfresh : (Provider.ofPreferences prefs).IsFresh := .inr ⟨prefs, rfl⟩
  obtain ⟨hmatcher, henabled, hhighlight⟩ :=
    Provider.settings_applyPreferences hcoherent.matcher_eq prefs
  have hseen : Workspace.Seen (documentEvents events) d := by
    rw [workspace_after] at hd
    exact .of_mem hd
  exact (hcoherent.applyPreferences prefs).update_eq hfresh.coherent
    ((bareIfOff_after hp events).applyPreferences prefs) hfresh.bareIfOff hmatcher henabled hhighlight
    hseen hspares hspares'

/-- The provider keeps a parse by other markers when the preferences are taken, and the document has been
edited since. -/
theorem update_applyPreferences_eq_stale :
    let events : List DeskEvent :=
      [.document (.create "#tag a"), .update 0 .never, .setMarkers ⟨"<<<", ">>>", "@@", true⟩,
        .document (.edit 0 (.setText "#tag b\n@@ c")), .update 0 .already, .setHighlight false]
    let k := after (.ofMarkers {}) events
    let prefs : Preferences := { tag := "@@" }
    ∃ d ∈ k.workspace.documents[0]?, d.text = "#tag b\n@@ c" ∧ k.provider.parsed.tags ≠ [] ∧
      k.provider.version ≠ some d.version ∧
      ((k.provider.applyPreferences prefs).update d .never).1 =
        ((Provider.ofPreferences prefs).update d .never).1 := by
  intro events k prefs
  have hfew : ∀ i, (documentEvents events).countP (DocumentEvent.edits i) < UInt64.size :=
    fun i => Nat.lt_of_le_of_lt List.countP_le_length (by decide)
  have hdocument : ∃ d ∈ k.workspace.documents[0]?, d.text = "#tag b\n@@ c" ∧
      k.provider.parsed.tags ≠ [] ∧ k.provider.version ≠ some d.version := by decide +kernel
  obtain ⟨d, hd, htext, htags, hversion⟩ := hdocument
  have hspares := Cancellation.spares_never d.lines
  exact ⟨d, hd, htext, htags, hversion, update_applyPreferences_eq (.inl ⟨{}, rfl⟩) events hfew prefs
    (Array.mem_of_getElem? hd) hspares hspares⟩

end Desk

end Waymark
