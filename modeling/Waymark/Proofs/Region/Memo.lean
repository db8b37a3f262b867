import Waymark.Proofs.Document.Versions
import Waymark.Proofs.Region.Cancelled

/-!
# What a provider remembers

A provider goes by the version of a document, and never looks at a text whose version it has parsed. That
is sound as long as every operation keeps to one rule: whatever changes the markers or the switch forgets
the version, and only a parse that came to the end notes one.
-/

namespace Waymark

/-! ## What is held -/

namespace Provider

/-- A provider as it is made, before it has parsed anything. -/
def IsFresh (p : Provider LineMatcher) : Prop :=
  (∃ m, p = ofMarkers m) ∨ ∃ prefs, p = ofPreferences prefs

/-- What is kept is the whole parse of a document by the current markers, with its outline. -/
structure Holds (p : Provider LineMatcher) (d : Document) : Prop where
  parsed_eq : (ParseRun.ofLines (LineMatcher.ofMarkers p.matcher.markers) .never d.lines).outcome.parsed? =
    some p.parsed
  outline_eq : p.outline = .ofParsed p.parsed d.revision

structure Blank (p : Provider LineMatcher) : Prop where
  version_eq : p.version = none
  regions_eq : p.parsed.regions = []
  tags_eq : p.parsed.tags = []
  symbols_eq : p.outline.symbols = []
  folding_eq : p.outline.folding = []

/-- What is kept goes with the version that is noted, for documents that have been seen. -/
structure Coherent (Seen : Document → Prop) (p : Provider LineMatcher) : Prop where
  matcher_eq : p.matcher = .ofMarkers p.matcher.markers
  seen : ∀ v, p.version = some v → ∃ d, Seen d ∧ d.version = v
  holds : ∀ d, Seen d → p.version = some d.version → p.Holds d
  blank : p.enabled = false → p.Blank

/-- A property of providers that no setting and no clearing takes away. -/
structure KeptBySettings (I : Provider LineMatcher → Prop) : Prop where
  setMarkers : ∀ p, I p → ∀ m, I (p.setMarkers m)
  setEnabled : ∀ p, I p → ∀ enabled, I (p.setEnabled enabled)
  setHighlight : ∀ p, I p → ∀ highlight, I (p.setHighlight highlight)
  clear : ∀ p, I p → I p.clear

theorem KeptBySettings.applyPreferences {I : Provider LineMatcher → Prop} (hI : KeptBySettings I)
    {p : Provider LineMatcher} (h : I p) (prefs : Preferences) : I (p.applyPreferences prefs) :=
  hI.setHighlight _ (hI.setEnabled _ (hI.setMarkers p h prefs.markers) prefs.enabled) prefs.highlight

theorem Holds.of_text_eq {p : Provider LineMatcher} {d d' : Document} (h : p.Holds d)
    (hversion : d.version = d'.version) (htext : d.text = d'.text) : p.Holds d' := by
  have hrevision : d.revision = d'.revision := congrArg Version.revision hversion
  have hlines : d.lines = d'.lines := by
    simp only [Document.lines, Document.rawLines, Document.chars, htext]
  refine ⟨?_, ?_⟩
  · rw [← hlines]
    exact h.parsed_eq
  · rw [← hrevision]
    exact h.outline_eq

section

variable {Seen : Document → Prop} {p : Provider LineMatcher}

theorem Coherent.of_version_none (hmatcher : p.matcher = .ofMarkers p.matcher.markers)
    (hversion : p.version = none) (hblank : p.enabled = false → p.Blank) : p.Coherent Seen := by
  refine ⟨hmatcher, ?_, ?_, hblank⟩
  · intro v hv
    rw [hversion] at hv
    cases hv
  · intro d _ hv
    rw [hversion] at hv
    cases hv

theorem IsFresh.coherent (h : p.IsFresh) : p.Coherent Seen := by
  rcases h with ⟨m, rfl⟩ | ⟨prefs, rfl⟩ <;>
    exact .of_version_none rfl rfl fun _ => ⟨rfl, rfl, rfl, rfl, rfl⟩

/-- Documents that come to be seen bring no text of their own to the version that is noted. -/
theorem Coherent.mono (h : p.Coherent Seen) {Seen' : Document → Prop} (hmono : ∀ d, Seen d → Seen' d)
    (htext : ∀ d d', Seen' d → Seen' d' → d.version = d'.version → d.text = d'.text) :
    p.Coherent Seen' := by
  refine ⟨h.matcher_eq, ?_, ?_, h.blank⟩
  · intro v hv
    obtain ⟨d, hd, hversion⟩ := h.seen v hv
    exact ⟨d, hmono d hd, hversion⟩
  · intro d' hd' hv
    obtain ⟨d, hd, hversion⟩ := h.seen d'.version hv
    refine (h.holds d hd (by rw [hv, hversion])).of_text_eq hversion ?_
    exact htext d d' (hmono d hd) hd' hversion

theorem Coherent.clear (h : p.Coherent Seen) : p.clear.Coherent Seen :=
  .of_version_none h.matcher_eq rfl fun _ => ⟨rfl, rfl, rfl, rfl, rfl⟩

theorem Coherent.setEnabled (h : p.Coherent Seen) (enabled : Bool) :
    (p.setEnabled enabled).Coherent Seen := by
  unfold Provider.setEnabled
  split
  · exact h
  · exact .of_version_none h.matcher_eq rfl fun _ => ⟨rfl, rfl, rfl, rfl, rfl⟩

theorem Coherent.setHighlight (h : p.Coherent Seen) (highlight : Bool) :
    (p.setHighlight highlight).Coherent Seen :=
  ⟨h.matcher_eq, h.seen, fun d hd hv => ⟨(h.holds d hd hv).parsed_eq, (h.holds d hd hv).outline_eq⟩,
    fun hoff => let b := h.blank hoff; ⟨b.version_eq, b.regions_eq, b.tags_eq, b.symbols_eq, b.folding_eq⟩⟩

theorem Coherent.setMarkers (h : p.Coherent Seen) (m : Markers) :
    (p.setMarkers m).Coherent Seen := by
  unfold Provider.setMarkers
  split
  · exact h
  · refine .of_version_none rfl rfl fun hoff => ?_
    have hblank := h.blank hoff
    exact ⟨rfl, hblank.regions_eq, hblank.tags_eq, hblank.symbols_eq, hblank.folding_eq⟩

theorem keptBySettings_coherent (Seen : Document → Prop) : KeptBySettings (Coherent Seen) :=
  ⟨fun _ h => h.setMarkers, fun _ h => h.setEnabled, fun _ h => h.setHighlight, fun _ h => h.clear⟩

theorem Coherent.applyPreferences (h : p.Coherent Seen) (prefs : Preferences) :
    (p.applyPreferences prefs).Coherent Seen :=
  (keptBySettings_coherent Seen).applyPreferences h prefs

/-! ## Updates -/

/-- Either an update leaves all as it was, or it puts the parse of the document in its place. -/
theorem update_cases (d : Document) (cancel : Cancellation) :
    ((p.update d cancel).1 = p ∧ (p.update d cancel).2.updated = false) ∨
      p.enabled = true ∧ p.version ≠ some d.version ∧ (p.update d cancel).2.updated = true ∧
        ∃ parsed, (ParseRun.ofLines p.matcher cancel d.lines).outcome.parsed? = some parsed ∧
          (p.update d cancel).1 = { p with
            version := some d.version, parsed := parsed, outline := .ofParsed parsed d.revision } := by
  by_cases hskip : (!p.enabled || p.version == some d.version) = true
  · rw [update, if_pos hskip]
    exact .inl ⟨rfl, rfl⟩
  · have hparse : p.enabled = true ∧ p.version ≠ some d.version := by simpa using hskip
    rw [update_of_parses cancel hparse.1 hparse.2]
    cases hrun : (ParseRun.ofLines p.matcher cancel d.lines).outcome.parsed? with
    | none => exact .inl ⟨rfl, rfl⟩
    | some parsed => exact .inr ⟨hparse.1, hparse.2, rfl, parsed, rfl, rfl⟩

theorem holds_of_parsed (hmatcher : p.matcher = .ofMarkers p.matcher.markers) {d : Document}
    {cancel : Cancellation} {parsed : ParsedRegions}
    (hparsed : (ParseRun.ofLines p.matcher cancel d.lines).outcome.parsed? = some parsed) :
    Holds { p with
      version := some d.version, parsed := parsed, outline := .ofParsed parsed d.revision } d := by
  refine ⟨?_, rfl⟩
  change (ParseRun.ofLines (LineMatcher.ofMarkers p.matcher.markers) .never d.lines).outcome.parsed? = _
  rw [← hmatcher, ParseRun.outcome_never, ParseRun.parsed?_eq_some _ _ _ hparsed]
  rfl

/-- A provider that is on parses a document of another version, if nothing cancels that. -/
theorem holds_update_of_ne (hmatcher : p.matcher = .ofMarkers p.matcher.markers) {d : Document}
    {cancel : Cancellation} (hspares : cancel.Spares d.lines) (henabled : p.enabled = true)
    (hversion : p.version ≠ some d.version) : (p.update d cancel).1.Holds d := by
  rw [update_of_parses cancel henabled hversion, ParseRun.ofLines_of_spares p.matcher hspares,
    ParseRun.outcome_never]
  have hparsed : (ParseRun.ofLines p.matcher .never d.lines).outcome.parsed? =
      some (pairingAt (MatchesLines.matchLine p.matcher) d.lines d.lines.length).parsed := by
    rw [ParseRun.outcome_never]
    rfl
  exact holds_of_parsed hmatcher hparsed

theorem Coherent.update (h : p.Coherent Seen) {d : Document} (hd : Seen d) (cancel : Cancellation)
    (htext : ∀ d d', Seen d → Seen d' → d.version = d'.version → d.text = d'.text) :
    (p.update d cancel).1.Coherent Seen := by
  rcases p.update_cases d cancel with ⟨hsame, _⟩ | ⟨henabled, _, _, parsed, hparsed, hnew⟩
  · rw [hsame]
    exact h
  · rw [hnew]
    have hholds := holds_of_parsed h.matcher_eq hparsed
    refine ⟨h.matcher_eq, ?_, ?_, ?_⟩
    · intro v hv
      exact ⟨d, hd, Option.some.inj hv⟩
    · intro d' hd' hv
      have hversion : d.version = d'.version := Option.some.inj hv
      exact hholds.of_text_eq hversion (htext d d' hd hd' hversion)
    · intro hoff
      rw [henabled] at hoff
      cases hoff

/-- Once a provider that is on has been updated, it holds the parse of the document. -/
theorem Coherent.holds_update (h : p.Coherent Seen) {d : Document} (hd : Seen d)
    {cancel : Cancellation} (hspares : cancel.Spares d.lines) (henabled : p.enabled = true) :
    (p.update d cancel).1.Holds d := by
  by_cases hversion : p.version = some d.version
  · have hskip : (!p.enabled || p.version == some d.version) = true := by simp [hversion]
    rw [Provider.update, if_pos hskip]
    exact h.holds d hd hversion
  · exact holds_update_of_ne h.matcher_eq hspares henabled hversion

end

end Provider

/-! ## Whole runs -/

/-- Documents and a provider that is asked about them. -/
structure Desk where
  workspace : Workspace := {}
  provider : Provider LineMatcher

/-- What happens to the documents or to the provider. -/
inductive DeskEvent
  | document (event : DocumentEvent)
  | update (i : Nat) (cancel : Cancellation)
  | setMarkers (m : Markers)
  | applyPreferences (prefs : Preferences)
  | setEnabled (enabled : Bool)
  | setHighlight (highlight : Bool)
  | clear

namespace Desk

def update (k : Desk) (i : Nat) (cancel : Cancellation) : Desk :=
  match k.workspace.documents[i]? with
  | none => k
  | some d => { k with provider := (k.provider.update d cancel).1 }

def step (k : Desk) : DeskEvent → Desk
  | .document event => { k with workspace := k.workspace.step event }
  | .update i cancel => k.update i cancel
  | .setMarkers m => { k with provider := k.provider.setMarkers m }
  | .applyPreferences prefs => { k with provider := k.provider.applyPreferences prefs }
  | .setEnabled enabled => { k with provider := k.provider.setEnabled enabled }
  | .setHighlight highlight => { k with provider := k.provider.setHighlight highlight }
  | .clear => { k with provider := k.provider.clear }

def after (p : Provider LineMatcher) (events : List DeskEvent) : Desk :=
  events.foldl step { provider := p }

end Desk

theorem Desk.provider_update_cases (k : Desk) (i : Nat) (cancel : Cancellation) :
    (k.update i cancel).provider = k.provider ∨
      ∃ d ∈ k.workspace.documents, (k.update i cancel).provider = (k.provider.update d cancel).1 := by
  unfold update
  split
  · exact .inl rfl
  · rename_i d hd
    exact .inr ⟨d, Array.mem_of_getElem? hd, rfl⟩

/-- What no setting takes away is kept by a step, if updates with the documents keep it. -/
theorem Provider.KeptBySettings.step {I : Provider LineMatcher → Prop} (hI : KeptBySettings I)
    {k : Desk} (h : I k.provider)
    (hupdate : ∀ d ∈ k.workspace.documents, ∀ cancel, I (k.provider.update d cancel).1)
    (event : DeskEvent) : I (k.step event).provider := by
  cases event with
  | document event => exact h
  | update i cancel =>
      change I (k.update i cancel).provider
      rcases k.provider_update_cases i cancel with hsame | ⟨d, hd, hnew⟩
      · rw [hsame]
        exact h
      · rw [hnew]
        exact hupdate d hd cancel
  | setMarkers m => exact hI.setMarkers _ h m
  | applyPreferences prefs => exact hI.applyPreferences h prefs
  | setEnabled enabled => exact hI.setEnabled _ h enabled
  | setHighlight highlight => exact hI.setHighlight _ h highlight
  | clear => exact hI.clear _ h

theorem Provider.Coherent.step {k : Desk} {Seen : Document → Prop} (h : k.provider.Coherent Seen)
    (hseen : ∀ d ∈ k.workspace.documents, Seen d)
    (htext : ∀ d d', Seen d → Seen d' → d.version = d'.version → d.text = d'.text) (event : DeskEvent) :
    (k.step event).provider.Coherent Seen :=
  (keptBySettings_coherent Seen).step h (fun d hd cancel => h.update (hseen d hd) cancel htext) event

def DeskEvent.document? : DeskEvent → Option DocumentEvent
  | .document event => some event
  | .update _ _ => none
  | .setMarkers _ => none
  | .applyPreferences _ => none
  | .setEnabled _ => none
  | .setHighlight _ => none
  | .clear => none

def documentEvents (events : List DeskEvent) : List DocumentEvent :=
  events.filterMap DeskEvent.document?

theorem documentEvents_snoc (events : List DeskEvent) (event : DeskEvent) :
    documentEvents (events ++ [event]) = documentEvents events ++ event.document?.toList := by
  rw [documentEvents, List.filterMap_append]
  cases event <;> rfl

namespace Desk

variable {p : Provider LineMatcher}

theorem after_snoc (p : Provider LineMatcher) (events : List DeskEvent) (event : DeskEvent) :
    after p (events ++ [event]) = (after p events).step event := by
  simp [after]

theorem workspace_step (k : Desk) (event : DeskEvent) :
    (k.step event).workspace = event.document?.toList.foldl Workspace.step k.workspace := by
  cases event with
  | update i cancel =>
      change (k.update i cancel).workspace = k.workspace
      unfold update
      split <;> rfl
  | _ => rfl

theorem workspace_after (p : Provider LineMatcher) (events : List DeskEvent) :
    (after p events).workspace = Workspace.after (documentEvents events) := by
  induction events using List.reverseRecOn with
  | nil => rfl
  | append_singleton events event ih =>
      rw [after_snoc, workspace_step, ih, documentEvents_snoc, Workspace.after, Workspace.after,
        List.foldl_append]

theorem coherent_step {events : List DeskEvent} {event : DeskEvent}
    (h : (after p events).provider.Coherent (Workspace.Seen (documentEvents events)))
    (hnumbered : Workspace.Numbered (documentEvents (events ++ [event]))) :
    (after p (events ++ [event])).provider.Coherent
      (Workspace.Seen (documentEvents (events ++ [event]))) := by
  have hgrown : (after p events).provider.Coherent
      (Workspace.Seen (documentEvents (events ++ [event]))) := by
    refine h.mono ?_ hnumbered.text_eq
    intro d hd
    rw [documentEvents_snoc]
    exact hd.append _
  rw [after_snoc]
  refine hgrown.step (fun d hd => ?_) hnumbered.text_eq event
  rw [workspace_after] at hd
  rw [documentEvents_snoc]
  exact (Workspace.Seen.of_mem hd).append _

theorem coherent_after (hp : p.IsFresh) (events : List DeskEvent)
    (hfew : ∀ i, (documentEvents events).countP (DocumentEvent.edits i) < UInt64.size) :
    (after p events).provider.Coherent (Workspace.Seen (documentEvents events)) := by
  induction events using List.reverseRecOn with
  | nil => exact hp.coherent
  | append_singleton events event ih =>
      refine coherent_step (ih fun i => ?_) (Workspace.numbered_after _ hfew)
      have hi := hfew i
      rw [documentEvents_snoc, List.countP_append] at hi
      omega

/-- However documents are made and edited and the provider is set and updated in between: a version that is
noted is that of a document that has been there, and what is kept is its parse by the current markers; a
provider that is off keeps nothing; an update that reports nothing new changes nothing; and an update that
is not cancelled leaves a provider that is on with the parse of the text as it is. -/
theorem memo_after (hp : p.IsFresh) (events : List DeskEvent)
    (hfew : ∀ i, (documentEvents events).countP (DocumentEvent.edits i) < UInt64.size) :
    let k := after p events
    (∀ v, k.provider.version = some v →
      (∃ d, Workspace.Seen (documentEvents events) d ∧ d.version = v) ∧
        ∀ d, Workspace.Seen (documentEvents events) d → d.version = v → k.provider.Holds d) ∧
    (k.provider.enabled = false → k.provider.Blank) ∧
    (∀ d cancel, (k.provider.update d cancel).2.updated = false →
      (k.provider.update d cancel).1 = k.provider) ∧
    ∀ d ∈ k.workspace.documents, ∀ cancel : Cancellation, cancel.Spares d.lines →
      k.provider.enabled = true → (k.provider.update d cancel).1.Holds d := by
  intro k
  have hcoherent := coherent_after hp events hfew
  refine ⟨?_, hcoherent.blank, ?_, ?_⟩
  · intro v hv
    refine ⟨hcoherent.seen v hv, ?_⟩
    intro d hd hversion
    exact hcoherent.holds d hd (by rw [hversion]; exact hv)
  · intro d cancel hupdated
    rcases k.provider.update_cases d cancel with ⟨hsame, _⟩ | ⟨_, _, hnew, _⟩
    · exact hsame
    · rw [hupdated] at hnew
      cases hnew
  · intro d hd cancel hspares henabled
    have hseen : Workspace.Seen (documentEvents events) d := by
      rw [workspace_after] at hd
      exact .of_mem hd
    exact hcoherent.holds_update hseen hspares henabled

/-- Two documents are parsed in turn, with other markers and an edit in between, and a parse of the one
that was edited is cancelled. -/
theorem memo_after_two_documents :
    let events : List DeskEvent :=
      [.document (.create "#tag a"), .document (.create "<<< b\n>>>"), .update 0 .never,
        .setMarkers ⟨"<<<", ">>>", "@@", true⟩, .update 1 .never,
        .document (.edit 1 (.setText "<<< c\n>>>")), .update 1 .already]
    let k := after (.ofMarkers {}) events
    (∃ d ∈ k.workspace.documents, d.text = "<<< c\n>>>" ∧ k.provider.version = some ⟨2, 0⟩ ∧
      (k.provider.update d .never).1.Holds d) ∧
      ∃ d, Workspace.Seen (documentEvents events) d ∧ k.provider.Holds d := by
  intro events k
  have hfew : ∀ i, (documentEvents events).countP (DocumentEvent.edits i) < UInt64.size :=
    fun i => Nat.lt_of_le_of_lt List.countP_le_length (by decide)
  obtain ⟨hmemo, _, _, hupdate⟩ := memo_after (.inl ⟨{}, rfl⟩) events hfew
  have hversion : k.provider.version = some ⟨2, 0⟩ := by decide +kernel
  have henabled : k.provider.enabled = true := by decide +kernel
  have hdocument : ∃ d ∈ k.workspace.documents, d.text = "<<< c\n>>>" := by decide +kernel
  obtain ⟨d, hd, htext⟩ := hdocument
  obtain ⟨⟨seen, hseen, hsame⟩, hholds⟩ := hmemo _ hversion
  exact ⟨⟨d, hd, htext, hversion, hupdate d hd .never (Cancellation.spares_never _) henabled⟩,
    seen, hseen, hholds seen hseen hsame⟩

end Desk

end Waymark
