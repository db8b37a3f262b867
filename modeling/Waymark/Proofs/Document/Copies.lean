import Mathlib.Data.List.Infix
import Waymark.Proofs.Document.Versions

/-!
# Copies of documents

A copy has the identity and the revision of its original, and from there both are edited apart. A document
has been overtaken if one of its identity has come to a later revision. The next edit then gives it a version
that has been given before, and no other edit does. So every version stands for one text exactly as long as
those who edit a document that has been overtaken come to the text that its new version has already. Without
copies nothing is overtaken.
-/

namespace Waymark

/-- What happens to the documents of a workspace where they are copied, too. -/
inductive WorkspaceEvent
  | document (event : DocumentEvent)
  | copy (i : Nat)
  deriving DecidableEq, Repr

def WorkspaceEvent.isEdit : WorkspaceEvent → Bool
  | .document (.create _) => false
  | .document (.edit _ _) => true
  | .copy _ => false

/-- No version of the documents stands for two texts. -/
def OneTextEach (documents : List Document) : Prop :=
  ∀ d ∈ documents, ∀ d' ∈ documents, d.version = d'.version → d.text = d'.text

instance (documents : List Document) : Decidable (OneTextEach documents) :=
  inferInstanceAs (Decidable (∀ d ∈ documents, ∀ d' ∈ documents, _ → _))

theorem OneTextEach.mono {documents more : List Document} (h : OneTextEach more)
    (hsubset : documents ⊆ more) : OneTextEach documents :=
  fun d hd d' hd' => h d (hsubset hd) d' (hsubset hd')

namespace Workspace

def stepCopying (w : Workspace) : WorkspaceEvent → Workspace
  | .document event => w.step event
  | .copy i => w.copy i

def ofEvents (events : List WorkspaceEvent) : Workspace := events.foldl stepCopying {}

/-- All states in which the documents have been. -/
def history (events : List WorkspaceEvent) : List Document :=
  events.inits.flatMap fun earlier => (ofEvents earlier).documents.toList

/-- A document of the same identity has come to a later revision. -/
def Overtaken (past : List Document) (d : Document) : Prop :=
  ∃ d' ∈ past, d'.id = d.id ∧ d.revision < d'.revision

instance (past : List Document) (d : Document) : Decidable (Overtaken past d) :=
  inferInstanceAs (Decidable (∃ d' ∈ past, _ ∧ _))

/-- If the event edits a document that has been overtaken, it gives it the text that its new version has
already. -/
def Rejoins (events : List WorkspaceEvent) : WorkspaceEvent → Prop
  | .document (.edit i e) =>
    ∀ d ∈ (ofEvents events).documents[i]?, Overtaken (history events) d →
      ∀ d' ∈ history events, d'.version = (d.edit e).version → d'.text = (d.edit e).text
  | .document (.create _) => True
  | .copy _ => True

instance (events : List WorkspaceEvent) (event : WorkspaceEvent) : Decidable (Rejoins events event) :=
  match event with
  | .document (.edit _ _) => inferInstanceAs (Decidable (∀ d ∈ _, _ → ∀ d' ∈ _, _ → _))
  | .document (.create _) => inferInstanceAs (Decidable True)
  | .copy _ => inferInstanceAs (Decidable True)

/-- Whenever a document that has been overtaken is edited, it rejoins those ahead of it. -/
def Unforked (events : List WorkspaceEvent) : Prop :=
  ∀ (n : Nat) (h : n < events.length), Rejoins (events.take n) events[n]

instance (events : List WorkspaceEvent) : Decidable (Unforked events) :=
  inferInstanceAs (Decidable (∀ (n : Nat) (_ : n < events.length), _))

/-! ## One event -/

/-- The state of a document that an event makes. -/
def made (w : Workspace) : WorkspaceEvent → Option Document
  | .document (.create text) => some { id := w.nextId, text := text }
  | .document (.edit i e) => w.documents[i]?.map fun d => d.edit e
  | .copy i => w.documents[i]?

theorem made_cases {w : Workspace} {event : WorkspaceEvent} {d : Document} (h : d ∈ w.made event) :
    (∃ text, event = .document (.create text) ∧ d = { id := w.nextId, text := text }) ∨
      (∃ i e, ∃ old ∈ w.documents, w.documents[i]? = some old ∧ event = .document (.edit i e) ∧
        d = old.edit e) ∨
      d ∈ w.documents := by
  match event with
  | .document (.create text) => exact .inl ⟨text, rfl, (Option.mem_some.mp h).symm⟩
  | .document (.edit i e) =>
      obtain ⟨old, hold, rfl⟩ := Option.map_eq_some_iff.mp h
      exact .inr (.inl ⟨i, e, old, Array.mem_of_getElem? hold, hold, rfl, rfl⟩)
  | .copy i => exact .inr (.inr (Array.mem_of_getElem? h))

theorem mem_stepCopying {w : Workspace} {event : WorkspaceEvent} {d : Document} :
    d ∈ (w.stepCopying event).documents → d ∈ w.documents ∨ d ∈ w.made event := by
  match event with
  | .document (.create text) =>
      intro h
      rcases Array.mem_push.mp h with h | rfl
      · exact .inl h
      · exact .inr rfl
  | .document (.edit i e) =>
      intro h
      obtain ⟨j, hj⟩ := Array.mem_iff_getElem?.mp h
      change (w.documents.modify i _)[j]? = _ at hj
      rw [Array.getElem?_modify] at hj
      split at hj
      · subst j
        exact .inr hj
      · exact .inl (Array.mem_of_getElem? hj)
  | .copy i =>
      intro h
      simp only [stepCopying, copy] at h
      split at h
      · rename_i original horiginal
        rcases Array.mem_push.mp h with h | rfl
        · exact .inl h
        · exact .inr horiginal
      · exact .inl h

theorem mem_stepCopying_of_made {w : Workspace} {event : WorkspaceEvent} {d : Document}
    (h : d ∈ w.made event) : d ∈ (w.stepCopying event).documents := by
  match event with
  | .document (.create text) =>
      cases h
      exact Array.mem_push_self
  | .document (.edit i e) =>
      refine Array.mem_of_getElem? (i := i) ?_
      change (w.documents.modify i _)[i]? = _
      rw [Array.getElem?_modify, if_pos rfl]
      exact h
  | .copy i =>
      have hcopy : w.documents[i]? = some d := h
      simp only [stepCopying, copy, hcopy]
      exact Array.mem_push_self

theorem ofEvents_snoc (events : List WorkspaceEvent) (event : WorkspaceEvent) :
    ofEvents (events ++ [event]) = (ofEvents events).stepCopying event := by
  simp [ofEvents]

theorem mem_history {events : List WorkspaceEvent} {d : Document} :
    d ∈ history events ↔ ∃ earlier, earlier <+: events ∧ d ∈ (ofEvents earlier).documents := by
  simp [history]

theorem mem_history_of_mem {events : List WorkspaceEvent} {d : Document}
    (h : d ∈ (ofEvents events).documents) : d ∈ history events :=
  mem_history.mpr ⟨events, List.prefix_refl events, h⟩

theorem history_subset (events more : List WorkspaceEvent) :
    history events ⊆ history (events ++ more) := by
  intro d hd
  obtain ⟨earlier, hprefix, hd⟩ := mem_history.mp hd
  exact mem_history.mpr ⟨earlier, hprefix.trans (List.prefix_append events more), hd⟩

theorem mem_history_snoc {events : List WorkspaceEvent} {event : WorkspaceEvent} {d : Document} :
    d ∈ history (events ++ [event]) ↔ d ∈ history events ∨ d ∈ (ofEvents events).made event := by
  constructor
  · intro h
    obtain ⟨earlier, hprefix, hd⟩ := mem_history.mp h
    rcases List.prefix_concat_iff.mp hprefix with rfl | hprefix
    · rw [ofEvents_snoc] at hd
      exact (mem_stepCopying hd).imp_left mem_history_of_mem
    · exact .inl (mem_history.mpr ⟨earlier, hprefix, hd⟩)
  · rintro (h | h)
    · exact history_subset events [event] h
    · refine mem_history_of_mem ?_
      rw [ofEvents_snoc]
      exact mem_stepCopying_of_made h

/-! ## Versions that have been given -/

/-- Which versions have been given: those of the identities so far, and up to its revision all of each
document. -/
structure Issued (events : List WorkspaceEvent) : Prop where
  id_lt : ∀ d ∈ history events, d.id < (ofEvents events).nextId
  revision_le : ∀ d ∈ history events, d.revision.toNat ≤ events.countP WorkspaceEvent.isEdit
  earlier : ∀ d ∈ history events, ∀ r < d.revision, ∃ d' ∈ history events, d'.version = ⟨d.id, r⟩

theorem issued_nil : Issued [] := by
  have hnone : ∀ d, d ∉ history [] := by simp [history, ofEvents]
  exact ⟨fun d hd => absurd hd (hnone d), fun d hd => absurd hd (hnone d),
    fun d hd => absurd hd (hnone d)⟩

theorem nextId_le_stepCopying (w : Workspace) (event : WorkspaceEvent) :
    w.nextId ≤ (w.stepCopying event).nextId := by
  match event with
  | .document (.create text) => exact Nat.le_succ _
  | .document (.edit i e) => exact Nat.le_refl _
  | .copy i =>
      simp only [stepCopying, copy]
      split <;> exact Nat.le_refl _

variable {events : List WorkspaceEvent}

theorem Issued.toNat_edit (h : Issued events) {d : Document} (hd : d ∈ history events) (e : DocumentEdit)
    (hfew : events.countP WorkspaceEvent.isEdit + 1 < UInt64.size) :
    (d.edit e).revision.toNat = d.revision.toNat + 1 :=
  toNat_revision_edit e (Nat.lt_of_le_of_lt (Nat.add_le_add_right (h.revision_le d hd) 1) hfew)

/-- A state of a document that comes with an event has been there, or is that of a new document, or is one
revision ahead of a state that has been there. -/
theorem Issued.mem_snoc (h : Issued events) {event : WorkspaceEvent}
    (hfew : (events ++ [event]).countP WorkspaceEvent.isEdit < UInt64.size) {d : Document}
    (hd : d ∈ history (events ++ [event])) :
    d ∈ history events ∨
      (d.id < (ofEvents (events ++ [event])).nextId ∧ d.revision = 0) ∨
      ∃ old ∈ history events, d.id = old.id ∧ d.revision.toNat = old.revision.toNat + 1 ∧
        (events ++ [event]).countP WorkspaceEvent.isEdit =
          events.countP WorkspaceEvent.isEdit + 1 := by
  rcases mem_history_snoc.mp hd with hd | hd
  · exact .inl hd
  · rcases made_cases hd with ⟨text, rfl, rfl⟩ | ⟨i, e, old, hold, _, rfl, rfl⟩ | hd
    · refine .inr (.inl ⟨?_, rfl⟩)
      rw [ofEvents_snoc]
      exact Nat.lt_succ_self _
    · have hold := mem_history_of_mem hold
      have hcount : (events ++ [WorkspaceEvent.document (.edit i e)]).countP WorkspaceEvent.isEdit =
          events.countP WorkspaceEvent.isEdit + 1 := by
        simp [WorkspaceEvent.isEdit]
      exact .inr (.inr ⟨old, hold, id_edit old e, h.toNat_edit hold e (hcount ▸ hfew), hcount⟩)
    · exact .inl (mem_history_of_mem hd)

theorem Issued.step (h : Issued events) (event : WorkspaceEvent)
    (hfew : (events ++ [event]).countP WorkspaceEvent.isEdit < UInt64.size) :
    Issued (events ++ [event]) := by
  have hnext : (ofEvents events).nextId ≤ (ofEvents (events ++ [event])).nextId := by
    rw [ofEvents_snoc]
    exact nextId_le_stepCopying _ _
  have hmono : events.countP WorkspaceEvent.isEdit ≤ (events ++ [event]).countP WorkspaceEvent.isEdit := by
    rw [List.countP_append]
    exact Nat.le_add_right _ _
  have hkept := history_subset events [event]
  have hbefore : ∀ d ∈ history events, ∀ r < d.revision,
      ∃ d' ∈ history (events ++ [event]), d'.version = ⟨d.id, r⟩ := by
    intro d hd r hr
    obtain ⟨d', hd', hversion⟩ := h.earlier d hd r hr
    exact ⟨d', hkept hd', hversion⟩
  refine ⟨?_, ?_, ?_⟩
  · intro d hd
    rcases h.mem_snoc hfew hd with hd | ⟨hid, _⟩ | ⟨old, hold, hid, _, _⟩
    · exact Nat.lt_of_lt_of_le (h.id_lt d hd) hnext
    · exact hid
    · rw [hid]
      exact Nat.lt_of_lt_of_le (h.id_lt old hold) hnext
  · intro d hd
    rcases h.mem_snoc hfew hd with hd | ⟨_, hzero⟩ | ⟨old, hold, _, hrevision, hcount⟩
    · exact Nat.le_trans (h.revision_le d hd) hmono
    · rw [hzero]
      exact Nat.zero_le _
    · rw [hrevision, hcount]
      exact Nat.add_le_add_right (h.revision_le old hold) 1
  · intro d hd r hr
    rcases h.mem_snoc hfew hd with hd | ⟨_, hzero⟩ | ⟨old, hold, hid, hrevision, _⟩
    · exact hbefore d hd r hr
    · rw [hzero] at hr
      exact absurd hr UInt64.not_lt_zero
    · rw [hid]
      by_cases heq : r = old.revision
      · exact ⟨old, hkept hold, by rw [heq]; rfl⟩
      · refine hbefore old hold r ?_
        have hne : r.toNat ≠ old.revision.toNat := fun h => heq (UInt64.toNat_inj.mp h)
        rw [UInt64.lt_iff_toNat_lt] at hr ⊢
        omega

theorem issued_of_few (events : List WorkspaceEvent)
    (hfew : events.countP WorkspaceEvent.isEdit < UInt64.size) : Issued events := by
  induction events using List.reverseRecOn with
  | nil => exact issued_nil
  | append_singleton events event ih =>
      refine (ih ?_).step event hfew
      rw [List.countP_append] at hfew
      omega

/-- An edit gives a version that has been given before if and only if the document has been overtaken. -/
theorem Issued.overtaken_iff (h : Issued events) {d : Document} (hd : d ∈ history events)
    (e : DocumentEdit) (hfew : events.countP WorkspaceEvent.isEdit + 1 < UInt64.size) :
    Overtaken (history events) d ↔ ∃ d' ∈ history events, d'.version = (d.edit e).version := by
  have hnext := h.toNat_edit hd e hfew
  constructor
  · rintro ⟨ahead, hahead, hid, hlt⟩
    rw [UInt64.lt_iff_toNat_lt] at hlt
    have hversion : (d.edit e).version = ⟨ahead.id, (d.edit e).revision⟩ := by
      rw [hid, ← id_edit d e]
      rfl
    rw [hversion]
    by_cases heq : (d.edit e).revision = ahead.revision
    · exact ⟨ahead, hahead, by rw [heq]; rfl⟩
    · have hne : (d.edit e).revision.toNat ≠ ahead.revision.toNat :=
        fun h => heq (UInt64.toNat_inj.mp h)
      refine h.earlier ahead hahead _ ?_
      rw [UInt64.lt_iff_toNat_lt]
      omega
  · rintro ⟨d', hd', hversion⟩
    have hid : d'.id = (d.edit e).id := congrArg Version.id hversion
    have hrevision : d'.revision = (d.edit e).revision := congrArg Version.revision hversion
    refine ⟨d', hd', by rw [hid, id_edit], ?_⟩
    rw [UInt64.lt_iff_toNat_lt, hrevision, hnext]
    exact Nat.lt_succ_self _

/-! ## Versions and texts -/

theorem Issued.oneTextEach_snoc_iff (h : Issued events) (event : WorkspaceEvent)
    (hfew : (events ++ [event]).countP WorkspaceEvent.isEdit < UInt64.size) :
    OneTextEach (history (events ++ [event])) ↔ OneTextEach (history events) ∧ Rejoins events event := by
  have hkept := history_subset events [event]
  constructor
  · intro htext
    refine ⟨htext.mono hkept, ?_⟩
    match event with
    | .document (.create _) => trivial
    | .copy _ => trivial
    | .document (.edit i e) =>
        intro d hd _ d' hd' hversion
        refine htext d' (hkept hd') (d.edit e) ?_ hversion
        exact mem_history_snoc.mpr (.inr (Option.map_eq_some_iff.mpr ⟨d, hd, rfl⟩))
  · rintro ⟨htext, hrejoins⟩
    have hnew : ∀ d' ∈ (ofEvents events).made event, ∀ d ∈ history events, d.version = d'.version →
        d.text = d'.text := by
      intro d' hd' d hd hversion
      rcases made_cases hd' with ⟨text, _, rfl⟩ | ⟨i, e, old, hold, hget, rfl, rfl⟩ | hd'
      · -- no document has had the identity before
        have hid : d.id = (ofEvents events).nextId := congrArg Version.id hversion
        exact absurd (h.id_lt d hd) (by rw [hid]; exact Nat.lt_irrefl _)
      · have hroom : events.countP WorkspaceEvent.isEdit + 1 < UInt64.size := by
          simpa [WorkspaceEvent.isEdit] using hfew
        have hovertaken := (h.overtaken_iff (mem_history_of_mem hold) e hroom).mpr ⟨d, hd, hversion⟩
        exact hrejoins old hget hovertaken d hd hversion
      · exact htext d hd d' (mem_history_of_mem hd') hversion
    intro d hd d' hd' hversion
    rcases mem_history_snoc.mp hd with hd | hd <;> rcases mem_history_snoc.mp hd' with hd' | hd'
    · exact htext d hd d' hd' hversion
    · exact hnew d' hd' d hd hversion
    · exact (hnew d hd d' hd' hversion.symm).symm
    · exact congrArg Document.text (Option.mem_unique hd hd')

theorem unforked_snoc_iff (event : WorkspaceEvent) :
    Unforked (events ++ [event]) ↔ Unforked events ∧ Rejoins events event := by
  constructor
  · intro h
    refine ⟨?_, ?_⟩
    · intro n hn
      have hat := h n (by simp; omega)
      rwa [List.take_append_of_le_length hn.le, List.getElem_append_left hn] at hat
    · have hat := h events.length (by simp)
      rwa [List.take_left, List.getElem_concat_length rfl] at hat
  · rintro ⟨h, hlast⟩ n hn
    by_cases hlt : n < events.length
    · rw [List.take_append_of_le_length hlt.le, List.getElem_append_left hlt]
      exact h n hlt
    · have hend : n = events.length := by
        rw [List.length_append, List.length_singleton] at hn
        omega
      subst hend
      rw [List.take_left, List.getElem_concat_length rfl]
      exact hlast

/-- In all that has happened, a version has stood for one text exactly if the documents have not forked. -/
theorem oneTextEach_history_iff (events : List WorkspaceEvent)
    (hfew : events.countP WorkspaceEvent.isEdit < UInt64.size) :
    OneTextEach (history events) ↔ Unforked events := by
  induction events using List.reverseRecOn with
  | nil => simp [OneTextEach, history, ofEvents, Unforked]
  | append_singleton events event ih =>
      have hbefore : events.countP WorkspaceEvent.isEdit < UInt64.size := by
        rw [List.countP_append] at hfew
        omega
      rw [(issued_of_few events hbefore).oneTextEach_snoc_iff event hfew, unforked_snoc_iff, ih hbefore]

/-! ## Documents without copies -/

theorem ofEvents_map_document (events : List DocumentEvent) :
    ofEvents (events.map .document) = after events := by
  rw [ofEvents, List.foldl_map, after]
  rfl

theorem mem_history_map_document {events : List DocumentEvent} {d : Document} :
    d ∈ history (events.map .document) ↔ Seen events d := by
  rw [mem_history]
  constructor
  · rintro ⟨_, hprefix, hd⟩
    obtain ⟨earlier, hearlier, rfl⟩ := List.prefix_map_iff.mp hprefix
    rw [ofEvents_map_document] at hd
    exact ⟨earlier, hearlier, hd⟩
  · rintro ⟨earlier, hprefix, hd⟩
    refine ⟨earlier.map .document, hprefix.map _, ?_⟩
    rw [ofEvents_map_document]
    exact hd

/-- Documents that are never copied do not fork. -/
theorem unforked_map_document (events : List DocumentEvent)
    (hfew : (events.map .document).countP WorkspaceEvent.isEdit < UInt64.size) :
    Unforked (events.map .document) := by
  have hfewEach : ∀ i, events.countP (DocumentEvent.edits i) < UInt64.size := by
    intro i
    rw [List.countP_map] at hfew
    refine Nat.lt_of_le_of_lt (List.countP_mono_left fun event _ hedits => ?_) hfew
    cases event with
    | create text => cases hedits
    | edit j e => rfl
  refine (oneTextEach_history_iff _ hfew).mp fun d hd d' hd' => ?_
  exact (numbered_after events hfewEach).text_eq d d' (mem_history_map_document.mp hd)
    (mem_history_map_document.mp hd')

end Workspace

end Waymark
