import Mathlib.Data.List.Induction
import Waymark.Document

/-!
# Versions of documents

As long as documents are made from texts and edited, a version stands for one text: identities are handed
out once, and every edit of a document raises its revision above all that it had before. Copies are left
out, since a copy shares the version of its original and can be edited apart from it.
-/

namespace Waymark

/-- What happens to the documents of a workspace. -/
inductive DocumentEvent
  | create (text : String)
  | edit (i : Nat) (e : DocumentEdit)
  deriving DecidableEq, Repr

def DocumentEvent.edits (i : Nat) : DocumentEvent → Bool
  | .create _ => false
  | .edit j _ => i == j

namespace Workspace

def step (w : Workspace) : DocumentEvent → Workspace
  | .create text => w.create text
  | .edit i e => w.edit i e

def after (events : List DocumentEvent) : Workspace := events.foldl step {}

/-- A state in which a document has been at some time. -/
def Seen (events : List DocumentEvent) (d : Document) : Prop :=
  ∃ earlier, earlier <+: events ∧ d ∈ (after earlier).documents

theorem after_snoc (events : List DocumentEvent) (event : DocumentEvent) :
    after (events ++ [event]) = (after events).step event := by
  simp [after]

theorem Seen.of_mem {events : List DocumentEvent} {d : Document}
    (hd : d ∈ (after events).documents) : Seen events d :=
  ⟨events, List.prefix_refl events, hd⟩

theorem Seen.append {events : List DocumentEvent} {d : Document} (h : Seen events d)
    (more : List DocumentEvent) : Seen (events ++ more) d := by
  obtain ⟨earlier, hprefix, hd⟩ := h
  exact ⟨earlier, hprefix.trans (List.prefix_append events more), hd⟩

theorem seen_snoc {events : List DocumentEvent} {event : DocumentEvent} {d : Document} :
    Seen (events ++ [event]) d ↔ Seen events d ∨ d ∈ (after (events ++ [event])).documents := by
  constructor
  · rintro ⟨earlier, hprefix, hd⟩
    rcases List.prefix_concat_iff.mp hprefix with rfl | hprefix
    · exact .inr hd
    · exact .inl ⟨earlier, hprefix, hd⟩
  · rintro (hd | hd)
    · exact hd.append [event]
    · exact .of_mem hd

/-- What the events up to a time have made of the documents. -/
structure Numbered (events : List DocumentEvent) : Prop where
  nextId_eq : (after events).nextId = (after events).documents.size + 1
  id_eq : ∀ i d, (after events).documents[i]? = some d → d.id = i + 1
  revision_le : ∀ i d, (after events).documents[i]? = some d →
    d.revision.toNat ≤ events.countP (DocumentEvent.edits i)
  latest : ∀ d, Seen events d → ∃ (i : Nat) (d' : Document), (after events).documents[i]? = some d' ∧
    d'.id = d.id ∧ (d = d' ∨ d.revision.toNat < d'.revision.toNat)
  text_eq : ∀ d d', Seen events d → Seen events d' → d.version = d'.version → d.text = d'.text

theorem numbered_nil : Numbered [] := by
  have hnone : ∀ d, ¬ Seen [] d := by
    rintro d ⟨earlier, hprefix, hd⟩
    rw [List.prefix_nil.mp hprefix] at hd
    simp [after] at hd
  refine ⟨rfl, ?_, ?_, ?_, ?_⟩
  · simp [after]
  · simp [after]
  · exact fun d hd => absurd hd (hnone d)
  · exact fun d _ hd => absurd hd (hnone d)

section

variable {events : List DocumentEvent}

theorem seen_or_new {event : DocumentEvent} {new : Option Document}
    (hnew : ∀ (i : Nat) (d : Document), (after (events ++ [event])).documents[i]? = some d →
      (after events).documents[i]? = some d ∨ d ∈ new) {d : Document}
    (hd : Seen (events ++ [event]) d) : Seen events d ∨ d ∈ new := by
  rcases seen_snoc.mp hd with hd | hd
  · exact .inl hd
  · obtain ⟨i, hi⟩ := Array.mem_iff_getElem?.mp hd
    exact (hnew i d hi).imp_left fun hi => .of_mem (Array.mem_of_getElem? hi)

/-- A document that comes after all seen of its identity has a version of its own. -/
theorem Numbered.text_eq_snoc (h : Numbered events) {event : DocumentEvent} {new : Option Document}
    (hseen : ∀ d, Seen (events ++ [event]) d → Seen events d ∨ d ∈ new)
    (hfresh : ∀ d' ∈ new, ∀ d, Seen events d → d.id = d'.id → d.revision ≠ d'.revision)
    {d d' : Document} (hd : Seen (events ++ [event]) d) (hd' : Seen (events ++ [event]) d')
    (hversion : d.version = d'.version) : d.text = d'.text := by
  have hid : d.id = d'.id := congrArg Version.id hversion
  have hrevision : d.revision = d'.revision := congrArg Version.revision hversion
  rcases hseen d hd with hold | hnew <;> rcases hseen d' hd' with hold' | hnew'
  · exact h.text_eq d d' hold hold' hversion
  · exact absurd hrevision (hfresh d' hnew' d hold hid)
  · exact absurd hrevision.symm (hfresh d hnew d' hold' hid.symm)
  · exact congrArg Document.text (Option.mem_unique hnew hnew')

theorem Numbered.create (h : Numbered events) (text : String) :
    Numbered (events ++ [.create text]) := by
  let new : Document := { id := (after events).nextId, text := text }
  have hafter : after (events ++ [.create text]) =
      ⟨(after events).nextId + 1, (after events).documents.push new⟩ := after_snoc events _
  have hget : ∀ (i : Nat) (d : Document),
      (after (events ++ [.create text])).documents[i]? = some d →
        (after events).documents[i]? = some d ∨ i = (after events).documents.size ∧ d = new := by
    intro i d hd
    rw [hafter, Array.getElem?_push] at hd
    split at hd
    · exact .inr ⟨‹_›, (Option.some.inj hd).symm⟩
    · exact .inl hd
  have hseen : ∀ d, Seen (events ++ [.create text]) d → Seen events d ∨ d ∈ some new :=
    fun d hd => seen_or_new (fun i d hd => (hget i d hd).imp_right fun h => h.2 ▸ rfl) hd
  refine ⟨?_, ?_, ?_, ?_, fun d d' => h.text_eq_snoc hseen ?_⟩
  · rw [hafter, Array.size_push, h.nextId_eq]
  · intro i d hd
    rcases hget i d hd with hd | ⟨rfl, rfl⟩
    · exact h.id_eq i d hd
    · exact h.nextId_eq
  · intro i d hd
    rw [List.countP_append]
    rcases hget i d hd with hd | ⟨_, rfl⟩
    · exact Nat.le_add_right_of_le (h.revision_le i d hd)
    · exact Nat.zero_le _
  · intro d hd
    rcases hseen d hd with hd | hd
    · obtain ⟨i, d', hd', hlatest⟩ := h.latest d hd
      refine ⟨i, d', ?_, hlatest⟩
      have hi : i < (after events).documents.size := (Array.getElem?_eq_some_iff.mp hd').1
      rw [hafter, Array.getElem?_push, if_neg (Nat.ne_of_lt hi)]
      exact hd'
    · cases hd
      refine ⟨(after events).documents.size, new, ?_, rfl, .inl rfl⟩
      rw [hafter, Array.getElem?_push, if_pos rfl]
  · -- no document has had the identity before
    rintro d' hnew d hd hid
    cases hnew
    obtain ⟨i, d', hd', hid', _⟩ := h.latest d hd
    have hi : i < (after events).documents.size := (Array.getElem?_eq_some_iff.mp hd').1
    have heq : i + 1 = (after events).nextId := by rw [← h.id_eq i d' hd', hid', hid]
    have hnext := h.nextId_eq
    omega

theorem id_edit (d : Document) (e : DocumentEdit) : (d.edit e).id = d.id := by
  cases e <;> simp only [Document.edit, Document.setText, Document.insert, Document.replace,
    Document.splice]

theorem revision_edit (d : Document) (e : DocumentEdit) :
    (d.edit e).revision = d.revision + 1 := by
  cases e <;> simp only [Document.edit, Document.setText, Document.insert, Document.replace,
    Document.splice]

theorem toNat_revision_edit {d : Document} (e : DocumentEdit) (h : d.revision.toNat + 1 < UInt64.size) :
    (d.edit e).revision.toNat = d.revision.toNat + 1 := by
  rw [revision_edit, UInt64.toNat_add]
  exact Nat.mod_eq_of_lt h

theorem Numbered.edit (h : Numbered events) (i : Nat) (e : DocumentEdit)
    (hfew : events.countP (DocumentEvent.edits i) + 1 < UInt64.size) :
    Numbered (events ++ [DocumentEvent.edit i e]) := by
  let new : Option Document := (after events).documents[i]?.map fun d => d.edit e
  have hafter : after (events ++ [DocumentEvent.edit i e]) =
      ⟨(after events).nextId, (after events).documents.modify i fun d => d.edit e⟩ :=
    after_snoc events _
  have hget : ∀ j : Nat, (after (events ++ [DocumentEvent.edit i e])).documents[j]? =
      if i = j then new else (after events).documents[j]? := by
    intro j
    rw [hafter, Array.getElem?_modify]
    by_cases hj : i = j
    · rw [if_pos hj, if_pos hj, ← hj]
    · rw [if_neg hj, if_neg hj]
  have hseen : ∀ d, Seen (events ++ [DocumentEvent.edit i e]) d → Seen events d ∨ d ∈ new := by
    refine fun d hd => seen_or_new (fun j d hd => ?_) hd
    rw [hget] at hd
    split at hd
    · exact .inr hd
    · exact .inl hd
  have hraised : ∀ d, (after events).documents[i]? = some d →
      (d.edit e).revision.toNat = d.revision.toNat + 1 := by
    intro d hd
    have hle := h.revision_le i d hd
    exact toNat_revision_edit e (by omega)
  refine ⟨?_, ?_, ?_, ?_, fun d d' => h.text_eq_snoc hseen ?_⟩
  · rw [hafter, Array.size_modify, h.nextId_eq]
  · intro j d hd
    rw [hget] at hd
    split at hd
    · subst j
      obtain ⟨old, hold, rfl⟩ := Option.map_eq_some_iff.mp hd
      rw [id_edit, h.id_eq i old hold]
    · exact h.id_eq j d hd
  · intro j d hd
    rw [hget] at hd
    rw [List.countP_append]
    split at hd
    · subst j
      obtain ⟨old, hold, rfl⟩ := Option.map_eq_some_iff.mp hd
      have hle := h.revision_le i old hold
      have hone : [DocumentEvent.edit i e].countP (DocumentEvent.edits i) = 1 := by
        simp [DocumentEvent.edits]
      rw [hraised old hold, hone]
      omega
    · exact Nat.le_add_right_of_le (h.revision_le j d hd)
  · intro d hd
    rcases hseen d hd with hd | hd
    · obtain ⟨j, d', hd', hid, hlatest⟩ := h.latest d hd
      by_cases hj : i = j
      · subst j
        refine ⟨i, d'.edit e, ?_, (id_edit d' e).trans hid, .inr ?_⟩
        · rw [hget, if_pos rfl]
          exact Option.map_eq_some_iff.mpr ⟨d', hd', rfl⟩
        · rw [hraised d' hd']
          rcases hlatest with rfl | hlt <;> omega
      · refine ⟨j, d', ?_, hid, hlatest⟩
        rw [hget, if_neg hj, hd']
    · refine ⟨i, d, ?_, rfl, .inl rfl⟩
      rw [hget, if_pos rfl, hd]
  · -- the revision is above all that have been seen of the document
    intro d' hnew d hd hid hrevision
    obtain ⟨old, hold, rfl⟩ := Option.map_eq_some_iff.mp hnew
    obtain ⟨j, latest, hj, hid', hlatest⟩ := h.latest d hd
    have hsame : j = i := by
      have hj' := h.id_eq j latest hj
      have hi' := h.id_eq i old hold
      rw [id_edit] at hid
      omega
    subst j
    have heq : latest = old := Option.some.inj (hj.symm.trans hold)
    subst latest
    have hlt := hraised old hold
    rw [← hrevision] at hlt
    rcases hlatest with rfl | hlt' <;> omega

end

/-- Every edit of a document gives it a version that it has not had, as long as the revisions do not run
out. -/
theorem numbered_after (events : List DocumentEvent)
    (hfew : ∀ i, events.countP (DocumentEvent.edits i) < UInt64.size) : Numbered events := by
  induction events using List.reverseRecOn with
  | nil => exact numbered_nil
  | append_singleton events event ih =>
      have hbefore : ∀ i, events.countP (DocumentEvent.edits i) < UInt64.size := by
        intro i
        have hi := hfew i
        rw [List.countP_append] at hi
        omega
      cases event with
      | create text => exact (ih hbefore).create text
      | edit i e =>
          refine (ih hbefore).edit i e ?_
          have hi := hfew i
          simpa [List.countP_append, DocumentEvent.edits] using hi

end Workspace

end Waymark
