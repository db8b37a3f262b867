import Waymark.Proofs.Document.Copies
import Waymark.Proofs.Region.Memo

/-!
# What a provider remembers of copies

A provider that goes by versions cannot tell a document from its copy. As long as the documents have not
forked, it need not: what it keeps is the parse of every document whose version it has noted. Once they have,
it answers for the one with the parse of the other.
-/

namespace Waymark

/-- What happens at a desk where documents are copied, too. -/
inductive CopyingEvent
  | desk (event : DeskEvent)
  | copy (i : Nat)

def CopyingEvent.workspace? : CopyingEvent → Option WorkspaceEvent
  | .desk event => event.document?.map .document
  | .copy i => some (.copy i)

def workspaceEvents (events : List CopyingEvent) : List WorkspaceEvent :=
  events.filterMap CopyingEvent.workspace?

theorem workspaceEvents_snoc (events : List CopyingEvent) (event : CopyingEvent) :
    workspaceEvents (events ++ [event]) = workspaceEvents events ++ event.workspace?.toList := by
  rw [workspaceEvents, List.filterMap_append]
  cases h : event.workspace? <;> simp [workspaceEvents, h]

namespace Desk

open Workspace (history Unforked)

variable {p : Provider LineMatcher}

def stepCopying (k : Desk) : CopyingEvent → Desk
  | .desk event => k.step event
  | .copy i => { k with workspace := k.workspace.copy i }

def ofEvents (p : Provider LineMatcher) (events : List CopyingEvent) : Desk :=
  events.foldl stepCopying { provider := p }

theorem ofEvents_snoc (p : Provider LineMatcher) (events : List CopyingEvent) (event : CopyingEvent) :
    ofEvents p (events ++ [event]) = (ofEvents p events).stepCopying event := by
  simp [ofEvents]

theorem workspace_stepCopying (k : Desk) (event : CopyingEvent) :
    (k.stepCopying event).workspace =
      event.workspace?.toList.foldl Workspace.stepCopying k.workspace := by
  cases event with
  | desk event =>
      rw [stepCopying, workspace_step]
      cases event <;> rfl
  | copy i => rfl

theorem workspace_ofEvents (p : Provider LineMatcher) (events : List CopyingEvent) :
    (ofEvents p events).workspace = Workspace.ofEvents (workspaceEvents events) := by
  induction events using List.reverseRecOn with
  | nil => rfl
  | append_singleton events event ih =>
      rw [ofEvents_snoc, workspace_stepCopying, ih, workspaceEvents_snoc, Workspace.ofEvents,
        Workspace.ofEvents, List.foldl_append]

theorem mem_history_of_mem {events : List CopyingEvent} {d : Document}
    (h : d ∈ (ofEvents p events).workspace.documents) : d ∈ history (workspaceEvents events) := by
  rw [workspace_ofEvents] at h
  exact Workspace.mem_history_of_mem h

theorem coherent_ofEvents (hp : p.IsFresh) (events : List CopyingEvent)
    (htext : OneTextEach (history (workspaceEvents events))) :
    (ofEvents p events).provider.Coherent (· ∈ history (workspaceEvents events)) := by
  induction events using List.reverseRecOn with
  | nil => exact hp.coherent
  | append_singleton events event ih =>
      have hkept : history (workspaceEvents events) ⊆ history (workspaceEvents (events ++ [event])) := by
        rw [workspaceEvents_snoc]
        exact Workspace.history_subset _ _
      have hgrown := (ih (htext.mono hkept)).mono (fun d hd => hkept hd)
        fun d d' hd hd' => htext d hd d' hd'
      rw [ofEvents_snoc]
      cases event with
      | copy i => exact hgrown
      | desk event =>
          exact hgrown.step (fun d hd => hkept (mem_history_of_mem hd))
            (fun d d' hd hd' => htext d hd d' hd') event

/-- However documents are made, copied and edited, and the provider is set and updated in between: a version
stands for one text exactly if the documents have not forked. As long as they have not, documents of one
version have one text, and a provider that has noted the version of a document keeps its parse, made from the
text that it has. -/
theorem oneTextEach_ofEvents (hp : p.IsFresh) (events : List CopyingEvent)
    (hfew : (workspaceEvents events).countP WorkspaceEvent.isEdit < UInt64.size) :
    let k := ofEvents p events
    let past := history (workspaceEvents events)
    (OneTextEach past ↔ Unforked (workspaceEvents events)) ∧
    (Unforked (workspaceEvents events) →
      (∀ d ∈ k.workspace.documents, ∀ d' ∈ k.workspace.documents, d.version = d'.version →
        d.text = d'.text) ∧
      ∀ d ∈ k.workspace.documents, k.provider.version = some d.version →
        k.provider.Holds d ∧
          ∀ d' ∈ past, k.provider.version = some d'.version → d'.text = d.text) := by
  intro k past
  have hiff := Workspace.oneTextEach_history_iff (workspaceEvents events) hfew
  refine ⟨hiff, fun hunforked => ?_⟩
  have htext : OneTextEach past := hiff.mpr hunforked
  have hcoherent := coherent_ofEvents hp events htext
  refine ⟨?_, ?_⟩
  · intro d hd d' hd' hversion
    exact htext d (mem_history_of_mem hd) d' (mem_history_of_mem hd') hversion
  · intro d hd hnoted
    have hpast := mem_history_of_mem hd
    refine ⟨hcoherent.holds d hpast hnoted, ?_⟩
    intro d' hd' hnoted'
    exact htext d' hd' d hpast (Option.some.inj (hnoted'.symm.trans hnoted))

/-- A copy is kept as it was, and only the original is edited. -/
theorem oneTextEach_ofEvents_kept_copy :
    let events : List CopyingEvent :=
      [.desk (.document (.create "#tag a")), .copy 0, .desk (.document (.edit 0 (.setText "#tag b"))),
        .copy 0, .desk (.update 0 .never)]
    let k := ofEvents (.ofMarkers {}) events
    OneTextEach (history (workspaceEvents events)) ∧
      ∃ d ∈ k.workspace.documents[2]?, d.text = "#tag b" ∧ k.provider.version = some d.version ∧
        k.provider.Holds d := by
  intro events k
  obtain ⟨hiff, hunforked⟩ := oneTextEach_ofEvents (.inl ⟨{}, rfl⟩) events (by decide)
  have hnone : Unforked (workspaceEvents events) := by decide +kernel
  have hdocument : ∃ d ∈ k.workspace.documents[2]?, d.text = "#tag b" ∧
      k.provider.version = some d.version := by decide +kernel
  obtain ⟨d, hd, htext, hversion⟩ := hdocument
  refine ⟨hiff.mpr hnone, d, hd, htext, hversion, ?_⟩
  exact ((hunforked hnone).2 d (Array.mem_of_getElem? hd) hversion).1

/-- A document and its copy are both edited, and come to the same version: the provider passes over the
second one, and keeps the parse of the first. -/
theorem not_oneTextEach_edited_apart :
    let events : List CopyingEvent :=
      [.desk (.document (.create "#tag a")), .copy 0, .desk (.document (.edit 0 (.setText "#tag b"))),
        .desk (.document (.edit 1 (.setText "#tag c"))), .desk (.update 0 .never)]
    let k := ofEvents (.ofMarkers {}) events
    ∃ d ∈ k.workspace.documents[0]?, ∃ d' ∈ k.workspace.documents[1]?,
      d.version = d'.version ∧ d.text ≠ d'.text ∧ k.provider.version = some d'.version ∧
        (k.provider.update d' .never).2.updated = false ∧
        (ParseRun.ofLines k.provider.matcher .never d'.lines).outcome.parsed? ≠ some k.provider.parsed := by
  decide +kernel

end Desk

end Waymark
