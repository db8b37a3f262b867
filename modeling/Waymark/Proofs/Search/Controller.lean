import Waymark.Proofs.Search.JumpKeys
import Waymark.Search.Controller

/-!
# Controllers in step with their view

A controller is in one of three phases, and in each of them its session, its jump keys, its last outcome
and the view say the same. Every input, every key and every stop leads from a phase to a phase, so a jump
key that is shown is the one that jumps, and nothing is left on the view when nothing is searched.
-/

namespace Waymark.Search

open Snapshot

/-! ## Live sessions -/

theorem View.plain_of_plainAt {w : View} (hplain : ∀ h, w.PlainAt (fun _ => False) h) : w.Plain := by
  intro h
  obtain ⟨hmatched, hbelow, hkey, hmarkup⟩ := hplain h
  cases hd : w.display h
  simp_all

namespace Session

/-- Either there was nothing to search for and no walk has been made, or the last walk has judged every
node. -/
inductive Settled (s : Session) : Prop
  | idle (hquery : s.query.compile? = none) (hwalked : s.snapshot.walked = [])
    (hfound : s.foundAny = false)
  | searched (hquery : s.query.compile? ≠ none)
    (hwalked : ∀ n ∈ s.snapshot.preorder, n.isWalked = true) (hjudged : s.snapshot.Judged)
    (hfound : s.foundAny = s.snapshot.hasMatch)

variable {v w : View} {s : Session}

theorem settled_run (w : View) (hidle : s.query.compile? = none → s.snapshot.walked = []) :
    (s.run w).1.Settled := by
  cases hp : s.query.compile? with
  | none =>
      rw [run_of_compile?_none w hp]
      exact .idle hp (by rw [walked_clearKeys, hidle hp]) rfl
  | some p =>
      obtain ⟨hjudged, hfound⟩ := judged_walk p s.query.kindFilter s.snapshot
      rw [run_of_compile?_some w hp]
      refine .searched (by simp [hp]) ?_ ((judged_clearKeys _).mpr hjudged) ?_
      · intro n hn
        rw [clearKeys, Forest.preorder_map] at hn
        obtain ⟨n', hn', rfl⟩ := List.mem_map.mp hn
        have hwalked : n'.isWalked = true := isWalked_of_mem_walk hn'
        exact hwalked
      · rw [hasMatch_clearKeys]
        exact hfound

theorem Settled.foundAny_iff (hs : s.Settled) :
    s.foundAny = true ↔ ∃ n ∈ s.snapshot.preorder, n.selfMatch = .matched := by
  cases hs with
  | idle _ hwalked hfound =>
      rw [hfound]
      constructor
      · exact fun h => absurd h Bool.false_ne_true
      · rintro ⟨n, hn, hmatched⟩
        have hmem : n.handle ∈ s.snapshot.walked :=
          mem_walked.mpr ⟨n, hn, by simp [SnapshotNode.isWalked, hmatched], rfl⟩
        rw [hwalked] at hmem
        cases hmem
  | searched _ _ _ hfound => rw [hfound, hasMatch_iff]

theorem Settled.hasMatch_of_idle (hs : s.Settled) (hquery : s.query.compile? = none) :
    s.snapshot.hasMatch = false := by
  cases hs with
  | searched hsome _ _ _ => exact absurd hquery hsome
  | idle _ hwalked hfound =>
      by_contra hmatch
      have hfoundAny := foundAny_iff (.idle hquery hwalked hfound) |>.mpr
        (hasMatch_iff.mp (Bool.of_not_eq_false hmatch))
      rw [hfound] at hfoundAny
      cases hfoundAny

theorem Settled.guided (hs : s.Settled) : s.snapshot.Guided := by
  cases hs with
  | idle hquery hwalked hfound =>
      exact guided_of_not_hasMatch (hasMatch_of_idle (.idle hquery hwalked hfound) hquery)
  | searched _ _ hjudged _ => exact hjudged.guided

theorem noKeys_run (s : Session) (w : View) : (s.run w).1.snapshot.NoKeys := by
  cases hp : s.query.compile? with
  | none => rw [run_of_compile?_none w hp]; exact noKeys_clearKeys _
  | some p => rw [run_of_compile?_some w hp]; exact noKeys_clearKeys _

/-- A search takes back all jump keys. -/
theorem key_run {edited : Handle → Prop} (howns : (s.run w).1.Owns (s.run w).2.1 edited) (h : Handle) :
    ((s.run w).2.1.display h).key = none := by
  rcases howns.trace h with hplain | hwalked
  · exact hplain.key_eq
  obtain ⟨n, hn, hwalkedN, rfl⟩ := mem_walked.mp hwalked
  have hnone := noKeys_run s w
  rw [run_view]
  by_cases hsize : n.handle < w.items.size
  · have hmem : Write.key n.handle n.key ∈ (s.run w).1.snapshot.showWrites :=
      List.mem_append_right _ (List.mem_map.mpr ⟨n, List.mem_filter.mpr ⟨hn, hwalkedN⟩, rfl⟩)
    refine w.writeAll_sets hsize ?_ hmem rfl fun d => hnone n hn
    intro change hchange _ d
    rcases List.mem_append.mp hchange with hchange | hchange
    · obtain ⟨n', _, hchange⟩ := List.mem_flatMap.mp hchange
      simp only [SnapshotNode.matchWrites, List.mem_cons, List.not_mem_nil, or_false] at hchange
      rcases hchange with rfl | rfl | rfl <;> exact .inl rfl
    · obtain ⟨n', hn', rfl⟩ := List.mem_map.mp hchange
      exact .inr (hnone n' (List.mem_filter.mp hn').1)
  · have hle := Nat.not_lt.mp hsize
    rw [w.display_writeAll_of_size_le _ hle, View.display_of_size_le hle]

/-- A session that is in step with a view whose items are those of `v`. -/
structure Live (v : View) (s : Session) (w : View) : Prop where
  same : v.SameItems w
  owns : s.Owns w fun _ => False
  settled : s.Settled
  nodup : (s.snapshot.copies.map Prod.fst).Nodup

/-- Live, and no jump key is handed out. -/
structure Hidden (v : View) (s : Session) (w : View) : Prop where
  live : s.Live v w
  noKeys : s.snapshot.NoKeys
  key_eq : ∀ h, (w.display h).key = none

theorem hidden_run (hsame : v.SameItems w) (howns : s.Owns w fun _ => False)
    (hidle : s.query.compile? = none → s.snapshot.walked = [])
    (hnodup : (s.snapshot.copies.map Prod.fst).Nodup) : (s.run w).1.Hidden v (s.run w).2.1 := by
  refine ⟨⟨hsame.trans (History.run_view_same s w), howns.run, settled_run w hidle, ?_⟩,
    noKeys_run s w, key_run howns.run⟩
  rw [copies_run]
  exact hnodup

theorem nodup_build (ht : v.IsTree) (hsame : v.SameItems w) (root : Handle) :
    ((build w root).copies.map Prod.fst).Nodup := by
  have hhandles : (build w root).copies.map Prod.fst = (build w root).preorder.map (·.handle) := by
    rw [copies, List.map_map]
    rfl
  rw [hhandles]
  refine nodup_unfold (ht.of_sameItems hsame) (fun _ => rfl) (List.nodup_singleton root) ?_
  intro a ha b hb _ _ _
  rw [List.mem_singleton.mp ha, List.mem_singleton.mp hb]

theorem hidden_start (ht : v.IsTree) (hsame : v.SameItems w) (hplain : w.Plain) (root : Handle)
    (q : Query) : (Session.start w root q).1.Hidden v (Session.start w root q).2.1 :=
  hidden_run (s := { snapshot := build w root, query := q }) hsame
    (.of_plain (fun h => View.plainAt_of_display (hplain h)) rfl) (fun _ => walked_build w root)
    (nodup_build ht hsame root)

/-- A query that grew from one without characters has nothing to take back either. -/
theorem Settled.walked_of_narrows (hs : s.Settled) {q : Query} (hnarrows : q.narrows s.query = true)
    (hq : q.compile? = none) : s.snapshot.walked = [] := by
  cases hs with
  | idle _ hwalked _ => exact hwalked
  | searched hquery _ _ _ =>
      exact absurd (((Query.narrows_iff q _).mp hnarrows).compile?_eq_none hq) hquery

theorem Live.plain_teardown (hs : s.Live v w) : (s.teardown w).Plain :=
  View.plain_of_plainAt hs.owns.teardown

theorem Live.search (hs : s.Live v w) (ht : v.IsTree) (root : Handle) (q : Query) :
    (s.search w root q).1.Hidden v (s.search w root q).2.1 := by
  cases hnarrows : q.narrows s.query with
  | true =>
      rw [search_of_narrows w root hnarrows]
      exact hidden_run (s := { s with query := q }) hs.same ⟨hs.owns.label_eq, hs.owns.trace⟩
        (hs.settled.walked_of_narrows hnarrows) hs.nodup
  | false =>
      rw [search_of_not_narrows w root hnarrows]
      exact hidden_start ht (hs.same.trans (s.sameItems_teardown w)) hs.plain_teardown root q

/-! ## Jump keys on the view -/

/-- If no item has two nodes, and an item without a node shows no key, the keys that are shown are those
of the nodes. -/
theorem key_keyWrites {m : Snapshot} (hnodup : (m.copies.map Prod.fst).Nodup)
    (hwalked : ∀ n ∈ m.preorder, n.isWalked = true) {h : Handle}
    (hother : (∀ n ∈ m.preorder, n.handle ≠ h) → (w.display h).key = none) (k : Char) :
    ((w.writeAll m.keyWrites).display h).key = some k ↔
      h < w.items.size ∧ (k, h) ∈ m.keyEntries := by
  have hinj : ∀ n ∈ m.preorder, ∀ n' ∈ m.preorder, n.handle = n'.handle → n = n' := by
    rw [copies, List.map_map] at hnodup
    exact fun n hn n' hn' heq => List.inj_on_of_nodup_map hnodup hn hn' heq
  have hwrites : ∀ change, change ∈ m.keyWrites ↔
      ∃ n ∈ m.preorder, change = .key n.handle n.key := by
    intro change
    rw [keyWrites, List.filter_eq_self.mpr hwalked]
    simp [eq_comm]
  rw [mem_keyEntries]
  by_cases hsize : h < w.items.size
  case neg =>
    have hle := Nat.not_lt.mp hsize
    simp [w.display_writeAll_of_size_le _ hle, View.display_of_size_le hle, hsize]
  by_cases hmem : ∃ n ∈ m.preorder, n.handle = h
  · obtain ⟨n, hn, rfl⟩ := hmem
    have hkey : ((w.writeAll m.keyWrites).display n.handle).key = n.key := by
      refine w.writeAll_sets hsize ?_ ((hwrites _).mpr ⟨n, hn, rfl⟩) rfl fun _ => rfl
      intro change hchange hitem d
      obtain ⟨n', hn', rfl⟩ := (hwrites change).mp hchange
      rw [hinj n' hn' n hn hitem]
      exact .inr rfl
    rw [hkey]
    constructor
    · exact fun hk => ⟨hsize, n, hn, rfl, hk⟩
    · rintro ⟨_, n', hn', heq, hk⟩
      rw [← hinj n' hn' n hn heq]
      exact hk
  · have hkey : ((w.writeAll m.keyWrites).display h).key = none := by
      rw [w.display_writeAll_of_ne, hother fun n hn heq => hmem ⟨n, hn, heq⟩]
      intro change hchange hitem
      obtain ⟨n, hn, rfl⟩ := (hwrites change).mp hchange
      exact hmem ⟨n, hn, hitem⟩
    rw [hkey]
    constructor
    · exact fun hk => by cases hk
    · rintro ⟨_, n, hn, heq, _⟩
      exact absurd ⟨n, hn, heq⟩ hmem

/-- A session with its jump keys on the view. -/
structure Shown (v : View) (s : Session) (jumps : JumpMap) (w : View) : Prop where
  live : s.Live v w
  foundAny_eq : s.foundAny = true
  isEmpty_eq : jumps.isEmpty = false
  get?_iff : ∀ k h, jumps.get? k = some h ↔ (w.display h).key = some k

theorem Settled.assignJumpKeys (hs : s.Settled) (w : View) : (s.assignJumpKeys w).1.Settled := by
  have hclear : clearKeys (s.assignJumpKeys w).1.snapshot = clearKeys s.snapshot :=
    clearKeys_assignKeys _ _
  cases hs with
  | idle hquery hwalked hfound =>
      refine .idle hquery ?_ hfound
      rw [← walked_clearKeys, hclear, walked_clearKeys, hwalked]
  | searched hquery hwalked hjudged hfound =>
      refine .searched hquery ?_ ?_ ?_
      · intro n hn
        have hmem : n.clearKey ∈ (clearKeys s.snapshot).preorder := by
          rw [← hclear, clearKeys, Forest.preorder_map]
          exact List.mem_map_of_mem hn
        rw [clearKeys, Forest.preorder_map] at hmem
        obtain ⟨n', hn', heq⟩ := List.mem_map.mp hmem
        have hwalkedN : n.isWalked = n'.isWalked := by
          change n.clearKey.isWalked = n'.clearKey.isWalked
          rw [heq]
        rw [hwalkedN]
        exact hwalked n' hn'
      · rw [← judged_clearKeys, hclear, judged_clearKeys]
        exact hjudged
      · rw [← hasMatch_clearKeys, hclear, hasMatch_clearKeys]
        exact hfound

/-- Handing out keys where something was found. -/
theorem Hidden.assignJumpKeys (hs : s.Hidden v w) (hfound : s.foundAny = true) :
    (s.assignJumpKeys w).1.Shown v (s.assignJumpKeys w).2.2 (s.assignJumpKeys w).2.1 := by
  have hsettled := hs.live.settled.assignJumpKeys w
  have howns := hs.live.owns.assignJumpKeys
  have hnodup : ((s.assignJumpKeys w).1.snapshot.copies.map Prod.fst).Nodup := by
    have hcopies : (s.assignJumpKeys w).1.snapshot.copies = s.snapshot.copies :=
      copies_assignKeys jumpKeys.toList s.snapshot
    rw [hcopies]
    exact hs.live.nodup
  have hlive : (s.assignJumpKeys w).1.Live v (s.assignJumpKeys w).2.1 :=
    ⟨hs.live.same.trans (View.sameItems_writeAll w _), howns, hsettled, hnodup⟩
  have hentries : (s.assignJumpKeys w).2.2.entries = (s.assignJumpKeys w).1.snapshot.keyEntries :=
    entries_assignKeys jumpKeys.toList hs.live.settled.guided hs.noKeys.keysOnMatches
  refine ⟨hlive, hfound, ?_, ?_⟩
  · cases hs.live.settled with
    | idle _ _ hnone => rw [hfound] at hnone; cases hnone
    | searched _ _ hjudged hmatch =>
        have hne := entries_ne_nil hjudged (hmatch ▸ hfound) (by decide : jumpKeys.toList ≠ [])
        exact Bool.eq_false_iff.mpr fun hempty => hne (List.isEmpty_iff.mp hempty)
  · intro k h
    rw [JumpMap.get?_eq_some_iff (nodup_keys_assignKeys s.snapshot), hentries]
    cases hsettled with
    | idle _ _ hnone => exact absurd (hfound.symm.trans hnone) (by decide)
    | searched _ hwalked hjudged _ =>
        refine Iff.trans ?_ (key_keyWrites hnodup hwalked (fun _ => hs.key_eq h) k).symm
        refine ⟨fun hmem => ⟨?_, hmem⟩, fun hpair => hpair.2⟩
        obtain ⟨n, hn, rfl, hkey⟩ := mem_keyEntries.mp hmem
        have honMatches := hs.noKeys.keysOnMatches.assignKeys jumpKeys.toList
        -- an item that is not in the view has no label, and no match
        have hlabel := label_of_judged hjudged hn (honMatches n hn (by simp [hkey]))
        have heq := howns.label_eq n.handle n.label (mem_copies.mpr ⟨n, hn, rfl, rfl⟩) id
        have hsize : (s.assignJumpKeys w).2.1.items.size = w.items.size :=
          (View.sameItems_writeAll w _).size_eq.symm
        by_contra hge
        rw [heq, View.label_of_size_le (hsize ▸ Nat.not_lt.mp hge)] at hlabel
        exact hlabel rfl

end Session

/-! ## Phases of a controller -/

namespace Controller

/-- What a controller is given. -/
inductive Event
  | input (root : Handle) (text : String)
  | press (now : Nat) (key : KeyPress)
  | stop

def step (x : Controller × View) : Event → Controller × View
  | .input root text => ((x.1.input x.2 root text).1, (x.1.input x.2 root text).2.1)
  | .press now key => ((x.1.press x.2 now key).1, (x.1.press x.2 now key).2.1)
  | .stop => x.1.stop x.2

def after (x : Controller × View) (events : List Event) : Controller × View := events.foldl step x

/-- The phases of a controller on a view whose items are those of `v`. -/
inductive Phase (v : View) (c : Controller) (w : View) : Prop
  | navigating (hsession : c.session = none) (hkeys : c.quickNav = none) (hlast : c.lastOutcome = {})
    (hsame : v.SameItems w) (hplain : w.Plain)
  | searching (s : Session) (hsession : c.session = some s) (hkeys : c.quickNav = none)
    (hlast : c.lastOutcome.foundAny = s.foundAny) (hhidden : s.Hidden v w)
  | quickNav (s : Session) (jumps : JumpMap) (hsession : c.session = some s)
    (hkeys : c.quickNav = some jumps) (hlast : c.lastOutcome.foundAny = true)
    (hshown : s.Shown v jumps w)

variable {v w : View} {c : Controller}

theorem phase_ofMillis (hplain : v.Plain) (ms : Nat) : Phase v (ofMillis ms) v :=
  .navigating rfl rfl rfl (.refl v) hplain

/-- Whatever is going on, stopping leaves the view plain. -/
theorem Phase.stop (hc : Phase v c w) : Phase v (c.stop w).1 (c.stop w).2 := by
  have hlive : ∀ s, c.session = some s → s.Live v w → Phase v (c.stop w).1 (c.stop w).2 := by
    intro s hsession hs
    have hview : (c.stop w).2 = s.teardown w := by rw [Controller.stop, hsession]
    rw [hview]
    exact .navigating rfl rfl rfl (hs.same.trans (View.sameItems_writeAll w _)) hs.plain_teardown
  cases hc with
  | navigating hsession _ _ hsame hplain =>
      have hview : (c.stop w).2 = w := by rw [Controller.stop, hsession]
      rw [hview]
      exact .navigating rfl rfl rfl hsame hplain
  | searching s hsession _ _ hhidden => exact hlive s hsession hhidden.live
  | quickNav s _ hsession _ _ hshown => exact hlive s hsession hshown.live

theorem Phase.input (hc : Phase v c w) (ht : v.IsTree) (root : Handle) (text : String) :
    Phase v (c.input w root text).1 (c.input w root text).2.1 := by
  cases hquery : Query.ofInput? text with
  | none =>
      simp only [Controller.input, hquery]
      exact hc.stop
  | some q =>
      have hlive : ∀ s, c.session = some s → s.Live v w →
          Phase v (c.input w root text).1 (c.input w root text).2.1 := by
        intro s hsession hs
        simp only [Controller.input, hquery, hsession]
        refine .searching _ rfl rfl ?_ (hs.search ht root q)
        simp only [Session.search]
        split <;> rfl
      cases hc with
      | navigating hsession _ _ hsame hplain =>
          simp only [Controller.input, hquery, hsession]
          exact .searching _ rfl rfl rfl (Session.hidden_start ht hsame hplain root q)
      | searching s hsession _ _ hhidden => exact hlive s hsession hhidden.live
      | quickNav s _ hsession _ _ hshown => exact hlive s hsession hshown.live

theorem Phase.press (hc : Phase v c w) (now : Nat) (key : KeyPress) :
    Phase v (c.press w now key).1 (c.press w now key).2.1 := by
  have hstop := hc.stop
  cases hc with
  | navigating hsession hkeys hlast hsame hplain =>
      cases key <;> simp only [Controller.press, hsession, hkeys] <;>
        exact .navigating (by simp [hsession]) (by simp [hkeys]) (by simp [hlast]) hsame hplain
  | searching s hsession hkeys hlast hhidden =>
      cases key with
      | enter =>
          cases hfound : c.lastOutcome.foundAny with
          | true =>
              simp only [Controller.press, hsession, hkeys, hfound, if_true]
              exact .quickNav _ _ rfl rfl hfound (hhidden.assignJumpKeys (hlast ▸ hfound))
          | false =>
              simp only [Controller.press, hsession, hkeys, hfound, Bool.false_eq_true, if_false]
              exact .searching s hsession hkeys hlast hhidden
      | escape =>
          simp only [Controller.press, hsession, hkeys]
          exact hstop
      | char _ | arrow _ =>
          simp only [Controller.press, hsession, hkeys]
          exact .searching s hsession hkeys hlast hhidden
  | quickNav s jumps hsession hkeys hlast hshown =>
      simp only [Controller.press, hsession, hkeys]
      exact hstop

theorem Phase.step (hc : Phase v c w) (ht : v.IsTree) (event : Event) :
    Phase v (Controller.step (c, w) event).1 (Controller.step (c, w) event).2 := by
  cases event with
  | input root text => exact hc.input ht root text
  | press now key => exact hc.press now key
  | stop => exact hc.stop

theorem Phase.after (hc : Phase v c w) (ht : v.IsTree) (events : List Event) :
    Phase v (Controller.after (c, w) events).1 (Controller.after (c, w) events).2 := by
  induction events generalizing c w with
  | nil => exact hc
  | cons event events ih => exact ih (hc.step ht event)

/-! ## What holds in every reachable state -/

/-- A controller and its view are in step. -/
structure InStep (c : Controller) (w : View) : Prop where
  session_of_quickNav : c.quickNav ≠ none → c.session ≠ none
  navigating : c.state = .navigating → c.session = none ∧ c.lastOutcome = {} ∧ w.Plain
  searching : c.state = .searching → (∀ h, (w.display h).key = none) ∧ ∃ s, c.session = some s ∧
    c.lastOutcome.foundAny = s.foundAny ∧
    (s.foundAny = true ↔ ∃ n ∈ s.snapshot.preorder, n.selfMatch = .matched)
  quickNav : c.state = .quickNav → c.lastOutcome.foundAny = true ∧
    (∃ s jumps, c.session = some s ∧ s.foundAny = true ∧ c.quickNav = some jumps ∧
      jumps.isEmpty = false) ∧
    ∀ now k, (∀ h, (c.press w now (.char k)).2.2 = .jump h ↔ (w.display h).key = some k) ∧
      ((c.press w now (.char k)).2.2 = .stopped ↔ ∀ h, (w.display h).key ≠ some k)
  leaves : ∀ now key, c.state = .quickNav ∨ c.state = .searching ∧ key = .escape →
    (c.press w now key).1.state = .navigating
  navigates : ∀ now key direction, (c.press w now key).2.2 = .navigate direction →
    c.state = .navigating

theorem InStep.of_navigating (hsession : c.session = none) (hkeys : c.quickNav = none)
    (hlast : c.lastOutcome = {}) (hplain : w.Plain) : InStep c w := by
  have hstate : c.state = .navigating := by rw [state, hsession]
  exact ⟨fun h => absurd hkeys h, fun _ => ⟨hsession, hlast, hplain⟩, by simp [hstate],
    by simp [hstate], by simp [hstate], fun _ _ _ _ => hstate⟩

theorem InStep.of_searching {s : Session} (hsession : c.session = some s) (hkeys : c.quickNav = none)
    (hlast : c.lastOutcome.foundAny = s.foundAny) (hhidden : s.Hidden v w) : InStep c w := by
  have hstate : c.state = .searching := by rw [state, hsession, hkeys]
  refine ⟨fun h => absurd hkeys h, by simp [hstate], ?_, by simp [hstate], ?_, ?_⟩
  · intro _
    exact ⟨hhidden.key_eq, s, hsession, hlast, hhidden.live.settled.foundAny_iff⟩
  · intro now key hkey
    obtain ⟨_, rfl⟩ := hkey.resolve_left (by simp [hstate])
    simp [press, hsession, hkeys, stop, state]
  · intro now key direction haction
    cases key with
    | enter =>
        simp only [press, hsession, hkeys] at haction
        split at haction <;> cases haction
    | escape | char _ | arrow _ => simp [press, hsession, hkeys] at haction

theorem InStep.of_quickNav {s : Session} {jumps : JumpMap} (hsession : c.session = some s)
    (hkeys : c.quickNav = some jumps) (hlast : c.lastOutcome.foundAny = true)
    (hshown : s.Shown v jumps w) : InStep c w := by
  have hstate : c.state = .quickNav := by rw [state, hsession, hkeys]
  refine ⟨by simp [hsession], by simp [hstate], by simp [hstate], ?_, ?_, ?_⟩
  · intro _
    refine ⟨hlast, ⟨s, jumps, hsession, hshown.foundAny_eq, hkeys, hshown.isEmpty_eq⟩, ?_⟩
    intro now k
    have haction : (c.press w now (.char k)).2.2 = (jumps.get? k).elim .stopped .jump := by
      cases hget : jumps.get? k <;> simp [press, hsession, hkeys, hget]
    simp only [haction, Ne, ← hshown.get?_iff]
    cases jumps.get? k <;> simp
  · intro now key _
    simp [press, hsession, hkeys, stop, state]
  · intro now key direction haction
    simp only [press, hsession, hkeys] at haction
    split at haction <;> cases haction

theorem Phase.inStep (hc : Phase v c w) : InStep c w := by
  cases hc with
  | navigating hsession hkeys hlast _ hplain => exact .of_navigating hsession hkeys hlast hplain
  | searching s hsession hkeys hlast hhidden =>
      exact .of_searching hsession hkeys hlast hhidden
  | quickNav s jumps hsession hkeys hlast hshown =>
      exact .of_quickNav hsession hkeys hlast hshown

/-- Whatever is typed and pressed, in any order, the controller stays in step with its view. -/
theorem inStep_after (v : View) (hplain : v.Plain) (ht : v.IsTree) (ms : Nat) (events : List Event) :
    InStep (after (ofMillis ms, v) events).1 (after (ofMillis ms, v) events).2 :=
  ((phase_ofMillis hplain ms).after ht events).inStep

theorem inStep_after_typing_over_keys :
    let v : View := ⟨#[{ label := "Notes", children := [1, 2] }, { label := "map" },
      { label := "May", children := [3] }, { label := "mast" }], #[]⟩
    let x := after (ofMillis 100, v) [.input 0 "m", .press 0 .enter, .input 0 "ma", .press 0 .enter]
    InStep x.1 x.2 := by
  intro v x
  have hplain : v.Plain := View.plain_of_forall_lt (by decide)
  have ht : v.IsTree := View.isTree_of_lt (by decide) (by decide) (by decide)
  exact inStep_after v hplain ht 100 _

end Controller

end Waymark.Search
