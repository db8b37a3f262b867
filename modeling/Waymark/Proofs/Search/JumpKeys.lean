import Waymark.Proofs.Forest
import Waymark.Proofs.Search.Trace

/-!
# Handing out jump keys

After a walk the nodes say where matches are, so going only below nodes with a match below them misses
none, and the first match gets a key. No key is handed out twice. In a tree no item has two nodes, and
then the keys on the view are the entries that were made.
-/

namespace Waymark.Search

/-! ## Judged snapshots -/

namespace Snapshot

def hasMatch (m : Snapshot) : Bool := m.preorder.any fun n => n.selfMatch == .matched

/-- Every node with a match has a label, and every node says whether there is a match below it. -/
def Judged : Snapshot → Prop
  | .nil => True
  | .node n below after =>
    (n.selfMatch = .matched → n.label ≠ "") ∧ n.descendantMatch = .ofBool (hasMatch below) ∧
      Judged below ∧ Judged after

theorem hasMatch_node (n : SnapshotNode) (below after : Snapshot) :
    hasMatch (.node n below after) =
      (n.selfMatch == .matched || hasMatch below || hasMatch after) := by
  simp [hasMatch, Forest.preorder, Bool.or_assoc]

theorem hasMatch_iff {m : Snapshot} :
    m.hasMatch = true ↔ ∃ n ∈ m.preorder, n.selfMatch = .matched := by
  simp [hasMatch]

theorem judge_selfMatch (n : SnapshotNode) (p : Predicate) (kindFilter : Option String) :
    ((n.judge p kindFilter).1.selfMatch == .matched) = (n.judge p kindFilter).2.matched ∧
      ((n.judge p kindFilter).1.selfMatch = .matched → n.label ≠ "") := by
  unfold SnapshotNode.judge
  split
  case isTrue hrejected => simp [hrejected, Evaluation.matched]
  case isFalse =>
    split
    case isTrue => simp [Evaluation.matched]
    case isFalse hpass =>
      have hlabel : n.label ≠ "" := by
        intro hnil
        simp [hnil] at hpass
      cases p.find? n.label <;> simp [MatchState.ofBool, Evaluation.matched, hlabel]

/-- A walk judges every node, and finds something if a node has a match afterwards. -/
theorem judged_walk (p : Predicate) (kindFilter : Option String) (m : Snapshot) :
    Judged (Snapshot.walk p kindFilter m).forest ∧
      (Snapshot.walk p kindFilter m).found = (Snapshot.walk p kindFilter m).forest.hasMatch := by
  induction m with
  | nil => exact ⟨trivial, rfl⟩
  | node n below after ihb iha =>
      obtain ⟨hjudgedB, hfoundB⟩ := ihb
      obtain ⟨hjudgedA, hfoundA⟩ := iha
      obtain ⟨_, hlabel, hbelow⟩ := judge_keeps
        { n with descendantMatch := .ofBool (Snapshot.walk p kindFilter below).found } p kindFilter
      obtain ⟨hmatched, hnonempty⟩ := judge_selfMatch
        { n with descendantMatch := .ofBool (Snapshot.walk p kindFilter below).found } p kindFilter
      simp only [Snapshot.walk, Judged, hasMatch_node]
      refine ⟨⟨?_, ?_, hjudgedB, hjudgedA⟩, ?_⟩
      · rw [hlabel]
        exact hnonempty
      · rw [hbelow, hfoundB]
      · rw [hmatched, hfoundB, hfoundA]

theorem hasMatch_clearKeys (m : Snapshot) : (clearKeys m).hasMatch = m.hasMatch := by
  simp only [hasMatch, clearKeys, Forest.preorder_map, List.any_map]
  rfl

theorem judged_clearKeys (m : Snapshot) : Judged (clearKeys m) ↔ Judged m := by
  induction m with
  | nil => exact Iff.rfl
  | node n below after ihb iha =>
      change (_ ∧ n.descendantMatch = .ofBool (hasMatch (clearKeys below)) ∧
        Judged (clearKeys below) ∧ Judged (clearKeys after)) ↔ _
      rw [hasMatch_clearKeys, ihb, iha]
      rfl

theorem label_of_judged {m : Snapshot} (hm : m.Judged) {n : SnapshotNode} (hn : n ∈ m.preorder)
    (hmatched : n.selfMatch = .matched) : n.label ≠ "" := by
  induction m with
  | nil => simp [Forest.preorder] at hn
  | node first below after ihb iha =>
      obtain ⟨hfirst, _, hbelow, hafter⟩ := hm
      simp only [Forest.preorder, List.cons_append, List.mem_cons, List.mem_append] at hn
      rcases hn with rfl | hn | hn
      · exact hfirst hmatched
      · exact ihb hbelow hn
      · exact iha hafter hn

/-! ## Keys and entries -/

/-- The keys on the nodes with the items they are for. -/
def keyEntries (m : Snapshot) : List (Char × Handle) :=
  m.preorder.filterMap fun n => n.key.map fun k => (k, n.handle)

def NoKeys (m : Snapshot) : Prop := ∀ n ∈ m.preorder, n.key = none

theorem noKeys_node {n : SnapshotNode} {below after : Snapshot} :
    NoKeys (.node n below after) ↔ n.key = none ∧ NoKeys below ∧ NoKeys after := by
  simp [NoKeys, Forest.preorder, or_imp, forall_and]

theorem noKeys_clearKeys (m : Snapshot) : NoKeys (clearKeys m) := by
  intro n hn
  rw [clearKeys, Forest.preorder_map] at hn
  obtain ⟨n', _, rfl⟩ := List.mem_map.mp hn
  rfl

theorem keyEntries_of_noKeys {m : Snapshot} (hm : m.NoKeys) : m.keyEntries = [] := by
  rw [keyEntries, List.filterMap_eq_nil_iff]
  intro n hn
  simp [hm n hn]

theorem keyEntries_node (n : SnapshotNode) (below after : Snapshot) :
    keyEntries (.node n below after) =
      (n.key.map fun k => (k, n.handle)).toList ++ keyEntries below ++ keyEntries after := by
  cases hkey : n.key <;> simp [keyEntries, Forest.preorder, hkey]

theorem mem_keyEntries {m : Snapshot} {k : Char} {h : Handle} :
    (k, h) ∈ m.keyEntries ↔ ∃ n ∈ m.preorder, n.handle = h ∧ n.key = some k := by
  simp only [keyEntries, List.mem_filterMap, Option.map_eq_some_iff, Prod.mk.injEq]
  constructor
  · rintro ⟨n, hn, _, hkey, rfl, rfl⟩
    exact ⟨n, hn, rfl, hkey⟩
  · rintro ⟨n, hn, rfl, hkey⟩
    exact ⟨n, hn, k, hkey, rfl, rfl⟩

/-! ## Going only where there is a match -/

/-- A node with a match below it says so. -/
def Guided (m : Snapshot) : Prop :=
  m.AllTrees fun n below => hasMatch below = true → n.descendantMatch = .matched

def KeysOnMatches (m : Snapshot) : Prop := ∀ n ∈ m.preorder, n.key ≠ none → n.selfMatch = .matched

theorem keysOnMatches_node {n : SnapshotNode} {below after : Snapshot} :
    KeysOnMatches (.node n below after) ↔
      (n.key ≠ none → n.selfMatch = .matched) ∧ KeysOnMatches below ∧ KeysOnMatches after := by
  simp [KeysOnMatches, Forest.preorder, or_imp, forall_and]

theorem NoKeys.keysOnMatches {m : Snapshot} (hm : m.NoKeys) : m.KeysOnMatches :=
  fun n hn hkey => absurd (hm n hn) hkey

/-- Where nothing matches no node has a key. -/
theorem KeysOnMatches.noKeys {m : Snapshot} (hm : m.KeysOnMatches) (hnone : m.hasMatch = false) :
    m.NoKeys := by
  intro n hn
  by_contra hkey
  have hmatch := hasMatch_iff.mpr ⟨n, hn, hm n hn hkey⟩
  rw [hnone] at hmatch
  cases hmatch

theorem Judged.guided {m : Snapshot} (hm : m.Judged) : m.Guided := by
  induction m with
  | nil => trivial
  | node n below after ihb iha =>
      obtain ⟨_, hdescend, hbelow, hafter⟩ := hm
      exact ⟨fun hmatch => by rw [hdescend, hmatch]; rfl, ihb hbelow, iha hafter⟩

theorem guided_of_not_hasMatch {m : Snapshot} (hm : m.hasMatch = false) : m.Guided := by
  induction m with
  | nil => trivial
  | node n below after ihb iha =>
      simp only [hasMatch_node, Bool.or_eq_false_iff] at hm
      obtain ⟨⟨_, hbelow⟩, hafter⟩ := hm
      exact ⟨fun hmatch => by simp [hbelow] at hmatch, ihb hbelow, iha hafter⟩

/-- What is passed over has no match. -/
theorem Guided.passed_over {n : SnapshotNode} {below after : Snapshot}
    (hm : Guided (.node n below after)) (hdescend : ¬ n.descendantMatch = .matched) :
    hasMatch below = false := by
  cases hmatch : hasMatch below with
  | false => rfl
  | true => exact absurd (hm.1 hmatch) hdescend

/-- The entries that are made are the keys that the nodes have afterwards. -/
theorem entries_assignKeys (keys : List Char) {m : Snapshot} (hm : m.Guided)
    (hkeys : m.KeysOnMatches) : (m.assignKeys keys).2.1 = (m.assignKeys keys).1.keyEntries := by
  induction m generalizing keys with
  | nil => rfl
  | node n below after ihb iha =>
      obtain ⟨_, hbelow, hafter⟩ := keysOnMatches_node.mp hkeys
      by_cases hdescend : n.descendantMatch = .matched
      · simp [assignKeys, keyEntries_node, hdescend, ihb _ hm.2.1 hbelow, iha _ hm.2.2 hafter]
      · have hnone := keyEntries_of_noKeys (hbelow.noKeys (hm.passed_over hdescend))
        simp [assignKeys, keyEntries_node, hdescend, hnone, iha _ hm.2.2 hafter]

/-- Keys are handed out in order, each of them once. -/
theorem keys_assignKeys (keys : List Char) (m : Snapshot) :
    (m.assignKeys keys).2.1.map Prod.fst ++ (m.assignKeys keys).2.2 = keys := by
  induction m generalizing keys with
  | nil => rfl
  | node n below after ihb iha =>
      have hown : (if n.selfMatch = .matched then keys.head? else none).toList ++
          (if n.selfMatch = .matched then keys.tail else keys) = keys := by
        split
        · cases keys <;> rfl
        · rfl
      have hinside : ∀ keys, (if n.descendantMatch = .matched then
          assignKeys keys below else (below, [], keys)).2.1.map Prod.fst ++
          (if n.descendantMatch = .matched then
          assignKeys keys below else (below, [], keys)).2.2 = keys := by
        intro keys
        split
        · exact ihb keys
        · rfl
      have htoList : ∀ key : Option Char,
          (key.map fun k => (k, n.handle)).toList.map Prod.fst = key.toList := by
        intro key
        cases key <;> rfl
      simp only [assignKeys, List.map_append, List.append_assoc, htoList]
      rw [iha, hinside, hown]

theorem nodup_keys_assignKeys (m : Snapshot) :
    ((m.assignKeys jumpKeys.toList).2.1.map Prod.fst).Nodup := by
  have hkeys : jumpKeys.toList.Nodup := by decide +kernel
  rw [← keys_assignKeys jumpKeys.toList m] at hkeys
  exact hkeys.of_append_left

/-- Where there is a match, a key is handed out. -/
theorem entries_ne_nil {m : Snapshot} (hm : m.Judged) (hmatch : m.hasMatch = true)
    {keys : List Char} (hkeys : keys ≠ []) : (m.assignKeys keys).2.1 ≠ [] := by
  induction m generalizing keys with
  | nil => simp [hasMatch, Forest.preorder] at hmatch
  | node n below after ihb iha =>
      obtain ⟨_, hdescend, hbelow, hafter⟩ := hm
      by_cases hself : n.selfMatch = .matched
      · cases keys with
        | nil => exact absurd rfl hkeys
        | cons k keys => simp [assignKeys, hself]
      · cases hinside : hasMatch below with
        | true =>
            have hne := ihb hbelow hinside hkeys
            simp [assignKeys, hself, hdescend, hinside, MatchState.ofBool, hne]
        | false =>
            have hbehind : hasMatch after = true := by
              simpa [hasMatch_node, hself, hinside] using hmatch
            have hne := iha hafter hbehind hkeys
            simp [assignKeys, hself, hdescend, hinside, MatchState.ofBool, hne]

/-- Only nodes with a match get a key. -/
theorem KeysOnMatches.assignKeys {m : Snapshot} (hm : m.KeysOnMatches) (keys : List Char) :
    (m.assignKeys keys).1.KeysOnMatches := by
  induction m generalizing keys with
  | nil => exact hm
  | node first below after ihb iha =>
      obtain ⟨_, hbelow, hafter⟩ := keysOnMatches_node.mp hm
      simp only [Snapshot.assignKeys]
      refine keysOnMatches_node.mpr ⟨?_, ?_, iha hafter _⟩
      · intro hkey
        by_contra hself
        exact hkey (if_neg hself)
      · split
        · exact ihb hbelow _
        · exact hbelow

end Snapshot

theorem JumpMap.get?_eq_some_iff {m : JumpMap} (hnodup : (m.entries.map Prod.fst).Nodup) {k : Char}
    {h : Handle} : m.get? k = some h ↔ (k, h) ∈ m.entries := by
  obtain ⟨entries⟩ := m
  change entries.lookup k = some h ↔ _
  induction entries with
  | nil => simp
  | cons entry entries ih =>
      obtain ⟨k', h'⟩ := entry
      obtain ⟨hnew, hnodup⟩ := List.nodup_cons.mp hnodup
      by_cases hk : k = k'
      · subst hk
        have hnot : (k, h) ∉ entries := fun hmem => hnew (List.mem_map.mpr ⟨(k, h), hmem, rfl⟩)
        simp [hnot, eq_comm]
      · rw [List.lookup_cons, beq_false_of_ne hk]
        simp [hk, ih hnodup]

end Waymark.Search
