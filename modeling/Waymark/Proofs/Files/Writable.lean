import Mathlib.Data.List.Basic
import Waymark.Files.Tree

/-!
# Writing a file and reading it back

Where a path leads is found by way of directories only. A file that is written to a place that is no
directory is none of them, so the path still leads to it, and what is read there is what was written. A
file can be written at a path of plain names if nothing but directories is on the way.
-/

namespace Waymark.FileTree

variable {t t' : FileTree} {place place' : FilePlace} {path name : String} {names : List String}
  {content : ByteArray}

/-! ## Places -/

@[simp] theorem lookup?_nil : t.lookup? [] = some .directory := rfl

@[simp] theorem lookup?_put_self (h : place ≠ []) (e : FileEntry) :
    (t.put place e).lookup? place = some e := by
  simp [lookup?, put, h]

@[simp] theorem lookup?_put_of_ne (h : place' ≠ place) (e : FileEntry) :
    (t.put place e).lookup? place' = t.lookup? place' := by
  rw [lookup?, lookup?, put, List.lookup_cons, beq_false_of_ne h]

theorem lookup?_of_step (h : t.step place name = .ok place') : t.lookup? place = some .directory := by
  unfold step at h
  split at h
  case h_1 => cases h
  case h_2 => cases h
  case h_3 hlookup => exact hlookup

theorem follow_append (names more : List String) :
    t.follow (names ++ more) = (t.follow names).bind fun place => more.foldlM t.step place :=
  List.foldlM_append

/-- A path that leads anywhere is a relative one that is not too long, whatever the tree. -/
theorem locate_eq_ok_iff : t.locate path = .ok place ↔
    (¬path.toList.contains '\x00' ∧ ¬(path.isEmpty || Path.isAbsolute path) ∧
      ¬4096 ≤ path.utf8ByteSize) ∧
      t.follow (Path.names path ++ if Path.endsWithSlash path then ["."] else []) = .ok place := by
  unfold locate
  by_cases hzero : path.toList.contains '\x00'
  · rw [if_pos hzero]
    exact ⟨nofun, fun h => absurd hzero h.1.1⟩
  by_cases houtside : path.isEmpty || Path.isAbsolute path
  · rw [if_neg hzero, if_pos houtside]
    exact ⟨nofun, fun h => absurd houtside h.1.2.1⟩
  by_cases hlong : 4096 ≤ path.utf8ByteSize
  · rw [if_neg hzero, if_neg houtside, if_pos hlong]
    exact ⟨nofun, fun h => absurd hlong h.1.2.2⟩
  · rw [if_neg hzero, if_neg houtside, if_neg hlong]
    exact (and_iff_right ⟨hzero, houtside, hlong⟩).symm

/-- A path with a slash at its end leads to a directory if it leads anywhere. -/
theorem lookup?_of_endsWithSlash (hslash : Path.endsWithSlash path) (h : t.locate path = .ok place) :
    t.lookup? place = some .directory := by
  have hfollow := (locate_eq_ok_iff.mp h).2
  rw [if_pos hslash, follow_append] at hfollow
  cases hbefore : t.follow (Path.names path) with
  | error e => rw [hbefore] at hfollow; cases hfollow
  | ok before =>
      rw [hbefore] at hfollow
      have hdot : t.step before "." = .ok place := by
        rw [← hfollow]
        exact (bind_pure (t.step before ".")).symm
      have hdirectory := lookup?_of_step hdot
      obtain rfl : before = place := by simpa [step, hdirectory] using hdot
      exact hdirectory

/-- Writing succeeds exactly at paths that lead to a place that is no directory, whatever is written. -/
theorem write_eq_ok_iff : t.write path content = .ok t' ↔
    ∃ place, t.locate path = .ok place ∧ t.lookup? place ≠ some .directory ∧
      t' = t.put place (.file content) := by
  unfold write
  split_ifs with hslash
  · constructor
    · intro h
      cases hfollow : t.follow (Path.names path) <;> rw [hfollow] at h <;> cases h
    · rintro ⟨place, hlocate, hplace, -⟩
      exact absurd (lookup?_of_endsWithSlash (Bool.and_eq_true_iff.mp hslash).1 hlocate) hplace
  · cases hlocate : t.locate path with
    | error e => exact ⟨nofun, nofun⟩
    | ok place =>
        have hput : (if t.lookup? place = some .directory then .error FileError.isADirectory
            else .ok (t.put place (.file content))) = Except.ok t' ↔
            t.lookup? place ≠ some .directory ∧ t' = t.put place (.file content) := by
          split_ifs with hplace
          · exact ⟨nofun, fun h => absurd hplace h.1⟩
          · exact ⟨fun h => ⟨hplace, (Except.ok.inj h).symm⟩, fun h => congrArg _ h.2.symm⟩
        refine hput.trans ⟨fun h => ⟨place, rfl, h⟩, ?_⟩
        rintro ⟨_, hsame, h⟩
        cases hsame
        exact h

/-! ## Reading back -/

/-- A file can be written at the path: the directories around it are there or can be made, and then the
path leads to a place that is no directory. -/
structure Writable (t : FileTree) (path : String) : Prop where
  around : (t.ensureAround path).2 = .ok ()
  place : ∃ place, (t.ensureAround path).1.locate path = .ok place ∧
    (t.ensureAround path).1.lookup? place ≠ some .directory

/-- A file can be written at the path if some content can. -/
theorem writable_iff : t.Writable path ↔
    (t.ensureAround path).2 = .ok () ∧
      ∃ content t', (t.ensureAround path).1.write path content = .ok t' := by
  constructor
  · rintro ⟨haround, place, hlocate, hplace⟩
    exact ⟨haround, .empty, _, write_eq_ok_iff.mpr ⟨place, hlocate, hplace, rfl⟩⟩
  · rintro ⟨haround, content, t', hwrite⟩
    obtain ⟨place, hlocate, hplace, -⟩ := write_eq_ok_iff.mp hwrite
    exact ⟨haround, place, hlocate, hplace⟩

/-! ## Paths of plain names -/

/-- The name is that of a file or a directory in the directory where it stands. -/
structure IsPlainName (name : String) : Prop where
  ne_dot : name ≠ "."
  ne_dots : name ≠ ".."
  size_le : name.utf8ByteSize ≤ 255

/-- There is nothing but directories at a place and around it. Some of them may be missing. -/
def IsFree (t : FileTree) (place : FilePlace) : Prop :=
  ∀ p, p <:+ place → ∀ content, t.lookup? p ≠ some (.file content)

/-- All directories from the working directory to the place are there. -/
def IsMade (t : FileTree) (place : FilePlace) : Prop :=
  ∀ p, p <:+ place → t.lookup? p = some .directory

theorem IsFree.tail (h : t.IsFree place) : t.IsFree place.tail :=
  fun p hp => h p (hp.trans (List.tail_suffix place))

theorem IsMade.tail (h : t.IsMade place) : t.IsMade place.tail :=
  fun p hp => h p (hp.trans (List.tail_suffix place))

theorem isMade_nil : t.IsMade [] := by
  intro p hp
  rw [List.suffix_nil.mp hp, lookup?_nil]

theorem IsMade.of_tail (hself : t.lookup? place = some .directory) (h : t.IsMade place.tail) :
    t.IsMade place := by
  intro p hp
  cases place with
  | nil => rw [List.suffix_nil.mp hp, lookup?_nil]
  | cons name dir =>
      rcases List.suffix_cons_iff.mp hp with rfl | hp
      · exact hself
      · exact h p hp

/-- On a free place stands a directory or nothing. -/
theorem IsFree.lookup?_eq_none (hfree : t.IsFree place) (h : t.lookup? place ≠ some .directory) :
    t.lookup? place = none := by
  match hlookup : t.lookup? place with
  | none => rfl
  | some .directory => exact absurd hlookup h
  | some (.file content) => exact absurd hlookup (hfree place List.suffix_rfl content)

theorem step_of_plain (hname : IsPlainName name) (h : t.lookup? place = some .directory) :
    t.step place name = .ok (name :: place) := by
  simp only [step, h, hname.ne_dot, hname.ne_dots, Nat.not_lt.mpr hname.size_le, if_false]

theorem follow_snoc (names : List String) (name : String) :
    t.follow (names ++ [name]) = (t.follow names).bind (t.step · name) := by
  rw [follow_append]
  exact congrArg _ (funext fun place => bind_pure (t.step place name))

/-- Plain names lead to the place with these names if the directories around it are there. -/
theorem follow_reverse_of_isMade (hplain : ∀ n ∈ place, IsPlainName n) (h : t.IsMade place.tail) :
    t.follow place.reverse = .ok place := by
  induction place with
  | nil => rfl
  | cons name dir ih =>
      obtain ⟨hname, hdir⟩ := List.forall_mem_cons.mp hplain
      rw [List.reverse_cons, follow_snoc, ih hdir h.tail]
      exact step_of_plain hname (h dir List.suffix_rfl)

/-- Plain names lead nowhere if one of the directories is missing. -/
theorem follow_reverse_of_not_isMade (hplain : ∀ n ∈ place, IsPlainName n) (hfree : t.IsFree place.tail)
    (h : ¬t.IsMade place.tail) : t.follow place.reverse = .error .notFound := by
  induction place with
  | nil => exact absurd isMade_nil h
  | cons name dir ih =>
      obtain ⟨hname, hdir⟩ := List.forall_mem_cons.mp hplain
      rw [List.reverse_cons, follow_snoc]
      by_cases hmade : t.IsMade dir.tail
      · rw [follow_reverse_of_isMade hdir hmade]
        have hnone : t.lookup? dir = none :=
           hfree.lookup?_eq_none fun hself => h (.of_tail hself hmade)
        simp only [Except.bind, step, hnone]
      · rw [ih hdir hfree.tail hmade]
        rfl

/-- Making a directory whose surroundings are there succeeds, and changes nothing else. -/
theorem ensureDirectory_of_isMade (hplain : ∀ n ∈ place, IsPlainName n) (hfree : t.IsFree place)
    (h : t.IsMade place.tail) :
    ∃ t', t.ensureDirectory place.reverse = (t', .ok ()) ∧ t'.IsMade place ∧
      ∀ p, p ≠ place → t'.lookup? p = t.lookup? p := by
  have hfollow := follow_reverse_of_isMade hplain h
  by_cases hself : t.lookup? place = some .directory
  · refine ⟨t, ?_, .of_tail hself h, fun _ _ => rfl⟩
    simp [ensureDirectory, makeDirectory, leadsToDirectory, hfollow, bind, Except.bind, hself]
  · have hnone := hfree.lookup?_eq_none hself
    have hne : place ≠ [] := by
      rintro rfl
      exact hself lookup?_nil
    have hrest : ∀ p, p ≠ place → (t.put place .directory).lookup? p = t.lookup? p :=
      fun p hp => lookup?_put_of_ne hp _
    refine ⟨t.put place .directory, ?_, .of_tail (lookup?_put_self hne _) fun p hp => ?_, hrest⟩
    · simp [ensureDirectory, makeDirectory, hfollow, bind, Except.bind, hnone]
    · rw [hrest p, h p hp]
      rintro rfl
      exact hself (h p hp)

/-- Making a directory below one that is missing fails. -/
theorem ensureDirectory_of_not_isMade (hplain : ∀ n ∈ place, IsPlainName n)
    (hfree : t.IsFree place.tail) (h : ¬t.IsMade place.tail) :
    t.ensureDirectory place.reverse = (t, .error .notFound) := by
  have hfollow := follow_reverse_of_not_isMade hplain hfree h
  simp [ensureDirectory, makeDirectory, leadsToDirectory, hfollow, bind, Except.bind]

/-- The directories from the working directory to a free place are made, and no others. -/
theorem ensureAll_of_plain (hplain : ∀ n ∈ place, IsPlainName n) (hfree : t.IsFree place) :
    ∃ t', t.ensureAll place = (t', .ok ()) ∧ t'.IsMade place ∧
      ∀ p, ¬p <:+ place → t'.lookup? p = t.lookup? p := by
  induction place with
  | nil => exact ⟨t, rfl, isMade_nil, fun _ _ => rfl⟩
  | cons name dir ih =>
      have hdir := (List.forall_mem_cons.mp hplain).2
      by_cases hmade : t.IsMade dir
      · obtain ⟨t', hensure, hmade', hrest⟩ := ensureDirectory_of_isMade hplain hfree hmade
        refine ⟨t', by rw [ensureAll, hensure], hmade', fun p hp => hrest p ?_⟩
        rintro rfl
        exact hp List.suffix_rfl
      · obtain ⟨t₁, houter, hmade₁, hrest₁⟩ := ih hdir hfree.tail
        have hfree₁ : t₁.IsFree (name :: dir) := by
          intro p hp content hfile
          by_cases hin : p <:+ dir
          · rw [hmade₁ p hin] at hfile
            cases hfile
          · exact hfree p hp content ((hrest₁ p hin).symm.trans hfile)
        obtain ⟨t', hensure, hmade', hrest⟩ := ensureDirectory_of_isMade hplain hfree₁ hmade₁
        refine ⟨t', ?_, hmade', fun p hp => ?_⟩
        · rw [ensureAll, ensureDirectory_of_not_isMade hplain hfree.tail hmade]
          simp only [houter, hensure]
        · rw [hrest p, hrest₁ p fun hin => hp (hin.trans (List.suffix_cons name dir))]
          rintro rfl
          exact hp List.suffix_rfl

theorem components_eq_names (hplain : ∀ n ∈ Path.names path, IsPlainName n) :
    Path.components path = Path.names path := by
  unfold Path.components
  split
  case h_1 hnames => exact hnames.symm
  case h_2 name more hnames =>
    rw [hnames] at hplain ⊢
    obtain ⟨hname, hmore⟩ := List.forall_mem_cons.mp hplain
    have hdots : more.filter (· ≠ ".") = more :=
      List.filter_eq_self.mpr fun n hn => decide_eq_true (hmore n hn).ne_dot
    rw [hdots, decide_eq_false hname.ne_dot]
    rfl

/-- A file can be written at a relative path of plain names if its place is no directory and no file is
on the way to it. -/
theorem writable_of_plain (hzero : ¬path.toList.contains '\x00')
    (hrelative : ¬Path.isAbsolute path) (hshort : ¬4096 ≤ path.utf8ByteSize)
    (hslash : Path.endsWithSlash path = false) (hplain : ∀ n ∈ Path.names path, IsPlainName n)
    (hfree : t.IsFree (Path.names path).dropLast.reverse)
    (hplace : t.lookup? (Path.names path).reverse ≠ some .directory) : t.Writable path := by
  have hne : Path.names path ≠ [] := by
    intro hnil
    rw [hnil] at hplace
    exact hplace lookup?_nil
  have htail : (Path.names path).reverse.tail = (Path.names path).dropLast.reverse := by
    rw [List.tail_reverse]
  have haround : t.ensureAround path = t.ensureAll (Path.names path).dropLast.reverse := by
    rw [ensureAround, if_neg hzero, if_neg hrelative, components_eq_names hplain]
  obtain ⟨t', hensure, hmade, hrest⟩ := ensureAll_of_plain
    (fun n hn => hplain n (List.dropLast_subset _ (List.mem_reverse.mp hn))) hfree
  refine ⟨by rw [haround, hensure], (Path.names path).reverse, ?_, ?_⟩
  · have hempty : ¬(path.isEmpty || Path.isAbsolute path) := by
      rw [Bool.or_eq_true, not_or]
      refine ⟨fun hempty => hne ?_, hrelative⟩
      rw [String.isEmpty_iff.mp hempty]
      rfl
    rw [haround, hensure]
    refine locate_eq_ok_iff.mpr ⟨⟨hzero, hempty, hshort⟩, ?_⟩
    rw [hslash, if_neg Bool.false_ne_true, List.append_nil]
    have hfollow : t'.follow (Path.names path).reverse.reverse = _ := follow_reverse_of_isMade
      (fun n hn => hplain n (List.mem_reverse.mp hn)) (htail ▸ hmade)
    rwa [List.reverse_reverse] at hfollow
  · rw [haround, hensure, hrest]
    · exact hplace
    · intro hsuffix
      have hlength := hsuffix.length_le
      have hpos := List.length_pos_iff.mpr hne
      simp at hlength
      omega

end Waymark.FileTree
