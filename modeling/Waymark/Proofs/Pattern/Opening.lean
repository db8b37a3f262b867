import Waymark.Proofs.Pattern.Group
import Waymark.Proofs.Pattern.Remainder
import Waymark.Proofs.Pattern.Text

/-!
# Where groups are opened

A pattern has a group of some name only if its text opens one, with the name behind an opening
parenthesis. If the text does so at most once, right before the last three characters of a group that takes
anything, the group comes last in the pattern, whatever stands before it.
-/

namespace Waymark.Pattern

/-! ## The groups of a body -/

namespace Expr

theorem groups_catAll (es : List Expr) : (catAll es).groups = es.flatMap groups := by
  induction es with
  | nil => rfl
  | cons e es ih => rw [catAll, groups, ih, List.flatMap_cons]

theorem groups_altAll (first : Expr) (es : List Expr) :
    (altAll first es).groups = first.groups ++ es.flatMap groups := by
  induction es generalizing first with
  | nil => simp [altAll]
  | cons e es ih => rw [altAll, groups, ih, List.flatMap_cons]

theorem trails_catAll {name : String} {es : List Expr} {body : Expr}
    (hes : ∀ e ∈ es, name ∉ e.groups) (hbody : body.groups = []) :
    (catAll (es ++ [.group name body])).Trails name := by
  induction es with
  | nil => exact .last (.group hbody)
  | cons e es ih =>
      exact .cat (hes e List.mem_cons_self) (ih fun e' he' => hes e' (List.mem_cons_of_mem e he'))

theorem trails_altAll {name : String} {first : Expr} {es : List Expr} (hfirst : first.Trails name)
    (hes : ∀ e ∈ es, e.Trails name) : (altAll first es).Trails name := by
  induction es generalizing first with
  | nil => exact hfirst
  | cons e es ih =>
      exact .alt hfirst (ih (hes e List.mem_cons_self) fun e' he' => hes e' (List.mem_cons_of_mem e he'))

end Expr

/-- The expressions of an alternative. -/
def Alternative.exprs (a : Alternative) : List Expr := a.items.filterMap Item.expr

/-- The expressions of a body, those of its closed alternatives included. -/
def Body.exprs (b : Body) : List Expr := (b.current :: b.earlier).flatMap Alternative.exprs

/-- No expression of the body has a group of some name. -/
def Body.Free (name : String) (b : Body) : Prop := ∀ e ∈ b.exprs, name ∉ e.groups

theorem Alternative.groups_expr (a : Alternative) {name : String} :
    name ∈ a.expr.groups ↔ ∃ e ∈ a.exprs, name ∈ e.groups := by
  simp [expr, Expr.groups_catAll, exprs]

namespace Body

variable {name : String} {b : Body}

theorem exprs_add (b : Body) (item : Item) : (b.add item).exprs = item.expr.toList ++ b.exprs := by
  cases hexpr : item.expr <;> simp [exprs, add, Alternative.add, Alternative.exprs, hexpr]

theorem exprs_next (b : Body) : b.next.exprs = b.exprs := by
  simp [exprs, next, Alternative.exprs]

theorem Free.add (hb : b.Free name) {item : Item} (hitem : ∀ e, item.expr = some e → name ∉ e.groups) :
    (b.add item).Free name := by
  intro e he
  rw [exprs_add] at he
  rcases List.mem_append.mp he with he | he
  · exact hitem e (Option.mem_toList.mp he)
  · exact hb e he

/-- The body as a whole is a choice between its alternatives. -/
theorem exists_altAll_of_close {e : Expr} (h : b.close.expr = some e) :
    ∃ first more, b.earlier.reverse ++ [b.current] = first :: more ∧
      e = Expr.altAll first.expr (more.map Alternative.expr) := by
  rw [close] at h
  cases hearlier : b.earlier.reverse with
  | nil =>
      rw [hearlier] at h
      cases h
      exact ⟨b.current, [], rfl, rfl⟩
  | cons first more =>
      rw [hearlier] at h
      cases h
      exact ⟨first, more ++ [b.current], rfl, rfl⟩

theorem Free.alternative (hb : b.Free name) {a : Alternative} (ha : a ∈ b.current :: b.earlier) :
    name ∉ a.expr.groups := by
  rw [Alternative.groups_expr]
  rintro ⟨e, he, hname⟩
  exact hb e (List.mem_flatMap.mpr ⟨a, ha, he⟩) hname

theorem Free.close (hb : b.Free name) {e : Expr} (h : b.close.expr = some e) : name ∉ e.groups := by
  obtain ⟨first, more, hall, rfl⟩ := exists_altAll_of_close h
  have hfree : ∀ a ∈ first :: more, name ∉ a.expr.groups := by
    intro a ha
    rw [← hall, List.mem_append, List.mem_reverse, List.mem_singleton] at ha
    exact hb.alternative (List.mem_cons.mpr ha.symm)
  rw [Expr.groups_altAll, List.mem_append, List.mem_flatMap]
  rintro (hname | ⟨e, he, hname⟩)
  · exact hfree first List.mem_cons_self hname
  · obtain ⟨a, ha, rfl⟩ := List.mem_map.mp he
    exact hfree a (List.mem_cons_of_mem first ha) hname

/-- If a group is added to a body that has none of its name, the body as a whole has it last. -/
theorem Free.trails_close (hb : b.Free name) {inner : Expr} (hinner : inner.groups = []) {height : Nat}
    {e : Expr} (h : (b.add ⟨some (.group name inner), height⟩).close.expr = some e) :
    e.Trails name := by
  obtain ⟨first, more, hall, rfl⟩ := exists_altAll_of_close h
  have hcurrent : (b.add ⟨some (.group name inner), height⟩).current.expr =
      Expr.catAll (b.current.items.reverse.filterMap Item.expr ++ [.group name inner]) := by
    change Expr.catAll ((⟨some (.group name inner), height⟩ :: b.current.items).reverse.filterMap
      Item.expr) = _
    rw [List.reverse_cons, List.filterMap_append]
    rfl
  have htrails : ∀ a ∈ first :: more, a.expr.Trails name := by
    intro a ha
    rw [← hall, List.mem_append, List.mem_reverse, List.mem_singleton] at ha
    rcases ha with ha | rfl
    · exact .without (hb.alternative (List.mem_cons_of_mem _ ha))
    · rw [hcurrent]
      refine Expr.trails_catAll (fun e he => hb e ?_) hinner
      rw [List.filterMap_reverse, List.mem_reverse] at he
      exact List.mem_flatMap.mpr ⟨b.current, List.mem_cons_self, he⟩
  refine Expr.trails_altAll (htrails first List.mem_cons_self) fun e he => ?_
  obtain ⟨a, ha, rfl⟩ := List.mem_map.mp he
  exact htrails a (List.mem_cons_of_mem first ha)

end Body

/-! ## What a step of the reader can do -/

/-- The texts that open a group of some name, behind the parenthesis. -/
def groupOpenings (name : String) : List (List Char) :=
  ["?P<".toList ++ name.toList ++ ['>'], "?<".toList ++ name.toList ++ ['>']]

namespace Reading

/-- What a step can do to a reading, if it opens no named group. -/
inductive Move (r : Reading) : Reading → Prop
  | push (e : Expr) (height : Nat) (h : e.groups = []) : Move r (r.push e height)
  | next : Move r { r with body := r.body.next }
  | again {r' : Reading} (min : Nat) (max : Option Nat) (greedy : Bool)
    (h : r.repeatLast? min max greedy = some r') : Move r r'
  | openGroup (flags : Flags) : Move r (r.openGroup none flags)
  | closeGroup {r' : Reading} (h : r.closeGroup? = some r') : Move r r'
  | setFlags (flags : Flags) : Move r { r with flags := flags, body := r.body.add ⟨none, 0⟩ }

/-- A reading in which a named group has been opened. -/
def openName (r : Reading) (name : String) : Reading :=
  { r with names := name :: r.names }.openGroup (some name) r.flags

/-- What a step comes to: it makes a move, or opens a named group with its name in the text. -/
def StepsTo (r : Reading) (cs : List Char) (r' : Reading) (rest : List Char) : Prop :=
  r.Move r' ∨
    ∃ name, r' = r.openName name ∧ ∃ opening ∈ groupOpenings name, opening ++ rest <:+ cs

theorem StepsTo.of_suffix {r r' : Reading} {cs more rest : List Char} (h : r.StepsTo more r' rest)
    (hmore : more <:+ cs) : r.StepsTo cs r' rest := by
  refine h.imp_right ?_
  rintro ⟨name, hr', opening, hopening, htext⟩
  exact ⟨name, hr', opening, hopening, htext.trans hmore⟩

variable {r r' : Reading} {cs rest : List Char}

theorem openNamed?_eq_some (h : r.openNamed? cs = some (r', rest)) :
    ∃ name, r' = r.openName name ∧ cs = name.toList ++ '>' :: rest := by
  obtain ⟨⟨name, more⟩, hname, h⟩ := Option.bind_eq_some_iff.mp h
  dsimp only at h
  split at h
  · cases h
  · cases h
    exact ⟨name, rfl, eq_append_of_readName cs hname⟩

/-- The sign and the angle that open a group, with the name behind them. -/
theorem stepsTo_openNamed? {opening : List Char} (hopening : opening = ['?', 'P', '<'] ∨ opening = ['?', '<'])
    (h : r.openNamed? cs = some (r', rest)) : r.StepsTo (opening ++ cs) r' rest := by
  obtain ⟨name, rfl, hcs⟩ := openNamed?_eq_some h
  have htext : opening ++ cs = (opening ++ name.toList ++ ['>']) ++ rest := by
    rw [hcs]
    simp
  rw [htext]
  refine .inr ⟨name, rfl, _, ?_, List.suffix_rfl⟩
  rcases hopening with rfl | rfl
  · exact List.mem_cons_self
  · exact List.mem_cons_of_mem _ List.mem_cons_self

theorem stepsTo_readGroup (h : r.readGroup cs = some (r', rest)) : r.StepsTo cs r' rest := by
  rw [readGroup] at h
  have hskip := r.flags.skip_suffix cs
  split at h
  case h_1 | h_2 | h_3 | h_4 => cases h
  case h_5 more hopen =>
      rw [hopen] at hskip
      exact (stepsTo_openNamed? (.inl rfl) h).of_suffix hskip
  case h_6 more _ _ hopen =>
      rw [hopen] at hskip
      exact (stepsTo_openNamed? (.inr rfl) h).of_suffix hskip
  case h_7 =>
      obtain ⟨⟨flags, unchanged, behind⟩, _, h⟩ := Option.bind_eq_some_iff.mp h
      dsimp only at h
      split at h
      case h_1 after =>
          cases h
          exact .inl (.openGroup flags)
      case h_2 after _ =>
          split at h
          · cases h
          · cases h
            exact .inl (.setFlags flags)
      case h_3 => cases h
  case h_8 =>
      cases h
      exact .inl (.openGroup r.flags)

theorem stepsTo_push {e : Option Expr} {height : Nat} {more : List Char}
    (he : ∀ e', e = some e' → e'.groups = [])
    (h : (e.map fun e => (r.push e height, more)) = some (r', rest)) : r.StepsTo cs r' rest := by
  obtain ⟨e', he', h⟩ := Option.map_eq_some_iff.mp h
  cases h
  exact .inl (.push e' height (he e' he'))

theorem stepsTo_again {min : Nat} {max : Option Nat} {greedy : Bool} {more : List Char}
    (h : ((r.repeatLast? min max greedy).map fun r => (r, more)) = some (r', rest)) :
    r.StepsTo cs r' rest := by
  obtain ⟨r'', hrepeat, h⟩ := Option.map_eq_some_iff.mp h
  cases h
  exact .inl (.again min max greedy hrepeat)

theorem groups_of_atom? {flags : Flags} {atom : Atom} :
    ∀ e, atom? flags atom = some e → e.groups = [] := by
  intro e h
  rw [atom?.eq_def] at h
  split at h
  case h_3 => cases h; rfl
  all_goals
    split at h
    · cases h
    · cases h
      rfl

theorem groups_of_dot? {flags : Flags} : ∀ e, dot? flags = some e → e.groups = [] := by
  intro e h
  rw [dot?] at h
  split at h
  · cases h
  · split at h
    · cases h
      rfl
    · split at h <;>
      · cases h
        rfl

theorem stepsTo_step {c : Char} (h : r.step c cs = some (r', rest)) : r.StepsTo cs r' rest := by
  rw [step.eq_def] at h
  dsimp only at h
  split at h
  case h_1 => exact stepsTo_readGroup h
  case h_2 =>
      obtain ⟨r'', hclose, h⟩ := Option.map_eq_some_iff.mp h
      cases h
      exact .inl (.closeGroup hclose)
  case h_3 =>
      cases h
      exact .inl .next
  case h_4 =>
      obtain ⟨cls, _, h⟩ := Option.bind_eq_some_iff.mp h
      exact stepsTo_push (by simp [Expr.groups]) h
  case h_5 | h_6 | h_7 => exact stepsTo_again h
  case h_8 =>
      obtain ⟨⟨min, max, greedy, more⟩, _, h⟩ := Option.bind_eq_some_iff.mp h
      obtain ⟨r'', hrepeat, h⟩ := Option.bind_eq_some_iff.mp h
      cases h
      exact .inl (.again min max greedy hrepeat)
  case h_9 =>
      obtain ⟨⟨atom, more⟩, _, h⟩ := Option.bind_eq_some_iff.mp h
      exact stepsTo_push groups_of_atom? h
  case h_10 => exact stepsTo_push groups_of_dot? h
  case h_11 | h_12 | h_13 => exact stepsTo_push (by simp [Expr.groups, literal]) h

/-! ## Readings without a group -/

/-- Neither what has been read nor an open group has some name. -/
structure Free (name : String) (r : Reading) : Prop where
  body : r.body.Free name
  groups : ∀ opened ∈ r.groups, opened.name ≠ some name ∧ opened.outer.Free name

variable {name : String}

theorem Free.openGroup (hr : r.Free name) {other : Option String} (hother : other ≠ some name)
    (flags : Flags) : (r.openGroup other flags).Free name := by
  refine ⟨fun e he => (by cases he), ?_⟩
  intro opened hopened
  rcases List.mem_cons.mp hopened with rfl | hopened
  · exact ⟨hother, hr.body⟩
  · exact hr.groups opened hopened

theorem Free.closeGroup? (hr : r.Free name) (h : r.closeGroup? = some r') : r'.Free name := by
  rw [Reading.closeGroup?] at h
  cases hgroups : r.groups with
  | nil =>
      rw [hgroups] at h
      cases h
  | cons opened groups =>
      rw [hgroups] at h
      obtain ⟨hname, houter⟩ := hr.groups opened (hgroups ▸ List.mem_cons_self)
      cases h
      refine ⟨houter.add ?_, fun o ho => hr.groups o (hgroups ▸ List.mem_cons_of_mem opened ho)⟩
      intro e he
      dsimp only at he
      split at he
      case h_1 other inner hopened hinner =>
          cases he
          rw [Expr.groups, List.mem_cons, not_or]
          exact ⟨fun heq => hname (heq ▸ hopened), hr.body.close hinner⟩
      case h_2 => exact hr.body.close he

theorem Free.repeatLast? (hr : r.Free name) {min : Nat} {max : Option Nat} {greedy : Bool}
    (h : r.repeatLast? min max greedy = some r') : r'.Free name := by
  rw [Reading.repeatLast?] at h
  split at h
  case h_1 e height items hitems =>
      cases h
      refine ⟨?_, hr.groups⟩
      have hold : ∀ e' ∈ e :: items.filterMap Item.expr ++ r.body.earlier.flatMap Alternative.exprs,
          name ∉ e'.groups := by
        intro e' he'
        refine hr.body e' ?_
        rw [Body.exprs, List.flatMap_cons, Alternative.exprs, hitems]
        exact he'
      intro e' he'
      rcases List.mem_cons.mp he' with rfl | he'
      · exact hold e (by simp)
      · exact hold e' (List.mem_cons_of_mem e he')
  case h_2 => cases h

theorem Move.free (h : r.Move r') (hr : r.Free name) : r'.Free name := by
  cases h with
  | push e height he =>
      refine ⟨hr.body.add ?_, hr.groups⟩
      rintro e' ⟨⟩
      rw [he]
      exact List.not_mem_nil
  | next =>
      refine ⟨fun e he => hr.body e ?_, hr.groups⟩
      rw [← Body.exprs_next]
      exact he
  | again min max greedy h => exact hr.repeatLast? h
  | openGroup flags => exact hr.openGroup (by simp) flags
  | closeGroup h => exact hr.closeGroup? h
  | setFlags flags => exact ⟨hr.body.add fun e he => (by cases he), hr.groups⟩

theorem Free.pushAll (hr : r.Free name) {parts : List (Expr × Nat)}
    (hparts : ∀ part ∈ parts, part.1.groups = []) : (r.pushAll parts).Free name := by
  induction parts generalizing r with
  | nil => exact hr
  | cons part parts ih =>
      have hpush := (Move.push (r := r) part.1 part.2 (hparts part List.mem_cons_self)).free hr
      exact ih hpush fun part' hpart' => hparts part' (List.mem_cons_of_mem part hpart')

theorem groups_of_mem_textParts {flags : Flags} {text : List Char} :
    ∀ part ∈ textParts flags text, part.1.groups = [] := by
  intro part hpart
  obtain ⟨c, _, rfl⟩ := List.mem_map.mp hpart
  rfl

theorem Free.openName (hr : r.Free name) {other : String} (hother : other ≠ name) :
    (r.openName other).Free name :=
  openGroup (r := { r with names := other :: r.names }) ⟨hr.body, hr.groups⟩
    (fun heq => hother (Option.some.inj heq)) r.flags

/-! ## A group that is opened right before the end -/

theorem skip_eq_self (flags : Flags) {c : Char} (hblank : Unicode.isBlank c = false) (hsign : c ≠ '#')
    (rest : List Char) : flags.skip (c :: rest) = c :: rest := by
  simp [Flags.skip, Flags.skipSpaced, hblank, hsign]

/-- A reading goes on with a part that stands at the front of the text. -/
theorem exists_step_of_run {c : Char} (hskip : r.flags.skip (c :: cs) = c :: cs)
    (h : r.run (c :: cs) = some r') :
    ∃ r'' rest, r.step c cs = some (r'', rest) ∧ r''.run rest = some r' := by
  rw [run_eq, hskip] at h
  obtain ⟨next, hstep, h⟩ := Option.bind_eq_some_iff.mp h
  exact ⟨next.1, next.2, hstep, h⟩

/-- Where a group that takes anything is opened right before the end. -/
theorem exists_of_run_tail (h : (r.openName name).run ['.', '*', ')'] = some r') :
    ∃ inner height, inner.groups = [] ∧
      r'.body = r.body.add ⟨some (.group name inner), height⟩ := by
  obtain ⟨r1, rest, hdot, h⟩ := exists_step_of_run (skip_eq_self _ rfl (by decide) _) h
  obtain ⟨e, he, hpush⟩ := Option.map_eq_some_iff.mp hdot
  cases hpush
  obtain ⟨r2, rest, hstar, h⟩ := exists_step_of_run (skip_eq_self _ rfl (by decide) _) h
  cases hstar
  obtain ⟨r3, rest, hclose, h⟩ := exists_step_of_run (skip_eq_self _ rfl (by decide) _) h
  cases hclose
  rw [run_nil] at h
  cases h
  refine ⟨_, _, ?_, rfl⟩
  exact (List.append_nil e.groups).trans (groups_of_dot? e he)

/-- Some group is opened in a text only where a given rest is left. -/
def OpensBefore (name : String) (last cs : List Char) : Prop :=
  ∀ opening ∈ groupOpenings name, ∀ rest, opening ++ rest <:+ cs → rest = last

theorem OpensBefore.of_suffix {last : List Char} (h : OpensBefore name last cs) (hrest : rest <:+ cs) :
    OpensBefore name last rest :=
  fun opening hopening rest' hrest' => h opening hopening rest' (hrest'.trans hrest)

/-- A reading without a group stays without it, or gets it in the end. -/
theorem free_or_exists_of_run (hr : r.Free name) (hcs : OpensBefore name ['.', '*', ')'] cs)
    (h : r.run cs = some r') :
    r'.Free name ∨ ∃ (before : Reading) (inner : Expr) (height : Nat), before.Free name ∧
      inner.groups = [] ∧ r'.body = before.body.add ⟨some (.group name inner), height⟩ := by
  fun_induction run r cs with
  | case1 r cs hskip =>
      cases h
      exact .inl hr
  | case2 => cases h
  | case3 r cs c more hskip r'' rest hstep ih =>
      have hmore : more <:+ cs := Flags.suffix_of_skip_eq_cons hskip
      have hsuffix : rest <:+ cs := (step_leaves more r c _ hstep).trans hmore
      rcases (stepsTo_step hstep).of_suffix hmore with hmove | ⟨other, rfl, opening, hopening, htext⟩
      · exact ih (hmove.free hr) (hcs.of_suffix hsuffix) h
      · by_cases hother : other = name
        · subst hother
          rw [hcs opening hopening rest htext] at h
          obtain ⟨inner, height, hinner, hbody⟩ := exists_of_run_tail h
          exact .inr ⟨r, inner, height, hr, hinner, hbody⟩
        · exact ih (hr.openName hother) (hcs.of_suffix hsuffix) h

/-- If a text opens a group at most right before the end, the group comes last in the pattern. -/
theorem trails_of_run (hr : r.Free name) (hcs : OpensBefore name ['.', '*', ')'] cs) {e : Expr}
    (h : (r.run cs).bind result? = some e) : e.Trails name := by
  obtain ⟨r', hrun, hresult⟩ := Option.bind_eq_some_iff.mp h
  have hclose : r'.body.close.expr = some e := by
    rw [result?] at hresult
    split at hresult
    case isTrue =>
        dsimp only at hresult
        split at hresult
        case h_1 => cases hresult
        case h_2 e' he' =>
            split at hresult
            · cases hresult
              exact he'
            · cases hresult
    case isFalse => cases hresult
  rcases free_or_exists_of_run hr hcs hrun with hfree | ⟨before, inner, height, hbefore, hinner, hbody⟩
  · exact .without (hfree.body.close hclose)
  · rw [hbody] at hclose
    exact hbefore.body.trails_close hinner hclose

end Reading

end Waymark.Pattern
