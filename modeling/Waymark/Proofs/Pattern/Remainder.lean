import Waymark.Pattern.Reader

/-!
# What readers leave

Whatever part of a pattern is read, what is left is a tail of the text that it was read from: readers take
characters off the front and never put any back. Each reader has one lemma that says so, in the order of
the readers.
-/

namespace Waymark.Pattern

/-- What a result leaves, if there is one, is a tail of the text. -/
def Leaves {α : Type} (left : α → List Char) (cs : List Char) (result : Option α) : Prop :=
  ∀ a, result = some a → left a <:+ cs

namespace Leaves

variable {α β : Type} {left : α → List Char} {cs more : List Char}

theorem none : Leaves left cs none := by
  intro a h
  cases h

theorem some {a : α} (h : left a <:+ cs) : Leaves left cs (some a) := by
  intro b hb
  cases hb
  exact h

theorem bind {first : Option β} {next : β → Option α}
    (h : ∀ b, first = .some b → Leaves left cs (next b)) : Leaves left cs (first >>= next) := by
  intro a ha
  obtain ⟨b, hb, hnext⟩ := Option.bind_eq_some_iff.mp ha
  exact h b hb a hnext

theorem of_suffix {result : Option α} (h : Leaves left more result) (hmore : more <:+ cs) :
    Leaves left cs result :=
  fun a ha => (h a ha).trans hmore

end Leaves

theorem suffix_cons_of_suffix {rest cs : List Char} (c : Char) (h : rest <:+ cs) : rest <:+ c :: cs :=
  h.trans (List.suffix_cons c cs)

/-! ## Skipping -/

namespace Flags

theorem skipSpaced_suffix (inComment : Bool) (cs : List Char) : skipSpaced inComment cs <:+ cs := by
  fun_induction skipSpaced inComment cs with
  | case1 => exact List.suffix_rfl
  | case2 c rest ih => exact suffix_cons_of_suffix c ih
  | case3 c rest _ ih => exact suffix_cons_of_suffix c ih
  | case4 rest _ ih => exact suffix_cons_of_suffix _ ih
  | case5 => exact List.suffix_rfl

theorem skip_suffix (flags : Flags) (cs : List Char) : flags.skip cs <:+ cs := by
  rw [skip]
  split
  · exact skipSpaced_suffix false cs
  · exact List.suffix_rfl

/-- What stands behind the next part. -/
theorem suffix_of_skip_eq_cons {flags : Flags} {cs rest : List Char} {c : Char}
    (h : flags.skip cs = c :: rest) : rest <:+ cs :=
  (List.suffix_cons c rest).trans (h ▸ flags.skip_suffix cs)

end Flags

/-! ## Escapes -/

namespace Escape

variable (flags : Flags) (cs : List Char)

theorem fixedHex_leaves (count value : Nat) : Leaves Prod.snd cs (fixedHex flags count value cs) := by
  fun_induction fixedHex flags count value cs with
  | case1 => exact .some List.suffix_rfl
  | case2 => exact .none
  | case3 value count c more ih =>
      exact .bind fun d _ => (ih d).of_suffix (suffix_cons_of_suffix c (flags.skip_suffix more))

theorem bracedHex_leaves : Leaves Prod.snd cs (bracedHex flags cs) := by
  fun_induction bracedHex flags cs with
  | case1 => exact .none
  | case2 cs more hskip =>
      exact .some ((flags.skip_suffix more).trans (Flags.suffix_of_skip_eq_cons hskip))
  | case3 cs c more hskip _ ih =>
      exact .bind fun _ _ => .bind fun pair hpair =>
        .some ((ih pair hpair).trans (Flags.suffix_of_skip_eq_cons hskip))

theorem hex_leaves (count : Nat) : Leaves Prod.snd cs (hex flags count cs) := by
  rw [hex]
  split
  case h_1 => exact .none
  case h_2 more hskip =>
      refine .bind fun pair hpair => ?_
      dsimp only
      split
      · exact .none
      · exact .bind fun c _ =>
          .some ((bracedHex_leaves flags more pair hpair).trans (Flags.suffix_of_skip_eq_cons hskip))
  case h_3 =>
      exact .bind fun pair hpair => .bind fun c _ =>
        .some ((fixedHex_leaves flags _ count 0 pair hpair).trans (flags.skip_suffix cs))

theorem braced_leaves : Leaves Prod.snd cs (braced flags cs) := by
  fun_induction braced flags cs with
  | case1 => exact .none
  | case2 cs more hskip => exact .some (Flags.suffix_of_skip_eq_cons hskip)
  | case3 cs c more hskip _ ih =>
      exact .bind fun pair hpair =>
        .some ((ih pair hpair).trans (Flags.suffix_of_skip_eq_cons hskip))

theorem property_leaves (negated : Bool) : Leaves Prod.snd cs (property flags negated cs) := by
  have hclass : ∀ name rest, rest <:+ cs → Leaves Prod.snd cs (do
      if !flags.unicode then none
      let found ← propertyClass? name
      return (Atom.cls (finish flags (negated != found.2) found.1) propertyCost, rest)) := by
    intro name rest hrest
    dsimp only
    split
    · exact .none
    · exact .bind fun _ _ => .some hrest
  rw [property]
  split
  case h_1 => exact .none
  case h_2 rest hskip =>
      exact .bind fun pair hpair => hclass _ _
        ((braced_leaves flags rest pair hpair).trans (Flags.suffix_of_skip_eq_cons hskip))
  case h_3 c rest _ hskip =>
      dsimp only
      split
      · exact .none
      · exact hclass _ _ ((flags.skip_suffix rest).trans (Flags.suffix_of_skip_eq_cons hskip))

theorem edgeName_suffix : (edgeName flags cs).2 <:+ cs := by
  fun_induction edgeName flags cs with
  | case1 => exact List.suffix_rfl
  | case2 c more _ name rest hmore ih =>
      rw [hmore] at ih
      exact suffix_cons_of_suffix c (ih.trans (flags.skip_suffix more))
  | case3 => exact List.suffix_rfl

theorem wordEdge_leaves : Leaves Prod.snd cs (wordEdge flags cs) := by
  rw [wordEdge.eq_def]
  split
  case h_1 rest =>
      split
      case h_1 => exact .none
      case h_2 c more hskip =>
          split
          case isTrue =>
              split
              case h_1 name after hname =>
                  have hafter : after <:+ '\x7b' :: rest := by
                    have hedge := edgeName_suffix flags (c :: more)
                    rw [hname, ← hskip] at hedge
                    exact suffix_cons_of_suffix _
                      ((List.suffix_cons _ after).trans (hedge.trans (flags.skip_suffix rest)))
                  split <;> first | exact .some hafter | exact .none
              case h_2 => exact .none
          case isFalse => exact .some List.suffix_rfl
  case h_2 => exact .some List.suffix_rfl

theorem read_leaves : Leaves Prod.snd cs (read flags cs) := by
  rw [read.eq_def]
  split
  case h_1 => exact .none
  case h_2 c rest =>
      have hrest : rest <:+ c :: rest := List.suffix_cons c rest
      dsimp only
      split
      case h_1 | h_2 | h_3 => exact (hex_leaves flags rest _).of_suffix hrest
      case h_4 | h_5 => exact (property_leaves flags rest _).of_suffix hrest
      case h_20 =>
          exact .bind fun pair hpair => .some ((wordEdge_leaves flags rest pair hpair).trans hrest)
      case h_24 =>
          split
          · exact .some hrest
          · exact .none
      all_goals exact .some hrest

end Escape

/-! ## Brackets -/

namespace Bracket

variable (flags : Flags) (cs : List Char)

theorem readAtom_leaves : Leaves Prod.snd cs (readAtom flags cs) := by
  rw [readAtom.eq_def]
  split
  case h_1 => exact .none
  case h_2 rest => exact (Escape.read_leaves flags rest).of_suffix (List.suffix_cons _ rest)
  case h_3 c rest _ => exact .some (List.suffix_cons c rest)

theorem readItem_leaves : Leaves Prod.snd cs (readItem flags cs) := by
  refine .bind fun pair hpair => ?_
  have hskip : flags.skip pair.2 <:+ cs :=
    (flags.skip_suffix pair.2).trans (readAtom_leaves flags cs pair hpair)
  dsimp only
  split
  case h_1 => exact .none
  case h_2 more hmore =>
      rw [hmore] at hskip
      split
      · exact .bind fun _ _ => .some hskip
      · have hafter : flags.skip more <:+ cs :=
          (flags.skip_suffix more).trans ((List.suffix_cons _ more).trans hskip)
        split
        · exact .none
        · exact .bind fun last hlast => .bind fun _ _ =>
            .some ((readAtom_leaves flags _ last hlast).trans hafter)
  case h_3 => exact .bind fun _ _ => .some hskip

theorem readNamed?_leaves : Leaves Prod.snd cs (readNamed? flags cs) := by
  rw [readNamed?.eq_def]
  split
  case h_1 first =>
      split
      case h_1 negated more hmore =>
          have hfirst : more <:+ ':' :: first := by
            split at hmore
            case h_1 => cases hmore; exact suffix_cons_of_suffix _ (List.suffix_cons _ _)
            case h_2 => cases hmore; exact List.suffix_cons _ _
          dsimp only
          split
          case h_1 rest hdrop =>
              have hrest : rest <:+ more.dropWhile (· != ':') := by
                rw [hdrop]
                exact suffix_cons_of_suffix _ (List.suffix_cons _ rest)
              exact .bind fun _ _ => .some (hrest.trans ((List.dropWhile_suffix _).trans hfirst))
          case h_2 => exact .none
  case h_2 => exact .none

theorem leadingHyphens_suffix (listing : Listing) : (leadingHyphens flags listing cs).2 <:+ cs := by
  fun_induction leadingHyphens flags listing cs with
  | case1 listing rest ih =>
      exact suffix_cons_of_suffix _ (ih.trans (flags.skip_suffix rest))
  | case2 => exact List.suffix_rfl

theorem openClass_leaves : Leaves (fun opened => opened.2.2) cs (openClass flags cs) := by
  rw [openClass]
  split
  case h_1 negated more hmore =>
      have hfirst : more <:+ cs := by
        split at hmore
        case h_1 rest hskip =>
            cases hmore
            exact (flags.skip_suffix rest).trans (Flags.suffix_of_skip_eq_cons hskip)
        case h_2 => cases hmore; exact flags.skip_suffix cs
      have hrest := (leadingHyphens_suffix flags more {}).trans hfirst
      dsimp only
      split
      case h_1 => exact .none
      case h_2 rest hclose =>
          have hafter : flags.skip rest <:+ cs := by
            rw [hclose] at hrest
            exact (flags.skip_suffix rest).trans ((List.suffix_cons _ rest).trans hrest)
          split
          · split
            · exact .none
            · exact .some hafter
          · exact .some hrest
      case h_3 => exact .some hrest

theorem readOperator?_leaves : Leaves Prod.snd cs (readOperator? cs) := by
  rw [readOperator?.eq_def]
  split
  case h_4 => exact .none
  all_goals exact .some (suffix_cons_of_suffix _ (List.suffix_cons _ _))

theorem readInside_leaves (stack : List Frame) (listing : Listing) (total : Nat) :
    Leaves Result.rest cs (readInside flags stack listing total cs) := by
  fun_induction readInside flags stack listing total cs with
  | case2 _ _ _ _ rest hskip _ _ hnamed _ ih =>
      exact ih.of_suffix ((readNamed?_leaves flags rest _ hnamed).trans (Flags.suffix_of_skip_eq_cons hskip))
  | case5 _ _ _ _ rest hskip _ _ _ _ hopen _ ih =>
      exact ih.of_suffix ((openClass_leaves flags rest _ hopen).trans (Flags.suffix_of_skip_eq_cons hskip))
  | case7 _ _ _ _ _ hskip => exact .some (Flags.suffix_of_skip_eq_cons hskip)
  | case8 _ _ _ _ _ hskip _ _ _ _ _ _ _ _ _ ih =>
      exact ih.of_suffix (Flags.suffix_of_skip_eq_cons hskip)
  | case11 _ _ _ cs _ _ _ _ _ _ _ _ _ _ hoperator ih =>
      exact ih.of_suffix ((readOperator?_leaves _ _ hoperator).trans (flags.skip_suffix cs))
  | case14 _ _ _ cs _ _ _ _ _ _ _ hitem ih =>
      exact ih.of_suffix ((readItem_leaves flags _ _ hitem).trans (flags.skip_suffix cs))
  | case1 | case3 | case4 | case6 | case9 | case10 | case12 | case13 | case15 => exact .none

theorem read_leaves : Leaves Result.rest cs (read flags cs) := by
  refine .bind fun opened hopened => .bind fun result hresult => ?_
  have hrest := (readInside_leaves flags _ _ _ _ result hresult).trans
    (openClass_leaves flags cs opened hopened)
  dsimp only
  split
  · exact .none
  · exact .some hrest

end Bracket

/-! ## Parts of a pattern -/

namespace Reading

theorem readGreedy_suffix (cs : List Char) : (readGreedy cs).2 <:+ cs := by
  rw [readGreedy.eq_def]
  split
  case h_1 rest => exact List.suffix_cons _ rest
  case h_2 => exact List.suffix_rfl

variable (flags : Flags) (cs : List Char)

theorem readDigits_suffix : (readDigits flags cs).2 <:+ cs := by
  fun_induction readDigits flags cs with
  | case1 => exact List.suffix_rfl
  | case2 c more _ digits rest hmore ih =>
      rw [hmore] at ih
      exact suffix_cons_of_suffix c (ih.trans (flags.skip_suffix more))
  | case3 => exact List.suffix_rfl

theorem skipBlanks_suffix : skipBlanks flags cs <:+ cs := by
  fun_induction skipBlanks flags cs with
  | case1 => exact List.suffix_rfl
  | case2 c rest _ ih => exact suffix_cons_of_suffix c (ih.trans (flags.skip_suffix rest))
  | case3 => exact List.suffix_rfl

theorem readDecimal_leaves : Leaves Prod.snd cs (readDecimal flags cs) := by
  rw [readDecimal]
  split
  case h_1 digits rest hdigits =>
      have hrest : rest <:+ cs := by
        have hread := readDigits_suffix flags (cs.dropWhile Unicode.isBlank)
        rw [hdigits] at hread
        exact hread.trans (List.dropWhile_suffix _)
      split
      · exact .none
      · exact .some ((skipBlanks_suffix flags rest).trans hrest)

theorem readCount_leaves : Leaves (fun count => count.2.2.2) cs (readCount flags cs) := by
  rw [readCount]
  refine .bind fun pair hpair => ?_
  obtain ⟨min, rest⟩ := pair
  have hmin : rest <:+ cs := (readDecimal_leaves flags _ _ hpair).trans (flags.skip_suffix cs)
  dsimp -zeta only
  -- what stands behind the bounds: the brace, and a sign for fewer rounds
  extract_lets close
  have hclose : ∀ bound, bound.2 <:+ cs → Leaves (fun count => count.2.2.2) cs (close bound) := by
    intro bound hbound
    dsimp only [close]
    split
    case h_1 rest hrest =>
        rw [hrest] at hbound
        have hbehind : rest <:+ cs := (List.suffix_cons _ rest).trans hbound
        split
        · exact .none
        · exact .some ((readGreedy_suffix _).trans ((flags.skip_suffix rest).trans hbehind))
    case h_2 => exact .none
  clear_value close
  split
  case h_1 more =>
      have hafter : flags.skip more <:+ cs :=
        (flags.skip_suffix more).trans ((List.suffix_cons _ more).trans hmin)
      split
      case h_1 => exact .none
      case h_2 rest hskip => exact hclose (none, _) (hskip ▸ hafter)
      case h_3 =>
          refine .bind fun bound hbound => hclose bound ?_
          obtain ⟨pair, hpair, rfl⟩ := Option.map_eq_some_iff.mp hbound
          exact (readDecimal_leaves flags _ pair hpair).trans hafter
  case h_2 => exact hclose (some min, rest) hmin

theorem eq_append_of_readName {name : String} {rest : List Char}
    (h : readName cs = some (name, rest)) : cs = name.toList ++ '>' :: rest := by
  rw [readName] at h
  split at h
  case h_1 more hdrop =>
      split at h
      case h_1 => cases h
      case h_2 =>
          split at h
          · cases h
            rw [String.toList_ofList, ← hdrop, List.takeWhile_append_dropWhile]
          · cases h
  case h_2 => cases h

theorem readFlags_leaves (on : Bool) (used : List Char) :
    Leaves (fun read => read.2.2) cs (readFlags flags on used cs) := by
  fun_induction readFlags flags on used cs with
  | case1 | case2 | case4 | case6 => exact .none
  | case3 | case5 => exact .some List.suffix_rfl
  | case7 _ _ _ rest _ _ _ ih => exact ih.of_suffix (List.suffix_cons _ rest)
  | case8 _ _ _ c rest _ _ _ _ ih =>
      exact .bind fun flags _ => (ih flags).of_suffix (List.suffix_cons c rest)

theorem openNamed?_leaves (r : Reading) : Leaves Prod.snd cs (r.openNamed? cs) := by
  refine .bind fun pair hpair => ?_
  have hrest : '>' :: pair.2 <:+ cs := ⟨pair.1.toList, (eq_append_of_readName cs hpair).symm⟩
  dsimp only
  split
  · exact .none
  · exact .some ((List.suffix_cons '>' pair.2).trans hrest)

theorem readGroup_leaves (r : Reading) : Leaves Prod.snd cs (r.readGroup cs) := by
  have hskip := r.flags.skip_suffix cs
  rw [readGroup]
  split
  case h_1 | h_2 | h_3 | h_4 => exact .none
  case h_5 rest hopen =>
      rw [hopen] at hskip
      exact (openNamed?_leaves rest r).of_suffix
        (suffix_cons_of_suffix _ (suffix_cons_of_suffix _ (List.suffix_cons _ rest)) |>.trans hskip)
  case h_6 rest _ _ hopen =>
      rw [hopen] at hskip
      exact (openNamed?_leaves rest r).of_suffix
        ((suffix_cons_of_suffix _ (List.suffix_cons _ rest)).trans hskip)
  case h_7 rest _ _ _ _ _ _ hsign =>
      refine .bind fun read hread => ?_
      have hbehind : read.2.2 <:+ cs := (readFlags_leaves r.flags rest true [] read hread).trans
        (Flags.suffix_of_skip_eq_cons hsign)
      dsimp only
      split
      case h_1 after hafter =>
          exact .some ((List.suffix_cons _ after).trans (hafter ▸ hbehind))
      case h_2 _ after _ hafter =>
          split
          · exact .none
          · exact .some ((List.suffix_cons _ after).trans (hafter ▸ hbehind))
      case h_3 => exact .none
  case h_8 => exact .some hskip

/-- A step leaves what stands behind its character, or less. -/
theorem step_leaves (r : Reading) (c : Char) : Leaves Prod.snd cs (r.step c cs) := by
  have hpushed : ∀ (e : Option Expr) (height : Nat) (rest : List Char), rest <:+ cs →
      Leaves Prod.snd cs (e.map fun e => (r.push e height, rest)) := by
    intro e height rest hrest pair hpair
    obtain ⟨e', _, rfl⟩ := Option.map_eq_some_iff.mp hpair
    exact hrest
  have hrepeated : ∀ (min : Nat) (max : Option Nat) (greedy : Bool) (rest : List Char), rest <:+ cs →
      Leaves Prod.snd cs ((r.repeatLast? min max greedy).map fun r => (r, rest)) := by
    intro min max greedy rest hrest pair hpair
    obtain ⟨r', _, rfl⟩ := Option.map_eq_some_iff.mp hpair
    exact hrest
  rw [step.eq_def]
  dsimp only
  split
  case h_1 => exact readGroup_leaves cs r
  case h_2 =>
      intro pair hpair
      obtain ⟨r', _, rfl⟩ := Option.map_eq_some_iff.mp hpair
      exact List.suffix_rfl
  case h_3 => exact .some List.suffix_rfl
  case h_4 => exact .bind fun cls hcls => hpushed _ _ _ (Bracket.read_leaves r.flags cs cls hcls)
  case h_5 | h_6 | h_7 => exact hrepeated _ _ _ _ (readGreedy_suffix cs)
  case h_8 =>
      exact .bind fun count hcount => .bind fun _ _ => .some (readCount_leaves r.flags cs count hcount)
  case h_9 => exact .bind fun pair hpair => hpushed _ _ _ (Escape.read_leaves r.flags cs pair hpair)
  case h_10 | h_11 | h_12 | h_13 => exact hpushed _ _ _ List.suffix_rfl

/-- A step takes at least one character. -/
theorem length_lt_of_step {r r' : Reading} {c : Char} {cs more rest : List Char}
    (hskip : r.flags.skip cs = c :: more) (hstep : r.step c more = some (r', rest)) :
    rest.length < cs.length :=
  Nat.lt_of_le_of_lt (step_leaves more r c _ hstep).length_le (Flags.length_lt_of_skip_eq_cons hskip)

end Reading

end Waymark.Pattern
