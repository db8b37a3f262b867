import Waymark.Marker.Matcher
import Waymark.Proofs.Pattern.Text

/-!
# Reading the suffixes of marker patterns

What stands behind a marker in its pattern is read once and for all: blanks, a group for the name,
blanks and a group for the description, or for the end of a region an optional part with a name.
-/

namespace Waymark

open Pattern

/-! ## The classes of the suffixes -/

/-- A tab or a space. -/
def isGap (c : Char) : Bool := c == '\t' || c == ' '

/-- A character that a name may hold. -/
def isNameChar (c : Char) : Bool := !Unicode.isBlank c

theorem isBlank_of_isGap {c : Char} (hc : isGap c = true) : Unicode.isBlank c = true := by
  simp only [isGap, Bool.or_eq_true, beq_iff_eq] at hc
  rcases hc with rfl | rfl <;> rfl

namespace Pattern

namespace Bracket

theorem readInside_item {flags : Flags} {stack : List Frame} {listing : Listing} {total : Nat}
    {c : Char} {cs rest : List Char} {cls : CharClass} (hflags : flags.spaced = false)
    (hopen : c ≠ '[') (hclose : c ≠ ']') (hop : readOperator? (c :: cs) = none)
    (hitem : readItem flags (c :: cs) = some (cls, rest)) (hlt : rest.length < cs.length + 1) :
    readInside flags stack listing total (c :: cs) =
      readInside flags stack (listing.add cls 0) (total + 1) rest := by
  rw [readInside]
  split
  · simp_all
  · simp_all
  · simp_all
  · rw [Flags.skip_of_not_spaced hflags]
    simp [hop, hitem, hlt]

theorem readInside_close {flags : Flags} {listing : Listing} {total : Nat} {negated : Bool}
    {rest : List Char} (hflags : flags.spaced = false) :
    readInside flags [.bracket {} negated] listing total (']' :: rest) =
      some ⟨Escape.finish flags negated listing.accept, total, listing.depth + 1, rest⟩ := by
  rw [readInside]
  simp [hflags, applyOperator]

theorem read_gap (more : List Char) :
    read {} ('\\' :: 't' :: ' ' :: ']' :: more) = some ⟨isGap, 2, 2, more⟩ := by
  have hopen : openClass {} ('\\' :: 't' :: ' ' :: ']' :: more) =
      some (false, {}, '\\' :: 't' :: ' ' :: ']' :: more) := by
    simp [openClass, leadingHyphens]
  have htab : readItem {} ('\\' :: 't' :: ' ' :: ']' :: more) =
      some (CharClass.single '\t', ' ' :: ']' :: more) := by
    simp [readItem, readAtom, Escape.read, itemClass?, allowed]
  have hspace : readItem {} (' ' :: ']' :: more) = some (CharClass.single ' ', ']' :: more) := by
    simp [readItem, readAtom, itemClass?, allowed]
  have hclass : ((({} : Listing).add (CharClass.single '\t') 0).add (CharClass.single ' ') 0).accept =
      isGap := by
    funext c
    simp [Listing.add, isGap, CharClass.single]
  rw [read, hopen]
  simp only [Option.bind_eq_bind, Option.bind_some]
  rw [readInside_item rfl (by decide) (by decide) rfl htab (by simp),
    readInside_item rfl (by decide) (by decide) rfl hspace (by simp), readInside_close rfl, hclass]
  rfl

end Bracket

namespace Reading

variable {r : Reading}

theorem step_gap (hflags : r.flags = {}) (more : List Char) :
    r.step '[' ('\\' :: 't' :: ' ' :: ']' :: more) = some (r.push (.one isGap 6) 2, more) := by
  simp [step, hflags, Bracket.read_gap]

theorem step_nameChar (hflags : r.flags = {}) (more : List Char) :
    r.step '\\' ('S' :: more) = some (r.push (.one isNameChar 55) 0, more) := by
  have hclass : (CharClass.space true).compl = isNameChar := by
    funext c
    simp [CharClass.compl, CharClass.space, isNameChar]
  have hcost : Escape.letterCost {} 'S' = 55 := by decide
  simp [step, hflags, Escape.read, hcost, atom?, hclass]

theorem step_dot (hflags : r.flags = {}) (more : List Char) :
    r.step '.' more = some (r.push (.one (· != '\n') 24) 0, more) := by
  simp [step, dot?, hflags]

theorem readGreedy_of_ne {more : List Char} (hmore : more.head? ≠ some '?') :
    readGreedy more = (true, more) := by
  cases more with
  | nil => rfl
  | cons c more =>
      rw [readGreedy]
      intro rest h
      cases h
      exact hmore rfl

/-- The signs of repetition, each with the least and the largest number of times. -/
def repeatSigns : List (Char × Nat × Option Nat) := [('*', 0, none), ('+', 1, none), ('?', 0, some 1)]

/-- A repetition without a question mark behind it repeats the part that was pushed last. -/
theorem step_repeat (hflags : r.flags = {}) (e : Expr) (height : Nat) {sign : Char} {min : Nat}
    {max : Option Nat} (hsign : (sign, min, max) ∈ repeatSigns) {more : List Char}
    (hmore : more.head? ≠ some '?') :
    (r.push e height).step sign more =
      some (r.push (.repeated e min max true) (height + 1), more) := by
  simp only [repeatSigns, List.mem_cons, Prod.mk.injEq, List.not_mem_nil, or_false] at hsign
  rcases hsign with ⟨rfl, rfl, rfl⟩ | ⟨rfl, rfl, rfl⟩ | ⟨rfl, rfl, rfl⟩ <;>
    simp [step, readGreedy_of_ne hmore, repeatLast?, push, Body.add, Alternative.add, hflags]

theorem step_openName (hflags : r.flags = {}) (hnames : r.names = []) (more : List Char) :
    r.step '(' ("?P<name>".toList ++ more) =
      some (({ r with names := ["name"] }).openGroup (some "name") {}, more) := by
  simp [step, hflags, readGroup, openNamed?, readName, isNameStart, isNamePart, hnames]

theorem step_openDescription (hflags : r.flags = {}) (hnames : r.names = ["name"])
    (more : List Char) :
    r.step '(' ("?P<description>".toList ++ more) =
      some (({ r with names := ["description", "name"] }).openGroup (some "description") {},
        more) := by
  simp [step, hflags, readGroup, openNamed?, readName, isNameStart, isNamePart, hnames]

theorem step_open (hflags : r.flags = {}) {more : List Char} (hmore : more.head? ≠ some '?') :
    r.step '(' more = some (r.openGroup none {}, more) := by
  cases more with
  | nil => simp [step, hflags, readGroup]
  | cons c more =>
      have hc : c ≠ '?' := fun h => hmore (by rw [h]; rfl)
      simp only [step, readGroup, hflags]
      rw [Flags.skip_of_not_spaced rfl]
      split <;> simp_all

/-- A named group becomes one part of what stands around it. -/
theorem step_close (name : String) (parts : List (Expr × Nat)) (more : List Char) :
    ((r.openGroup (some name) {}).pushAll parts).step ')' more =
      some (r.push (.group name (Expr.catAll (parts.map Prod.fst)))
        (((r.openGroup (some name) {}).pushAll parts).body.close.height + 1), more) := by
  rw [pushAll_eq]
  simp [step, closeGroup?, openGroup, Body.close, push, expr_parts]

theorem step_closeUnnamed (parts : List (Expr × Nat)) (more : List Char) :
    ((r.openGroup none {}).pushAll parts).step ')' more =
      some (r.push (Expr.catAll (parts.map Prod.fst))
        (((r.openGroup none {}).pushAll parts).body.close.height + 1), more) := by
  rw [pushAll_eq]
  simp [step, closeGroup?, openGroup, Body.close, push, expr_parts]

end Reading

end Pattern

/-! ## The suffixes -/

namespace MarkerPattern

/-- Tabs and spaces, as many as there are. -/
def gaps (min : Nat) : Expr := .repeated (.one isGap 6) min none true

/-- The characters of a group, as many as there are. -/
def groupOf (name : String) (accept : Char → Bool) (cost : Nat) : Expr :=
  .group name (.catAll [.repeated (.one accept cost) 0 none true])

def namedParts : List (Expr × Nat) :=
  [(gaps 1, 3), (groupOf "name" isNameChar 55, 2), (gaps 0, 3),
    (groupOf "description" (· != '\n') 24, 2)]

def endParts : List (Expr × Nat) :=
  [(.repeated (.catAll [gaps 1, groupOf "name" isNameChar 55]) 0 (some 1) true, 6)]

variable {r : Reading}

theorem plus_mem_repeatSigns : ('+', 1, none) ∈ Reading.repeatSigns := by decide

theorem star_mem_repeatSigns : ('*', 0, none) ∈ Reading.repeatSigns := by decide

theorem run_gaps (hflags : r.flags = {}) {sign : Char} {min : Nat}
    (hsign : (sign, min, none) ∈ Reading.repeatSigns) {more : List Char}
    (hmore : more.head? ≠ some '?') :
    r.run ("[\\t ]".toList ++ sign :: more) = (r.push (gaps min) 3).run more := by
  have hspaced : r.flags.spaced = false := by rw [hflags]
  have hclass : r.run ("[\\t ]".toList ++ sign :: more) =
      (r.push (.one isGap 6) 2).run (sign :: more) :=
    Reading.run_cons hspaced (Reading.step_gap hflags _)
  have hpushed : (r.push (.one isGap 6) 2).flags.spaced = false := hspaced
  rw [hclass, Reading.run_cons hpushed (Reading.step_repeat hflags _ _ hsign hmore)]
  rfl

theorem run_name (hflags : r.flags = {}) (hnames : r.names = []) (more : List Char) :
    r.run ("(?P<name>\\S*)".toList ++ more) =
      ({ r with names := ["name"] }.push (groupOf "name" isNameChar 55) 2).run more := by
  have hspaced : r.flags.spaced = false := by rw [hflags]
  let inner : Reading := { r with names := ["name"] }.openGroup (some "name") {}
  have hopen : r.run ("(?P<name>\\S*)".toList ++ more) =
      inner.run ('\\' :: 'S' :: '*' :: ')' :: more) :=
    Reading.run_cons hspaced (Reading.step_openName hflags hnames _)
  rw [hopen, Reading.run_cons rfl (Reading.step_nameChar rfl _),
    Reading.run_cons rfl (Reading.step_repeat rfl _ _ star_mem_repeatSigns (by simp))]
  have hclose := Reading.step_close (r := { r with names := ["name"] }) "name"
    [(.repeated (.one isNameChar 55) 0 none true, 1)] more
  rw [Reading.pushAll_cons, Reading.pushAll_nil] at hclose
  rw [Reading.run_cons rfl hclose]
  rfl

theorem run_description (hflags : r.flags = {}) (hnames : r.names = ["name"]) :
    r.run "(?P<description>.*)".toList =
      some ({ r with names := ["description", "name"] }.push
        (groupOf "description" (· != '\n') 24) 2) := by
  have hspaced : r.flags.spaced = false := by rw [hflags]
  let inner : Reading :=
    { r with names := ["description", "name"] }.openGroup (some "description") {}
  have hopen : r.run "(?P<description>.*)".toList = inner.run ['.', '*', ')'] :=
    Reading.run_cons hspaced (Reading.step_openDescription hflags hnames _)
  rw [hopen, Reading.run_cons rfl (Reading.step_dot rfl _),
    Reading.run_cons rfl (Reading.step_repeat rfl _ _ star_mem_repeatSigns (by simp))]
  have hclose := Reading.step_close (r := { r with names := ["description", "name"] })
    "description" [(.repeated (.one (· != '\n') 24) 0 none true, 1)] []
  rw [Reading.pushAll_cons, Reading.pushAll_nil] at hclose
  rw [Reading.run_cons rfl hclose]
  exact Reading.run_nil _

theorem run_namedSuffix (hflags : r.flags = {}) (hnames : r.names = []) :
    r.run namedSuffix.toList =
      some ({ r with names := ["description", "name"] }.pushAll namedParts) := by
  have hsplit : namedSuffix.toList = "[\\t ]".toList ++ '+' :: ("(?P<name>\\S*)".toList ++
      ("[\\t ]".toList ++ '*' :: "(?P<description>.*)".toList)) := by decide
  let first := r.push (gaps 1) 3
  let second := { first with names := ["name"] }.push (groupOf "name" isNameChar 55) 2
  have hfirst : first.flags = {} := hflags
  have hsecond : second.flags = {} := hflags
  have hthird : (second.push (gaps 0) 3).flags = {} := hflags
  rw [hsplit, run_gaps hflags plus_mem_repeatSigns (by decide), run_name hfirst hnames,
    run_gaps hsecond star_mem_repeatSigns (by decide), run_description hthird rfl]
  rfl

theorem run_endSuffix (hflags : r.flags = {}) (hnames : r.names = []) :
    r.run endSuffix.toList = some ({ r with names := ["name"] }.pushAll endParts) := by
  have hspaced : r.flags.spaced = false := by rw [hflags]
  let inner : Reading := r.openGroup none {}
  have hsplit : endSuffix.toList = '(' :: ("[\\t ]".toList ++ '+' :: ("(?P<name>\\S*)".toList ++
      [')', '?'])) := by decide
  have hinner : (inner.push (gaps 1) 3).names = [] := hnames
  rw [hsplit, Reading.run_cons hspaced (Reading.step_open hflags (by decide)),
    run_gaps rfl plus_mem_repeatSigns (by decide), run_name rfl hinner]
  have hclose := Reading.step_closeUnnamed (r := { r with names := ["name"] })
    [(gaps 1, 3), (groupOf "name" isNameChar 55, 2)] ['?']
  rw [Reading.pushAll_cons, Reading.pushAll_cons, Reading.pushAll_nil] at hclose
  let whole := Expr.catAll [gaps 1, groupOf "name" isNameChar 55]
  let outer : Reading := { r with names := ["name"] }
  have houter : (outer.push whole 5).flags.spaced = false := hspaced
  have hquestion : (outer.push whole 5).step '?' [] =
      some (outer.push (.repeated whole 0 (some 1) true) 6, []) :=
    Reading.step_repeat (r := outer) hflags whole 5 (by decide) (by simp)
  refine (Reading.run_cons rfl hclose).trans ?_
  refine (Reading.run_cons houter hquestion).trans ?_
  exact Reading.run_nil _

end MarkerPattern

end Waymark
