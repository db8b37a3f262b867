import Waymark.Proofs.Yaml.Char
import Waymark.Yaml.Token.Lexer

/-!
# Reading one token after the other

The lexer passes over a gap, gives up what ends there, and reads one token. What is read of a text is told by
where the lexer stands afterwards: at the head of a line, or within one. A possible key does not outlive its
line, so it is gone at the head of the next one.
-/

namespace Waymark.Yaml

variable {c : Char} {cs xs rest more : List Char} {line column : Nat} {columns : List Nat}
  {tokens tokens' : List Token} {keyAllowed : Bool}

/-! ## Places -/

theorem advance_cons (p : Position) (c : Char) (cs : List Char) :
    advance p (c :: cs) =
      advance (if isBreak c then ⟨p.line + 1, 0⟩ else ⟨p.line, p.column + 1⟩) cs :=
  rfl

theorem line_le_advance (p : Position) (xs : List Char) : p.line ≤ (advance p xs).line := by
  induction xs generalizing p with
  | nil => exact Nat.le_refl _
  | cons c cs ih =>
      rw [advance_cons]
      refine Nat.le_trans ?_ (ih _)
      split
      · exact Nat.le_succ _
      · exact Nat.le_refl _

theorem advance_break (hc : isBreak c) (p : Position) : advance p [c] = ⟨p.line + 1, 0⟩ := by
  simp [advance, hc]

theorem advance_of_no_break (h : ∀ c ∈ xs, isBreak c = false) (p : Position) :
    advance p xs = ⟨p.line, p.column + xs.length⟩ := by
  induction xs generalizing p with
  | nil => rfl
  | cons c cs ih =>
      obtain ⟨hc, hcs⟩ := List.forall_mem_cons.mp h
      rw [advance_cons, hc, if_neg Bool.false_ne_true, ih hcs, List.length_cons,
        Nat.add_right_comm, Nat.add_assoc]

namespace Lexer

variable {l next : Lexer}

theorem inFlow_eq_false (h : l.outerKeys = []) : l.inFlow = false := by
  rw [inFlow, h]
  rfl

theorem moveTo_append (xs : List Char) (h : l.rest = xs ++ rest) :
    l.moveTo rest = { l with rest := rest, place := advance l.place xs } := by
  rw [moveTo, h, List.length_append, Nat.add_sub_cancel, List.take_left]

theorem take_append (xs : List Char) (h : l.rest = xs ++ rest) (t : Token) (keyAllowed : Bool) :
    l.take t rest keyAllowed =
      { l with
        rest := rest, place := advance l.place xs, tokens := t :: l.tokens, keyAllowed := keyAllowed } := by
  have hmove : (l.emit t).moveTo rest =
      { l with rest := rest, place := advance l.place xs, tokens := t :: l.tokens } :=
    moveTo_append (l := l.emit t) xs h
  rw [take, hmove]

/-! ## Steps -/

/-- The lexer behind a gap, with everything given up that ends there. -/
def settled? (l : Lexer) : Option Lexer :=
  l.skipGap.dropStaleKey?.map fun here => here.closeWhile (here.place.column < ·)

/-- Reading one token. -/
theorem tokens?_of_readToken? {here : Lexer} (hsettled : l.settled? = some here)
    (hrest : here.rest = c :: cs) (hread : here.readToken? c cs = some next)
    (hlength : next.rest.length < l.rest.length) : l.tokens? = next.tokens? := by
  obtain ⟨kept, hkept, rfl⟩ := Option.map_eq_some_iff.mp hsettled
  rw [tokens?, hkept]
  simp only [hrest, hread, if_pos hlength]

/-- The text goes on with something that is read: neither a gap nor a comment. -/
def IsShown (cs : List Char) : Prop :=
  atGap cs = false ∧ cs.head? ≠ some '#'

theorem gapEnd_of_isShown (h : IsShown cs) (inFlow keyAllowed : Bool) :
    gapEnd inFlow false keyAllowed cs = (keyAllowed, cs) := by
  obtain ⟨hgap, hsign⟩ := h
  cases cs with
  | nil => cases hgap
  | cons c cs =>
      obtain ⟨hblank, hbreak⟩ := Bool.or_eq_false_iff.mp hgap
      obtain ⟨hspace, htab⟩ := isBlank_eq_false_iff.mp hblank
      have hc : c ≠ '#' := fun heq => hsign (congrArg some heq)
      simp [gapEnd, hbreak, hspace, htab, hc]

theorem skipGap_append {allowed : Bool} (xs : List Char) (h : l.rest = xs ++ rest)
    (hend : gapEnd l.inFlow false l.keyAllowed (xs ++ rest) = (allowed, rest)) :
    l.skipGap = { l with rest := rest, place := advance l.place xs, keyAllowed := allowed } := by
  rw [skipGap, h, hend]
  simp only [moveTo_append xs h]

/-- A possible key on this line is kept. -/
theorem dropStaleKey?_of_fresh (h : l.possibleKey.any (·.isStale l.place) = false) :
    l.dropStaleKey? = some l := by
  rw [dropStaleKey?, h, if_neg Bool.false_ne_true]

/-- A possible key of an earlier line is given up. -/
theorem dropStaleKey?_of_old
    (h : ∀ k, l.possibleKey = some k → k.required = false ∧ k.place.line < l.place.line) :
    l.dropStaleKey? = some { l with possibleKey := none } := by
  cases hkey : l.possibleKey with
  | none =>
      rw [dropStaleKey?_of_fresh (by rw [hkey]; rfl), ← hkey]
  | some k =>
      obtain ⟨hrequired, hline⟩ := h k hkey
      simp [dropStaleKey?, dropKey?, hkey, PossibleKey.isStale, hline, hrequired]

/-- No collection is further to the right than the head of a line. -/
theorem closeWhile_of_columns (h : ∀ n ∈ l.columns, n = 0) (column : Nat) :
    l.closeWhile (column < ·) = l := by
  have hends : l.columns.takeWhile (column < ·) = [] ∧ l.columns.dropWhile (column < ·) = l.columns := by
    cases hcolumns : l.columns with
    | nil => exact ⟨rfl, rfl⟩
    | cons n ns =>
        have hn : n = 0 := h n (by rw [hcolumns]; exact List.mem_cons_self)
        simp [hn]
  rw [closeWhile, hends.1, hends.2]
  split_ifs <;> rfl

/-! ## Heads of lines -/

/-- A lexer at the head of a line, where the keys of a mapping begin. -/
def atHead (line : Nat) (columns : List Nat) (tokens : List Token) (rest : List Char) : Lexer :=
  { rest := rest, place := ⟨line, 0⟩, columns := columns, tokens := tokens }

/-- The lexer comes to the head of a line, with these columns and tokens and this text. -/
structure ComesTo (l : Lexer) (columns : List Nat) (tokens : List Token) (rest : List Char) : Prop where
  length_le : rest.length ≤ l.rest.length
  settled : ∃ line, l.settled? = some (atHead line columns tokens rest)

/-- What follows a line: nothing, or something that is read at the head of the next one. -/
def IsNext (cs : List Char) : Prop :=
  cs = [] ∨ IsShown cs

theorem gapEnd_of_isNext (h : IsNext cs) (inFlow keyAllowed : Bool) :
    gapEnd inFlow false keyAllowed cs = (keyAllowed, cs) := by
  rcases h with rfl | h
  · rfl
  · exact gapEnd_of_isShown h inFlow keyAllowed

/-- Behind a token that ends with its line. -/
theorem comesTo_of_head (hrest : IsNext l.rest) (hcolumn : l.place.column = 0)
    (hallowed : l.keyAllowed = true) (hflow : l.outerKeys = [])
    (hkey : ∀ k, l.possibleKey = some k → k.required = false ∧ k.place.line < l.place.line)
    (hcolumns : ∀ n ∈ l.columns, n = 0) : l.ComesTo l.columns l.tokens l.rest := by
  refine ⟨Nat.le_refl _, l.place.line, ?_⟩
  have hskip : l.skipGap = l := by
    rw [skipGap_append [] rfl (gapEnd_of_isNext hrest _ _)]
    rfl
  rw [settled?, hskip, dropStaleKey?_of_old hkey, Option.map_some,
    closeWhile_of_columns (l := { l with possibleKey := none }) hcolumns]
  obtain ⟨rest, ⟨line, column⟩, columns, keyAllowed, possibleKey, outerKeys, tokens⟩ := l
  obtain rfl : column = 0 := hcolumn
  obtain rfl : keyAllowed = true := hallowed
  obtain rfl : outerKeys = [] := hflow
  rfl

/-- Before the end of a line. -/
theorem comesTo_of_break (hrest : l.rest = '\n' :: more) (hmore : IsNext more) (hflow : l.outerKeys = [])
    (hkey : ∀ k, l.possibleKey = some k → k.required = false ∧ k.place.line ≤ l.place.line)
    (hcolumns : ∀ n ∈ l.columns, n = 0) : l.ComesTo l.columns l.tokens more := by
  refine ⟨by rw [hrest]; exact Nat.le_succ _, l.place.line + 1, ?_⟩
  have hend : gapEnd l.inFlow false l.keyAllowed (['\n'] ++ more) = (true, more) := by
    rw [inFlow_eq_false hflow, List.singleton_append, gapEnd, if_pos (by decide), gapEnd_of_isNext hmore]
    simp
  have hskip := skipGap_append ['\n'] hrest hend
  have hplace : advance l.place ['\n'] = ⟨l.place.line + 1, 0⟩ := advance_break rfl _
  have hold := dropStaleKey?_of_old (l := { l with
      rest := more, place := ⟨l.place.line + 1, 0⟩, keyAllowed := true })
    fun k hk => ⟨(hkey k hk).1, Nat.lt_succ_of_le (hkey k hk).2⟩
  rw [settled?, hskip, hplace, hold, Option.map_some]
  simp only [hflow]
  exact congrArg some
    (closeWhile_of_columns (l := atHead (l.place.line + 1) l.columns l.tokens more) hcolumns 0)

/-! ## Within a line -/

/-- A lexer within a line of a mapping whose keys are at the head of their lines. -/
def inLine (line column : Nat) (keyAllowed : Bool) (tokens : List Token) (rest : List Char) : Lexer :=
  { rest := rest, place := ⟨line, column + 1⟩, columns := [0], keyAllowed := keyAllowed, tokens := tokens }

/-- A space within a line is passed over. -/
theorem settled?_inLine_space (h : IsShown rest) :
    (inLine line column keyAllowed tokens (' ' :: rest)).settled? =
      some (inLine line (column + 1) keyAllowed tokens rest) := by
  have hend : gapEnd false false keyAllowed ([' '] ++ rest) = (keyAllowed, rest) := by
    rw [List.singleton_append, gapEnd, if_neg (by decide), if_pos (by simp), gapEnd_of_isShown h]
  have hskip := skipGap_append (l := inLine line column keyAllowed tokens (' ' :: rest)) [' '] rfl hend
  rw [settled?, hskip, dropStaleKey?_of_fresh rfl]
  exact congrArg some (closeWhile_of_columns (l := inLine line (column + 1) keyAllowed tokens rest)
    (by simp [inLine]) (column + 2))

/-- The possible key that a token within a line may be. -/
def notedKey (line column : Nat) (keyAllowed : Bool) (tokens : List Token) : Option PossibleKey :=
  if keyAllowed then some { before := tokens.length, place := ⟨line, column + 1⟩, required := false }
  else none

theorem noteKey?_inLine : (inLine line column keyAllowed tokens rest).noteKey? =
    some { inLine line column keyAllowed tokens rest with
      possibleKey := notedKey line column keyAllowed tokens } := by
  cases keyAllowed with
  | false => rfl
  | true => simp [noteKey?, dropKey?, inLine, notedKey, inFlow, column?]

theorem notedKey_eq_some {k : PossibleKey} (h : notedKey line column keyAllowed tokens = some k) :
    k.required = false ∧ k.place.line = line := by
  unfold notedKey at h
  split_ifs at h
  cases h
  exact ⟨rfl, rfl⟩

/-- A lexer behind a scalar that was read within a line. -/
def behind (line column : Nat) (keyAllowed : Bool) (tokens : List Token) (t : Token) (xs rest : List Char)
    (ended : Bool) : Lexer :=
  { rest := rest, place := advance ⟨line, column + 1⟩ xs, columns := [0], keyAllowed := ended
    possibleKey := notedKey line column keyAllowed tokens, tokens := t :: tokens }

theorem take_of_noteKey? (t : Token) (ended : Bool) :
    (inLine line column keyAllowed tokens (xs ++ rest)).noteKey?.map (·.take t rest ended) =
      some (behind line column keyAllowed tokens t xs rest ended) := by
  rw [noteKey?_inLine, Option.map_some, take_append xs rfl]
  rfl

/-- Behind a scalar at whose end the line ends. -/
theorem comesTo_behind_break (hmore : IsNext more) (t : Token) (ended : Bool) :
    (behind line column keyAllowed tokens t xs ('\n' :: more) ended).ComesTo [0] (t :: tokens) more := by
  refine comesTo_of_break (l := behind line column keyAllowed tokens t xs ('\n' :: more) ended) rfl hmore
    rfl (fun k hk => ?_) (by simp [behind])
  obtain ⟨hrequired, hline⟩ := notedKey_eq_some hk
  exact ⟨hrequired, Nat.le_trans (Nat.le_of_eq hline) (line_le_advance ⟨line, column + 1⟩ xs)⟩

/-- Behind a scalar that took the end of its line with it. -/
theorem comesTo_behind_head (hc : isBreak c) (hmore : IsNext more) (t : Token) :
    (behind line column keyAllowed tokens t (xs ++ [c]) more true).ComesTo [0] (t :: tokens) more := by
  have hplace : advance ⟨line, column + 1⟩ (xs ++ [c]) = ⟨(advance ⟨line, column + 1⟩ xs).line + 1, 0⟩ := by
    rw [advance_append, advance_break hc]
  refine comesTo_of_head (l := behind line column keyAllowed tokens t (xs ++ [c]) more true) hmore
    (congrArg Position.column hplace) rfl rfl (fun k hk => ?_) (by simp [behind])
  obtain ⟨hrequired, hline⟩ := notedKey_eq_some hk
  refine ⟨hrequired, ?_⟩
  rw [behind, hplace, hline]
  exact Nat.lt_succ_of_le (line_le_advance ⟨line, column + 1⟩ xs)

/-- The lexer comes to the head of a line after some tokens. -/
def Reaches (l : Lexer) (columns : List Nat) (tokens : List Token) (rest : List Char) : Prop :=
  ∃ next : Lexer, l.tokens? = next.tokens? ∧ next.ComesTo columns tokens rest

theorem Reaches.of_tokens?_eq {next : Lexer} (h : l.tokens? = next.tokens?)
    (hnext : next.Reaches columns tokens rest) : l.Reaches columns tokens rest := by
  obtain ⟨last, hlast, hcomes⟩ := hnext
  exact ⟨last, h.trans hlast, hcomes⟩

/-- A scalar behind a space within a line. -/
theorem reaches_of_readToken? (hshown : IsShown (c :: cs))
    (hread : (inLine line (column + 1) keyAllowed tokens (c :: cs)).readToken? c cs = some next)
    (hlength : next.rest.length ≤ cs.length) (hcomes : next.ComesTo columns tokens' rest) :
    (inLine line column keyAllowed tokens (' ' :: c :: cs)).Reaches columns tokens' rest := by
  refine ⟨next, tokens?_of_readToken? (settled?_inLine_space hshown) rfl hread ?_, hcomes⟩
  exact Nat.lt_succ_of_le (Nat.le_succ_of_le hlength)

end Lexer

end Waymark.Yaml
