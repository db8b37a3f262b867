import Waymark.Proofs.Yaml.Scalar.Plain
import Waymark.Proofs.Yaml.Scalar.Quoted
import Waymark.Proofs.Yaml.Scalar.Write
import Waymark.Proofs.Yaml.Token.Lexer

/-!
# The tokens of written keys and values

A key at the head of a line becomes one at its colon, and in front of the first key the mapping begins. A text
behind it is read to the end of its line in the style that it was written in, and so is a text behind the dash
of an item.
-/

namespace Waymark.Yaml

variable {c : Char} {cs xs rest more : List Char} {line column : Nat} {columns : List Nat}
  {tokens : List Token} {keyAllowed : Bool}

namespace Lexer

variable {l : Lexer}

/-! ## Plain scalars -/

open Scalar

/-- A text that may be plain is read as a plain scalar, at the head of a line unless it is a mark. -/
theorem readToken?_plain (h : allowsPlain (c :: cs)) (hflow : l.outerKeys = [])
    (hmark : l.place.column = 0 → atDocumentMark (c :: cs ++ rest) = false) :
    l.readToken? c (cs ++ rest) = l.plain? (c :: cs ++ rest) := by
  have hinFlow := inFlow_eq_false hflow
  have hplain := Plain.isPlain_of_allowsPlain h
  have hstart := Plain.canStart_of_isPlain hplain rest
  rw [List.cons_append] at hstart hmark
  have hmark' : (l.place.column = 0 && atDocumentMark (c :: (cs ++ rest))) = false := by
    by_cases hcolumn : l.place.column = 0
    · rw [hmark hcolumn, Bool.and_false]
    · rw [decide_eq_false hcolumn, Bool.false_and]
  by_cases hsign : c = '-' ∨ c = '?' ∨ c = ':'
  · have hgap := hplain.atGap_append hsign rest
    rcases hsign with rfl | rfl | rfl <;> simp [readToken?, hinFlow, hmark', hgap, hstart]
  · have hindicator := hplain.indicator hsign
    simp only [Plain.isIndicator, List.contains_eq_mem, decide_eq_false_iff_not, List.mem_cons,
      List.not_mem_nil, or_false, not_or] at hindicator
    simp [readToken?, hinFlow, hmark', hstart, hindicator]

theorem isShown_of_allowsPlain (h : allowsPlain (c :: cs)) : IsShown (c :: cs ++ rest) := by
  have hplain := Plain.isPlain_of_allowsPlain h
  refine ⟨Bool.or_eq_false_iff.mpr ⟨hplain.blank, (hplain.line c List.mem_cons_self).2⟩, fun hsign => ?_⟩
  obtain rfl : c = '#' := Option.some.inj hsign
  cases hplain.indicator (by decide)

theorem plain?_eq (l : Lexer) (cs : List Char) :
    l.plain? cs =
      (Plain.read? l.inFlow (l.column?.elim 0 (· + 1)) l.place.column .empty cs).bind fun r =>
        l.noteKey?.map (·.take (.scalar .plain r.text) r.rest r.broken) := by
  simp only [plain?, Option.bind_eq_bind, Option.map_eq_bind]
  rfl

theorem plain?_inLine {text : List Char} {ended : Bool}
    (hread : Plain.read? false 1 (column + 1) .empty (xs ++ rest) = some ⟨text, ended, rest⟩) :
    (inLine line column keyAllowed tokens (xs ++ rest)).plain? (xs ++ rest) =
      some (behind line column keyAllowed tokens (.scalar .plain text) xs rest ended) := by
  rw [plain?_eq]
  exact (congrArg (fun r => Option.bind r _) hread).trans (take_of_noteKey? (.scalar .plain text) ended)

/-- A plain scalar behind a space is read to the end of its line. -/
theorem reaches_plain (h : allowsPlain (c :: cs)) (hmore : IsNext more) :
    (inLine line column keyAllowed tokens (' ' :: (c :: cs ++ '\n' :: more))).Reaches [0]
      (.scalar .plain (c :: cs) :: tokens) more := by
  have hgap : more = [] ∨ atGap more = false := hmore.imp id And.left
  have hread : Plain.read? false 1 (column + 2) .empty (c :: cs ++ '\n' :: more) =
      some ⟨c :: cs, true, more⟩ := by
    rw [Plain.read?_of_allowsPlain h (Nat.le_refl 1), Plain.read?_break Nat.one_pos hgap]
    simp
  have hsplit : c :: cs ++ '\n' :: more = (c :: cs ++ ['\n']) ++ more := by simp
  rw [hsplit] at hread
  have htoken := (readToken?_plain (l := inLine line (column + 1) keyAllowed tokens
    (c :: cs ++ '\n' :: more)) h rfl fun hcolumn => absurd hcolumn (Nat.succ_ne_zero _)).trans
      (hsplit ▸ plain?_inLine hread)
  refine reaches_of_readToken? (isShown_of_allowsPlain h) htoken ?_ (comesTo_behind_head rfl hmore _)
  simp [behind]
  omega

/-! ## Quoted scalars and blocks -/

theorem nodePart?_eq (l : Lexer) (t : Token) (rest : List Char) :
    l.nodePart? t rest = l.noteKey?.map (·.take t rest false) := by
  simp only [nodePart?, Option.bind_eq_bind, Option.map_eq_bind]
  rfl

theorem nodePart?_inLine (t : Token) :
    (inLine line column keyAllowed tokens (xs ++ rest)).nodePart? t rest =
      some (behind line column keyAllowed tokens t xs rest false) :=
  (nodePart?_eq _ _ _).trans (take_of_noteKey? t false)

theorem readToken?_singleQuoted (hcolumn : l.place.column ≠ 0) (cs : List Char) :
    l.readToken? '\'' cs =
      (SingleQuoted.read? (l.place.column + 1) .empty cs).bind
        fun (text, rest) => l.nodePart? (.scalar .singleQuoted text) rest := by
  simp only [readToken?, hcolumn]
  rfl

theorem readToken?_doubleQuoted (hcolumn : l.place.column ≠ 0) (cs : List Char) :
    l.readToken? '"' cs =
      (DoubleQuoted.read? (l.place.column + 1) (.gap .empty) cs).bind
        fun (text, rest) => l.nodePart? (.scalar .doubleQuoted text) rest := by
  simp only [readToken?, hcolumn]
  rfl

theorem readToken?_literal (hcolumn : l.place.column ≠ 0) (hflow : l.outerKeys = [])
    (hkey : l.possibleKey = none) (cs : List Char) :
    l.readToken? '|' cs =
      (Block.read? false l.column? cs).map fun (text, rest) => l.take (.scalar .literal text) rest true := by
  have hinFlow := inFlow_eq_false hflow
  have hdrop : l.dropKey? = some l := by
    rw [dropKey?, hkey]
    exact congrArg some (by rw [← hkey])
  simp only [readToken?, hcolumn, hinFlow, block?, hdrop]
  rw [Option.map_eq_bind]
  rfl

/-- A token behind a space that is part of a node, and ends before the end of its line. -/
theorem reaches_nodePart {t : Token} (hshown : IsShown (c :: cs ++ '\n' :: more)) (hmore : IsNext more)
    (hread : (inLine line (column + 1) keyAllowed tokens (c :: cs ++ '\n' :: more)).readToken? c
        (cs ++ '\n' :: more) =
      (inLine line (column + 1) keyAllowed tokens (c :: cs ++ '\n' :: more)).nodePart? t ('\n' :: more)) :
    (inLine line column keyAllowed tokens (' ' :: (c :: cs ++ '\n' :: more))).Reaches [0] (t :: tokens)
      more := by
  refine reaches_of_readToken? hshown (hread.trans (nodePart?_inLine t)) ?_ (comesTo_behind_break hmore t _)
  simp [behind]

/-- A text in single quotation marks behind a space is read to the end of its line. -/
theorem reaches_singleQuoted {text : List Char} (h : allowsSingleQuoted text)
    (hfeed : text.contains '\n' = false) (hmore : IsNext more) :
    (inLine line column keyAllowed tokens (' ' :: (SingleQuoted.write margin text ++ '\n' :: more))).Reaches
      [0] (.scalar .singleQuoted text :: tokens) more := by
  have hread : SingleQuoted.read? (column + 3) .empty
      (SingleQuoted.body margin false text ++ ['\''] ++ '\n' :: more) = some (text, '\n' :: more) := by
    rw [List.append_assoc, List.singleton_append]
    exact SingleQuoted.read?_write h hfeed (by simp)
  exact reaches_nodePart ⟨rfl, by simp⟩ hmore ((readToken?_singleQuoted (Nat.succ_ne_zero _) _).trans
    (congrArg (fun r => Option.bind r _) hread))

/-- A text in double quotation marks behind a space is read to the end of its line. -/
theorem reaches_doubleQuoted (text : List Char) (hmore : IsNext more) :
    (inLine line column keyAllowed tokens (' ' :: (DoubleQuoted.write text ++ '\n' :: more))).Reaches
      [0] (.scalar .doubleQuoted text :: tokens) more := by
  have hread : DoubleQuoted.read? (column + 3) (.gap .empty)
      (DoubleQuoted.body text ++ ['"'] ++ '\n' :: more) = some (text, '\n' :: more) := by
    rw [List.append_assoc, List.singleton_append]
    exact DoubleQuoted.read?_body .empty rfl (Nat.succ_pos _)
  exact reaches_nodePart ⟨rfl, by simp⟩ hmore ((readToken?_doubleQuoted (Nat.succ_ne_zero _) _).trans
    (congrArg (fun r => Option.bind r _) hread))

/-- A literal block behind a space is read to the end of its last line. -/
theorem reaches_literal {text : List Char} (h : allowsLiteral text) (hne : text ≠ [])
    (hmore : IsNext more) :
    (inLine line column keyAllowed tokens
      (' ' :: (Block.write margin text ++ (Block.lastBreak (Block.chompingOf text) ++ more)))).Reaches
        [0] (.scalar .literal text :: tokens) more := by
  have hread := Block.read?_write h hne (hmore.imp id And.left)
  obtain ⟨before, c, hc, hend⟩ := Block.exists_break_write margin text
  -- A block is no key, so none is noted before it, even where one may begin.
  have htake : (inLine line (column + 1) keyAllowed tokens (Block.write margin text ++
        (Block.lastBreak (Block.chompingOf text) ++ more))).take (.scalar .literal text) more true =
      behind line (column + 1) false tokens (.scalar .literal text) (before ++ [c]) more true :=
    take_append (before ++ [c]) (by rw [← hend, List.append_assoc]; rfl) _ true
  have htoken := (readToken?_literal (l := inLine line (column + 1) keyAllowed tokens
    (Block.write margin text ++ (Block.lastBreak (Block.chompingOf text) ++ more)))
      (Nat.succ_ne_zero _) rfl rfl _).trans ((congrArg (Option.map _) hread).trans (congrArg some htake))
  rw [Block.write_append] at htoken ⊢
  exact reaches_of_readToken? ⟨rfl, by simp⟩ htoken (by simp [behind]; omega)
    (comesTo_behind_head hc hmore _)

/-- A written text behind a space is read to the end of its line, in the style that it was written in. -/
theorem reaches_writeLine (text : List Char) (hmore : IsNext more) :
    (inLine line column keyAllowed tokens (' ' :: (writeLine text ++ more))).Reaches [0]
      (.scalar (styleOf text) text :: tokens) more := by
  have hshown := isShownBy_styleOf text
  have hwrite : styleOf text ≠ .literal → writeLine text ++ more = write text ++ '\n' :: more := by
    intro h
    rw [writeLine_of_ne_literal h, List.append_assoc, List.singleton_append]
  cases hstyle : styleOf text with
  | plain =>
      rw [hstyle] at hshown
      obtain ⟨c, cs, rfl⟩ := List.exists_cons_of_ne_nil hshown.2
      rw [hwrite (by rw [hstyle]; decide), write, hstyle]
      exact reaches_plain hshown.1 hmore
  | singleQuoted =>
      rw [hstyle] at hshown
      rw [hwrite (by rw [hstyle]; decide), write, hstyle]
      exact reaches_singleQuoted hshown.1 hshown.2 hmore
  | doubleQuoted =>
      rw [hwrite (by rw [hstyle]; decide), write, hstyle]
      exact reaches_doubleQuoted text hmore
  | literal =>
      rw [hstyle] at hshown
      rw [writeLine_of_literal hstyle, List.append_assoc]
      exact reaches_literal hshown.1 hshown.2 hmore
  | folded =>
      rw [hstyle] at hshown
      exact hshown.elim

/-! ## Lists -/

/-- A value that begins on the next line. -/
theorem reaches_break (hmore : IsNext more) :
    (inLine line column keyAllowed tokens ('\n' :: more)).Reaches [0] tokens more :=
  ⟨_, rfl, comesTo_of_break rfl hmore rfl nofun (by simp [inLine])⟩

/-- The dash of an item at the head of a line. -/
theorem tokens?_dash (h : l.ComesTo [0] tokens ('-' :: ' ' :: rest)) :
    ∃ line, l.tokens? = (inLine line 0 true (.blockEntry :: tokens) (' ' :: rest)).tokens? := by
  obtain ⟨line, hsettled⟩ := h.settled
  have hread : (atHead line [0] tokens ('-' :: ' ' :: rest)).readToken? '-' (' ' :: rest) =
      some (inLine line 0 true (.blockEntry :: tokens) (' ' :: rest)) := by
    have htake : (atHead line [0] tokens ('-' :: ' ' :: rest)).take .blockEntry (' ' :: rest) true =
        inLine line 0 true (.blockEntry :: tokens) (' ' :: rest) := take_append ['-'] rfl _ true
    simp only [readToken?, atHead, dash?, openHere?, openAt, dropKey?] at htake ⊢
    exact congrArg some htake
  exact ⟨line, tokens?_of_readToken? hsettled rfl hread h.length_le⟩

/-- The signs of a list without items. -/
theorem reaches_noItems (hmore : IsNext more) :
    (inLine line column keyAllowed tokens (' ' :: '[' :: ']' :: '\n' :: more)).Reaches [0]
      (.flowSequenceEnd :: .flowSequenceStart :: tokens) more := by
  -- While the list is open, the key that it could be is put aside.
  let key := notedKey line (column + 1) keyAllowed tokens
  let opened : Lexer :=
    { rest := ']' :: '\n' :: more, place := ⟨line, column + 3⟩, columns := [0], outerKeys := [key]
      tokens := .flowSequenceStart :: tokens }
  let closed : Lexer :=
    { rest := '\n' :: more, place := ⟨line, column + 4⟩, columns := [0], keyAllowed := false
      possibleKey := key, tokens := .flowSequenceEnd :: .flowSequenceStart :: tokens }
  have hopen : (inLine line (column + 1) keyAllowed tokens ('[' :: ']' :: '\n' :: more)).readToken? '['
      (']' :: '\n' :: more) = some opened := by
    have htake := take_append ['['] (l := { inLine line (column + 1) keyAllowed tokens ('[' :: ']' :: '\n' :: more) with
        possibleKey := key }) rfl .flowSequenceStart true
    simp only [readToken?, openFlow?, noteKey?_inLine]
    exact congrArg (fun l : Lexer =>
      some { l with outerKeys := l.possibleKey :: l.outerKeys, possibleKey := none }) htake
  have hclose : opened.readToken? ']' ('\n' :: more) = some closed := by
    have htake := take_append (l := opened) [']'] rfl .flowSequenceEnd false
    simp only [readToken?, closeFlow?, dropKey?]
    exact congrArg (fun l : Lexer =>
      some { l with outerKeys := l.outerKeys.tail, possibleKey := l.outerKeys.head?.join }) htake
  have hsettled : opened.settled? = some opened := by
    rw [settled?, skipGap_append [] rfl (gapEnd_of_isShown ⟨rfl, by simp [opened]⟩ _ _),
      dropStaleKey?_of_fresh rfl]
    rfl
  refine ⟨closed, ?_, comesTo_of_break rfl hmore rfl (fun k hk => ?_) (by simp [closed])⟩
  · rw [tokens?_of_readToken? (settled?_inLine_space ⟨rfl, by simp⟩) rfl hopen (by simp [opened, inLine]),
      tokens?_of_readToken? hsettled rfl hclose (by simp [opened, closed])]
  · obtain ⟨hrequired, hline⟩ := notedKey_eq_some hk
    exact ⟨hrequired, Nat.le_of_eq hline⟩

/-! ## Keys -/

/-- The token that begins a mapping, before its first key. -/
def opening (columns : List Nat) : List Token :=
  if columns.isEmpty then [.blockMappingStart] else []

/-- A key is plain, and begins like no mark. -/
structure IsKey (name : List Char) : Prop where
  plain : allowsPlain name
  short : name.length ≤ 1024
  word : name.head?.any Char.isAlpha

/-- A lexer behind the text of a key. -/
def behindKey (line : Nat) (columns : List Nat) (name : List Char) (tokens : List Token)
    (rest : List Char) : Lexer :=
  { rest := rest, place := ⟨line, name.length⟩, columns := columns, keyAllowed := false
    possibleKey := some { before := tokens.length, place := ⟨line, 0⟩, required := columns.head? = some 0 }
    tokens := .scalar .plain name :: tokens }

/-- The text of a key at the head of a line. -/
theorem readToken?_key (hname : IsKey (c :: cs)) (hcolumns : columns = [] ∨ columns = [0])
    (hgap : atGap rest) :
    (atHead line columns tokens (c :: cs ++ ':' :: rest)).readToken? c (cs ++ ':' :: rest) =
      some (behindKey line columns (c :: cs) tokens (':' :: rest)) := by
  have hmark : atDocumentMark (c :: cs ++ ':' :: rest) = false := by
    have hword : c.isAlpha = true := hname.word
    unfold atDocumentMark
    split
    case h_1 heq =>
      rw [(List.cons.inj heq).1] at hword
      cases hword
    case h_2 heq =>
      rw [(List.cons.inj heq).1] at hword
      cases hword
    case h_3 => rfl
  have hmargin : columns.head?.elim 0 (· + 1) ≤ 1 := by
    rcases hcolumns with rfl | rfl <;> decide
  have hread := Plain.read?_of_allowsPlain hname.plain hmargin 0 (':' :: rest)
  rw [Plain.read?_colon hgap] at hread
  have hline : ∀ d ∈ c :: cs, isBreak d = false := fun d hd =>
    ((Plain.isPlain_of_allowsPlain hname.plain).line d hd).2
  let key : PossibleKey :=
    { before := tokens.length, place := ⟨line, 0⟩, required := columns.head? = some 0 }
  have htake : ({ atHead line columns tokens (c :: cs ++ ':' :: rest) with
        possibleKey := some key } : Lexer).take (.scalar .plain (c :: cs)) (':' :: rest) false =
      behindKey line columns (c :: cs) tokens (':' :: rest) := by
    have hplace := advance_of_no_break hline ⟨line, 0⟩
    rw [take_append (c :: cs) rfl]
    simp only [atHead, hplace, Nat.zero_add]
    rfl
  rw [Option.map_some, List.append_nil] at hread
  exact (readToken?_plain hname.plain rfl fun _ => hmark).trans ((plain?_eq _ _).trans
    ((congrArg (fun r => Option.bind r _) hread).trans (congrArg some htake)))

theorem readToken?_value (hcolumn : l.place.column ≠ 0) (hgap : atGap rest) :
    l.readToken? ':' rest = l.value? rest := by
  simp [readToken?, hcolumn, hgap]

/-- A possible key is one if a colon follows on its line. -/
theorem readToken?_colon {name : List Char} (hname : IsKey name) (hcolumns : columns = [] ∨ columns = [0])
    (hgap : atGap rest) :
    (behindKey line columns name tokens (':' :: rest)).readToken? ':' rest =
      some (inLine line name.length false
        (.value :: .scalar .plain name :: .key :: (opening columns ++ tokens)) rest) := by
  have hcolumn : name.length ≠ 0 := by
    intro hzero
    obtain rfl := List.length_eq_zero_iff.mp hzero
    cases hname.word
  -- The sign of the key goes in front of its text, and that of the mapping in front of both.
  have hopened : ((behindKey line columns name tokens (':' :: rest)).insert tokens.length .key).openAt 0
        .blockMappingStart (some tokens.length) =
      { behindKey line columns name tokens (':' :: rest) with
        columns := [0], tokens := .scalar .plain name :: .key :: (opening columns ++ tokens) } := by
    have hsince : tokens.length + 1 + 1 - tokens.length = 2 := by omega
    rcases hcolumns with rfl | rfl <;>
      simp [behindKey, insert, openAt, inFlow, column?, opening, hsince]
  have htake : ({ behindKey line columns name tokens (':' :: rest) with
        columns := [0], possibleKey := none
        tokens := .scalar .plain name :: .key :: (opening columns ++ tokens) } : Lexer).take .value rest
          false =
      inLine line name.length false
        (.value :: .scalar .plain name :: .key :: (opening columns ++ tokens)) rest :=
    take_append [':'] rfl _ false
  have hvalue : (behindKey line columns name tokens (':' :: rest)).value? rest =
      some ({ ((behindKey line columns name tokens (':' :: rest)).insert tokens.length .key).openAt 0
        .blockMappingStart (some tokens.length) with possibleKey := none }.take .value rest false) := rfl
  rw [readToken?_value hcolumn hgap, hvalue, hopened]
  exact congrArg some htake

theorem settled?_behindKey {name : List Char} (hname : IsKey name)
    (hcolumns : columns = [] ∨ columns = [0]) :
    (behindKey line columns name tokens (':' :: rest)).settled? =
      some (behindKey line columns name tokens (':' :: rest)) := by
  have hfresh : (behindKey line columns name tokens (':' :: rest)).possibleKey.any
      (·.isStale ⟨line, name.length⟩) = false := by
    have hshort := hname.short
    simp [behindKey, PossibleKey.isStale, hshort]
  have hzero : ∀ n ∈ columns, n = 0 := by
    rcases hcolumns with rfl | rfl <;> simp
  rw [settled?, skipGap_append [] rfl (gapEnd_of_isShown ⟨rfl, by simp [behindKey]⟩ _ _),
    dropStaleKey?_of_fresh hfresh]
  exact congrArg some (closeWhile_of_columns
    (l := behindKey line columns name tokens (':' :: rest)) hzero name.length)

/-- A key at the head of a line, with the colon behind it. -/
theorem tokens?_key {name : List Char} (hname : IsKey name) (hcolumns : columns = [] ∨ columns = [0])
    (hgap : atGap rest) (h : l.ComesTo columns tokens (name ++ ':' :: rest)) :
    ∃ line, l.tokens? =
      (inLine line name.length false
        (.value :: .scalar .plain name :: .key :: (opening columns ++ tokens)) rest).tokens? := by
  obtain ⟨line, hsettled⟩ := h.settled
  cases name with
  | nil => cases hname.word
  | cons c cs =>
      refine ⟨line, ?_⟩
      have hlength := h.length_le
      simp only [List.length_append, List.length_cons] at hlength
      rw [tokens?_of_readToken? hsettled rfl (readToken?_key hname hcolumns hgap)
          (by simp [behindKey]; omega),
        tokens?_of_readToken? (settled?_behindKey hname hcolumns) rfl
          (readToken?_colon hname hcolumns hgap) (by simp [behindKey, inLine])]

/-! ## The whole text -/

end Lexer

end Waymark.Yaml
