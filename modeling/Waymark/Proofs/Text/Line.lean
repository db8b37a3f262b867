import Waymark.Text.Line

/-!
# Lists of lines

The lists of lines that breaking a text gives are those in which every line but the last ends with one
break, and holds no other. Such a list is given back when it is put together and broken again, and it
stays one if a word in a line is replaced by another.
-/

namespace Waymark.Text

/-- What ends a line that another one follows. -/
def Ends (ending next : List Char) : Prop :=
  ending = ['\r', '\n'] ∨
    ∃ c, ending = [c] ∧ isLineBreak c = true ∧ (c = '\r' → next.head? ≠ some '\n')

/-- Every line but the last ends with one break, and holds no other. -/
def WellBroken : List (List Char) → Prop
  | [] => False
  | [last] => ∀ c ∈ last, isLineBreak c = false
  | line :: next :: more =>
    (∃ body ending, line = body ++ ending ∧ (∀ c ∈ body, isLineBreak c = false) ∧
      Ends ending next) ∧ WellBroken (next :: more)

theorem isLineBreak_of_ends {ending next : List Char} (h : Ends ending next) :
    ending ≠ [] ∧ ∀ c ∈ ending, isLineBreak c = true := by
  rcases h with rfl | ⟨c, rfl, hc, _⟩
  · exact ⟨by simp, by simp [isLineBreak]⟩
  · refine ⟨by simp, ?_⟩
    intro d hd
    rw [List.mem_singleton.mp hd]
    exact hc

/-! ## Breaking -/

theorem breakLines_cons_plain {c : Char} (hc : isLineBreak c = false) (text : List Char) :
    ∃ line more, breakLines text = line :: more ∧
      breakLines (c :: text) = (c :: line) :: more := by
  have hne : c ≠ '\r' := by
    intro heq
    subst heq
    cases hc
  obtain ⟨line, more, hlines⟩ := List.exists_cons_of_ne_nil (breakLines_ne_nil text)
  refine ⟨line, more, hlines, ?_⟩
  rw [breakLines.eq_3 c text (fun _ h => absurd h hne), if_neg (by simp [hc]), hlines]

theorem breakLines_plain_append {body : List Char} (hbody : ∀ c ∈ body, isLineBreak c = false)
    (text : List Char) : ∃ line more, breakLines text = line :: more ∧
      breakLines (body ++ text) = (body ++ line) :: more := by
  induction body with
  | nil =>
      obtain ⟨line, more, hlines⟩ := List.exists_cons_of_ne_nil (breakLines_ne_nil text)
      exact ⟨line, more, hlines, hlines⟩
  | cons c body ih =>
      obtain ⟨line, more, hlines, happend⟩ := ih fun d hd => hbody d (List.mem_cons_of_mem c hd)
      obtain ⟨line', more', hlines', hcons⟩ :=
        breakLines_cons_plain (hbody c List.mem_cons_self) (body ++ text)
      rw [happend] at hlines'
      cases hlines'
      exact ⟨line, more, hlines, hcons⟩

theorem breakLines_ends {ending next text : List Char} (h : Ends ending next)
    (hnext : text.head? = next.head?) :
    breakLines (ending ++ text) = ending :: breakLines text := by
  rcases h with rfl | ⟨c, rfl, hc, hcr⟩
  · rfl
  · have hguard : ∀ rest, c = '\r' → text = '\n' :: rest → False := by
      rintro rest hc rfl
      exact hcr hc hnext.symm
    rw [List.singleton_append, breakLines.eq_3 c text hguard, if_pos hc]

theorem head?_flatten {next : List Char} {more : List (List Char)}
    (h : WellBroken (next :: more)) : (next :: more).flatten.head? = next.head? := by
  cases more with
  | nil => simp
  | cons line more =>
      obtain ⟨⟨body, ending, rfl, _, hends⟩, _⟩ := h
      have hne : body ++ ending ≠ [] := by
        intro hnil
        exact (isLineBreak_of_ends hends).1 (List.append_eq_nil_iff.mp hnil).2
      obtain ⟨c, rest, hcons⟩ := List.exists_cons_of_ne_nil hne
      rw [hcons]
      rfl

/-- Lines that are well broken come back when they are put together. -/
theorem breakLines_flatten {lines : List (List Char)} (h : WellBroken lines) :
    breakLines lines.flatten = lines := by
  induction lines with
  | nil => exact h.elim
  | cons line more ih =>
      cases more with
      | nil =>
          obtain ⟨first, rest, hnil, happend⟩ := breakLines_plain_append h []
          cases hnil
          simpa using happend
      | cons next more =>
          obtain ⟨⟨body, ending, rfl, hbody, hends⟩, hmore⟩ := h
          have hrest := ih hmore
          have hending := breakLines_ends hends (head?_flatten hmore)
          obtain ⟨first, rest, hfirst, happend⟩ :=
            breakLines_plain_append hbody (ending ++ (next :: more).flatten)
          rw [hending, hrest] at hfirst
          cases hfirst
          rw [List.flatten_cons, List.append_assoc]
          exact happend

theorem wellBroken_cons_plain {c : Char} (hc : isLineBreak c = false) {line : List Char}
    {more : List (List Char)} (h : WellBroken (line :: more)) : WellBroken ((c :: line) :: more) := by
  have hcons : ∀ body : List Char, (∀ d ∈ body, isLineBreak d = false) →
      ∀ d ∈ c :: body, isLineBreak d = false := by
    intro body hbody d hd
    rcases List.mem_cons.mp hd with rfl | hd
    · exact hc
    · exact hbody d hd
  cases more with
  | nil => exact hcons line h
  | cons next more =>
      obtain ⟨⟨body, ending, rfl, hbody, hends⟩, hmore⟩ := h
      exact ⟨⟨c :: body, ending, rfl, hcons body hbody, hends⟩, hmore⟩

theorem wellBroken_cons_ends {ending : List Char} {text : List Char}
    (hends : ∀ next, next.head? = text.head? → Ends ending next)
    (h : WellBroken (breakLines text)) : WellBroken (ending :: breakLines text) := by
  obtain ⟨next, more, hlines⟩ := List.exists_cons_of_ne_nil (breakLines_ne_nil text)
  rw [hlines] at h ⊢
  have hhead : next.head? = text.head? := by
    rw [← head?_flatten h, ← hlines, flatten_breakLines]
  exact ⟨⟨[], ending, rfl, by simp, hends next hhead⟩, h⟩

theorem wellBroken_breakLines (text : List Char) : WellBroken (breakLines text) := by
  fun_induction breakLines text with
  | case1 => simp [WellBroken]
  | case2 rest ih => exact wellBroken_cons_ends (fun _ _ => .inl rfl) ih
  | case3 c rest hguard hbreak ih =>
      refine wellBroken_cons_ends ?_ ih
      intro next hhead
      refine .inr ⟨c, rfl, hbreak, ?_⟩
      intro hc hnewline
      cases rest with
      | nil =>
          rw [hnewline] at hhead
          cases hhead
      | cons d rest =>
          rw [hnewline, List.head?_cons] at hhead
          exact hguard rest hc (by rw [← Option.some.inj hhead])
  | case4 c rest hguard hplain hnone ih => exact absurd hnone (breakLines_ne_nil rest)
  | case5 c rest hguard hplain line more hlines ih =>
      rw [hlines] at ih
      exact wellBroken_cons_plain (by simpa using hplain) ih

/-! ## Replacing a word -/

/-- A text with characters, none of which ends a line. -/
structure IsRun (word : List Char) : Prop where
  ne_nil : word ≠ []
  plain : ∀ c ∈ word, isLineBreak c = false

theorem isLineBreak_eq_false {c : Char} (hc : Unicode.isBlank c = false) :
    isLineBreak c = false := by
  cases hbreak : isLineBreak c with
  | false => rfl
  | true =>
      simp only [isLineBreak, List.contains_eq_mem, List.mem_cons, List.not_mem_nil, or_false,
        decide_eq_true_eq] at hbreak
      rcases hbreak with rfl | rfl | rfl | rfl | rfl | rfl | rfl <;> cases hc

theorem head?_ne_newline {front front' back : List Char}
    (hfront' : ∀ c ∈ front', isLineBreak c = false) (hempty : front' = [] → front = [])
    (h : (front ++ back).head? ≠ some '\n') : (front' ++ back).head? ≠ some '\n' := by
  cases front' with
  | nil =>
      rw [hempty rfl] at h
      exact h
  | cons c front' =>
      intro hhead
      have hc := hfront' c List.mem_cons_self
      rw [show c = '\n' from Option.some.inj hhead] at hc
      cases hc

theorem ends_congr {ending next next' : List Char} (h : Ends ending next)
    (hnext : next.head? ≠ some '\n' → next'.head? ≠ some '\n') : Ends ending next' := by
  rcases h with hcrlf | ⟨c, hending, hc, hcr⟩
  · exact .inl hcrlf
  · exact .inr ⟨c, hending, hc, fun heq => hnext (hcr heq)⟩

/-- A word does not reach into the end of its line. -/
theorem exists_body {x w y body ending next : List Char} (hw : IsRun w) (hends : Ends ending next)
    (heq : x ++ (w ++ y) = body ++ ending) : ∃ y', y = y' ++ ending ∧ body = x ++ (w ++ y') := by
  rw [← List.append_assoc] at heq
  rcases List.append_eq_append_iff.mp heq with ⟨more, hbody, hy⟩ | ⟨more, hword, hending⟩
  · exact ⟨more, hy, by rw [hbody, List.append_assoc]⟩
  · cases hmore : more.getLast? with
    | none =>
        rw [List.getLast?_eq_none_iff] at hmore
        rw [hmore] at hword hending
        refine ⟨[], ?_, ?_⟩
        · simpa using hending.symm
        · simpa using hword.symm
    | some c =>
        -- the last character of the word would be part of the ending
        have hlast : (x ++ w).getLast? = some c := by
          rw [hword, List.getLast?_append, hmore]
          rfl
        have hmem : c ∈ w := by
          rw [List.getLast?_append] at hlast
          cases hlastW : w.getLast? with
          | none => exact absurd (List.getLast?_eq_none_iff.mp hlastW) hw.ne_nil
          | some d =>
              rw [hlastW] at hlast
              cases hlast
              exact List.mem_of_getLast? hlastW
        have hbreak : isLineBreak c = true :=
          (isLineBreak_of_ends hends).2 c
            (by rw [hending]; exact List.mem_append_left _ (List.mem_of_getLast? hmore))
        rw [hw.plain c hmem] at hbreak
        cases hbreak

theorem exists_body_plain {front back body ending next : List Char}
    (hfront : ∀ c ∈ front, isLineBreak c = false) (hends : Ends ending next)
    (heq : front ++ back = body ++ ending) :
    ∃ back', back = back' ++ ending ∧ body = front ++ back' := by
  cases front with
  | nil => exact ⟨body, heq, rfl⟩
  | cons c front => exact exists_body (x := []) ⟨List.cons_ne_nil c front, hfront⟩ hends heq

/-- A line of a text is the last one and holds no break, or it ends with the break in front of the
next one. -/
theorem WellBroken.line_cases {lines : List (List Char)} {i : Nat} {line : List Char}
    (h : WellBroken lines) (hline : lines[i]? = some line) :
    (i + 1 = lines.length ∧ ∀ c ∈ line, isLineBreak c = false) ∨
      ∃ body ending next, lines[i + 1]? = some next ∧ line = body ++ ending ∧
        (∀ c ∈ body, isLineBreak c = false) ∧ Ends ending next := by
  induction lines generalizing i with
  | nil => exact h.elim
  | cons first more ih =>
      cases more with
      | nil =>
          cases i with
          | zero =>
              cases hline
              exact .inl ⟨rfl, h⟩
          | succ i => simp at hline
      | cons next more =>
          obtain ⟨⟨body, ending, hsplit, hbody, hends⟩, hmore⟩ := h
          cases i with
          | zero =>
              cases hline
              exact .inr ⟨body, ending, next, rfl, hsplit, hbody, hends⟩
          | succ i =>
              rcases ih hmore hline with ⟨hlast, hplain⟩ | hends
              · exact .inl ⟨by simpa using hlast, hplain⟩
              · exact .inr hends

/-- Nothing in front of the end of a word of a line breaks it. -/
theorem WellBroken.plain_word {lines : List (List Char)} {i : Nat} {x w y : List Char}
    (h : WellBroken lines) (hw : IsRun w) (hline : lines[i]? = some (x ++ (w ++ y))) :
    ∀ c ∈ x ++ w, isLineBreak c = false := by
  intro c hc
  rcases h.line_cases hline with ⟨_, hplain⟩ | ⟨body, ending, next, _, hsplit, hbody, hends⟩
  · exact hplain c (by rw [← List.append_assoc]; exact List.mem_append_left y hc)
  · obtain ⟨y', _, rfl⟩ := exists_body hw hends hsplit
    exact hbody c (by rw [← List.append_assoc]; exact List.mem_append_left y' hc)

/-- What stands in a line in front of its break may be replaced, as long as nothing comes to stand
directly behind the break in front of it that did not stand there. -/
theorem wellBroken_set_plain {lines : List (List Char)} {i : Nat} {front front' back : List Char}
    (h : WellBroken lines) (hline : lines[i]? = some (front ++ back))
    (hfront : ∀ c ∈ front, isLineBreak c = false) (hfront' : ∀ c ∈ front', isLineBreak c = false)
    (hempty : front' = [] → front = []) : WellBroken (lines.set i (front' ++ back)) := by
  have hplain : ∀ body, (∀ c ∈ front ++ body, isLineBreak c = false) →
      ∀ c ∈ front' ++ body, isLineBreak c = false := by
    intro body hall c hc
    rcases List.mem_append.mp hc with hc | hc
    · exact hfront' c hc
    · exact hall c (List.mem_append_right front hc)
  induction lines generalizing i with
  | nil => exact h.elim
  | cons line more ih =>
      cases more with
      | nil =>
          cases i with
          | zero =>
              cases hline
              exact hplain back h
          | succ i => simp at hline
      | cons next more =>
          obtain ⟨⟨body, ending, hsplit, hbody, hends⟩, hmore⟩ := h
          cases i with
          | zero =>
              cases hline
              obtain ⟨back', rfl, rfl⟩ := exists_body_plain hfront hends hsplit
              exact ⟨⟨front' ++ back', ending, by simp, hplain back' hbody, hends⟩, hmore⟩
          | succ i =>
              rw [List.getElem?_cons_succ] at hline
              have hrest := ih hmore hline
              cases i with
              | zero =>
                  -- this line may end with a carriage return, which no line feed may come to follow
                  cases hline
                  exact ⟨⟨body, ending, hsplit, hbody,
                    ends_congr hends (head?_ne_newline hfront' hempty)⟩, hrest⟩
              | succ i => exact ⟨⟨body, ending, hsplit, hbody, hends⟩, hrest⟩

/-! ## What is trimmed -/

/-- What is trimmed behind the text of a line: a line feed with the carriage return in front of it,
a line feed that no carriage return stands in front of, or nothing if there is no line feed. -/
def IsTrimmed (kept ending : List Char) : Prop :=
  ending = ['\r', '\n'] ∨ ending = ['\n'] ∧ kept.getLast? ≠ some '\r' ∨
    ending = [] ∧ kept.getLast? ≠ some '\n'

theorem exists_isTrimmed (line : List Char) :
    ∃ ending, line = trimLine line ++ ending ∧ IsTrimmed (trimLine line) ending := by
  have hreverse : line = line.reverse.reverse := (List.reverse_reverse line).symm
  unfold trimLine
  split
  case h_1 kept heq =>
    refine ⟨['\r', '\n'], ?_, .inl rfl⟩
    rw [heq] at hreverse
    simpa using hreverse
  case h_2 kept hreturn heq =>
    refine ⟨['\n'], ?_, .inr (.inl ⟨rfl, ?_⟩)⟩
    · rw [heq] at hreverse
      simpa using hreverse
    · cases kept with
      | nil => simp
      | cons c kept => simpa using fun hc : c = '\r' => hreturn kept (by rw [hc])
  case h_3 hreturn hfeed =>
    refine ⟨[], (List.append_nil line).symm, .inr (.inr ⟨rfl, ?_⟩)⟩
    rw [List.getLast?_eq_head?_reverse]
    cases hline : line.reverse with
    | nil => simp
    | cons c kept => simpa using fun hc : c = '\n' => hfeed kept (by rw [hline, hc])

/-- What is trimmed from a line. -/
def lineEnd (line : List Char) : List Char := line.drop (trimLine line).length

theorem trimLine_append_lineEnd (line : List Char) : trimLine line ++ lineEnd line = line := by
  obtain ⟨ending, hsplit, _⟩ := exists_isTrimmed line
  exact List.prefix_iff_eq_append.mp ⟨ending, hsplit.symm⟩

theorem isTrimmed_lineEnd (line : List Char) : IsTrimmed (trimLine line) (lineEnd line) := by
  obtain ⟨ending, hsplit, htrimmed⟩ := exists_isTrimmed line
  have heq : trimLine line ++ lineEnd line = trimLine line ++ ending :=
    (trimLine_append_lineEnd line).trans hsplit
  rwa [List.append_cancel_left heq]

theorem exists_trimmed (line : List Char) : ∃ ending, line = trimLine line ++ ending :=
  ⟨lineEnd line, (trimLine_append_lineEnd line).symm⟩

/-- What is trimmed from a line stands behind its words. -/
theorem trimLine_append {w : List Char} (hw : IsRun w) (x y : List Char) :
    trimLine (x ++ (w ++ y)) = x ++ (w ++ trimLine y) := by
  obtain ⟨c, front, hc⟩ := List.exists_cons_of_ne_nil
    (show w.reverse ≠ [] by simpa using hw.ne_nil)
  have hplain : isLineBreak c = false :=
    hw.plain c (List.mem_reverse.mp (hc ▸ List.mem_cons_self))
  have hnewline : c ≠ '\n' := by
    intro heq
    subst heq
    cases hplain
  have hreturn : c ≠ '\r' := by
    intro heq
    subst heq
    cases hplain
  have hword : w = front.reverse ++ [c] := by
    rw [← List.reverse_reverse w, hc, List.reverse_cons]
  have hback : ∀ z : List Char,
      (z ++ c :: (front ++ x.reverse)).reverse = x ++ (w ++ z.reverse) := by
    intro z
    rw [hword]
    simp
  -- in the order from the end the line is read as the match reads it
  obtain ⟨z, rfl⟩ : ∃ z, y = z.reverse := ⟨y.reverse, (List.reverse_reverse y).symm⟩
  rw [← hback z, trimLine, trimLine, List.reverse_reverse, List.reverse_reverse]
  cases z with
  | nil => simpa [hnewline] using hback []
  | cons d z =>
      by_cases hd : d = '\n'
      · subst hd
        cases z with
        | nil => simpa [hreturn] using hback []
        | cons e z =>
            by_cases he : e = '\r'
            · subst he
              simpa using hback z
            · simpa [he] using hback (e :: z)
      · simpa [hd] using hback (d :: z)

theorem trimLine_plain_append {front : List Char} (hfront : ∀ c ∈ front, isLineBreak c = false)
    (back : List Char) : trimLine (front ++ back) = front ++ trimLine back := by
  cases front with
  | nil => rfl
  | cons c front => exact trimLine_append ⟨List.cons_ne_nil c front, hfront⟩ [] back

end Waymark.Text
