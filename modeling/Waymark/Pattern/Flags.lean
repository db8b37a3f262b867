import Waymark.Unicode.Blank

/-!
# Pattern flags

Flags change how the rest of a group is read. With the flag `x` a pattern may be spaced out: white
space and comments between its parts mean nothing.
-/

namespace Waymark.Pattern

/-- The flags in force at a place in a pattern. -/
structure Flags where
  ignoreCase : Bool := false
  multiLine : Bool := false
  dotAll : Bool := false
  swapGreed : Bool := false
  unicode : Bool := true
  anyLineEnd : Bool := false
  spaced : Bool := false
  deriving DecidableEq, Repr

namespace Flags

/-- Turn the flag of a letter on or off; other letters are no flags. -/
def set? (flags : Flags) (value : Bool) : Char → Option Flags
  | 'i' => some { flags with ignoreCase := value }
  | 'm' => some { flags with multiLine := value }
  | 's' => some { flags with dotAll := value }
  | 'U' => some { flags with swapGreed := value }
  | 'u' => some { flags with unicode := value }
  | 'R' => some { flags with anyLineEnd := value }
  | 'x' => some { flags with spaced := value }
  | _ => none

/-- Skip white space and comments, which run from a number sign to the end of the line. -/
def skipSpaced : (inComment : Bool) → List Char → List Char
  | _, [] => []
  | true, c :: rest => skipSpaced (c != '\n') rest
  | false, c :: rest =>
    if Unicode.isBlank c then skipSpaced false rest
    else if c = '#' then skipSpaced true rest
    else c :: rest

/-- Skip what means nothing at a place between two parts. -/
def skip (flags : Flags) (cs : List Char) : List Char :=
  if flags.spaced then skipSpaced false cs else cs

/-- The next character that counts after the first one, as far as a class looks ahead: white space
is passed over, and so is the sign of a comment. -/
def peekAfter (flags : Flags) (cs : List Char) : Option Char :=
  if flags.spaced then
    match cs.dropWhile Unicode.isBlank with
    | [] => cs.head?
    | '#' :: rest => ((rest.dropWhile Unicode.isBlank).head?).orElse fun _ => cs.head?
    | c :: _ => some c
  else cs.head?

theorem length_skipSpaced_le (inComment : Bool) (cs : List Char) :
    (skipSpaced inComment cs).length ≤ cs.length := by
  fun_induction skipSpaced inComment cs <;> simp <;> omega

/-- Skipping never makes a text longer. -/
theorem length_skip_le (flags : Flags) (cs : List Char) : (flags.skip cs).length ≤ cs.length := by
  unfold skip
  split
  · exact length_skipSpaced_le false cs
  · exact Nat.le_refl _

/-- What stands behind the next part is shorter than the text. -/
theorem length_lt_of_skip_eq_cons {flags : Flags} {cs rest : List Char} {c : Char}
    (h : flags.skip cs = c :: rest) : rest.length < cs.length := by
  have := flags.length_skip_le cs
  rw [h] at this
  exact this

@[simp] theorem skip_of_not_spaced {flags : Flags} (h : flags.spaced = false) (cs : List Char) :
    flags.skip cs = cs := by
  simp [skip, h]

end Flags

end Waymark.Pattern
