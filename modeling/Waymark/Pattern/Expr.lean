import Waymark.Pattern.Node

/-!
# Pattern expressions

What a pattern says, before it is compiled: characters, conditions, named groups, sequences,
choices and counted repetition. `Expr.compile` gives the node that matches it. Repetition of a body
that can match the empty text gets gates at every choice inside and at the end of each round, so
that no round starts at the place where the last one ended without taking a character.
-/

namespace Waymark.Pattern

/-- What a pattern says. -/
inductive Expr
  | empty
  /-- One acceptable character; `cost` estimates the states that a matcher takes for it. -/
  | one (accept : Char → Bool) (cost : Nat)
  | look (at_ : Look)
  | group (name : String) (body : Expr)
  | cat (first second : Expr)
  | alt (preferred other : Expr)
  /-- At least `min` and at most `max` times; no `max` is no limit. -/
  | repeated (body : Expr) (min : Nat) (max : Option Nat) (greedy : Bool)

namespace Expr

/-- One after the other. -/
def catAll : List Expr → Expr
  | [] => .empty
  | e :: es => .cat e (catAll es)

/-- Any of a first and further alternatives, the earlier preferred. -/
def altAll (first : Expr) : List Expr → Expr
  | [] => first
  | e :: es => .alt first (altAll e es)

/-- Whether the expression can match the empty text. -/
def nullable : Expr → Bool
  | .empty | .look _ => true
  | .one _ _ => false
  | .group _ body => body.nullable
  | .cat first second => first.nullable && second.nullable
  | .alt preferred other => preferred.nullable || other.nullable
  | .repeated body min _ _ => min == 0 || body.nullable

/-- Whether the expression can match nothing but the empty text. -/
def takesNothing : Expr → Bool
  | .empty | .look _ => true
  | .one _ _ => false
  | .group _ body => body.takesNothing
  | .cat first second => first.takesNothing && second.takesNothing
  | .alt preferred other => preferred.takesNothing && other.takesNothing
  | .repeated body _ max _ => max == some 0 || body.takesNothing

/-- Size of the expression with its repetitions written out. -/
def cost : Expr → Nat
  | .empty | .look _ => 1
  | .one _ cost => cost
  | .group _ body => body.cost + 2
  | .cat first second => first.cost + second.cost
  | .alt preferred other => preferred.cost + other.cost + 1
  | .repeated body min max _ => body.cost * Nat.max 1 (max.getD min) + 2

/-- Put a gate before a choice that stands in a loop. -/
def guard (inLoop : Bool) (label : List Nat) (node : Node) : Node :=
  if inLoop then .seq (.gate label) node else node

/-- Either the node or the empty text. -/
def optional (greedy : Bool) (node : Node) : Node :=
  if greedy then .alt node .empty else .alt .empty node

/-- The node of `count` copies, each compiled under a label of its own. -/
def copies (compile : List Nat → Node) (label : List Nat) : (count : Nat) → Node
  | 0 => .empty
  | count + 1 => .seq (compile (count :: label)) (copies compile label count)

/-- Up to `count` copies, each inside the one before, as choices one by one. -/
def nestedCopies (compile : List Nat → Node) (inLoop greedy : Bool) (label : List Nat) :
    (count : Nat) → Node
  | 0 => .empty
  | count + 1 =>
    guard inLoop (count :: 1 :: label) <| optional greedy <|
      .seq (compile (count :: 2 :: label)) (nestedCopies compile inLoop greedy label count)

/-- The node of an expression. Inside a loop whose body can match the empty text every choice is
gated; `label` names the expression's place in the pattern and keeps gates apart. -/
def compile : Expr → (inLoop : Bool) → (label : List Nat) → Node
  | .empty, _, _ => .empty
  | .one accept _, _, _ => .one accept
  | .look l, _, _ => .look l
  | .group name body, inLoop, label =>
    .seq (.mark ⟨name, false⟩) (.seq (body.compile inLoop (0 :: label)) (.mark ⟨name, true⟩))
  | .cat first second, inLoop, label =>
    .seq (first.compile inLoop (0 :: label)) (second.compile inLoop (1 :: label))
  | .alt preferred other, inLoop, label =>
    guard inLoop label
      (.alt (preferred.compile inLoop (0 :: label)) (other.compile inLoop (1 :: label)))
  | .repeated body min max greedy, inLoop, label =>
    -- a body that takes nothing is matched at most once
    let min := if body.takesNothing then Nat.min min 1 else min
    let max := if body.takesNothing then some (Nat.min (max.getD 1) 1) else max
    match max with
    | some max =>
      if max ≤ min then copies (body.compile inLoop) (0 :: label) min
      else
        .seq (copies (body.compile inLoop) (0 :: label) min) <|
          if inLoop ∨ max - min = 1 then
            nestedCopies (body.compile inLoop) inLoop greedy (1 :: label) (max - min)
          else .upTo (max - min) greedy (body.compile inLoop (1 :: label))
    | none =>
      let gated := inLoop || body.nullable
      let again := 3 :: label
      let round :=
        if gated then .seq (body.compile gated (2 :: label)) (.gate again)
        else body.compile inLoop (2 :: label)
      match min with
      | 0 =>
        if body.nullable then
          guard inLoop (4 :: label) (optional greedy (.seq round (.star greedy round)))
        else guard inLoop again (.star greedy round)
      | more + 1 =>
        .seq (copies (body.compile inLoop) (0 :: label) more) (.seq round (.star greedy round))

end Expr

end Waymark.Pattern
