import Waymark.Yaml.Number
import Waymark.Yaml.Scalar.Style
import Waymark.Yaml.Tag

/-!
# Nodes

The tree that a text describes. A node may have an anchor, and an alias stands for a node with one. An
anchor is known by its slot: a name that is new takes the first slot that no name has taken, and a name
that was given before takes that slot as well, so that a later new name may take the same one. An alias
stands for the last node in the text that has the slot of its name.
-/

namespace Waymark.Yaml

/-- What may stand before a node. -/
structure Properties where
  slot : Option Nat := none
  tag : Option Tag := none
  deriving DecidableEq, Repr, Inhabited

/-- A part of the tree that a text describes. -/
inductive Node
  | scalar (props : Properties) (style : ScalarStyle) (text : List Char)
  | sequence (props : Properties) (items : List Node)
  | mapping (props : Properties) (entries : List (Node × Node))
  | alias (slot : Nat)
  deriving Inhabited

namespace Node

/-- The node where a text has none. -/
def absent : Node := .scalar {} .plain []

mutual

/-- The last node of the tree that has a slot. -/
def find? (slot : Nat) : Node → Option Node
  | .scalar props style text =>
    if props.slot = some slot then some (.scalar props style text) else none
  | .sequence props items =>
    (findItem? slot items).or (if props.slot = some slot then some (.sequence props items) else none)
  | .mapping props entries =>
    (findValue? slot entries).or (if props.slot = some slot then some (.mapping props entries) else none)
  | .alias _ => none

/-- The last node of some trees that has a slot. -/
def findItem? (slot : Nat) : List Node → Option Node
  | [] => none
  | n :: ns => (findItem? slot ns).or (find? slot n)

/-- The last node of some keys and values that has a slot. -/
def findValue? (slot : Nat) : List (Node × Node) → Option Node
  | [] => none
  | (k, v) :: rest => (findValue? slot rest).or ((find? slot v).or (find? slot k))

end

/-- The node itself, or what it stands for if it is an alias. -/
def resolve (root : Node) : Node → Node
  | .alias slot => (root.find? slot).getD (.alias slot)
  | n => n

/-- Whether a scalar is open to be a truth value or a number: a plain one is, and a literal one with
the tag of such values. -/
def isOpen (expected : Tag) (props : Properties) : ScalarStyle → Bool
  | .plain => true
  | .literal => props.tag = some expected
  | _ => false

/-- The text of a scalar. -/
def text? (root n : Node) : Option String :=
  match root.resolve n with
  | .scalar _ _ text => some (String.ofList text)
  | _ => none

/-- The truth value of a scalar. -/
def bool? (root n : Node) : Option Bool :=
  match root.resolve n with
  | .scalar props style text => if isOpen .bool props style then Number.bool? text else none
  | _ => none

/-- The whole number of a scalar, of at most 64 bits. -/
def word? (root n : Node) : Option UInt64 :=
  match root.resolve n with
  | .scalar props style text =>
    if isOpen .int props style then
      (Number.nat? text).bind fun n => if h : n < UInt64.size then some (UInt64.ofNatLT n h) else none
    else none
  | _ => none

/-- Whether the node is absent from the text. -/
def isAbsent : Node → Bool
  | .scalar _ .plain [] => true
  | _ => false

/-- The texts of a sequence of scalars. An absent node is an empty sequence. -/
def texts? (root n : Node) : Option (List String) :=
  match root.resolve n with
  | .sequence _ items => items.mapM root.text?
  | n => if n.isAbsent then some [] else none

/-- The values of a mapping by the texts of their keys. An absent node is an empty mapping. -/
def fields? (root n : Node) : Option (List (String × Node)) :=
  match root.resolve n with
  | .mapping _ entries => entries.mapM fun (k, v) => (root.text? k).map (·, v)
  | n => if n.isAbsent then some [] else none

end Node

end Waymark.Yaml
