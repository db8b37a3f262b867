/-!
# Forests

An ordered forest is empty, or a first tree (its entry and the forest below it) followed by the trees
after it. Entries are visited in pre-order: a tree's entry, what is below it, then the later trees.
That order also numbers the entries, so that a tree and all it holds have consecutive numbers.
-/

namespace Waymark

/-- An ordered forest with an entry at every node. -/
inductive Forest (α : Type)
  | nil
  | node (entry : α) (below after : Forest α)
  deriving DecidableEq, Repr

namespace Forest

variable {α β : Type}

/-- Number of entries. -/
def size : Forest α → Nat
  | nil => 0
  | node _ below after => below.size + 1 + after.size

/-- The entries in pre-order. -/
def preorder : Forest α → List α
  | nil => []
  | node entry below after => entry :: below.preorder ++ after.preorder

/-- The entries at the top. -/
def roots : Forest α → List α
  | nil => []
  | node entry _ after => entry :: after.roots

/-- The same forest with other entries. -/
def map (f : α → β) : Forest α → Forest β
  | nil => nil
  | node entry below after => node (f entry) (below.map f) (after.map f)

/-- Whether nothing is in the forest. -/
def isEmpty : Forest α → Bool
  | nil => true
  | node _ _ _ => false

/-- The forest with further trees behind it. -/
def append : Forest α → Forest α → Forest α
  | nil, more => more
  | node entry below after, more => node entry below (after.append more)

instance : Append (Forest α) := ⟨append⟩

/-- The numbers of the entries at the top, if numbering begins with `next`. -/
def rootNumbers (next : Nat) : Forest α → List Nat
  | nil => []
  | node _ below after => next :: after.rootNumbers (next + 1 + below.size)

/-- An entry with its own number and those of its parent and its children. -/
structure Numbered (α : Type) where
  number : Nat
  parent : Option Nat
  children : List Nat
  entry : α

/-- The entries in pre-order, numbered from `next` on. -/
def numberedFrom (parent : Option Nat) (next : Nat) : Forest α → List (Numbered α)
  | nil => []
  | node entry below after =>
    ⟨next, parent, below.rootNumbers (next + 1), entry⟩
      :: below.numberedFrom (some next) (next + 1)
      ++ after.numberedFrom parent (next + 1 + below.size)

/-- The entries in pre-order, numbered from zero. -/
def numbered (f : Forest α) : List (Numbered α) :=
  f.numberedFrom none 0

/-- Grow the trees of some seeds: each seed gives an entry and the seeds below it. No tree grows higher
than `depth`. -/
def unfold (entry : β → α) (below : β → List β) : (depth : Nat) → List β → Forest α
  | 0, _ => nil
  | depth + 1, seeds =>
    seeds.foldr (fun seed after => node (entry seed) (unfold entry below depth (below seed)) after)
      nil

@[simp] theorem length_preorder (f : Forest α) : f.preorder.length = f.size := by
  induction f with
  | nil => rfl
  | node entry below after ihb iha => simp [preorder, size, ihb, iha]; omega

@[simp] theorem preorder_map (g : α → β) (f : Forest α) :
    (f.map g).preorder = f.preorder.map g := by
  induction f with
  | nil => rfl
  | node entry below after ihb iha => simp [preorder, map, ihb, iha]

@[simp] theorem preorder_append (f g : Forest α) :
    (f ++ g).preorder = f.preorder ++ g.preorder := by
  change (f.append g).preorder = _
  induction f with
  | nil => rfl
  | node entry below after _ iha => simp [preorder, append, iha]

end Forest

end Waymark
