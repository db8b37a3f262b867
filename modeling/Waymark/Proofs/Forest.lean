import Waymark.Forest

/-!
# Entries of forests

What holds of all entries of a forest is said by its pre-order: a map that changes none of them changes
nothing, and a forest that was unfolded from seeds holds entries of seeds only. The pre-order is also the
order in which the entries are numbered.
-/

namespace Waymark.Forest

variable {α β : Type}

theorem map_id_of_forall {f : α → α} {m : Forest α} (h : ∀ a ∈ m.preorder, f a = a) :
    m.map f = m := by
  induction m with
  | nil => rfl
  | node a below after ihb iha =>
      simp only [preorder, List.cons_append, List.mem_cons, List.mem_append] at h
      rw [map, h a (.inl rfl), ihb fun b hb => h b (.inr (.inl hb)),
        iha fun b hb => h b (.inr (.inr hb))]

@[simp] theorem append_nil (f : Forest α) : f ++ .nil = f := by
  change f.append .nil = f
  induction f with
  | nil => rfl
  | node entry below after _ iha => rw [append, iha]

theorem append_assoc (f g h : Forest α) : f ++ g ++ h = f ++ (g ++ h) := by
  change (f.append g).append h = f.append (g.append h)
  induction f with
  | nil => rfl
  | node entry below after _ iha => rw [append, append, append, iha]

/-- The first tree of an unfolding, and the trees of the later seeds. -/
theorem unfold_cons (entry : β → α) (below : β → List β) (depth : Nat) (seed : β)
    (seeds : List β) :
    unfold entry below (depth + 1) (seed :: seeds) =
      .node (entry seed) (unfold entry below depth (below seed))
        (unfold entry below (depth + 1) seeds) := by
  simp [unfold]

theorem unfold_nil (entry : β → α) (below : β → List β) (depth : Nat) :
    unfold entry below depth [] = .nil := by
  cases depth <;> rfl

theorem exists_seed_of_mem_unfold {entry : β → α} {below : β → List β} {depth : Nat}
    {seeds : List β} {a : α} (h : a ∈ (unfold entry below depth seeds).preorder) :
    ∃ seed, a = entry seed := by
  induction depth generalizing seeds with
  | zero => simp [unfold, preorder] at h
  | succ depth ihd =>
      induction seeds with
      | nil => simp [unfold_nil, preorder] at h
      | cons seed seeds ihs =>
          simp only [unfold_cons, preorder, List.cons_append, List.mem_cons, List.mem_append] at h
          rcases h with rfl | h | h
          · exact ⟨seed, rfl⟩
          · exact ihd h
          · exact ihs h

/-- What is said of every entry and the forest below it. -/
def AllTrees (P : α → Forest α → Prop) : Forest α → Prop
  | nil => True
  | node entry below after => P entry below ∧ below.AllTrees P ∧ after.AllTrees P

theorem roots_sublist_preorder (f : Forest α) : f.roots.Sublist f.preorder := by
  induction f with
  | nil => exact .slnil
  | node entry below after _ iha =>
      exact (iha.trans (List.sublist_append_right below.preorder _)).cons_cons entry

theorem number_numberedFrom (f : Forest α) (parent : Option Nat) (next : Nat) :
    (f.numberedFrom parent next).map Numbered.number = List.range' next f.size := by
  induction f generalizing parent next with
  | nil => rfl
  | node entry below after ihb iha =>
      simp only [numberedFrom, size, List.cons_append, List.map_cons, List.map_append, ihb, iha]
      rw [List.range'_append_1, show below.size + 1 + after.size = below.size + after.size + 1 by omega,
        List.range'_succ]

end Waymark.Forest
