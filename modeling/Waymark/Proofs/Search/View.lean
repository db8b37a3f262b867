import Waymark.Search.Snapshot

/-!
# What writing changes in a view

Writes change what items show and nothing else, so a view can be copied before or after it was written
to. An item that is not in the view is never changed. Of several writes to one part of an item the last
one counts, and where all agree any of them does.
-/

namespace Waymark.Search

namespace View

/-- Two views have the same items apart from what they show. -/
structure SameItems (v v' : View) : Prop where
  size_eq : v.items.size = v'.items.size
  label_eq : ∀ h, v.label h = v'.label h
  kind_eq : ∀ h, v.kind h = v'.kind h
  children_eq : ∀ h, v.children h = v'.children h

theorem SameItems.refl (v : View) : SameItems v v := ⟨rfl, fun _ => rfl, fun _ => rfl, fun _ => rfl⟩

theorem SameItems.trans {v v' v'' : View} (h : SameItems v v') (h' : SameItems v' v'') :
    SameItems v v'' :=
  ⟨h.size_eq.trans h'.size_eq, fun i => (h.label_eq i).trans (h'.label_eq i),
    fun i => (h.kind_eq i).trans (h'.kind_eq i),
    fun i => (h.children_eq i).trans (h'.children_eq i)⟩

theorem label_of_size_le {v : View} {h : Handle} (hsize : v.items.size ≤ h) : v.label h = "" := by
  simp [label, item, Nat.not_lt.mpr hsize]

theorem children_of_size_le {v : View} {h : Handle} (hsize : v.items.size ≤ h) :
    v.children h = [] := by
  simp [children, item, Nat.not_lt.mpr hsize]

theorem display_of_size_le {v : View} {h : Handle} (hsize : v.items.size ≤ h) :
    v.display h = { markup := "" } := by
  simp [display, item, Nat.not_lt.mpr hsize]

theorem item_write (v : View) (w : Write) (h : Handle) :
    (v.write w).item h =
      if w.item = h ∧ h < v.items.size then
        { v.item h with display := w.apply (v.item h).display }
      else v.item h := by
  unfold item write
  simp only [Array.getD_eq_getD_getElem?, Array.getElem?_modify]
  by_cases hitem : w.item = h
  · by_cases hsize : h < v.items.size
    · simp [hitem, hsize]
    · simp [hitem, hsize]
  · simp [hitem]

theorem sameItems_write (v : View) (w : Write) : SameItems v (v.write w) := by
  have hitem : ∀ h, (v.write w).item h = v.item h ∨
      (v.write w).item h = { v.item h with display := w.apply (v.item h).display } := by
    intro h
    rw [item_write]
    split
    · exact .inr rfl
    · exact .inl rfl
  refine ⟨by simp [write], ?_, ?_, ?_⟩ <;> intro h <;>
    rcases hitem h with heq | heq <;> simp [label, kind, children, heq]

theorem sameItems_writeAll (v : View) (ws : List Write) : SameItems v (v.writeAll ws) := by
  induction ws generalizing v with
  | nil => exact .refl v
  | cons w ws ih => exact (sameItems_write v w).trans (ih (v.write w))

/-! ## Writing the same thing several times -/

theorem writeAll_append (v : View) (ws more : List Write) :
    v.writeAll (ws ++ more) = (v.writeAll ws).writeAll more := by
  rw [writeAll, writeAll, writeAll, List.foldl_append]

theorem writes_writeAll (v : View) (ws : List Write) :
    (v.writeAll ws).writes = v.writes ++ ws.toArray := by
  induction ws generalizing v with
  | nil => simp [writeAll]
  | cons w ws ih =>
      change ((v.write w).writeAll ws).writes = _
      rw [ih]
      simp [write]

theorem display_write (v : View) (w : Write) (h : Handle) :
    (v.write w).display h =
      if w.item = h ∧ h < v.items.size then w.apply (v.display h) else v.display h := by
  rw [display, item_write]
  split <;> rfl

theorem size_write (v : View) (w : Write) : (v.write w).items.size = v.items.size :=
  (sameItems_write v w).size_eq.symm

theorem display_writeAll_of_ne (v : View) {ws : List Write} {h : Handle}
    (hne : ∀ w ∈ ws, w.item ≠ h) : (v.writeAll ws).display h = v.display h := by
  induction ws generalizing v with
  | nil => rfl
  | cons w ws ih =>
      have hfirst : w.item ≠ h := hne w List.mem_cons_self
      change ((v.write w).writeAll ws).display h = _
      rw [ih (v.write w) fun w' hw' => hne w' (List.mem_cons_of_mem w hw'), display_write,
        if_neg fun hitem => hfirst hitem.1]

theorem display_writeAll_of_size_le (v : View) (ws : List Write) {h : Handle}
    (hsize : v.items.size ≤ h) : (v.writeAll ws).display h = v.display h := by
  induction ws generalizing v with
  | nil => rfl
  | cons w ws ih =>
      change ((v.write w).writeAll ws).display h = _
      rw [ih (v.write w) (by rw [size_write]; exact hsize), display_write,
        if_neg fun hitem => Nat.not_lt.mpr hsize hitem.2]

/-- A part of what an item shows that every write leaves or sets to one value, and that has it. -/
theorem writeAll_keeps {β : Type} {part : Display → β} {t : β} (v : View) {ws : List Write}
    {h : Handle} (hws : ∀ w ∈ ws, w.item = h → ∀ d, part (w.apply d) = part d ∨ part (w.apply d) = t)
    (hv : part (v.display h) = t) : part ((v.writeAll ws).display h) = t := by
  induction ws generalizing v with
  | nil => exact hv
  | cons w ws ih =>
      apply ih (v.write w) fun w' hw' => hws w' (List.mem_cons_of_mem w hw')
      rw [display_write]
      split
      · rename_i hitem
        rcases hws w List.mem_cons_self hitem.1 (v.display h) with hleft | hset
        · rw [hleft, hv]
        · exact hset
      · exact hv

theorem writeAll_sets {β : Type} {part : Display → β} {t : β} (v : View) {ws : List Write}
    {h : Handle} (hsize : h < v.items.size)
    (hws : ∀ w ∈ ws, w.item = h → ∀ d, part (w.apply d) = part d ∨ part (w.apply d) = t)
    {w : Write} (hw : w ∈ ws) (hitem : w.item = h) (hset : ∀ d, part (w.apply d) = t) :
    part ((v.writeAll ws).display h) = t := by
  induction ws generalizing v with
  | nil => cases hw
  | cons first ws ih =>
      have hlater : ∀ w ∈ ws, w.item = h → ∀ d, part (w.apply d) = part d ∨ part (w.apply d) = t :=
        fun w' hw' => hws w' (List.mem_cons_of_mem first hw')
      rcases List.mem_cons.mp hw with rfl | hmem
      · apply writeAll_keeps (v.write w) hlater
        rw [display_write, if_pos ⟨hitem, hsize⟩]
        exact hset (v.display h)
      · exact ih (v.write first) (by rw [size_write]; exact hsize) hlater hmem

end View

namespace Snapshot

/-- What is copied does not depend on what the view shows. -/
theorem build_congr {v v' : View} (h : v.SameItems v') (root : Handle) :
    build v root = build v' root := by
  have hnode : freshNode v = freshNode v' := by
    funext i
    simp [freshNode, h.label_eq, h.kind_eq]
  have hchildren : v.children = v'.children := funext h.children_eq
  rw [build, build, hnode, hchildren, h.size_eq]

end Snapshot

end Waymark.Search
