import ApiManger.Collection.Keyed

/-!
# A guarded update of one document, and its undoing

`updateOne` changes the first document that a filter matches and says whether there was
one. An update is undone by a second one whose filter matched nothing before and matches
what the first one wrote; a sequence of updates is undone in the opposite order.
-/

namespace Collection

variable {α : Type*}

/-- The first document that matches is changed; `none` when no document matches. -/
def updateOne (p : α → Bool) (f : α → α) : List α → Option (List α)
  | [] => none
  | a :: l => if p a then some (f a :: l) else (updateOne p f l).map (a :: ·)

/-- The same, where nothing is done when no document matches. -/
def updateIfAny (p : α → Bool) (f : α → α) (l : List α) : List α := (updateOne p f l).getD l

variable {p q : α → Bool} {f g : α → α} {l l' : List α}

theorem updateOne_eq_none : updateOne p f l = none ↔ ∀ a ∈ l, p a = false := by
  induction l with
  | nil => simp [updateOne]
  | cons a l ih =>
    unfold updateOne
    split
    · next here => simp [here]
    · next other => simp [ih, Bool.eq_false_iff.mpr other]

theorem updateOne_isSome : (updateOne p f l).isSome ↔ ∃ a ∈ l, p a = true := by
  rw [Option.isSome_iff_ne_none, ne_eq, updateOne_eq_none]
  simp

/-- The document that was changed, and the ones around it. -/
theorem updateOne_split (changed : updateOne p f l = some l') :
    ∃ front a back, l = front ++ a :: back ∧ p a = true ∧ (∀ b ∈ front, p b = false) ∧
      l' = front ++ f a :: back := by
  induction l generalizing l' with
  | nil => cases changed
  | cons a l ih =>
    unfold updateOne at changed
    split at changed
    · next here =>
      cases changed
      exact ⟨[], a, l, rfl, here, by simp, rfl⟩
    · next other =>
      obtain ⟨rest, tail, rfl⟩ := Option.map_eq_some_iff.mp changed
      obtain ⟨front, b, back, rfl, here, before, rfl⟩ := ih tail
      refine ⟨a :: front, b, back, rfl, here, fun c mem => ?_, rfl⟩
      rcases List.mem_cons.mp mem with rfl | later
      · exact Bool.eq_false_iff.mpr other
      · exact before c later

theorem updateOne_front {front back : List α} {a : α} (before : ∀ b ∈ front, p b = false) (here : p a = true) :
    updateOne p f (front ++ a :: back) = some (front ++ f a :: back) := by
  induction front with
  | nil => simp [updateOne, here]
  | cons b front ih =>
    have other := before b (List.mem_cons_self ..)
    have later := ih fun c mem => before c (List.mem_cons_of_mem _ mem)
    simp [updateOne, other, later]

/-- The first document that matches is behind those that do not. -/
theorem updateOne_append (before : ∀ a ∈ l, p a = false) : updateOne p f (l ++ l') = (updateOne p f l').map (l ++ ·) := by
  induction l with
  | nil => cases h : updateOne p f l' <;> simp [h]
  | cons a l ih =>
    have other := before a (List.mem_cons_self ..)
    rw [List.cons_append, updateOne, if_neg (by simp [other]), ih fun b mem => before b (List.mem_cons_of_mem _ mem),
      Option.map_map]
    rfl

/-- **Undoing an update.** The filter of the second update matched nothing before the first. -/
theorem updateOne_undo (changed : updateOne p f l = some l') (fresh : ∀ a ∈ l, q a = false)
    (matches_ : ∀ a, p a = true → q (f a) = true) (back : ∀ a, p a = true → g (f a) = a) :
    updateIfAny q g l' = l := by
  obtain ⟨front, a, rest, rfl, here, _, rfl⟩ := updateOne_split changed
  have before : ∀ b ∈ front, q b = false := fun b mem => fresh b (List.mem_append_left _ mem)
  simp [updateIfAny, updateOne_front before (matches_ a here), back a here]

end Collection
