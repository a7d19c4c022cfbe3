import Mathlib.Data.List.MinMax

/-!
# The greatest element

Where no two elements of a list weigh the same, the one that weighs most does not depend on the
order of the list.
-/

namespace Collection

variable {α β : Type*} [LinearOrder β] {weight : α → β} {l l' : List α}

/-- The greatest elements of two lists that hold the same are the same. -/
theorem argmax_eq_of_mem_iff (apart : ∀ a ∈ l, ∀ b ∈ l, weight a = weight b → a = b) (same : ∀ a, a ∈ l ↔ a ∈ l') :
    l.argmax weight = l'.argmax weight := by
  cases found : l.argmax weight with
  | none =>
    obtain rfl := List.argmax_eq_none.mp found
    refine (List.argmax_eq_none.mpr ?_).symm
    apply List.eq_nil_iff_forall_not_mem.mpr
    intro a mem
    cases (same a).mpr mem
  | some a =>
    cases found' : l'.argmax weight with
    | none =>
      obtain rfl := List.argmax_eq_none.mp found'
      cases (same a).mp (List.argmax_mem found)
    | some b =>
      have here := List.argmax_mem found
      have there := (same b).mpr (List.argmax_mem found')
      have above : weight b ≤ weight a := List.le_of_mem_argmax there found
      have below : weight a ≤ weight b := List.le_of_mem_argmax ((same a).mp here) found'
      rw [apart a here b there (le_antisymm below above)]

/-- There is a greatest element where there is one at all. -/
theorem exists_argmax {a : α} (mem : a ∈ l) : ∃ b, l.argmax weight = some b := by
  cases found : l.argmax weight with
  | none =>
    rw [List.argmax_eq_none.mp found] at mem
    cases mem
  | some b => exact ⟨b, rfl⟩

end Collection
