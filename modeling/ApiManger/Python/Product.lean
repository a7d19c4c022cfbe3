import Mathlib.Algebra.BigOperators.Ring.List
import Mathlib.Algebra.GroupWithZero.Nat
import Mathlib.Data.List.Forall2
import Mathlib.Data.List.Nodup

/-!
# `itertools.product`

The product of a list of lists: all ways to take one member of each, where the choice from the last list
varies fastest. Its members, its length and the effect of a permutation of the lists are here.
-/

namespace ApiManger.Python

section
variable {α : Type}

/-- `itertools.product(*lists)`. -/
def product : List (List α) → List (List α)
  | [] => [[]]
  | xs :: rest => xs.flatMap fun x => (product rest).map (x :: ·)

variable {lists : List (List α)}

/-- A member takes one member of each list. -/
theorem mem_product {taken : List α} :
    taken ∈ product lists ↔ List.Forall₂ (fun x xs => x ∈ xs) taken lists := by
  induction lists generalizing taken with
  | nil => simp [product]
  | cons xs rest ih =>
    simp only [product, List.mem_flatMap, List.mem_map, List.forall₂_cons_right_iff]
    constructor
    · rintro ⟨x, here, tail, inside, rfl⟩
      exact ⟨x, tail, here, ih.mp inside, rfl⟩
    · rintro ⟨x, tail, here, inside, rfl⟩
      exact ⟨x, here, tail, ih.mpr inside, rfl⟩

theorem length_product (lists : List (List α)) : (product lists).length = (lists.map List.length).prod := by
  induction lists with
  | nil => rfl
  | cons xs rest ih => simp [product, List.length_flatMap, ih]

theorem product_nodup (distinct : ∀ xs ∈ lists, xs.Nodup) : (product lists).Nodup := by
  induction lists with
  | nil => simp [product]
  | cons xs rest ih =>
    have tails := ih fun ys inside => distinct ys (List.mem_cons_of_mem _ inside)
    refine List.nodup_flatMap.mpr ⟨fun x _ => tails.map fun _ _ same => (List.cons.inj same).2, ?_⟩
    refine (distinct xs List.mem_cons_self).imp fun {x y} differ => ?_
    intro taken left right
    obtain ⟨_, _, rfl⟩ := List.mem_map.mp left
    obtain ⟨_, _, same⟩ := List.mem_map.mp right
    exact differ (List.cons.inj same).1.symm

/-- Permuted lists have permuted products. -/
theorem product_perm {others : List (List α)} (perm : List.Forall₂ List.Perm lists others) :
    (product lists).Perm (product others) := by
  induction perm with
  | nil => exact .refl _
  | cons here _ ih => exact here.flatMap fun x _ => ih.map (x :: ·)

theorem product_eq_nil (empty : [] ∈ lists) : product lists = [] := by
  rw [← List.length_eq_zero_iff, length_product]
  apply List.prod_eq_zero
  exact List.mem_map.mpr ⟨[], empty, rfl⟩

end

end ApiManger.Python
