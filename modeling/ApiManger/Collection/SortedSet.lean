import Mathlib.Data.List.Dedup
import Mathlib.Data.List.Sort

/-!
# Sorted sets

The elements of a list, each once, in increasing order. A list of that form is its own
sorted set.
-/

namespace Collection

variable {α : Type*} [LinearOrder α]

variable (l : List α)

/-- `sorted(set(l))`. -/
def sortedSet : List α := l.dedup.insertionSort (· ≤ ·)

/-- `sorted(l)`. -/
def sorted : List α := l.insertionSort (· ≤ ·)

theorem sorted_eq_self {l : List α} (increasing : l.Pairwise (· ≤ ·)) : sorted l = l :=
  increasing.insertionSort_eq

theorem sortedSet_pairwise : (sortedSet l).Pairwise (· ≤ ·) :=
  List.pairwise_insertionSort (· ≤ ·) l.dedup

theorem sortedSet_nodup : (sortedSet l).Nodup :=
  (List.perm_insertionSort (· ≤ ·) l.dedup).nodup_iff.mpr (List.nodup_dedup l)

@[simp] theorem mem_sortedSet {l : List α} {a : α} : a ∈ sortedSet l ↔ a ∈ l := by
  rw [sortedSet, List.mem_insertionSort, List.mem_dedup]

@[simp] theorem sorted_sortedSet : sorted (sortedSet l) = sortedSet l :=
  sorted_eq_self (sortedSet_pairwise l)

/-- A sorted set is the sorted set of its elements. -/
@[simp] theorem sortedSet_sortedSet : sortedSet (sortedSet l) = sortedSet l := by
  have once : (sortedSet l).dedup = sortedSet l := (sortedSet_nodup l).dedup
  rw [sortedSet, once]
  exact sorted_sortedSet l

/-- Lists of the same elements have one sorted set. -/
theorem sortedSet_congr {l l' : List α} (same : ∀ a, a ∈ l ↔ a ∈ l') : sortedSet l = sortedSet l' := by
  have perm : (sortedSet l).Perm (sortedSet l') := by
    refine (List.perm_ext_iff_of_nodup (sortedSet_nodup l) (sortedSet_nodup l')).mpr fun a => ?_
    rw [mem_sortedSet, mem_sortedSet, same]
  exact perm.eq_of_pairwise (fun _ _ _ _ => le_antisymm) (sortedSet_pairwise l) (sortedSet_pairwise l')

@[simp] theorem mem_sorted {l : List α} {a : α} : a ∈ sorted l ↔ a ∈ l := by
  rw [sorted, List.mem_insertionSort]

end Collection
