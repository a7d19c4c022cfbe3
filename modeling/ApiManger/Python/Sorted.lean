import Mathlib.Data.List.Sort
import Mathlib.Data.String.Basic
import ApiManger.Collection.SortedSet

/-!
# Sorting by a key

`sorted(list, key=…)`. Where different elements have different keys, the order of the list does not matter.
-/

namespace ApiManger.Python

variable {α κ : Type} [LinearOrder κ]

/-- `sorted(list, key=key)`. -/
def sortedBy (key : α → κ) (list : List α) : List α := list.insertionSort fun a b => key a ≤ key b

theorem sortedBy_perm (key : α → κ) (list : List α) : (sortedBy key list).Perm list :=
  List.perm_insertionSort _ list

@[simp] theorem mem_sortedBy {key : α → κ} {list : List α} {a : α} : a ∈ sortedBy key list ↔ a ∈ list :=
  (sortedBy_perm key list).mem_iff

theorem sortedBy_eq_nil_iff {key : α → κ} {list : List α} : sortedBy key list = [] ↔ list = [] := by
  rw [← List.length_eq_zero_iff, (sortedBy_perm key list).length_eq, List.length_eq_zero_iff]

/-- The order of the list does not matter. -/
theorem sortedBy_eq_of_perm {key : α → κ} {list other : List α} (perm : list.Perm other)
    (apart : ∀ a ∈ list, ∀ b ∈ list, key a = key b → a = b) : sortedBy key list = sortedBy key other := by
  have sorted (l : List α) : (sortedBy key l).Pairwise fun a b => key a ≤ key b :=
    List.pairwise_insertionSort (fun a b => key a ≤ key b) l
  have same : (sortedBy key list).Perm (sortedBy key other) :=
    (sortedBy_perm key list).trans (perm.trans (sortedBy_perm key other).symm)
  refine same.eq_of_pairwise ?_ (sorted list) (sorted other)
  intro a b inList inOther le ge
  exact apart a (mem_sortedBy.mp inList) b (perm.mem_iff.mpr (mem_sortedBy.mp inOther)) (le_antisymm le ge)

theorem sorted_eq_nil_iff {list : List κ} : Collection.sorted list = [] ↔ list = [] :=
  (sortedBy_eq_nil_iff : sortedBy id list = [] ↔ list = [])

theorem sorted_perm (list : List κ) : (Collection.sorted list).Perm list := List.perm_insertionSort _ list

theorem sorted_eq_of_perm {list other : List κ} (perm : list.Perm other) :
    Collection.sorted list = Collection.sorted other :=
  (sortedBy_eq_of_perm perm fun _ _ _ _ same => same : sortedBy id list = sortedBy id other)

end ApiManger.Python
