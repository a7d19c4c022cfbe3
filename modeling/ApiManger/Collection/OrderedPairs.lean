import Mathlib.Data.List.Nodup
import Mathlib.Data.List.ProdSigma

/-!
# Ordered pairs of a list

The pairs of the elements of a list that a relation admits, the first component varying
slowest, as a nested loop visits them.
-/

namespace Collection

variable {α β : Type*}

/-- The pairs `(a, b)` of elements with `admits a b`. -/
def orderedPairs (admits : α → α → Bool) (l : List α) : List (α × α) :=
  l.flatMap fun a => (l.filter (admits a)).map (a, ·)

variable {admits : α → α → Bool} {l : List α}

@[simp] theorem mem_orderedPairs {p : α × α} :
    p ∈ orderedPairs admits l ↔ p.1 ∈ l ∧ p.2 ∈ l ∧ admits p.1 p.2 = true := by
  obtain ⟨a, b⟩ := p
  simp [orderedPairs, and_left_comm]

theorem nodup_orderedPairs (nodup : l.Nodup) : (orderedPairs admits l).Nodup := by
  refine List.nodup_flatMap.mpr ⟨fun a _ => ?_, ?_⟩
  · exact (nodup.filter _).map fun b c same => (Prod.mk.inj same).2
  · refine List.Nodup.pairwise_of_forall_ne nodup fun a _ b _ apart => ?_
    intro p first second
    obtain ⟨_, _, rfl⟩ := List.mem_map.mp first
    obtain ⟨_, _, same⟩ := List.mem_map.mp second
    exact apart (Prod.mk.inj same).1.symm

/-- Pairs of images are images of pairs. -/
theorem orderedPairs_map (f : α → β) (admits : β → β → Bool) (l : List α) :
    (orderedPairs (fun a b => admits (f a) (f b)) l).map (Prod.map f f) = orderedPairs admits (l.map f) := by
  simp only [orderedPairs, List.map_flatMap, List.flatMap_map, List.map_map, List.filter_map]
  rfl

theorem length_orderedPairs_of_all (all : ∀ a b, admits a b = true) : (orderedPairs admits l).length = l.length * l.length := by
  have row (a : α) : ((l.filter (admits a)).map (a, ·)).length = l.length := by
    rw [List.length_map, List.filter_eq_self.mpr fun b _ => all a b]
  simp only [orderedPairs, List.length_flatMap, row, List.map_const', List.sum_replicate_nat]

theorem length_orderedPairs_of_ne [DecidableEq α] (nodup : l.Nodup) (apart : ∀ a b, admits a b = (a != b)) :
    (orderedPairs admits l).length = l.length * (l.length - 1) := by
  have row : ∀ a ∈ l, ((l.filter (admits a)).map (a, ·)).length = l.length - 1 := by
    intro a mem
    have others : l.filter (admits a) = l.erase a := by
      rw [nodup.erase_eq_filter]
      refine List.filter_congr fun b _ => ?_
      rw [apart, bne_comm]
    rw [List.length_map, others, List.length_erase_of_mem mem]
  rw [orderedPairs, List.length_flatMap, List.map_congr_left row, List.map_const', List.sum_replicate_nat]

end Collection
