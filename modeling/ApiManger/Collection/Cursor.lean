import Mathlib.Algebra.GroupWithZero.Nat
import Mathlib.Algebra.Order.BigOperators.Group.List
import Mathlib.Algebra.Order.Group.Nat
import Mathlib.Data.List.Pairwise
import Mathlib.Order.Basic

/-!
# Cursors in sorted lists

Rows in the order of a key are worked through one by one, and the key of the last one is a
cursor. Who goes on behind the cursor goes on with the rows that were left, just where no
row that was left has the key of the cursor.
-/

namespace Collection

variable {α κ : Type} [LinearOrder κ] {key : α → κ}

def behind (key : α → κ) (cursor : κ) (rows : List α) : List α := rows.filter fun a => decide (cursor < key a)

theorem behind_append (cursor : κ) (rows rows' : List α) :
    behind key cursor (rows ++ rows') = behind key cursor rows ++ behind key cursor rows' :=
  List.filter_append rows rows'

theorem behind_later {cursor : κ} {a : α} (later : cursor < key a) (rows : List α) :
    behind key cursor (a :: rows) = a :: behind key cursor rows :=
  List.filter_cons_of_pos (decide_eq_true later)

theorem behind_done {cursor : κ} {a : α} (done : key a ≤ cursor) (rows : List α) :
    behind key cursor (a :: rows) = behind key cursor rows :=
  List.filter_cons_of_neg fun later => absurd (of_decide_eq_true later) (not_lt_of_ge done)

theorem behind_eq_nil {cursor : κ} {rows : List α} (done : ∀ a ∈ rows, key a ≤ cursor) : behind key cursor rows = [] := by
  rw [behind, List.filter_eq_nil_iff]
  intro a mem later
  exact absurd (of_decide_eq_true later) (not_lt_of_ge (done a mem))

theorem behind_eq_self_iff {cursor : κ} {rows : List α} : behind key cursor rows = rows ↔ ∀ a ∈ rows, cursor < key a := by
  rw [behind, List.filter_eq_self]
  exact forall₂_congr fun a _ => decide_eq_true_iff

@[simp] theorem behind_behind (cursor : κ) (rows : List α) :
    behind key cursor (behind key cursor rows) = behind key cursor rows := by
  rw [behind, behind, List.filter_filter]
  exact List.filter_congr fun row _ => Bool.and_self _

/-- The rows up to the cursor of a sorted list are not behind it. -/
theorem behind_sorted {front back : List α} {a : α} (sorted : (front ++ a :: back).Pairwise (key · ≤ key ·)) :
    behind key (key a) (front ++ a :: back) = behind key (key a) back := by
  obtain ⟨-, -, before⟩ := List.pairwise_append.mp sorted
  have done : ∀ b ∈ front ++ [a], key b ≤ key a := by
    intro b mem
    rcases List.mem_append.mp mem with mem | mem
    · exact before b mem a (.head _)
    · rw [List.mem_singleton.mp mem]
  rw [List.append_cons, behind_append, behind_eq_nil done, List.nil_append]

/-- What is behind the cursor of a sorted list is what was left, just where the cursor is no key that is left. -/
theorem behind_sorted_iff {front back : List α} {a : α} (sorted : (front ++ a :: back).Pairwise (key · ≤ key ·)) :
    behind key (key a) (front ++ a :: back) = back ↔ ∀ b ∈ back, key b ≠ key a := by
  obtain ⟨-, later, -⟩ := List.pairwise_append.mp sorted
  rw [behind_sorted sorted, behind_eq_self_iff]
  exact forall₂_congr fun b mem => ⟨fun less => ne_of_gt less, fun other =>
    lt_of_le_of_ne (List.rel_of_pairwise_cons later mem) other.symm⟩

/-- Where the rows behind a cursor weigh as much as all rows, they are all rows. -/
theorem behind_weights {weight : α → ℕ} {cursor : κ} {rows : List α} (positive : ∀ a ∈ rows, 0 < weight a)
    (same : ((behind key cursor rows).map weight).sum = (rows.map weight).sum) : ∀ a ∈ rows, cursor < key a := by
  have lighter (l : List α) : ((behind key cursor l).map weight).sum ≤ (l.map weight).sum :=
    (List.filter_sublist.map weight).sum_le_sum fun _ _ => Nat.zero_le _
  induction rows with
  | nil => exact fun _ mem => nomatch mem
  | cons b rows ih =>
    have rest := lighter rows
    have first := positive b (.head _)
    rw [List.map_cons, List.sum_cons] at same
    rcases lt_or_ge cursor (key b) with later | done
    · rw [behind_later later, List.map_cons, List.sum_cons] at same
      have tail := ih (fun a mem => positive a (.tail _ mem)) (Nat.add_left_cancel same)
      intro a mem
      rcases List.mem_cons.mp mem with rfl | mem
      · exact later
      · exact tail a mem
    · rw [behind_done done] at same
      omega

end Collection
