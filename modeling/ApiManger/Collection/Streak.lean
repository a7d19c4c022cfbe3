import Mathlib.Data.List.Infix

/-!
# Streaks

A history is a list that grows at its end. Its streak is how many of its last elements
are of one kind, counted by starting again at every element of another kind. What a
history has come to for the first time, it has come to at one moment only.
-/

namespace Collection

variable {α : Type*}

/-- How many elements with `p` the history ends in. -/
def streak (p : α → Bool) (history : List α) : Nat := (history.reverse.takeWhile p).length

@[simp] theorem streak_nil (p : α → Bool) : streak p [] = 0 := rfl

/-- One more element goes on with the streak, or ends it. -/
theorem streak_append (p : α → Bool) (history : List α) (a : α) :
    streak p (history ++ [a]) = if p a then streak p history + 1 else 0 := by
  unfold streak
  rw [List.reverse_append, List.reverse_singleton, List.singleton_append, List.takeWhile_cons]
  split
  · rw [List.length_cons]
  · rw [List.length_nil]

/-- The history ends in a run of `n` elements with `P`. -/
def EndsInRun (P : α → Prop) (n : Nat) (history : List α) : Prop :=
  ∃ before run, history = before ++ run ∧ run.length = n ∧ ∀ a ∈ run, P a

theorem EndsInRun.zero (P : α → Prop) (history : List α) : EndsInRun P 0 history :=
  ⟨history, [], by simp, rfl, nofun⟩

theorem EndsInRun.last {P : α → Prop} {n : Nat} {history : List α} {a : α}
    (ends : EndsInRun P (n + 1) (history ++ [a])) : P a ∧ EndsInRun P n history := by
  obtain ⟨before, run, split, length, all⟩ := ends
  rcases List.eq_nil_or_concat run with rfl | ⟨run, b, rfl⟩
  · simp at length
  · rw [List.concat_eq_append] at split length all
    rw [← List.append_assoc] at split
    obtain ⟨rfl, same⟩ := List.append_inj' split rfl
    obtain rfl : a = b := List.singleton_injective same
    refine ⟨all a (by simp), before, run, rfl, ?_, fun c mem => all c (by simp [mem])⟩
    simpa using length

theorem EndsInRun.append {P : α → Prop} {n : Nat} {history : List α} {a : α} (isOne : P a)
    (ends : EndsInRun P n history) : EndsInRun P (n + 1) (history ++ [a]) := by
  obtain ⟨before, run, rfl, length, all⟩ := ends
  refine ⟨before, run ++ [a], by simp, by simp [length], fun b mem => ?_⟩
  rcases List.mem_append.mp mem with old | new
  · exact all b old
  · exact List.mem_singleton.mp new ▸ isOne

/-- The streak is the length of the longest run the history ends in. -/
theorem endsInRun_iff (p : α → Bool) (n : Nat) (history : List α) :
    EndsInRun (fun a => p a = true) n history ↔ n ≤ streak p history := by
  induction history using List.reverseRecOn generalizing n with
  | nil =>
    rw [streak_nil, Nat.le_zero]
    constructor
    · rintro ⟨before, run, split, rfl, -⟩
      have none_ : before = [] ∧ run = [] := List.append_eq_nil_iff.mp split.symm
      rw [none_.2, List.length_nil]
    · rintro rfl
      exact .zero _ _
  | append_singleton history a ih =>
    rw [streak_append]
    cases n with
    | zero => exact ⟨fun _ => Nat.zero_le _, fun _ => .zero _ _⟩
    | succ n =>
      constructor
      · intro ends
        have ⟨isOne, before⟩ := ends.last
        rw [if_pos isOne]
        exact Nat.succ_le_succ ((ih n).mp before)
      · intro long
        by_cases isOne : p a = true
        · rw [if_pos isOne] at long
          exact .append isOne ((ih n).mpr (Nat.le_of_succ_le_succ long))
        · rw [if_neg isOne] at long
          omega

/-! ## First moments -/

/-- The moment a history came to `P` for the first time. -/
structure FirstMoment (P : List α → Prop) (moment history : List α) : Prop where
  within : List.IsPrefix moment history
  now : P moment
  notBefore : ∀ earlier, List.IsPrefix earlier moment → P earlier → earlier = moment

/-- A history that has not come to `P` yet. -/
def NotYet (P : List α → Prop) (history : List α) : Prop :=
  ∀ moment, List.IsPrefix moment history → ¬ P moment

variable {P : List α → Prop} {moment history : List α} {a : α}

theorem FirstMoment.append (first : FirstMoment P moment history) : FirstMoment P moment (history ++ [a]) :=
  ⟨first.within.trans (List.prefix_append history [a]), first.now, first.notBefore⟩

theorem FirstMoment.of_notYet (notYet : NotYet P history) (now : P (history ++ [a])) :
    FirstMoment P (history ++ [a]) (history ++ [a]) := by
  refine ⟨List.prefix_rfl, now, fun earlier within is => ?_⟩
  rcases List.prefix_concat_iff.mp within with whole | part
  · exact whole
  · exact absurd is (notYet earlier part)

theorem NotYet.append (notYet : NotYet P history) (still : ¬ P (history ++ [a])) : NotYet P (history ++ [a]) := by
  intro moment within is
  rcases List.prefix_concat_iff.mp within with rfl | part
  · exact still is
  · exact notYet moment part is

theorem FirstMoment.unique {other : List α} (first : FirstMoment P moment history)
    (first' : FirstMoment P other history) : moment = other := by
  rcases List.prefix_or_prefix_of_prefix first.within first'.within with le | le
  · exact first'.notBefore moment le first.now
  · exact (first.notBefore other le first'.now).symm

end Collection
