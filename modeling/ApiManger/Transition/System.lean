import Mathlib.Data.List.Basic

/-!
# Guarded runs of a transition system

A `System` says what an action does to a state, where it is possible. `run` carries
out a list of actions each of which a guard admits. An invariant is proved one step at
a time; what is still to happen has a rank that the actions of its owner lower.
-/

namespace Transition

/-- What an action does to a state, where it is possible. -/
structure System (σ α : Type) where
  step : σ → α → Option σ

variable {σ α : Type}

/-- Which actions a run may take, judged on the state before them. -/
abbrev Admits (σ α : Type) := σ → α → Bool

/-- Every action is admitted. -/
def free (σ α : Type) : Admits σ α := fun _ _ => true

namespace System

/-- Carry out actions that the guard admits. -/
def run (M : System σ α) (g : Admits σ α) (s : σ) : List α → Option σ
  | [] => some s
  | a :: as => if g s a then (M.step s a).bind fun s' => run M g s' as else none

variable {M : System σ α} {g : Admits σ α} {s s' : σ}

theorem run_cons {a : α} {as : List α} :
    M.run g s (a :: as) = some s' ↔ g s a = true ∧ ∃ next, M.step s a = some next ∧ M.run g next as = some s' := by
  rw [run]
  split
  · next admitted => simp [admitted, Option.bind_eq_some_iff]
  · next refused => simp [refused]

theorem run_append {as bs : List α} :
    M.run g s (as ++ bs) = some s' ↔ ∃ next, M.run g s as = some next ∧ M.run g next bs = some s' := by
  induction as generalizing s with
  | nil => simp [run]
  | cons a as ih =>
    simp only [List.cons_append, run_cons, ih]
    constructor
    · rintro ⟨admitted, first, step, next, front, back⟩
      exact ⟨next, ⟨admitted, first, step, front⟩, back⟩
    · rintro ⟨next, ⟨admitted, first, step, front⟩, back⟩
      exact ⟨admitted, first, step, next, front, back⟩

/-- Actions carried out by computation lead along a run. -/
theorem exists_of_run {P : σ → Bool} {l : List α} (h : (M.run g s l).any P = true) :
    ∃ s', M.run g s l = some s' ∧ P s' = true := by
  cases reached : M.run g s l with
  | none => simp [reached] at h
  | some s' => exact ⟨s', rfl, by simpa [reached] using h⟩

/-- What holds at first and is kept by every admitted step holds after every run. -/
theorem invariant {I : σ → Prop} (start : I s)
    (keeps : ∀ s a s', I s → g s a = true → M.step s a = some s' → I s') {as : List α}
    (run : M.run g s as = some s') : I s' := by
  induction as generalizing s with
  | nil =>
    cases run
    exact start
  | cons a as ih =>
    obtain ⟨admitted, next, step, rest⟩ := run_cons.mp run
    exact ih (keeps s a next start admitted step) rest

/-- Something that waits is done once its owner has taken as many actions as its rank says: the actions
of the owner lower the rank, and the others do not raise it. -/
theorem ranked (waits done : σ → Prop) (rank : σ → ℕ) (own : α → Bool)
    (stays : ∀ s a s', done s → g s a = true → M.step s a = some s' → done s')
    (moves : ∀ s a s', waits s → g s a = true → M.step s a = some s' →
      done s' ∨ (waits s' ∧ rank s' + (if own a then 1 else 0) ≤ rank s))
    (positive : ∀ s, waits s → 0 < rank s) (start : waits s) {as : List α} (run : M.run g s as = some s')
    (turns : rank s ≤ as.countP own) : done s' := by
  induction as generalizing s with
  | nil =>
    have left := positive s start
    simp only [List.countP_nil] at turns
    omega
  | cons a as ih =>
    obtain ⟨admitted, next, step, rest⟩ := run_cons.mp run
    rcases moves s a next start admitted step with finished | ⟨waiting, lower⟩
    · exact invariant finished stays rest
    · refine ih waiting rest ?_
      rw [List.countP_cons] at turns
      omega

end System
end Transition
