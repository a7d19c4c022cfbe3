import Mathlib.Logic.Basic

/-!
# Routines

A `Routine` reads and changes a state, and returns or raises. What it changed before it
raised stays changed, as the variables of a function do where a handler takes over.
A triple says what holds where a routine returns and what holds where it raises.
-/

namespace Imperative

def Routine (σ ε α : Type) := σ → Except ε α × σ

namespace Routine
variable {σ ε α β : Type}

def ret (a : α) : Routine σ ε α := fun s => (.ok a, s)

def raise (e : ε) : Routine σ ε α := fun s => (.error e, s)

def bind (x : Routine σ ε α) (f : α → Routine σ ε β) : Routine σ ε β := fun s =>
  match x s with
  | (.ok a, s') => f a s'
  | (.error e, s') => (.error e, s')

instance : Monad (Routine σ ε) where
  pure := ret
  bind := bind

/-- `try x except h`. -/
def handle (x : Routine σ ε α) (h : ε → Routine σ ε α) : Routine σ ε α := fun s =>
  match x s with
  | (.ok a, s') => (.ok a, s')
  | (.error e, s') => h e s'

/-- The state. -/
def get : Routine σ ε σ := fun s => (.ok s, s)

def modify (f : σ → σ) : Routine σ ε Unit := fun s => (.ok (), f s)

/-- A computation that may raise. -/
def ofExcept : Except ε α → Routine σ ε α
  | .ok a => ret a
  | .error e => raise e

/-- Run `body` on each element in order. -/
def forEach (body : α → Routine σ ε Unit) : List α → Routine σ ε Unit
  | [] => ret ()
  | x :: xs => bind (body x) fun _ => forEach body xs

@[simp] theorem pure_eq (a : α) : (pure a : Routine σ ε α) = ret a := rfl

@[simp] theorem bind_eq (x : Routine σ ε α) (f : α → Routine σ ε β) : (x >>= f) = bind x f := rfl

@[simp] theorem ret_run (a : α) (s : σ) : (ret a : Routine σ ε α) s = (.ok a, s) := rfl

@[simp] theorem raise_run (e : ε) (s : σ) : (raise e : Routine σ ε α) s = (.error e, s) := rfl

@[simp] theorem get_run (s : σ) : (get : Routine σ ε σ) s = (.ok s, s) := rfl

@[simp] theorem modify_run (f : σ → σ) (s : σ) : (modify f : Routine σ ε Unit) s = (.ok (), f s) := rfl

theorem bind_ok {x : Routine σ ε α} {f : α → Routine σ ε β} {s s' : σ} {a : α} (run : x s = (.ok a, s')) :
    bind x f s = f a s' := by
  rw [bind, run]

theorem bind_error {x : Routine σ ε α} {f : α → Routine σ ε β} {s s' : σ} {e : ε} (run : x s = (.error e, s')) :
    bind x f s = (.error e, s') := by
  rw [bind, run]

@[simp] theorem bind_get (f : σ → Routine σ ε β) (s : σ) : bind get f s = f s s := rfl

@[simp] theorem bind_modify (g : σ → σ) (f : Unit → Routine σ ε β) (s : σ) : bind (modify g) f s = f () (g s) := rfl

@[simp] theorem bind_ret (a : α) (f : α → Routine σ ε β) : bind (ret a) f = f a := rfl

@[simp] theorem bind_raise (e : ε) (f : α → Routine σ ε β) : bind (raise e) f = raise e := rfl

@[simp] theorem bind_ofExcept_ok (a : α) (f : α → Routine σ ε β) : bind (ofExcept (.ok a)) f = f a := rfl

@[simp] theorem bind_ofExcept_error (e : ε) (f : α → Routine σ ε β) :
    bind (ofExcept (.error e)) f = (raise e : Routine σ ε β) := rfl

/-- A loop over two lists is one loop after the other. -/
theorem forEach_append (body : α → Routine σ ε Unit) (l l' : List α) :
    forEach body (l ++ l') = bind (forEach body l) fun _ => forEach body l' := by
  induction l with
  | nil => rfl
  | cons a l ih =>
    funext s
    simp only [List.cons_append, forEach, bind, ih]
    rcases body a s with ⟨_ | _, t⟩ <;> rfl

/-- A loop that passes over elements is the loop over the others. -/
theorem forEach_filter (p : α → Prop) [DecidablePred p] (body : α → Routine σ ε Unit) (l : List α) :
    forEach (fun a => if p a then ret () else body a) l = forEach body (l.filter fun a => ¬p a) := by
  induction l with
  | nil => rfl
  | cons a l ih =>
    by_cases passed : p a
    · rw [List.filter_cons_of_neg (by simpa using passed), ← ih, forEach, if_pos passed]
      rfl
    · rw [List.filter_cons_of_pos (by simpa using passed), forEach, if_neg passed, ih]
      rfl

/-! ## Triples -/

/-- From a state with `P` the routine returns with `Q`, or raises with `E`. -/
def Meets (P : σ → Prop) (x : Routine σ ε α) (Q : α → σ → Prop) (E : ε → σ → Prop) : Prop :=
  ∀ s, P s → (∀ a s', x s = (.ok a, s') → Q a s') ∧ ∀ e s', x s = (.error e, s') → E e s'

namespace Meets
variable {P P' : σ → Prop} {Q Q' : α → σ → Prop} {E E' : ε → σ → Prop}

theorem ret {a : α} (post : ∀ s, P s → Q a s) : Meets P (Routine.ret a) Q E := by
  refine fun s pre => ⟨fun b s' run => ?_, fun e s' run => nomatch run⟩
  cases run
  exact post s pre

theorem raise {e : ε} (post : ∀ s, P s → E e s) : Meets P (Routine.raise e : Routine σ ε α) Q E := by
  refine fun s pre => ⟨fun b s' run => (nomatch run), fun e s' run => ?_⟩
  cases run
  exact post s pre

theorem bind {x : Routine σ ε α} {f : α → Routine σ ε β} {R : β → σ → Prop} (first : Meets P x Q E)
    (rest : ∀ a, Meets (Q a) (f a) R E) : Meets P (Routine.bind x f) R E := by
  intro s pre
  unfold Routine.bind
  rcases run : x s with ⟨e | a, s'⟩
  · refine ⟨fun _ _ h => (nomatch h), fun e' t h => ?_⟩
    cases h
    exact (first s pre).2 e s' run
  · exact rest a s' ((first s pre).1 a s' run)

theorem get : Meets P (Routine.get : Routine σ ε σ) (fun a s => a = s ∧ P s) E := by
  refine fun s pre => ⟨fun a s' run => ?_, fun e s' run => nomatch run⟩
  cases run
  exact ⟨rfl, pre⟩

theorem modify {f : σ → σ} {R : Unit → σ → Prop} (post : ∀ s, P s → R () (f s)) :
    Meets P (Routine.modify f : Routine σ ε Unit) R E := by
  refine fun s pre => ⟨fun a s' run => ?_, fun e s' run => nomatch run⟩
  cases run
  exact post s pre

theorem ofExcept {x : Except ε α} (ok : ∀ a s, x = .ok a → P s → Q a s) (error : ∀ e s, x = .error e → P s → E e s) :
    Meets P (Routine.ofExcept x) Q E := by
  cases x with
  | ok a => exact ret fun s pre => ok a s rfl pre
  | error e => exact raise fun s pre => error e s rfl pre

theorem weaken {x : Routine σ ε α} (triple : Meets P x Q E) (pre : ∀ s, P' s → P s) (post : ∀ a s, Q a s → Q' a s)
    (error : ∀ e s, E e s → E' e s) : Meets P' x Q' E' :=
  fun s holds => ⟨fun a s' run => post a s' ((triple s (pre s holds)).1 a s' run),
    fun e s' run => error e s' ((triple s (pre s holds)).2 e s' run)⟩

theorem ite {c : Prop} [Decidable c] {x y : Routine σ ε α} (yes : c → Meets P x Q E) (no : ¬c → Meets P y Q E) :
    Meets P (if c then x else y) Q E := by
  split
  · next holds => exact yes holds
  · next fails => exact no fails

/-- A loop whose body keeps an invariant. -/
theorem forEach {body : α → Routine σ ε Unit} {l : List α} (turn : ∀ a ∈ l, Meets P (body a) (fun _ => P) E) :
    Meets P (Routine.forEach body l) (fun _ => P) E := by
  induction l with
  | nil => exact ret fun s pre => pre
  | cons a rest ih =>
    exact bind (turn a (.head _)) fun _ => ih fun b mem => turn b (.tail _ mem)

end Meets

end Routine

end Imperative
