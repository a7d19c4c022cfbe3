import Mathlib.Logic.Function.Basic

/-!
# Programs over atomic operations, and their interleavings

A `Prog` is straight-line code whose only effects are atomic operations of a
`Signature`; an operation answers with a value or raises. A `Machine` says what
one operation does to the shared state, which threads may start, and what the
environment may do on its own. A `Config` is the shared state with the code each
thread has still to run; `Run` is any interleaving whose steps a `Guard` admits.
Nothing here depends on a particular program or store: a crash is a thread that
is never scheduled again.
-/

namespace Interleaving

/-- The atomic operations, what each answers, and the errors they raise. -/
structure Signature where
  Op : Type
  Ret : Op → Type
  Err : Type

/-- Sequential code over the operations of `S`. -/
inductive Prog (S : Signature) (α : Type) where
  | ret (a : α)
  | raise (e : S.Err)
  | op (o : S.Op) (k : Except S.Err (S.Ret o) → Prog S α)

namespace Prog

variable {S : Signature} {α β : Type}

def bind : Prog S α → (α → Prog S β) → Prog S β
  | .ret a, f => f a
  | .raise e, _ => .raise e
  | .op o k, f => .op o fun r => bind (k r) f

/-- `try p except h`: the handler takes over where `p` raises. -/
def handle : Prog S α → (S.Err → Prog S α) → Prog S α
  | .ret a, _ => .ret a
  | .raise e, h => h e
  | .op o k, h => .op o fun r => handle (k r) h

instance : Monad (Prog S) where
  pure := .ret
  bind := bind

instance : MonadExceptOf S.Err (Prog S) where
  throw := .raise
  tryCatch := handle

/-- One operation; its error, if any, is raised. -/
def perform (o : S.Op) : Prog S (S.Ret o) :=
  .op o fun
    | .ok r => .ret r
    | .error e => .raise e

/-- `try p finally q`: `q` runs on both ways out of `p`. -/
def finally_ (p : Prog S α) (q : Prog S Unit) : Prog S α :=
  bind (handle p fun e => bind q fun _ => .raise e) fun a => bind q fun _ => .ret a

/-- Run `body` on each element in order. -/
def forEach (body : α → Prog S Unit) : List α → Prog S Unit
  | [] => .ret ()
  | x :: xs => bind (body x) fun _ => forEach body xs

/-- Run `body` on each element in order, also after it raised on one; an error is raised at the
end. -/
def bulk (body : α → Prog S Unit) : List α → Prog S Unit
  | [] => .ret ()
  | x :: xs =>
    bind (handle (bind (body x) fun _ => .ret none) fun e => .ret (some e)) fun
      | none => bulk body xs
      | some e => bind (bulk body xs) fun _ => .raise e

/-- `if c: p`. -/
def when (c : Bool) (p : Prog S Unit) : Prog S Unit :=
  if c then p else .ret ()

/-- Lift a pure computation that may raise. -/
def ofExcept : Except S.Err α → Prog S α
  | .ok a => .ret a
  | .error e => .raise e

/-- Every operation the code may come to satisfies `P`, whatever the answers. -/
def Uses (P : S.Op → Prop) : Prog S α → Prop
  | .ret _ | .raise _ => True
  | .op o k => P o ∧ ∀ r, Uses P (k r)

/-- Some answers to its operations make the code return `a`. -/
def MayReturn (a : α) : Prog S α → Prop
  | .ret b => b = a
  | .raise _ => False
  | .op _ k => ∃ r, MayReturn a (k r)

/-- Run code with nothing beside it, where `exec` says what an operation does. -/
def alone {σ : Type} (exec : (o : S.Op) → σ → Except S.Err (S.Ret o) × σ) : Prog S α → σ → Except S.Err α × σ
  | .ret a, s => (.ok a, s)
  | .raise e, s => (.error e, s)
  | .op o k, s => alone exec (k (exec o s).1) (exec o s).2

/-- Nothing is left to run. -/
def ended : Prog S α → Bool
  | .ret _ | .raise _ => true
  | .op _ _ => false

@[simp] theorem pure_eq (a : α) : (pure a : Prog S α) = .ret a := rfl

@[simp] theorem bind_eq (p : Prog S α) (f : α → Prog S β) : (p >>= f) = bind p f := rfl

section
variable {σ : Type} {exec : (o : S.Op) → σ → Except S.Err (S.Ret o) × σ}

/-- Alone, the second part goes on where the first has returned. -/
theorem alone_bind (p : Prog S α) (f : α → Prog S β) (s : σ) :
    alone exec (bind p f) s = match alone exec p s with
      | (.ok a, s') => alone exec (f a) s'
      | (.error e, s') => (.error e, s') := by
  induction p generalizing s with
  | ret a => rfl
  | raise e => rfl
  | op o k ih => exact ih (exec o s).1 (exec o s).2

theorem alone_perform (o : S.Op) (s : σ) : alone exec (perform o) s = exec o s := by
  unfold perform
  simp only [alone]
  rcases exec o s with ⟨_ | _, _⟩ <;> rfl

/-- Alone, after an operation that answers. -/
theorem alone_perform_bind {o : S.Op} {f : S.Ret o → Prog S β} {s s' : σ} {a : S.Ret o}
    (answer : exec o s = (.ok a, s')) : alone exec (bind (perform o) f) s = alone exec (f a) s' := by
  rw [alone_bind, alone_perform, answer]

end

namespace Uses

variable {P Q : S.Op → Prop}

theorem ret {a : α} : (Prog.ret a : Prog S α).Uses P := trivial

theorem raise {e : S.Err} : (Prog.raise e : Prog S α).Uses P := trivial

variable {p : Prog S α} {f : α → Prog S β}

theorem mono (sub : ∀ o, P o → Q o) (h : p.Uses P) : p.Uses Q := by
  induction p with
  | ret | raise => trivial
  | op o k ih => exact ⟨sub o h.1, fun r => ih r (h.2 r)⟩

theorem bind (h : p.Uses P) (rest : ∀ a, (f a).Uses P) :
    (p.bind f).Uses P := by
  induction p with
  | ret a => exact rest a
  | raise => trivial
  | op o k ih => exact ⟨h.1, fun r => ih r (h.2 r)⟩

theorem handle {f : S.Err → Prog S α} (h : p.Uses P) (rest : ∀ e, (f e).Uses P) :
    (p.handle f).Uses P := by
  induction p with
  | ret => trivial
  | raise e => exact rest e
  | op o k ih => exact ⟨h.1, fun r => ih r (h.2 r)⟩

theorem perform {o : S.Op} (h : P o) : (Prog.perform o).Uses P :=
  ⟨h, fun
    | .ok _ => trivial
    | .error _ => trivial⟩

theorem finally_ {q : Prog S Unit} (h : p.Uses P) (h' : q.Uses P) :
    (p.finally_ q).Uses P := by
  refine bind (handle h fun e => ?_) fun a => ?_
  · exact bind h' fun _ => raise
  · exact bind h' fun _ => ret

theorem forEach {body : α → Prog S Unit} {l : List α} (h : ∀ x, (body x).Uses P) :
    (Prog.forEach body l).Uses P := by
  induction l with
  | nil => trivial
  | cons x xs ih => exact (h x).bind fun _ => ih

theorem bulk {body : α → Prog S Unit} {l : List α} (h : ∀ x, (body x).Uses P) :
    (Prog.bulk body l).Uses P := by
  induction l with
  | nil => trivial
  | cons x xs ih =>
    refine .bind (.handle (.bind (h x) fun _ => .ret) fun _ => .ret) fun failed => ?_
    cases failed with
    | none => exact ih
    | some e => exact .bind ih fun _ => .raise

/-- The rest of the code after a pure computation that answered. -/
theorem ofExcept_bind {x : Except S.Err α}
    (rest : ∀ a, x = .ok a → (f a).Uses P) : (Prog.bind (Prog.ofExcept x) f).Uses P := by
  cases x with
  | ok a => exact rest a rfl
  | error e => exact raise

theorem ite {c : Prop} [Decidable c] {q : Prog S α} (h : p.Uses P) (h' : q.Uses P) :
    (if c then p else q).Uses P := by
  split
  · exact h
  · exact h'

theorem when {c : Bool} {p : Prog S Unit} (h : p.Uses P) : (Prog.when c p).Uses P := by
  cases c with
  | true => exact h
  | false => exact ret

/-- What a sequence uses, its first part uses. -/
theorem of_bind (h : (p.bind f).Uses P) : p.Uses P := by
  induction p with
  | ret a => exact ret
  | raise e => exact raise
  | op o k ih => exact ⟨h.1, fun r => ih r (h.2 r)⟩

/-- What a sequence uses, its second part uses after each value the first may return. -/
theorem rest {a : α} (h : (p.bind f).Uses P) (returns : p.MayReturn a) :
    (f a).Uses P := by
  induction p with
  | ret b =>
    cases returns
    exact h
  | raise e => exact returns.elim
  | op o k ih =>
    obtain ⟨r, returns⟩ := returns
    exact ih r (h.2 r) returns

end Uses
end Prog

/-- What the operations of `S` do to a shared state. `start t i s` is the code thread `t`
begins on request `i`; `environment i s` is a change no thread makes (time passing). -/
structure Machine (S : Signature) where
  State : Type
  Tid : Type
  Input : Type
  exec : Tid → (o : S.Op) → Input → State → Option (Except S.Err (S.Ret o) × State)
  start : Tid → Input → State → Option (Prog S Unit × State)
  environment : Input → State → Option State

variable {S : Signature}

/-- One scheduling decision. -/
inductive Label (M : Machine S) where
  | start (t : M.Tid) (i : M.Input)
  | step (t : M.Tid) (i : M.Input)
  | environment (i : M.Input)

/-- The thread a decision starts. -/
def Label.starts {M : Machine S} : Label M → Option M.Tid
  | .start t _ => some t
  | .step _ _ | .environment _ => none

/-- The shared state and the code every started thread has still to run. -/
structure Config (M : Machine S) where
  state : M.State
  threads : M.Tid → Option (Prog S Unit)

namespace Config

variable {M : Machine S} [DecidableEq M.Tid]

/-- The state before any thread has started. -/
def initial (s : M.State) : Config M := ⟨s, fun _ => none⟩

/-- Thread `t` begins; a thread identity is used once. -/
def begin_ (c : Config M) (t : M.Tid) (i : M.Input) : Option (Config M) :=
  match c.threads t with
  | some _ => none
  | none => (M.start t i c.state).map fun (p, s) => ⟨s, Function.update c.threads t (some p)⟩

/-- Thread `t` performs its next operation. -/
def advance (c : Config M) (t : M.Tid) (i : M.Input) : Option (Config M) :=
  match c.threads t with
  | some (.op o k) =>
    (M.exec t o i c.state).map fun (r, s) => ⟨s, Function.update c.threads t (some (k r))⟩
  | _ => none

/-- Every thread that has started has ended. -/
def Quiet (c : Config M) : Prop := ∀ t p, c.threads t = some p → p.ended = true

def next (c : Config M) : Label M → Option (Config M)
  | .start t i => c.begin_ t i
  | .step t i => c.advance t i
  | .environment i => (M.environment i c.state).map fun s => { c with state := s }

end Config

/-- Which starts and which operations a run may take, judged on the state before them. -/
structure Guard (M : Machine S) where
  start : M.Tid → M.Input → M.State → Bool
  op : M.Tid → S.Op → M.Input → M.State → Bool

/-- Every step is admitted. -/
def Guard.free (M : Machine S) : Guard M where
  start _ _ _ := true
  op _ _ _ _ := true

/-- Both guards admit the step. -/
def Guard.both {M : Machine S} (g h : Guard M) : Guard M where
  start t i s := g.start t i s && h.start t i s
  op t o i s := g.op t o i s && h.op t o i s

/-- `g` admits the step `l` of `c`. -/
def Guard.admits {M : Machine S} (g : Guard M) (c : Config M) : Label M → Bool
  | .start t i => g.start t i c.state
  | .step t i => match c.threads t with
    | some (.op o _) => g.op t o i c.state
    | _ => true
  | .environment _ => true

/-- Carry out a list of scheduling decisions that `g` admits. -/
def Config.follow {M : Machine S} [DecidableEq M.Tid] (g : Guard M) (c : Config M) :
    List (Label M) → Option (Config M)
  | [] => some c
  | l :: ls => if g.admits c l then (c.next l).bind fun d => d.follow g ls else none

/-- Any number of admitted steps. -/
inductive Run {M : Machine S} [DecidableEq M.Tid] (g : Guard M) (c : Config M) : Config M → Prop
  | refl : Run g c c
  | tail {d e : Config M} {l : Label M} : Run g c d → g.admits d l = true → d.next l = some e →
      Run g c e

section
variable {M : Machine S} [DecidableEq M.Tid]

variable {g : Guard M} {c d : Config M} {ls : List (Label M)}

theorem Run.trans {e : Config M} (h : Run g c d) (h' : Run g d e) :
    Run g c e := by
  induction h' with
  | refl => exact h
  | tail _ admitted step ih => exact .tail ih admitted step

/-- A weaker guard admits the run too. -/
theorem Run.mono {g' : Guard M}
    (start : ∀ t i s, g.start t i s = true → g'.start t i s = true)
    (op : ∀ t o i s, g.op t o i s = true → g'.op t o i s = true) (h : Run g c d) : Run g' c d := by
  induction h with
  | refl => exact .refl
  | @tail d e l _ admitted step ih =>
    refine .tail ih ?_ step
    cases l with
    | start t i => exact start _ _ _ admitted
    | step t i =>
      simp only [Guard.admits] at admitted ⊢
      split at admitted
      · exact op _ _ _ _ admitted
      · rfl
    | environment i => rfl

theorem Run.free (h : Run g c d) : Run (Guard.free M) c d :=
  h.mono (fun _ _ _ _ => rfl) (fun _ _ _ _ _ => rfl)

theorem Run.left {h : Guard M} (run : Run (g.both h) c d) : Run g c d :=
  run.mono (fun _ _ _ both => (Bool.and_eq_true_iff.mp both).1)
    (fun _ _ _ _ both => (Bool.and_eq_true_iff.mp both).1)

/-- A list of decisions that can be carried out is a run. -/
theorem Run.of_follow
    (h : c.follow g ls = some d) : Run g c d := by
  induction ls generalizing c with
  | nil => cases h; exact .refl
  | cons l ls ih =>
    simp only [Config.follow] at h
    split at h
    · rename_i admitted
      obtain ⟨e, step, rest⟩ := Option.bind_eq_some_iff.mp h
      exact Run.trans (.tail .refl admitted step) (ih rest)
    · cases h

/-- Decisions carried out by computation lead along a run. -/
theorem Run.exists_of_follow
    {P : Config M → Bool} (h : (c.follow g ls).any P = true) : ∃ d, Run g c d ∧ P d = true := by
  cases found : c.follow g ls with
  | none => simp [found] at h
  | some d => exact ⟨d, .of_follow found, by simpa [found] using h⟩

/-- What one step does to the shared state, and to the code of its thread. -/
inductive Effect (c : Config M) : Label M → Config M → Prop
  | start {t : M.Tid} {i : M.Input} {p : Prog S Unit} {s : M.State}
      (idle : c.threads t = none) (code : M.start t i c.state = some (p, s)) :
      Effect c (.start t i) ⟨s, Function.update c.threads t (some p)⟩
  | step {t : M.Tid} {i : M.Input} {o : S.Op} {k : Except S.Err (S.Ret o) → Prog S Unit}
      {r : Except S.Err (S.Ret o)} {s : M.State}
      (code : c.threads t = some (.op o k)) (exec : M.exec t o i c.state = some (r, s)) :
      Effect c (.step t i) ⟨s, Function.update c.threads t (some (k r))⟩
  | environment {i : M.Input} {s : M.State} (change : M.environment i c.state = some s) :
      Effect c (.environment i) { c with state := s }

/-- The inversion of one step. -/
theorem Config.next_cases {l : Label M} (h : c.next l = some d) :
    Effect c l d := by
  cases l with
  | start t i =>
    simp only [Config.next, Config.begin_] at h
    split at h
    · cases h
    · obtain ⟨⟨p, s⟩, code, rfl⟩ := Option.map_eq_some_iff.mp h
      exact .start (by assumption) code
  | step t i =>
    simp only [Config.next, Config.advance] at h
    split at h
    · obtain ⟨⟨r, s⟩, exec, rfl⟩ := Option.map_eq_some_iff.mp h
      exact .step (by assumption) exec
    · cases h
  | environment i =>
    obtain ⟨s, change, rfl⟩ := Option.map_eq_some_iff.mp h
    exact .environment change

/-- Only the threads a list of decisions starts are new. -/
theorem Config.started_of_follow
    (h : c.follow g ls = some d) {t : M.Tid} (runs : d.threads t ≠ none) :
    c.threads t ≠ none ∨ t ∈ ls.filterMap Label.starts := by
  induction ls generalizing c with
  | nil => cases h; exact .inl runs
  | cons l ls ih =>
    simp only [Config.follow] at h
    split at h
    · obtain ⟨e, taken, rest⟩ := Option.bind_eq_some_iff.mp h
      rcases ih rest with here | later
      · cases Config.next_cases taken with
        | @start u i p s idle code =>
          by_cases same : t = u
          · exact .inr (by simp [Label.starts, same])
          · exact .inl (by simpa [Function.update_of_ne same] using here)
        | @step u i o k r s code exec =>
          by_cases same : t = u
          · exact .inl (by simp [same, code])
          · exact .inl (by simpa [Function.update_of_ne same] using here)
        | environment _ => exact .inl here
      · exact .inr (by cases l <;> simp_all [Label.starts])
    · cases h

/-- A computed run from the initial state is quiet when the threads it started have ended. -/
theorem Config.quiet_of_follow {s : M.State}
    (h : (Config.initial s).follow g ls = some d)
    (ended : (ls.filterMap Label.starts).all (fun t => (d.threads t).all Prog.ended) = true) : d.Quiet := by
  intro t p code
  rcases Config.started_of_follow h (t := t) (by simp [code]) with never | started
  · exact absurd rfl never
  · have all := List.all_eq_true.mp ended t started
    simpa [code] using all

/-- The threads only ever perform the operations their starting code uses. -/
theorem Run.uses {P : M.Tid → S.Op → Prop}
    (starts : ∀ t i s p s', M.start t i s = some (p, s') → p.Uses (P t))
    (run : Run g c d) (h : ∀ t p, c.threads t = some p → p.Uses (P t)) :
    ∀ t p, d.threads t = some p → p.Uses (P t) := by
  induction run with
  | refl => exact h
  | tail _ _ taken ih =>
    intro u q found
    cases Config.next_cases taken with
    | @start t i p s idle code =>
      by_cases same : u = t
      · subst same
        simp only [Function.update_self, Option.some.injEq] at found
        exact found ▸ starts _ _ _ _ _ code
      · exact ih u q (by simpa [Function.update_of_ne same] using found)
    | @step t i o k r s code _ =>
      by_cases same : u = t
      · subst same
        simp only [Function.update_self, Option.some.injEq] at found
        exact found ▸ (ih _ _ code).2 r
      · exact ih u q (by simpa [Function.update_of_ne same] using found)
    | environment _ => exact ih u q found

/-- An invariant of the shared state: every start, every operation the code uses and every change
of the environment keep it. -/
theorem Run.invariant (Inv : M.State → Prop) (P : M.Tid → S.Op → Prop)
    (starts : ∀ t i s p s', M.start t i s = some (p, s') →
      p.Uses (P t) ∧ (g.start t i s = true → Inv s → Inv s'))
    (steps : ∀ t o i s r s', P t o → g.op t o i s = true → M.exec t o i s = some (r, s') →
      Inv s → Inv s')
    (environment : ∀ i s s', M.environment i s = some s' → Inv s → Inv s')
    (uses : ∀ t p, c.threads t = some p → p.Uses (P t)) (run : Run g c d) (h : Inv c.state) :
    Inv d.state := by
  induction run with
  | refl => exact h
  | tail before admitted taken ih =>
    have uses := before.uses (fun t i s p s' code => (starts t i s p s' code).1) uses
    cases Config.next_cases taken with
    | start idle code => exact (starts _ _ _ _ _ code).2 admitted ih
    | step code exec =>
      exact steps _ _ _ _ _ _ (uses _ _ code).1 (by simpa [Guard.admits, code] using admitted) exec ih
    | environment change => exact environment _ _ _ change ih

end

end Interleaving
