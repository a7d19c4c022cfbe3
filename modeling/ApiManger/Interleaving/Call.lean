import ApiManger.Interleaving.RelyGuarantee

/-!
# Calls inside a thread

A call is code that stands at some place of a thread: `Call` follows it, operation by
operation, while the other threads go on, until it returns. What a contract says of the
code of the call holds at its end.
-/

namespace Interleaving

variable {S : Signature} {α : Type}

/-- A place in the code of a thread: an operation there is the next operation of the thread. -/
structure Context (S : Signature) (α : Type) where
  fill : Prog S α → Prog S Unit
  fill_op : ∀ (o : S.Op) (k : Except S.Err (S.Ret o) → Prog S α), fill (.op o k) = .op o fun r => fill (k r)

variable {M : Machine S}

/-- The thread a decision moves. -/
def Label.thread : Label M → Option M.Tid
  | .start t _ | .step t _ => some t
  | .environment _ => none

section
variable [DecidableEq M.Tid]

/-- From `c`, where thread `t` is about to run `p` at a place, to where it has `q` left of it. -/
inductive Call (g : Guard M) (t : M.Tid) (place : Context S α) (c : Config M) (p : Prog S α) :
    Config M → Prog S α → Prop
  | enter (code : c.threads t = some (place.fill p)) : Call g t place c p c p
  | other {d e : Config M} {q : Prog S α} {l : Label M} (call : Call g t place c p d q)
      (admitted : g.admits d l = true) (other : l.thread ≠ some t) (taken : d.next l = some e) :
      Call g t place c p e q
  | own {d : Config M} {o : S.Op} {k : Except S.Err (S.Ret o) → Prog S α} {i : M.Input}
      {r : Except S.Err (S.Ret o)} {s : M.State} (call : Call g t place c p d (.op o k))
      (admitted : g.op t o i d.state = true) (exec : M.exec t o i d.state = some (r, s)) :
      Call g t place c p ⟨s, Function.update d.threads t (some (place.fill (k r)))⟩ (k r)

variable {g : Guard M} {t : M.Tid} {place : Context S α} {c d : Config M} {p q : Prog S α}

theorem Call.code (call : Call g t place c p d q) : d.threads t = some (place.fill q) := by
  induction call with
  | enter code => exact code
  | @other d e q l call admitted other taken ih =>
    cases Config.next_cases taken with
    | @start u i p s idle code =>
      have ne : t ≠ u := fun same => other (congrArg some same.symm)
      rw [← ih]
      exact Function.update_of_ne ne ..
    | @step u i o k r s code exec =>
      have ne : t ≠ u := fun same => other (congrArg some same.symm)
      rw [← ih]
      exact Function.update_of_ne ne ..
    | environment change => exact ih
  | own call admitted exec ih => exact Function.update_self ..

theorem Call.run (call : Call g t place c p d q) : Run g c d := by
  induction call with
  | enter code => exact .refl
  | other call admitted other taken ih => exact .tail ih admitted taken
  | @own d o k i r s call admitted exec ih =>
    have code := call.code
    rw [place.fill_op] at code
    refine .tail (l := .step t i) ih ?_ ?_
    · rw [Guard.admits, code]
      exact admitted
    · rw [Config.next, Config.advance, code]
      dsimp only
      rw [exec]
      rfl

end

namespace Contract

variable {C : Contract M} [DecidableEq M.Tid] {t : M.Tid} {place : Context S α} {c d : Config M} {p q : Prog S α}
  {φ : M.State → Prop} {Q : α → M.State → Prop} {E : S.Err → M.State → Prop}

/-- A step keeps the guarantee of the thread that moved. -/
theorem Sound.guarantee_thread (holds : C.Holds) {l : Label M} (sound : C.Sound c) (known : C.known c.state)
    (known' : C.known d.state) (admitted : C.guard.admits c l = true) (taken : Effect c l d) :
    C.guar l.thread c.state d.state := by
  cases taken with
  | @start t i p s idle code =>
    exact (holds.start t i _ p s known sound.inv (sound.waiting t idle) admitted code known').2.1
  | @step t i o k r s code exec =>
    obtain ⟨φ, _, now, ψ, _, keeps, _⟩ := sound.running t _ code
    rw [Guard.admits, code] at admitted
    exact (keeps _ i r s known sound.inv now admitted exec known').2.1
  | environment change => exact (holds.environment _ _ _ known sound.inv change known').2

/-- A call that is safe stays so as far as it is executed. -/
theorem Safe.call (holds : C.Holds) (known : ∀ e, Run C.guard c e → C.known e.state) (sound : C.Sound c)
    (safe : C.Safe t φ p Q E) (stable : C.Stable t φ) (now : φ c.state) (call : Call C.guard t place c p d q) :
    ∃ ψ, C.Stable t ψ ∧ ψ d.state ∧ C.Safe t ψ q Q E := by
  induction call with
  | enter code => exact ⟨φ, stable, now, safe⟩
  | @other d e q l call admitted other taken ih =>
    obtain ⟨ψ, stable', now', safe'⟩ := ih
    have here := C.sound holds known sound call.run
    have there := C.sound holds known sound (.tail call.run admitted taken)
    have knownD := known d call.run
    have knownE := known e (.tail call.run admitted taken)
    have guar := here.guarantee_thread holds knownD knownE admitted (Config.next_cases taken)
    exact ⟨ψ, stable', stable' _ other _ _ knownD knownE here.inv there.inv guar now', safe'⟩
  | @own d o k i r s call admitted exec ih =>
    obtain ⟨ψ, _, now', χ, stableX, keeps, rest⟩ := ih
    have here := C.sound holds known sound call.run
    have knownE := known _ (Call.own call admitted exec).run
    exact ⟨χ r, stableX r, (keeps _ i r s (known d call.run) here.inv now' admitted exec knownE).2.2, rest r⟩

/-- A call that is safe has returned with its postcondition. -/
theorem Safe.returned (holds : C.Holds) (known : ∀ e, Run C.guard c e → C.known e.state) (sound : C.Sound c)
    (safe : C.Safe t φ p Q E) (stable : C.Stable t φ) (now : φ c.state) {a : α}
    (call : Call C.guard t place c p d (.ret a)) : Q a d.state := by
  obtain ⟨ψ, _, now', safe'⟩ := safe.call holds known sound stable now call
  exact safe' _ (known d call.run) (C.sound holds known sound call.run).inv now'

end Contract
end Interleaving
