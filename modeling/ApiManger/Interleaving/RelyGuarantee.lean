import Mathlib.Tactic.Choose
import ApiManger.Interleaving.Program

/-!
# Rely and guarantee

A proof over every interleaving, one thread at a time. A `Contract` fixes the
invariant of the shared state, what the steps of a thread may do to it (`guar`),
and facts already known of every reachable state. `Safe t φ p Q E` says that from
a state with `φ`, thread `t` running `p` keeps the invariant and the guarantee at
each operation and ends with `Q` or raises with `E`, whatever the other threads do
in between: every assertion between two operations is `Stable` under their
guarantees. `Contract.sound` carries the invariant to every reachable state, and
what threads leave behind to their ends.
-/

namespace Interleaving

variable {S : Signature}

/-- `guar none` is what the environment may do; `before t` holds until thread `t` starts, and `left t`
once it has ended. -/
structure Contract (M : Machine S) where
  guard : Guard M
  known : M.State → Prop
  inv : M.State → Prop
  guar : Option M.Tid → M.State → M.State → Prop
  before : M.Tid → M.State → Prop := fun _ _ => True
  left : M.Tid → M.State → Prop := fun _ _ => True

namespace Contract

variable {M : Machine S} (C : Contract M) {α β : Type}

/-- `φ` survives the steps of every thread but `t`. -/
def Stable (t : M.Tid) (φ : M.State → Prop) : Prop :=
  ∀ u, u ≠ some t → ∀ s s', C.known s → C.known s' → C.inv s → C.inv s' → C.guar u s s' → φ s → φ s'

/-- `φ` survives every step. -/
def Persistent (φ : M.State → Prop) : Prop :=
  ∀ u s s', C.known s → C.known s' → C.inv s → C.inv s' → C.guar u s s' → φ s → φ s'

/-- One operation of thread `t` keeps the invariant and the guarantee, and establishes `ψ`. -/
def Keeps (t : M.Tid) (φ : M.State → Prop) (o : S.Op)
    (ψ : Except S.Err (S.Ret o) → M.State → Prop) : Prop :=
  ∀ s i r s', C.known s → C.inv s → φ s → C.guard.op t o i s = true → M.exec t o i s = some (r, s') →
    C.known s' → C.inv s' ∧ C.guar (some t) s s' ∧ ψ r s'

def Safe (t : M.Tid) (φ : M.State → Prop) : Prog S α → (α → M.State → Prop) →
    (S.Err → M.State → Prop) → Prop
  | .ret a, Q, _ => ∀ s, C.known s → C.inv s → φ s → Q a s
  | .raise e, _, E => ∀ s, C.known s → C.inv s → φ s → E e s
  | .op o k, Q, E => ∃ ψ, (∀ r, C.Stable t (ψ r)) ∧ C.Keeps t φ o ψ ∧ ∀ r, Safe t (ψ r) (k r) Q E

/-- The code of a whole thread: it ends with what it leaves behind. -/
def Safe₀ (t : M.Tid) (φ : M.State → Prop) (p : Prog S Unit) : Prop :=
  C.Safe t φ p (fun _ => C.left t) (fun _ => C.left t)

variable {C}

theorem Persistent.stable {φ : M.State → Prop} (h : C.Persistent φ) (t : M.Tid) : C.Stable t φ :=
  fun u _ s s' => h u s s'

theorem Stable.true (t : M.Tid) : C.Stable t (fun _ => True) := fun _ _ _ _ _ _ _ _ _ _ => trivial

theorem Stable.and {t : M.Tid} {φ ψ : M.State → Prop} (h : C.Stable t φ) (h' : C.Stable t ψ) :
    C.Stable t (fun s => φ s ∧ ψ s) :=
  fun u ne s s' ks ks' is is' g p => ⟨h u ne s s' ks ks' is is' g p.1, h' u ne s s' ks ks' is is' g p.2⟩

theorem Stable.all {ι : Sort*} {t : M.Tid} {φ : ι → M.State → Prop} (h : ∀ i, C.Stable t (φ i)) :
    C.Stable t (fun s => ∀ i, φ i s) :=
  fun u ne s s' ks ks' is is' g p i => h i u ne s s' ks ks' is is' g (p i)

theorem Stable.imp {t : M.Tid} {a : Prop} {φ : M.State → Prop} (h : C.Stable t φ) :
    C.Stable t (fun s => a → φ s) :=
  fun u ne s s' ks ks' is is' g p x => h u ne s s' ks ks' is is' g (p x)

theorem Stable.const {t : M.Tid} {a : Prop} : C.Stable t (fun _ => a) :=
  fun _ _ _ _ _ _ _ _ _ p => p

theorem Persistent.and {φ ψ : M.State → Prop} (h : C.Persistent φ) (h' : C.Persistent ψ) :
    C.Persistent (fun s => φ s ∧ ψ s) :=
  fun u s s' ks ks' is is' g p => ⟨h u s s' ks ks' is is' g p.1, h' u s s' ks ks' is is' g p.2⟩

theorem Persistent.const {a : Prop} : C.Persistent (fun _ => a) := fun _ _ _ _ _ _ _ _ p => p

variable {t : M.Tid} {φ φ' : M.State → Prop} {Q Q' : α → M.State → Prop}
  {E E' : S.Err → M.State → Prop}

/-- Consequence. -/
theorem Safe.weaken {p : Prog S α} (h : C.Safe t φ p Q E)
    (pre : ∀ s, C.known s → C.inv s → φ' s → φ s)
    (post : ∀ a s, C.known s → C.inv s → Q a s → Q' a s)
    (err : ∀ e s, C.known s → C.inv s → E e s → E' e s) : C.Safe t φ' p Q' E' := by
  induction p generalizing φ φ' with
  | ret a => exact fun s k i f => post a s k i (h s k i (pre s k i f))
  | raise e => exact fun s k i f => err e s k i (h s k i (pre s k i f))
  | op o k ih =>
    obtain ⟨ψ, stable, keeps, rest⟩ := h
    refine ⟨ψ, stable, ?_, fun r => ih r (rest r) (fun _ _ _ f => f)⟩
    exact fun s i r s' ks is f => keeps s i r s' ks is (pre s ks is f)

theorem Safe.pre {p : Prog S α} (h : C.Safe t φ p Q E)
    (pre : ∀ s, C.known s → C.inv s → φ' s → φ s) : C.Safe t φ' p Q E :=
  h.weaken pre (fun _ _ _ _ q => q) (fun _ _ _ _ e => e)

theorem Safe.post {p : Prog S α} (h : C.Safe t φ p Q E)
    (post : ∀ a s, C.known s → C.inv s → Q a s → Q' a s) : C.Safe t φ p Q' E :=
  h.weaken (fun _ _ _ f => f) post (fun _ _ _ _ e => e)

theorem Safe.ret {a : α} (h : ∀ s, C.known s → C.inv s → φ s → Q a s) :
    C.Safe t φ (Prog.ret a) Q E := h

theorem Safe.raise {e : S.Err} (h : ∀ s, C.known s → C.inv s → φ s → E e s) :
    C.Safe t φ (Prog.raise e) Q E := h

/-- Code that is never reached. -/
theorem Safe.unreached {p : Prog S α} : C.Safe t (fun _ => False) p Q E := by
  induction p with
  | ret | raise => exact fun _ _ _ h => h.elim
  | op o k ih => exact ⟨fun _ _ => False, fun _ _ _ _ _ _ _ _ _ _ h => h,
      fun _ _ _ _ _ _ h => h.elim, fun r => ih r⟩

/-- A fact that does not depend on the state. -/
theorem Safe.assume {a : Prop} {p : Prog S α} (h : a → C.Safe t φ p Q E) :
    C.Safe t (fun s => a ∧ φ s) p Q E := by
  by_cases holds : a
  · exact (h holds).pre fun _ _ _ now => now.2
  · exact Safe.unreached.pre fun _ _ _ now => holds now.1

/-- A fact about something that is there. -/
theorem Safe.exists_ {ι : Type} {φ : ι → M.State → Prop} {p : Prog S α} (h : ∀ x, C.Safe t (φ x) p Q E) :
    C.Safe t (fun s => ∃ x, φ x s) p Q E := by
  induction p generalizing φ with
  | ret a => exact fun s known inv ⟨x, now⟩ => h x s known inv now
  | raise e => exact fun s known inv ⟨x, now⟩ => h x s known inv now
  | op o k ih =>
    choose ψ stable keeps next using h
    refine ⟨fun r s => ∃ x, ψ x r s, fun r => ?_, ?_, fun r => ih r fun x => next x r⟩
    · rintro u other s s' known known' inv inv' guar ⟨x, now⟩
      exact ⟨x, stable x r u other s s' known known' inv inv' guar now⟩
    · rintro s i r s' known inv ⟨x, now⟩ admitted exec known'
      obtain ⟨inv', guar, now'⟩ := keeps x s i r s' known inv now admitted exec known'
      exact ⟨inv', guar, x, now'⟩

/-- Sequencing. -/
theorem Safe.bind {p : Prog S α} {f : α → Prog S β} {R : β → M.State → Prop}
    (h : C.Safe t φ p Q E) (rest : ∀ a, C.Safe t (Q a) (f a) R E) :
    C.Safe t φ (Prog.bind p f) R E := by
  induction p generalizing φ with
  | ret a => exact (rest a).pre h
  | raise e => exact h
  | op o k ih =>
    obtain ⟨ψ, stable, keeps, next⟩ := h
    exact ⟨ψ, stable, keeps, fun r => ih r (next r)⟩

/-- An exception handler. -/
theorem Safe.handle {p : Prog S α} {f : S.Err → Prog S α} (h : C.Safe t φ p Q E)
    (rest : ∀ e, C.Safe t (E e) (f e) Q E') : C.Safe t φ (Prog.handle p f) Q E' := by
  induction p generalizing φ with
  | ret a => exact h
  | raise e => exact (rest e).pre h
  | op o k ih =>
    obtain ⟨ψ, stable, keeps, next⟩ := h
    exact ⟨ψ, stable, keeps, fun r => ih r (next r)⟩

/-- `finally`: the clean-up on both ways out. -/
theorem Safe.finally_ {p : Prog S α} {q : Prog S Unit} {R : α → M.State → Prop} (h : C.Safe t φ p Q E)
    (left : ∀ a, C.Safe t (Q a) q (fun _ => R a) E') (right : ∀ e, C.Safe t (E e) q (fun _ => E' e) E') :
    C.Safe t φ (Prog.finally_ p q) R E' := by
  refine Safe.bind (Q := Q) (h.handle fun e => ?_) fun a => ?_
  · exact (right e).bind fun _ => Safe.raise fun _ _ _ x => x
  · exact (left a).bind fun _ => Safe.ret fun _ _ _ x => x

/-- One operation: what it establishes when it answers and when it raises. -/
theorem Safe.perform {o : S.Op} {R : S.Ret o → M.State → Prop}
    (stable : ∀ r, C.Stable t (R r)) (stableErr : ∀ e, C.Stable t (E e))
    (keeps : C.Keeps t φ o fun
      | .ok r => R r
      | .error e => E e) : C.Safe t φ (Prog.perform o) R E := by
  refine ⟨_, fun r => ?_, keeps, fun r => ?_⟩
  · cases r with
    | ok r => exact stable r
    | error e => exact stableErr e
  · cases r with
    | ok r => exact fun _ _ _ x => x
    | error e => exact fun _ _ _ x => x

/-- One operation of which only the answer matters. -/
theorem Safe.perform_ok {o : S.Op} {R : S.Ret o → M.State → Prop} (stable : ∀ a, C.Stable t (R a))
    (keeps : C.Keeps t φ o fun r s => ∀ a, r = .ok a → R a s) :
    C.Safe t φ (Prog.perform o) R (fun _ _ => True) := by
  refine Safe.perform stable (fun _ => .true t) ?_
  intro s i r s' known inv now admitted exec known'
  obtain ⟨inv', step, answers⟩ := keeps s i r s' known inv now admitted exec known'
  refine ⟨inv', step, ?_⟩
  cases r with
  | ok a => exact answers a rfl
  | error e => exact trivial

/-- An operation that does not raise. -/
theorem Safe.answering {o : S.Op} {R : S.Ret o → M.State → Prop} (stable : ∀ a, C.Stable t (R a))
    (keeps : C.Keeps t φ o fun r s => ∃ a, r = .ok a ∧ R a s) : C.Safe t φ (Prog.perform o) R E := by
  refine ⟨fun r s => ∃ a, r = .ok a ∧ R a s, fun r => ?_, keeps, fun r => ?_⟩
  · rintro u other s s' known known' inv inv' guar ⟨a, same, now⟩
    exact ⟨a, same, stable a u other s s' known known' inv inv' guar now⟩
  · cases r with
    | ok a =>
      rintro s - - ⟨b, same, now⟩
      cases same
      exact now
    | error e => exact fun _ _ _ ⟨_, same, _⟩ => nomatch same

/-- A loop over a list: `φ` of what is left to do. -/
theorem Safe.forEach {body : α → Prog S Unit} {φ : List α → M.State → Prop}
    (step : ∀ x xs, C.Safe t (φ (x :: xs)) (body x) (fun _ => φ xs) E) (l : List α) :
    C.Safe t (φ l) (Prog.forEach body l) (fun _ => φ []) E := by
  induction l with
  | nil => exact Safe.ret fun _ _ _ x => x
  | cons x xs ih => exact (step x xs).bind fun _ => ih

/-- What every step keeps is kept along. -/
theorem Safe.frame {ρ : M.State → Prop} {p : Prog S α} (kept : C.Persistent ρ) (h : C.Safe t φ p Q E) :
    C.Safe t (fun s => φ s ∧ ρ s) p (fun a s => Q a s ∧ ρ s) (fun e s => E e s ∧ ρ s) := by
  induction p generalizing φ with
  | ret a => exact fun s known inv now => ⟨h s known inv now.1, now.2⟩
  | raise e => exact fun s known inv now => ⟨h s known inv now.1, now.2⟩
  | op o k ih =>
    obtain ⟨ψ, stable, keeps, next⟩ := h
    refine ⟨fun r s => ψ r s ∧ ρ s, fun r => (stable r).and (kept.stable t), ?_, fun r => ih r (next r)⟩
    intro s i r s' known inv now admitted exec known'
    obtain ⟨inv', guar, now'⟩ := keeps s i r s' known inv now.1 admitted exec known'
    exact ⟨inv', guar, now', kept (some t) s s' known known' inv inv' guar now.2⟩

/-- A loop whose elements each come with a fact that every step keeps. -/
theorem Safe.forEach_each {body : α → Prog S Unit} {ρ : α → M.State → Prop}
    (kept : ∀ x, C.Persistent (ρ x))
    (step : ∀ x, C.Safe t (fun s => φ s ∧ ρ x s) (body x) (fun _ => φ) E) (l : List α) :
    C.Safe t (fun s => φ s ∧ ∀ x ∈ l, ρ x s) (Prog.forEach body l) (fun _ => φ) E := by
  have each : ∀ l : List α, C.Persistent fun s => ∀ x ∈ l, ρ x s :=
    fun l u s s' known known' inv inv' guar now x mem => kept x u s s' known known' inv inv' guar (now x mem)
  induction l with
  | nil => exact Safe.ret fun _ _ _ now => now.1
  | cons x xs ih =>
    refine Safe.bind (Q := fun _ s => φ s ∧ ∀ y ∈ xs, ρ y s) ?_ fun _ => ih
    refine ((step x).frame (each xs)).weaken ?_ (fun _ _ _ _ now => now) fun _ _ _ _ now => now.1
    exact fun s _ _ now => ⟨⟨now.1, now.2 x (.head _)⟩, fun y mem => now.2 y (.tail _ mem)⟩

/-- A bulk write: `φ` of what is left to do as long as nothing failed, `ψ` from then on. -/
theorem Safe.bulk {body : α → Prog S Unit} {φ ψ : List α → M.State → Prop}
    (step : ∀ x xs, C.Safe t (φ (x :: xs)) (body x) (fun _ => φ xs) (fun _ => ψ xs))
    (failed : ∀ x xs, C.Safe t (ψ (x :: xs)) (body x) (fun _ => ψ xs) (fun _ => ψ xs)) (l : List α) :
    C.Safe t (φ l) (Prog.bulk body l) (fun _ => φ []) (fun _ => ψ []) := by
  induction l generalizing φ with
  | nil => exact Safe.ret fun _ _ _ now => now
  | cons x xs ih =>
    let after (e : Option S.Err) : M.State → Prop := if e.isNone then φ xs else ψ xs
    refine Safe.bind (Q := after) (Safe.handle (E := fun _ => ψ xs) ?_ fun e => ?_) fun e => ?_
    · exact Safe.bind (step x xs) fun _ => Safe.ret fun _ _ _ now => now
    · exact Safe.ret fun _ _ _ now => now
    · cases e with
      | none => exact ih step
      | some e => exact Safe.bind (ih failed) fun _ => Safe.raise fun _ _ _ now => now

theorem Safe.ofExcept {x : Except S.Err α} (ok : ∀ a, x = .ok a → ∀ s, C.known s → C.inv s → φ s → Q a s)
    (err : ∀ e, x = .error e → ∀ s, C.known s → C.inv s → φ s → E e s) :
    C.Safe t φ (Prog.ofExcept x) Q E := by
  cases x with
  | ok a => exact ok a rfl
  | error e => exact err e rfl

theorem Safe.ite {c : Prop} [Decidable c] {p q : Prog S α} (yes : c → C.Safe t φ p Q E)
    (no : ¬c → C.Safe t φ q Q E) : C.Safe t φ (if c then p else q) Q E := by
  by_cases holds : c
  · simpa only [if_pos holds] using yes holds
  · simpa only [if_neg holds] using no holds

/-- The rest of the code after a pure computation that answered. -/
theorem Safe.ofExcept_bind {x : Except S.Err α} {f : α → Prog S β} {R : β → M.State → Prop}
    (ok : ∀ a, x = .ok a → C.Safe t φ (f a) R E)
    (err : ∀ e, x = .error e → ∀ s, C.known s → C.inv s → φ s → E e s) :
    C.Safe t φ (Prog.bind (Prog.ofExcept x) f) R E := by
  cases x with
  | ok a => exact ok a rfl
  | error e => exact err e rfl

/-- Every operation the program uses keeps the assertion `φ`, whatever it answers. -/
theorem Safe.of_uses {p : Prog S α} {P : S.Op → Prop} (uses : p.Uses P) (stable : C.Stable t φ)
    (keeps : ∀ o, P o → C.Keeps t φ o fun _ => φ) : C.Safe t φ p (fun _ => φ) (fun _ => φ) := by
  induction p with
  | ret a => exact fun _ _ _ x => x
  | raise e => exact fun _ _ _ x => x
  | op o k ih => exact ⟨_, fun _ => stable, keeps o uses.1, fun r => ih r (uses.2 r)⟩

variable (C)

/-- What has to be shown of a machine for its contract. -/
structure Holds : Prop where
  waits : ∀ t, C.Stable t (C.before t)
  start : ∀ t i s p s', C.known s → C.inv s → C.before t s → C.guard.start t i s = true →
    M.start t i s = some (p, s') → C.known s' →
    C.inv s' ∧ C.guar (some t) s s' ∧ ∃ φ, C.Stable t φ ∧ φ s' ∧ C.Safe₀ t φ p
  environment : ∀ i s s', C.known s → C.inv s → M.environment i s = some s' → C.known s' →
    C.inv s' ∧ C.guar none s s'

/-- The invariant, with a stable assertion for what every thread has still to run. -/
structure Sound (c : Config M) : Prop where
  inv : C.inv c.state
  waiting : ∀ t, c.threads t = none → C.before t c.state
  running : ∀ t p, c.threads t = some p → ∃ φ, C.Stable t φ ∧ φ c.state ∧ C.Safe₀ t φ p

variable {C}

theorem Sound.initial {s : M.State} (inv : C.inv s) (before : ∀ t, C.before t s) :
    C.Sound (Config.initial s) :=
  ⟨inv, fun t _ => before t, fun _ _ code => nomatch code⟩

/-- What a thread that has ended leaves behind. -/
theorem Sound.left {c : Config M} (sound : C.Sound c) (known : C.known c.state) {t : M.Tid}
    {p : Prog S Unit} (code : c.threads t = some p) (ended : p.ended = true) : C.left t c.state := by
  obtain ⟨φ, _, now, safe⟩ := sound.running t p code
  cases p with
  | ret a => exact safe _ known sound.inv now
  | raise e => exact safe _ known sound.inv now
  | op o k => cases ended

section
variable [DecidableEq M.Tid]

/-- Every step keeps somebody's guarantee. -/
theorem Sound.guarantee (holds : C.Holds) {c d : Config M} {l : Label M} (sound : C.Sound c)
    (known : C.known c.state) (known' : C.known d.state) (admitted : C.guard.admits c l = true)
    (taken : Effect c l d) : ∃ u, C.guar u c.state d.state := by
  cases taken with
  | @start t i p s idle code =>
    exact ⟨some t, (holds.start t i _ p s known sound.inv (sound.waiting t idle) admitted code known').2.1⟩
  | @step t i o k r s code exec =>
    obtain ⟨φ, _, now, ψ, _, keeps, _⟩ := sound.running t _ code
    exact ⟨some t, (keeps _ i r s known sound.inv now (by simpa [Guard.admits, code] using admitted) exec
      known').2.1⟩
  | environment change => exact ⟨none, (holds.environment _ _ _ known sound.inv change known').2⟩

/-- One step: the thread that moved has its new assertion, the others keep theirs. -/
theorem Sound.step (holds : C.Holds) {c d : Config M} {l : Label M} (sound : C.Sound c)
    (known : C.known c.state) (known' : C.known d.state) (admitted : C.guard.admits c l = true)
    (taken : Effect c l d) : C.Sound d := by
  obtain ⟨inv, waiting, threads⟩ := sound
  -- a thread other than the one that moved keeps its assertion
  have others : ∀ {u : Option M.Tid} {s' : M.State}, C.known s' → C.inv s' → C.guar u c.state s' →
      ∀ t p, u ≠ some t → c.threads t = some p → ∃ φ, C.Stable t φ ∧ φ s' ∧ C.Safe₀ t φ p := by
    intro u s' ks' is' g t p ne code
    obtain ⟨φ, stable, now, safe⟩ := threads t p code
    exact ⟨φ, stable, stable u ne _ _ known ks' inv is' g now, safe⟩
  have unstarted : ∀ {u : Option M.Tid} {s' : M.State}, C.known s' → C.inv s' → C.guar u c.state s' →
      ∀ t, u ≠ some t → c.threads t = none → C.before t s' := by
    intro u s' ks' is' g t ne idle
    exact holds.waits t u ne _ _ known ks' inv is' g (waiting t idle)
  cases taken with
  | @start t i p s idle code =>
    obtain ⟨inv', guar, own⟩ := holds.start t i _ p s known inv (waiting t idle) admitted code known'
    refine ⟨inv', fun u none_ => ?_, fun u q found => ?_⟩
    · by_cases same : u = t
      · subst same
        simp only [Function.update_self] at none_
        cases none_
      · simp only [Function.update_of_ne same] at none_
        exact unstarted known' inv' guar u (fun e => same (Option.some.inj e).symm) none_
    · by_cases same : u = t
      · subst same
        simp only [Function.update_self, Option.some.injEq] at found
        subst found
        exact own
      · simp only [Function.update_of_ne same] at found
        exact others known' inv' guar u q (fun e => same (Option.some.inj e).symm) found
  | @step t i o k r s code exec =>
    obtain ⟨φ, _, now, ψ, stable', keeps, rest⟩ := threads t _ code
    obtain ⟨inv', guar, now'⟩ := keeps _ i r s known inv now
      (by simpa [Guard.admits, code] using admitted) exec known'
    refine ⟨inv', fun u none_ => ?_, fun u q found => ?_⟩
    · by_cases same : u = t
      · subst same
        simp only [Function.update_self] at none_
        cases none_
      · simp only [Function.update_of_ne same] at none_
        exact unstarted known' inv' guar u (fun e => same (Option.some.inj e).symm) none_
    · by_cases same : u = t
      · subst same
        simp only [Function.update_self, Option.some.injEq] at found
        subst found
        exact ⟨ψ r, stable' r, now', rest r⟩
      · simp only [Function.update_of_ne same] at found
        exact others known' inv' guar u q (fun e => same (Option.some.inj e).symm) found
  | environment change =>
    obtain ⟨inv', guar⟩ := holds.environment _ _ _ known inv change known'
    exact ⟨inv', fun u => unstarted known' inv' guar u (fun e => by cases e),
      fun u q found => others known' inv' guar u q (fun e => by cases e) found⟩

/-- **Soundness.** A contract that holds of the machine holds of every state its guarded runs
reach. -/
theorem sound (holds : C.Holds) {c d : Config M} (known : ∀ e, Run C.guard c e → C.known e.state)
    (start : C.Sound c) (run : Run C.guard c d) : C.Sound d := by
  induction run with
  | refl => exact start
  | tail prefix_ admitted taken ih =>
    exact ih.step holds (known _ prefix_) (known _ (.tail prefix_ admitted taken)) admitted
      (Config.next_cases taken)

end

end Contract

/-! ## A machine with more state alongside

The same code over a state that carries something more: a history of what happened,
or a part of the store that the machine itself knows nothing of. After an operation
that the machine carried out, `after` says what became of both parts.
-/

variable {S : Signature}

/-- `after t o i s p` is what is left of `p`, the state after the operation with what was carried
before it; `s` is the state before. -/
abbrev Machine.alongside (M : Machine S) (G : Type)
    (after : M.Tid → S.Op → M.Input → M.State → M.State × G → M.State × G) : Machine S where
  State := M.State × G
  Tid := M.Tid
  Input := M.Input
  exec t o i s := (M.exec t o i s.1).map fun (r, s') => (r, after t o i s.1 (s', s.2))
  start t i s := (M.start t i s.1).map fun (p, s') => (p, (s', s.2))
  environment i s := (M.environment i s.1).map fun s' => (s', s.2)

section
variable {M : Machine S} {G : Type}
  {after : M.Tid → S.Op → M.Input → M.State → M.State × G → M.State × G} {s s' : M.State × G}

theorem alongside_exec {t : M.Tid} {o : S.Op} {i : M.Input} {r : Except S.Err (S.Ret o)}
    (h : (M.alongside G after).exec t o i s = some (r, s')) :
    ∃ s₁, M.exec t o i s.1 = some (r, s₁) ∧ s' = after t o i s.1 (s₁, s.2) := by
  obtain ⟨⟨r', s₁⟩, exec, eq⟩ := Option.map_eq_some_iff.mp h
  cases eq
  exact ⟨s₁, exec, rfl⟩

theorem alongside_start {t : M.Tid} {i : M.Input} {p : Prog S Unit}
    (h : (M.alongside G after).start t i s = some (p, s')) :
    M.start t i s.1 = some (p, s'.1) ∧ s'.2 = s.2 := by
  obtain ⟨⟨p', s₁⟩, start, eq⟩ := Option.map_eq_some_iff.mp h
  cases eq
  exact ⟨start, rfl⟩

theorem alongside_environment {i : M.Input} (h : (M.alongside G after).environment i s = some s') :
    M.environment i s.1 = some s'.1 ∧ s'.2 = s.2 := by
  obtain ⟨s₁, moved, eq⟩ := Option.map_eq_some_iff.mp h
  cases eq
  exact ⟨moved, rfl⟩

end

end Interleaving
