import ApiManger.Interleaving.RelyGuarantee
import ApiManger.Scheduler.Consistency

/-!
# Contracts of the scheduler

The rules of the rely-guarantee library for the operations of the scheduler. A Mongo
operation is lost on the way or carried out, and then its answer may be lost; a read
answers from the state, which it leaves as it is.
-/

namespace ApiManger.Scheduler
open Python Store Execution Interleaving

variable {C : Contract scheduler} {t : Tid} {φ : State → Prop}

/-- A step that changes nothing keeps every guarantee. -/
def Idle (C : Contract scheduler) : Prop := ∀ t s, C.inv s → C.guar (some t) s s

/-- One operation, lost or carried out. -/
theorem keeps_of_post {o : Op} {ψ : Except PyError (Ret o) → State → Prop} (idle : Idle C)
    (lost : o.isStore = true → ∀ s, C.known s → C.inv s → φ s → ψ (.error driverError) s)
    (done : ∀ s i s', C.known s → C.known s' → C.inv s → φ s → C.guard.op t o (.op i) s = true →
      post t i s o = some s' → C.inv s' ∧ C.guar (some t) s s' ∧ ψ (reply t i s o) s' ∧
        (o.isStore = true → ψ (.error driverError) s')) : C.Keeps t φ o ψ := by
  intro s d r s' known inv now admitted exec known'
  cases d with
  | op i =>
    rcases exec_cases exec with ⟨store, _, rfl, rfl⟩ | ⟨posted, rfl | ⟨store, rfl⟩, _⟩
    · exact ⟨inv, idle t s' inv, lost store s' known inv now⟩
    · obtain ⟨inv', guar, now', _⟩ := done s i s' known known' inv now admitted posted
      exact ⟨inv', guar, now'⟩
    · obtain ⟨inv', guar, _, now'⟩ := done s i s' known known' inv now admitted posted
      exact ⟨inv', guar, now' store⟩
  | _ => cases exec

/-- A read: what its answer says of the state. -/
theorem read_safe {o : Op} {Q : Ret o → State → Prop} {E : PyError → State → Prop}
    (read : o.isRead = true) (idle : Idle C) (stable : ∀ r, C.Stable t (Q r))
    (stableErr : ∀ e, C.Stable t (E e))
    (answers : ∀ i s r, C.known s → C.inv s → φ s → C.guard.op t o (.op i) s = true →
      reply t i s o = .ok r → Q r s)
    (raises : ∀ e s, C.known s → C.inv s → φ s → E e s) : C.Safe t φ (@Prog.perform Sig o) Q E := by
  refine Contract.Safe.perform stable stableErr (keeps_of_post idle ?_ ?_)
  · intro _ s known inv now
    exact raises _ s known inv now
  · intro s i s' known _ inv now admitted posted
    obtain rfl := post_read read posted
    refine ⟨inv, idle t s' inv, ?_, fun _ => raises _ s' known inv now⟩
    cases answer : reply t i s' o with
    | ok r => exact answers i s' r known inv now admitted answer
    | error e => exact raises e s' known inv now

/-- A read of which nothing is used. -/
theorem read_frame {o : Op} {E : PyError → State → Prop} (read : o.isRead = true) (idle : Idle C)
    (stable : C.Stable t φ) (stableErr : ∀ e, C.Stable t (E e))
    (raises : ∀ e s, C.known s → C.inv s → φ s → E e s) :
    C.Safe t φ (@Prog.perform Sig o) (fun _ => φ) E :=
  read_safe read idle (fun _ => stable) stableErr (fun _ _ _ _ _ now _ _ => now) raises

/-- A contract over the collections holds when the code of every thread is safe. -/
theorem holds_of_threads (waits : ∀ t, C.Stable t (C.before t))
    (quiet : ∀ u s s', SameStore s s' → C.inv s → C.inv s' ∧ C.guar u s s')
    (code : ∀ t d s p s', C.known s' → C.inv s' → C.before t s → C.guard.start t d s = true →
      Started s t d p s' → ∃ φ, C.Stable t φ ∧ φ s' ∧ C.Safe₀ t φ p) : C.Holds where
  waits := waits
  start t d s p s' _ inv before admitted start known' := by
    have started := startThread_cases start
    obtain ⟨inv', guar⟩ := quiet (some t) s s' started.sameStore inv
    exact ⟨inv', guar, code t d s p s' known' inv' before admitted started⟩
  environment d s s' _ inv moved _ := quiet none s s' (environment_sameStore moved) inv

/-! ## With more state alongside -/

section
variable {G : Type} {after : Tid → Op → Decision → State → State × G → State × G}
  {C : Contract (scheduler.alongside G after)} {φ : State × G → Prop}

/-- Keys, leases and claims, whatever is kept alongside. -/
theorem consistent_alongside (quiet : ∀ t o d s p, SameStore p.1 (after t o d s p).1)
    {g : Guard (scheduler.alongside G after)} {snapshots : List RequestSnapshot}
    {relations : List ParameterRelation} {g₀ : G} {c : Config (scheduler.alongside G after)}
    (run : Run g (.initial (fresh snapshots relations, g₀)) c) : Consistent c.state.1 := by
  refine Run.invariant (fun s : State × G => Consistent s.1) (fun _ => Op.Fresh) ?_ ?_ ?_
    (fun _ _ code => by cases code) run (Consistent.fresh snapshots relations)
  · intro t d s p s' start
    have started := startThread_cases (alongside_start start).1
    exact ⟨started.fresh, fun _ h => h.sameStore started.sameStore⟩
  · intro t o d s r s' fresh _ exec h
    obtain ⟨s₁, moved, rfl⟩ := alongside_exec exec
    refine Consistent.sameStore ?_ (quiet t o d s.1 (s₁, s.2))
    cases d with
    | op i =>
      rcases exec_cases moved with ⟨_, _, _, rfl⟩ | ⟨done, _⟩
      · exact h
      · exact h.step fresh (post_change done)
    | _ => cases moved
  · intro d s s' moved h
    exact h.sameStore (environment_sameStore (alongside_environment moved).1)

/-- One operation, lost or carried out, with what is kept alongside. -/
theorem keeps_alongside {o : Op} {ψ : Except PyError (Ret o) → State × G → Prop}
    (lost : o.isStore = true → ∀ s i, i.fault = some .before → C.known s → C.inv s → φ s →
      C.inv (after t o (.op i) s.1 s) ∧ C.guar (some t) s (after t o (.op i) s.1 s) ∧
        ψ (.error driverError) (after t o (.op i) s.1 s))
    (done : ∀ s i s₁, C.known s → C.known (after t o (.op i) s.1 (s₁, s.2)) → C.inv s → φ s →
      C.guard.op t o (.op i) s = true → (o.isStore = true → i.fault ≠ some .before) →
      post t i s.1 o = some s₁ →
      C.inv (after t o (.op i) s.1 (s₁, s.2)) ∧ C.guar (some t) s (after t o (.op i) s.1 (s₁, s.2)) ∧
        ψ (reply t i s.1 o) (after t o (.op i) s.1 (s₁, s.2)) ∧
        (o.isStore = true → ψ (.error driverError) (after t o (.op i) s.1 (s₁, s.2)))) :
    C.Keeps t φ o ψ := by
  intro s d r s' known inv now admitted exec known'
  obtain ⟨s₁, moved, rfl⟩ := alongside_exec exec
  cases d with
  | op i =>
    rcases exec_cases moved with ⟨store, fault, rfl, rfl⟩ | ⟨posted, answer, arrived⟩
    · exact lost store s i fault known inv now
    · obtain ⟨inv', guar, now', late⟩ := done s i s₁ known known' inv now admitted arrived posted
      rcases answer with rfl | ⟨store, rfl⟩
      · exact ⟨inv', guar, now'⟩
      · exact ⟨inv', guar, late store⟩
  | _ => cases moved

end

end ApiManger.Scheduler
