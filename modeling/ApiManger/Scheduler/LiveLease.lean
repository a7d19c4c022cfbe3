import ApiManger.Scheduler.Terminal

/-!
# Recovery and a live lease

`recover_expired_executions` gives the checkpoints of an expired run back before it tries the
compare-and-set on the run. The reset is not filtered by the lease, so it stands when the
compare-and-set fails.
-/

namespace ApiManger.Scheduler
open Python Store Execution Interleaving Collection

/-- What `recover_expired_executions` does with one run it has read. -/
inductive Recovery where
  | expired (run : ObjectId) (token : Option Token) (now : Timestamp)
  | orphan (run : ObjectId) (cutoff now : Timestamp)

namespace Recovery

def run : Recovery → ObjectId
  | expired run .. | orphan run .. => run

/-- The update of the checkpoints. -/
def reset : Recovery → CheckpointWrite
  | expired run token now => .releaseHeld run token none now
  | orphan run _ now => .releaseAll run now

/-- The compare-and-set on the run. -/
def requeue : Recovery → RunWrite
  | expired run token now => .requeueExpired run token now
  | orphan run cutoff now => .requeueOrphan run cutoff now

/-- First the checkpoints, then the run. -/
def code (p : Recovery) : Code Unit := do
  updateCheckpoints p.reset
  let changed ← updateRun p.requeue
  Prog.when changed (refreshCounts p.run)

def isReset : Recovery → Op → Bool
  | expired run token now, .updateCheckpoints (.releaseHeld run' token' none now') =>
    run' == run && token' == token && now' == now
  | orphan run _ now, .updateCheckpoints (.releaseAll run' now') => run' == run && now' == now
  | _, _ => false

def isRequeue : Recovery → Op → Bool
  | expired run token now, .updateRun (.requeueExpired run' token' now') =>
    run' == run && token' == token && now' == now
  | orphan run cutoff now, .updateRun (.requeueOrphan run' cutoff' now') =>
    run' == run && cutoff' == cutoff && now' == now
  | _, _ => false

theorem isReset_iff {p : Recovery} {o : Op} : p.isReset o = true ↔ o = .updateCheckpoints p.reset := by
  constructor
  · intro h
    unfold isReset at h
    split at h
    · simp only [Bool.and_eq_true, beq_iff_eq] at h
      obtain ⟨⟨rfl, rfl⟩, rfl⟩ := h
      rfl
    · simp only [Bool.and_eq_true, beq_iff_eq] at h
      obtain ⟨rfl, rfl⟩ := h
      rfl
    · cases h
  · rintro rfl
    cases p <;> simp [isReset, reset]

theorem requeue_target (p : Recovery) : p.requeue.target = p.run := by
  cases p <;> rfl

/-- The compare-and-set requeues running runs only. -/
theorem running_of_requeue {p : Recovery} {r : SecurityTestRun} (guard : RunWrite.guard r p.requeue = true) :
    r.status = .running := by
  cases p <;> simp_all [requeue, RunWrite.guard]

end Recovery

/-! ## Disturbances -/

/-- The update takes the run out of the filter of the compare-and-set. -/
def takesOut (p : Recovery) (s : State) (w : RunWrite) : Bool :=
  s.db.runs.any fun r => r.id == w.target && RunWrite.guard r w && r.id == p.run &&
    RunWrite.guard r p.requeue && !RunWrite.guard (RunWrite.apply r w) p.requeue

/-- A checkpoint is given back although the run is no longer one to recover, or the run is taken out
of the filter of the compare-and-set. -/
def disturbs (p : Recovery) (s : State) : Op → Bool
  | .updateRun w => takesOut p s w
  | o => p.isReset o && s.db.checkpoints.any (CheckpointWrite.guard · p.reset) &&
      !s.db.matchesRun p.requeue

/-- Nothing disturbs the recovery. -/
def undisturbed (p : Recovery) : Guard scheduler where
  start _ _ _ := true
  op _ o _ s := !disturbs p s o

/-- The next operation of the thread passes a test. -/
def awaits (c : Config scheduler) (t : Tid) (test : Op → Bool) : Bool :=
  match c.threads t with
  | some (.op o _) => test o
  | _ => false

theorem awaits_iff {c : Config scheduler} {t : Tid} {test : Op → Bool} :
    awaits c t test = true ↔ ∃ o k, c.threads t = some (.op o k) ∧ test o = true := by
  unfold awaits
  split
  · rename_i o k code
    simp [code]
  · rename_i other
    simp only [Bool.false_eq_true, false_iff, not_exists, not_and]
    exact fun o k code => absurd code (other o k)

/-- The thread takes no step. -/
def waiting (t : Tid) : Guard scheduler where
  start _ _ _ := true
  op t' _ _ _ := t' != t

/-! ## The window -/

section
variable {snapshots : List RequestSnapshot} {relations : List ParameterRelation}
variable {p : Recovery} {t : Tid} {c₀ c₁ c₂ : Config scheduler}

theorem matchesRun_iff {s : State} {w : RunWrite} :
    s.db.matchesRun w = true ↔ ∃ r ∈ s.db.runs, r.id = w.target ∧ RunWrite.guard r w = true := by
  simp [Database.matchesRun]

/-- A run to recover stays one in a step that does not disturb the recovery. -/
theorem Change.stays_expired {i : Input} {s s' : State} {o : Op} (consistent : Consistent s)
    (calm : disturbs p s o = false) (h : Change t i s o s') (found : s.db.matchesRun p.requeue = true) :
    s'.db.matchesRun p.requeue = true := by
  obtain ⟨r, mem, target, guard⟩ := matchesRun_iff.mp found
  refine matchesRun_iff.mpr ?_
  cases h.run_next consistent.keys mem with
  | kept mem' => exact ⟨r, mem', target, guard⟩
  | claimed _ _ _ _ _ _ queued => simp [Recovery.running_of_requeue guard] at queued
  | updated w op targetW guardW mem' =>
    subst op
    refine ⟨_, mem', by rw [RunWrite.apply_id, target], ?_⟩
    have calm := List.any_eq_false.mp calm r mem
    rw [p.requeue_target] at target
    simpa [← targetW, target, guardW, guard] using calm

/-- It stays one along a run that does not disturb the recovery. -/
theorem stays_expired {g₀ : Guard scheduler} (reached : Run g₀ (initial snapshots relations) c₁)
    (others : Run (undisturbed p) c₁ c₂) (found : c₁.state.db.matchesRun p.requeue = true) :
    c₂.state.db.matchesRun p.requeue = true := by
  refine (storeInvariant (fun s => s.db.matchesRun p.requeue = true) ?_ ?_ reached others
    (consistent_of_run reached) found).2
  · intro t o i s s' consistent _ calm change found
    exact change.stays_expired consistent (by simpa [undisturbed] using calm) found
  · intro s s' same found
    rw [matchesRun_iff] at found ⊢
    exact same.runs ▸ found

/-- A recovery between the reset of the checkpoints and its compare-and-set: at the reset in `c₀`, past
it in `c₁`, and at the compare-and-set in `c₂`, while the other threads go on. -/
structure Window (g : Guard scheduler) (t : Tid) (p : Recovery) (c₀ c₁ c₂ : Config scheduler) : Prop where
  atReset : awaits c₀ t p.isReset = true
  reset : ∃ i, g.admits c₀ (.step t i) = true ∧ c₀.next (.step t i) = some c₁
  others : Run (g.both (waiting t)) c₁ c₂
  atRequeue : awaits c₂ t p.isRequeue = true

/-- Recovery has changed neither the run nor its checkpoints: what a worker holds under its token it
still holds, and finishing it takes effect. -/
structure LeaseKept (s s' : State) : Prop where
  store : s'.db = s.db
  held : ∀ k ∈ s.db.checkpoints, ∀ τ, CheckpointWrite.heldBy k τ = true → k ∈ s'.db.checkpoints
  finishes : ∀ k ∈ s.db.checkpoints, ∀ τ status reasons summary result error now,
    CheckpointWrite.heldBy k τ = true →
      CheckpointWrite.apply k (.finish k.id τ status reasons summary result error now) ∈
        (s'.db.updateCheckpoints (.finish k.id τ status reasons summary result error now)).checkpoints

theorem LeaseKept.of_store {s s' : State} (same : s'.db = s.db) : LeaseKept s s' where
  store := same
  held k mem _ _ := same ▸ mem
  finishes k mem τ status reasons summary result error now held := by
    rw [same]
    have image := List.mem_map_of_mem (f :=
      (CheckpointWrite.finish k.id τ status reasons summary result error now).on) mem
    rwa [CheckpointWrite.on, if_pos (by simp [CheckpointWrite.guard, held])] at image

/-- A reset that matches no checkpoint changes nothing. -/
theorem updateCheckpoints_idle {db : Database} {w : CheckpointWrite}
    (idle : db.checkpoints.any (CheckpointWrite.guard · w) = false) : db.updateCheckpoints w = db := by
  have same : db.checkpoints.map w.on = db.checkpoints.map id := by
    refine List.map_congr_left fun k mem => ?_
    have miss := List.any_eq_false.mp idle k mem
    rw [CheckpointWrite.on, if_neg miss, id_eq]
  unfold Database.updateCheckpoints
  rw [same, List.map_id]

/-- The reset changes nothing, or the run is still one to recover after it. -/
theorem Window.reset_spares (window : Window (undisturbed p) t p c₀ c₁ c₂) :
    c₁.state.db = c₀.state.db ∨ c₁.state.db.matchesRun p.requeue = true := by
  obtain ⟨o, k, code, isReset⟩ := awaits_iff.mp window.atReset
  obtain rfl := Recovery.isReset_iff.mp isReset
  obtain ⟨i, admitted, step⟩ := window.reset
  cases Config.next_cases step with
  | @step _ _ _ _ r s code' exec =>
    rw [code] at code'
    cases code'
    cases i with
    | op i =>
      rcases exec_cases exec with ⟨_, _, _, rfl⟩ | ⟨done, _⟩
      · exact .inl rfl
      · cases done
        simp only [Guard.admits, code, undisturbed, disturbs, isReset, Bool.true_and, Bool.not_and,
          Bool.not_not, Bool.or_eq_true, Bool.not_eq_true'] at admitted
        rcases admitted with idle | passes
        · exact .inl (updateCheckpoints_idle idle)
        · exact .inr passes
    | _ => cases exec


end

/-- Whenever the compare-and-set of a recovery fails, the recovery has not touched the live lease. -/
def LiveLeasesKept (g : Recovery → Guard scheduler) : Prop :=
  ∀ (snapshots : List RequestSnapshot) (relations : List ParameterRelation) (p : Recovery) (t : Tid)
    (c₀ c₁ c₂ : Config scheduler), Run (Guard.free scheduler) (initial snapshots relations) c₀ →
      Window (g p) t p c₀ c₁ c₂ → c₂.state.db.matchesRun p.requeue = false →
        LeaseKept c₀.state c₁.state

/-- **Live leases.** A recovery whose compare-and-set fails has changed nothing, in every run in which
it does not give back checkpoints of a run no longer to recover, and the run is not taken out of the
filter before the compare-and-set. -/
theorem live_leases_kept (snapshots : List RequestSnapshot) (relations : List ParameterRelation)
    (p : Recovery) (t : Tid) (c₀ c₁ c₂ : Config scheduler)
    (reached : Run (Guard.free scheduler) (initial snapshots relations) c₀)
    (window : Window (undisturbed p) t p c₀ c₁ c₂)
    (fails : c₂.state.db.matchesRun p.requeue = false) : LeaseKept c₀.state c₁.state := by
  obtain ⟨i, admitted, step⟩ := window.reset
  have past : Run (Guard.free scheduler) (initial snapshots relations) c₁ :=
    reached.trans (Run.tail .refl admitted step : Run (undisturbed p) c₀ c₁).free
  rcases window.reset_spares with same | passes
  · exact .of_store same
  · rw [stays_expired past window.others.left passes] at fails
    cases fails

/-- A recovery of run 0 at its reset, after the worker was silent for the length of its lease and then
renewed it: the worker has submitted nothing yet, or a pool thread holds the checkpoint. -/
def renewedInTime (before : List (Label scheduler)) (renew : List (Label scheduler)) : List (Label scheduler) :=
  called 0 (.enqueue getBatch) 9 ++ before ++ [.environment (.elapse 61)] ++
    called 1 (.recover "snapshot" 300 86400) 3 ++ renew

/-- The recovery of run 0 under its first lease. -/
def firstRecovery : Recovery := .expired 0 (some 0) 61

/-- The heartbeat of a slow worker comes between the query of the recovery and its reset: the
checkpoint the worker executes is given back. -/
theorem live_leases_not_kept : ¬ LiveLeasesKept fun _ => Guard.free scheduler := by
  intro kept
  let P (c : Config scheduler) : Bool := awaits c (.call 1) firstRecovery.isReset &&
    (c.next (.step (.call 1) (.op {}))).any fun d =>
      awaits d (.call 1) firstRecovery.isRequeue && !d.state.db.matchesRun firstRecovery.requeue &&
        (c.state.db.checkpoints.map (·.status) == [.running] &&
          d.state.db.checkpoints.map (·.status) == [.pending])
  obtain ⟨c, reached, found⟩ := Run.exists_of_follow (P := P)
    (show ((initial [getSnapshot] []).follow (Guard.free scheduler) (renewedInTime
        (worked 0 22 { count := 3 } ++ pooled 0 0 2 {})
        (.start (.heartbeat 0) .spawn :: steps (.heartbeat 0) 4 { count := 1 }))).any P = true by
      decide +kernel)
  simp only [P, Bool.and_eq_true, Option.any_eq_true, Bool.not_eq_true', beq_iff_eq] at found
  obtain ⟨atReset, d, step, ⟨atRequeue, fails⟩, running, pending⟩ := found
  have window : Window (Guard.free scheduler) (.call 1) firstRecovery c d d :=
    ⟨atReset, ⟨_, by simp only [Guard.admits, Guard.free]; split <;> rfl, step⟩, .refl, atRequeue⟩
  have same := (kept _ _ _ _ c d d reached window fails).store
  rw [same, running] at pending
  cases pending

/-- The worker renews its lease before it has taken up a checkpoint: the recovery finds nothing to
give back, and its compare-and-set fails. -/
theorem live_leases_kept_idle : ∃ c d : Config scheduler,
    Run (Guard.free scheduler) (initial [getSnapshot] []) c ∧
      Window (undisturbed firstRecovery) (.call 1) firstRecovery c d d ∧
      d.state.db.matchesRun firstRecovery.requeue = false ∧ LeaseKept c.state d.state := by
  let label : Label scheduler := .step (.call 1) (.op {})
  let P (c : Config scheduler) : Bool := awaits c (.call 1) firstRecovery.isReset &&
    (undisturbed firstRecovery).admits c label && (c.next label).any fun d =>
      awaits d (.call 1) firstRecovery.isRequeue && !d.state.db.matchesRun firstRecovery.requeue
  obtain ⟨c, reached, found⟩ := Run.exists_of_follow (P := P)
    (show ((initial [getSnapshot] []).follow (Guard.free scheduler) (renewedInTime
        (worked 0 8 {}) (steps (.worker 0) 2 {}))).any P = true by decide +kernel)
  simp only [P, Bool.and_eq_true, Option.any_eq_true, Bool.not_eq_true'] at found
  obtain ⟨⟨atReset, admitted⟩, d, step, atRequeue, fails⟩ := found
  have window : Window (undisturbed firstRecovery) (.call 1) firstRecovery c d d :=
    ⟨atReset, ⟨_, admitted, step⟩, .refl, atRequeue⟩
  exact ⟨c, d, reached, window, fails, live_leases_kept _ _ _ _ c d d reached window fails⟩

end ApiManger.Scheduler
