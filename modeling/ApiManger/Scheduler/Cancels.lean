import ApiManger.Scheduler.Terminal

/-!
# Accepted cancels

A run that is asked to stop stays so until it ends. Three updates of its worker stand against it,
since they are filtered by the lease token and not by the status: the auth pause, the dispatch
failure, and the final write of a worker that has not polled the request.
-/

namespace ApiManger.Scheduler
open Python Store Execution Interleaving Collection

/-- The run that an update finds under its token is asked to stop. -/
def findsCancel (s : State) (id : ObjectId) (token : Token) : Bool :=
  s.db.runs.any fun r => r.id == id && r.leaseToken == some token && r.status == .cancelRequested

/-- A checkpoint of the run has not finished. -/
def hasOpen (s : State) (id : ObjectId) : Bool :=
  s.db.checkpoints.any fun k => k.runId == id && k.status.isOpen

/-- Whether an operation is an update of a worker that would lose a cancel: it pauses, queues or
fails a run that is asked to stop, or writes `done` over a checkpoint that has not finished. -/
def losesCancel (s : State) : Op → Bool
  | .updateRun (.pauseAuth id token _ _ _ _ _) | .updateRun (.dispatchFailed id token _ _ _) =>
    findsCancel s id token
  | .updateRun (.finish id token false _ _) => findsCancel s id token && hasOpen s id
  | _ => false

/-- No worker loses a cancel. -/
def keepingCancels : Guard scheduler where
  start _ _ _ := true
  op _ o _ s := !losesCancel s o

/-- All checkpoints of the run have finished. -/
def AllFinished (s : State) (id : ObjectId) : Prop :=
  ∀ k ∈ s.db.checkpoints, k.runId = id → k.status.isFinal = true

theorem allFinished_of_not_hasOpen {s : State} {id : ObjectId} (none : hasOpen s id = false) : AllFinished s id := by
  intro k mem ofRun
  have closed := List.any_eq_false.mp none k mem
  simpa [ofRun, CheckpointStatus.isOpen] using closed

/-! ## One step -/

/-- What one step makes of a run that is asked to stop. -/
theorem Change.cancel_next {t : Tid} {i : Input} {s s' : State} {o : Op} (consistent : Consistent s)
    (keeps : losesCancel s o = false) (h : Change t i s o s') {r : SecurityTestRun} (mem : r ∈ s.db.runs)
    (asked : r.status = .cancelRequested) :
    ∃ r' ∈ s'.db.runs, r'.id = r.id ∧ (r'.status = .cancelRequested ∨ r'.status = .cancelled ∨
      (r'.status = .done ∧ AllFinished s r.id)) := by
  cases h.run_next consistent.keys mem with
  | kept mem' => exact ⟨r, mem', rfl, .inl asked⟩
  | claimed _ _ _ _ _ _ queued => simp [queued] at asked
  | updated w op target guard mem' =>
    subst op
    refine ⟨_, mem', RunWrite.apply_id r w, ?_⟩
    have finds : ∀ {id token}, r.id = id → r.leaseToken = some token → findsCancel s id token = true := by
      intro id token same leased
      exact List.any_eq_true.mpr ⟨r, mem, by simp [same, leased, asked]⟩
    cases w with
    | heartbeat | refreshCounts | syncCounts | authReady => exact .inl asked
    | finalizeCancelled => exact .inr (.inl rfl)
    | pauseAuth id token =>
      have found : findsCancel s id token = true := finds target (by simpa [RunWrite.guard] using guard)
      rw [losesCancel, found] at keeps
      cases keeps
    | dispatchFailed id token =>
      have found : findsCancel s id token = true := finds target (by simpa [RunWrite.guard] using guard)
      rw [losesCancel, found] at keeps
      cases keeps
    | finish id token cancelled =>
      cases cancelled with
      | true => exact .inr (.inl rfl)
      | false =>
        have found : findsCancel s id token = true := finds target (by simpa [RunWrite.guard] using guard)
        rw [losesCancel, found, Bool.true_and] at keeps
        exact .inr (.inr ⟨rfl, allFinished_of_not_hasOpen (target ▸ keeps)⟩)
    | enqueueQueued | requestCancel | resume | resumeAuth | preparingFailed | preparingQueued
    | requeueExpired | requeueOrphan | expireLegacy | pauseClaimed | stopRequeue =>
      simp [RunWrite.guard, asked] at guard

/-- A run that has ended stays so, or its end becomes a cancel. -/
theorem Change.ended_next {t : Tid} {i : Input} {s s' : State} {o : Op} (consistent : Consistent s)
    (h : Change t i s o s') {r : SecurityTestRun} (mem : r ∈ s.db.runs) (final : r.status.isFinal = true) :
    ∃ r' ∈ s'.db.runs, r'.id = r.id ∧ (r'.status = r.status ∨ r'.status = .cancelled) := by
  by_cases spared : overwritesOutcome s o = false
  · obtain ⟨r', mem', id, status⟩ := h.final_run consistent spared mem final
    exact ⟨r', mem', id, .inl status⟩
  · cases h.run_next consistent.keys mem with
    | kept mem' => exact ⟨r, mem', rfl, .inl rfl⟩
    | claimed _ _ _ _ _ _ queued => simp [queued] at final
    | updated w op target guard mem' =>
      subst op
      refine ⟨_, mem', RunWrite.apply_id r w, .inr ?_⟩
      cases w with
      | finalizeCancelled => rfl
      | _ => exact (spared rfl).elim

/-! ## Runs -/

section
variable {snapshots : List RequestSnapshot} {relations : List ParameterRelation} {c d : Config scheduler}

/-- At some moment the run was still asked to stop and all its checkpoints had finished. -/
def FinishedBefore (c d : Config scheduler) (id : ObjectId) : Prop := ∃ e : Config scheduler,
  Run (Guard.free scheduler) c e ∧ Run (Guard.free scheduler) e d ∧
    (∃ r ∈ e.state.db.runs, r.id = id ∧ r.status = .cancelRequested) ∧ AllFinished e.state id

/-- What may become of a run that is asked to stop. -/
def CancelOutcome (c d : Config scheduler) (id : ObjectId) (status : RunStatus) : Prop :=
  status = .cancelRequested ∨ status = .cancelled ∨ (status = .done ∧ FinishedBefore c d id)

theorem cancel_outcome {g : Guard scheduler} (reached : Run g (initial snapshots relations) c)
    (run : Run keepingCancels c d) {r : SecurityTestRun} (mem : r ∈ c.state.db.runs)
    (asked : r.status = .cancelRequested) :
    ∃ r' ∈ d.state.db.runs, r'.id = r.id ∧ CancelOutcome c d r.id r'.status := by
  induction run with
  | refl => exact ⟨r, mem, rfl, .inl asked⟩
  | @tail d e l before admitted step ih =>
    obtain ⟨q, memQ, idQ, outcome⟩ := ih
    have consistent := consistent_of_run (reached.free.trans before.free)
    have onward : Run (Guard.free scheduler) d e := (Run.tail (.refl) admitted step : Run keepingCancels d e).free
    have later : FinishedBefore c d r.id → FinishedBefore c e r.id :=
      fun ⟨f, first, rest, all⟩ => ⟨f, first, rest.trans onward, all⟩
    rcases store_step admitted step with same | ⟨t, o, i, op, change⟩
    · refine ⟨q, same.runs ▸ memQ, idQ, ?_⟩
      exact outcome.imp_right fun rest => rest.imp_right fun ⟨done, finished⟩ => ⟨done, later finished⟩
    · rcases outcome with asked | cancelled | ⟨done, finished⟩
      · have keeps : losesCancel d.state o = false := by simpa [keepingCancels] using op
        obtain ⟨q', mem', id', outcome⟩ := change.cancel_next consistent keeps memQ asked
        refine ⟨q', mem', id'.trans idQ, ?_⟩
        refine outcome.imp_right fun rest => rest.imp_right fun ⟨done, all⟩ => ⟨done, ?_⟩
        exact ⟨d, before.free, onward, ⟨q, memQ, idQ, asked⟩, idQ ▸ all⟩
      · obtain ⟨q', mem', id', outcome⟩ := change.ended_next consistent memQ (by simp [cancelled])
        refine ⟨q', mem', id'.trans idQ, .inr (.inl ?_)⟩
        exact outcome.elim (·.trans cancelled) id
      · obtain ⟨q', mem', id', same | cancelled⟩ := change.ended_next consistent memQ (by simp [done])
        · exact ⟨q', mem', id'.trans idQ, .inr (.inr ⟨same.trans done, later finished⟩)⟩
        · exact ⟨q', mem', id'.trans idQ, .inr (.inl cancelled)⟩

end

/-- A run that is asked to stop in `c` is still asked in `d`, or has ended: cancelled, or done after
all its checkpoints had finished. -/
def CancelsKept (c d : Config scheduler) : Prop :=
  ∀ id r, c.state.db.run? id = some r → r.status = .cancelRequested →
    ∃ r', d.state.db.run? id = some r' ∧ CancelOutcome c d id r'.status

/-- From every reachable state on, along the runs `g` admits. -/
def CancelsNeverLost (g : Guard scheduler) : Prop :=
  ∀ (snapshots : List RequestSnapshot) (relations : List ParameterRelation) (c d : Config scheduler),
    Run (Guard.free scheduler) (initial snapshots relations) c → Run g c d → CancelsKept c d

/-- **Accepted cancels.** None is lost in a run in which no worker pauses, queues or fails a run that
is asked to stop, or writes `done` over a checkpoint of it that has not finished. -/
theorem cancels_kept (snapshots : List RequestSnapshot) (relations : List ParameterRelation)
    (c d : Config scheduler) (reached : Run (Guard.free scheduler) (initial snapshots relations) c)
    (run : Run keepingCancels c d) : CancelsKept c d := by
  intro id r found asked
  obtain ⟨r', mem', id', outcome⟩ := cancel_outcome reached run (lookup_mem found) asked
  have same : r.id = id := lookup_key found
  have keys := (consistent_of_run (reached.trans run.free)).keys
  refine ⟨r', ?_, same ▸ outcome⟩
  rw [← same, ← id']
  exact keys.runIds.lookup_of_mem mem'

/-- The batch is enqueued as run 0, a worker claims it, and an operator cancels it. -/
def cancelledUnderWorker : List (Label scheduler) :=
  called 0 (.enqueue getBatch) 9 ++ worked 0 9 {} ++ called 1 (.cancel 0 "operator_requested") 3

/-- The heartbeat of the worker fails in the driver: its dispatch failure queues the run again. -/
theorem cancels_lost : ¬ CancelsNeverLost (Guard.free scheduler) := by
  intro kept
  let failing : List (Label scheduler) :=
    steps (.worker 0) 1 { fault := some .before } ++ steps (.worker 0) 4 {}
  let P (c : Config scheduler) : Bool := (c.follow (Guard.free scheduler) failing).any fun d =>
    (c.state.db.run? 0).any (·.status == .cancelRequested) &&
      (d.state.db.run? 0).any (·.status == .queued)
  obtain ⟨c, reached, found⟩ := Run.exists_of_follow (P := P)
    (show ((initial [getSnapshot] []).follow (Guard.free scheduler) cancelledUnderWorker).any P = true by
      decide +kernel)
  obtain ⟨d, moved, found⟩ := Run.exists_of_follow found
  simp only [Bool.and_eq_true, Option.any_eq_true, beq_iff_eq] at found
  obtain ⟨⟨r, here, asked⟩, q, there, queued⟩ := found
  obtain ⟨r', here', outcome⟩ := kept _ _ c d reached moved 0 r here asked
  rw [there] at here'
  cases here'
  simp [CancelOutcome, queued] at outcome

/-- The worker polls the request and ends the run as cancelled. -/
theorem cancels_kept_polled : ∃ (c d : Config scheduler) (r' : SecurityTestRun),
    Run (Guard.free scheduler) (initial [getSnapshot] []) c ∧ Run keepingCancels c d ∧
      statusOf c 0 = some .cancelRequested ∧ d.state.db.run? 0 = some r' ∧ r'.status = .cancelled ∧
      CancelOutcome c d 0 r'.status := by
  let P (c : Config scheduler) : Bool :=
    (c.follow keepingCancels (steps (.worker 0) 32 { flag := true, count := 3 })).any fun d =>
      (c.state.db.run? 0).any (·.status == .cancelRequested) &&
        (d.state.db.run? 0).any (·.status == .cancelled)
  obtain ⟨c, reached, found⟩ := Run.exists_of_follow (P := P)
    (show ((initial [getSnapshot] []).follow (Guard.free scheduler) cancelledUnderWorker).any P = true by
      decide +kernel)
  obtain ⟨d, moved, found⟩ := Run.exists_of_follow found
  simp only [Bool.and_eq_true, Option.any_eq_true, beq_iff_eq] at found
  obtain ⟨⟨r, here, asked⟩, q, there, cancelled⟩ := found
  obtain ⟨r', here', outcome⟩ := cancels_kept _ _ c d reached moved 0 r here asked
  rw [there] at here'
  cases here'
  exact ⟨c, d, q, reached, moved, by simp [statusOf, here, asked], there, cancelled, outcome⟩

end ApiManger.Scheduler
