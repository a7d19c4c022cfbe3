import ApiManger.Scheduler.Consistency

/-!
# Terminal states

A run that is done, failed or cancelled stays so, and a final checkpoint keeps its
status. One writer stands against it: `_finalize_cancelled_run` updates its run by
`_id` alone, some reads after it saw the run in another status.
-/

namespace ApiManger.Scheduler
open Python Store Execution Interleaving Collection

/-- Whether an operation is the run update of a finaliser that would overwrite `done` or `failed`. -/
def overwritesOutcome (s : State) : Op → Bool
  | .updateRun (.finalizeCancelled id _ _) =>
    s.db.runs.any fun r => r.id == id && (r.status == .done || r.status == .failed)
  | _ => false

/-- Every finaliser finds its run neither done nor failed when it writes it. -/
def sparingOutcomes : Guard scheduler where
  start _ _ _ := true
  op _ o _ s := !overwritesOutcome s o

/-- A final run carries no token, so that only an update by id alone reaches it. -/
theorem RunWrite.apply_final {r : SecurityTestRun} {w : RunWrite} (guard : RunWrite.guard r w = true)
    (final : r.status.isFinal = true) (unleased : r.leaseToken = none)
    (spared : ∀ id counts now, w = .finalizeCancelled id counts now → r.status = .cancelled) :
    (apply r w).status = r.status := by
  cases w with
  | finalizeCancelled id counts now => rw [spared id counts now rfl]; rfl
  | heartbeat | refreshCounts | syncCounts | authReady => rfl
  | pauseAuth | finish | dispatchFailed | pauseClaimed | stopRequeue =>
    simp [RunWrite.guard, unleased] at guard
  | enqueueQueued | requestCancel | resume | resumeAuth | preparingFailed | preparingQueued
  | requeueExpired | requeueOrphan | expireLegacy =>
    simp only [RunWrite.guard, Bool.and_eq_true, beq_iff_eq] at guard
    simp_all

/-- The updates of the checkpoints reach open ones only. -/
theorem CheckpointWrite.guard_open {c : SecurityExecutionCheckpoint} {w : CheckpointWrite}
    (guard : CheckpointWrite.guard c w = true) : c.status.isOpen = true := by
  rw [CheckpointStatus.isOpen_iff]
  cases w with
  | finish | release | progress | releaseAll =>
    simp only [CheckpointWrite.guard, heldBy, Bool.and_eq_true, beq_iff_eq] at guard
    simp [guard]
  | releaseHeld run token reason now =>
    cases token with
    | none => simp [CheckpointWrite.guard] at guard
    | some token =>
      simp only [CheckpointWrite.guard, Option.any_some, heldBy, Bool.and_eq_true, beq_iff_eq] at guard
      exact .inr guard.2.1
  | cancelOpen run reason now =>
    simp only [CheckpointWrite.guard, Bool.and_eq_true] at guard
    exact CheckpointStatus.isOpen_iff.mp guard.2

/-- A final run stays as it is in one step that spares outcomes. -/
theorem Change.final_run {t : Tid} {i : Input} {s s' : State} {o : Op} (consistent : Consistent s)
    (spared : overwritesOutcome s o = false) (h : Change t i s o s') {r : SecurityTestRun}
    (mem : r ∈ s.db.runs) (final : r.status.isFinal = true) :
    ∃ r' ∈ s'.db.runs, r'.id = r.id ∧ r'.status = r.status := by
  cases h.run_next consistent.keys mem with
  | kept mem' => exact ⟨r, mem', rfl, rfl⟩
  | claimed _ _ _ _ _ _ queued => simp [queued] at final
  | updated w op target guard mem' =>
    refine ⟨_, mem', RunWrite.apply_id r w, RunWrite.apply_final guard final ?_ ?_⟩
    · by_contra leased
      obtain ⟨_, running | requested⟩ :=
        consistent.leases.active r mem (Option.isSome_iff_ne_none.mpr leased)
      · simp [running] at final
      · simp [requested] at final
    · rintro id counts now rfl
      subst op
      have spared := List.any_eq_false.mp spared r mem
      rw [show r.id = id from target] at spared
      rcases RunStatus.isFinal_iff.mp final with done | failed | cancelled
      · simp [done] at spared
      · simp [failed] at spared
      · exact cancelled

/-- A final checkpoint stays as it is in every step. -/
theorem Change.final_checkpoint {t : Tid} {i : Input} {s s' : State} {o : Op}
    (h : Change t i s o s') {c : SecurityExecutionCheckpoint} (mem : c ∈ s.db.checkpoints)
    (final : c.status.isFinal = true) : c ∈ s'.db.checkpoints := by
  cases h.checkpoint_next mem with
  | kept mem' => exact mem'
  | claimed id run token now op isId ofRun pending =>
    rw [pending] at final
    cases final
  | updated w op guard =>
    have opened := CheckpointWrite.guard_open guard
    rw [CheckpointStatus.isOpen, final] at opened
    cases opened

theorem final_run_absorbing {g₀ : Guard scheduler} {snapshots : List RequestSnapshot}
    {relations : List ParameterRelation} {c d : Config scheduler}
    (reached : Run g₀ (initial snapshots relations) c) (run : Run sparingOutcomes c d)
    {r : SecurityTestRun} (mem : r ∈ c.state.db.runs) (final : r.status.isFinal = true) :
    ∃ r' ∈ d.state.db.runs, r'.id = r.id ∧ r'.status = r.status := by
  refine (storeInvariant (fun s => ∃ r' ∈ s.db.runs, r'.id = r.id ∧ r'.status = r.status)
    ?_ ?_ reached run (consistent_of_run reached) ⟨r, mem, rfl, rfl⟩).2
  · rintro t o i s s' consistent _ spared change ⟨q, memQ, id, status⟩
    have spared : overwritesOutcome s o = false := by simpa [sparingOutcomes] using spared
    obtain ⟨q', memQ', id', status'⟩ := change.final_run consistent spared memQ (status ▸ final)
    exact ⟨q', memQ', id'.trans id, status'.trans status⟩
  · rintro s s' same ⟨q, memQ, kept⟩
    exact ⟨q, same.runs ▸ memQ, kept⟩

/-- A final checkpoint never changes, in any run. -/
theorem final_checkpoint_absorbing {g₀ g : Guard scheduler} {snapshots : List RequestSnapshot}
    {relations : List ParameterRelation} {c d : Config scheduler}
    (reached : Run g₀ (initial snapshots relations) c) (run : Run g c d)
    {k : SecurityExecutionCheckpoint} (mem : k ∈ c.state.db.checkpoints)
    (final : k.status.isFinal = true) : k ∈ d.state.db.checkpoints :=
  (storeInvariant (fun s => k ∈ s.db.checkpoints)
    (fun _ _ _ _ _ _ _ _ change here => change.final_checkpoint here final)
    (fun _ _ same here => same.checkpoints ▸ here) reached run (consistent_of_run reached) mem).2

/-- A stored `GET` snapshot of the project `p`. -/
def getSnapshot : RequestSnapshot := { id := 7, projectId := "p", path := "/users" }

/-- A batch of that one snapshot. -/
def getBatch : EnqueueRequest where
  checkType := "unauth_access"
  context := { projectId := "p" }
  snapshotIds := [7]

/-- The batch is enqueued as run 0, a cancel call reads it as queued, and a worker executes it to
its end. -/
def executedUnderCancel : List (Label scheduler) :=
  called 0 (.enqueue getBatch) 9 ++ called 1 (.cancel 0 "operator_requested") 1 ++
    worked 0 22 { count := 3 } ++
    pooled 0 0 19 { count := 1, step := .returned [("status_code", .int 200)] } ++
    steps (.worker 0) 21 {}

/-- The status of a run, and of the runs' checkpoints. -/
def statusOf (c : Config scheduler) (id : ObjectId) : Option RunStatus :=
  (c.state.db.run? id).map (·.status)

/-- A managed run that is final in `c` has its status in `d`, and so have its final checkpoints. -/
def TerminalStatesKept (c d : Config scheduler) : Prop :=
  ∀ id r, c.state.db.run? id = some r → r.schedulerManaged = true → r.status.isFinal = true →
    (d.state.db.run? id).map (·.status) = some r.status ∧
    ∀ k kid, c.state.db.checkpoint? kid = some k → k.runId = id → k.status.isFinal = true →
      (d.state.db.checkpoint? kid).map (·.status) = some k.status

/-- From every reachable state on, along the runs `g` admits. -/
def TerminalStatesAbsorbing (g : Guard scheduler) : Prop :=
  ∀ (snapshots : List RequestSnapshot) (relations : List ParameterRelation) (c d : Config scheduler),
    Run (Guard.free scheduler) (initial snapshots relations) c → Run g c d → TerminalStatesKept c d

/-- **Terminal states.** They are absorbing in every run in which no finaliser of a cancel writes
its run once it is done or failed. -/
theorem terminal_states_absorbing (snapshots : List RequestSnapshot) (relations : List ParameterRelation)
    (c d : Config scheduler) (reached : Run (Guard.free scheduler) (initial snapshots relations) c)
    (run : Run sparingOutcomes c d) : TerminalStatesKept c d := by
  intro id r found _ final
  have keys := (storeInvariant (fun _ => True) (fun _ _ _ _ _ _ _ _ _ h => h) (fun _ _ _ h => h)
    reached run (consistent_of_run reached) trivial).1.keys
  refine ⟨?_, fun k kid foundK _ finalK => ?_⟩
  · obtain ⟨r', mem', id', status'⟩ := final_run_absorbing reached run (lookup_mem found) final
    have here : d.state.db.run? id = some r' := by
      rw [← lookup_key found, ← id']
      exact keys.runIds.lookup_of_mem mem'
    rw [here, Option.map_some, status']
  · have here : d.state.db.checkpoint? kid = some k := by
      rw [← lookup_key foundK]
      exact keys.checkpointIds.lookup_of_mem
        (final_checkpoint_absorbing reached run (lookup_mem foundK) finalK)
    rw [here, Option.map_some]

/-- The cancel call finishes after the run is done: it turns `done` into `cancelled`. -/
theorem terminal_states_not_absorbing : ¬ TerminalStatesAbsorbing (Guard.free scheduler) := by
  intro absorbing
  let P (c : Config scheduler) : Bool := (c.follow (Guard.free scheduler) (steps (.call 1) 9 {})).any
    fun d => (c.state.db.run? 0).any (fun r => r.schedulerManaged && r.status == .done) &&
      statusOf d 0 == some .cancelled
  obtain ⟨c, reached, found⟩ := Run.exists_of_follow (P := P)
    (show ((initial [getSnapshot] []).follow (Guard.free scheduler) executedUnderCancel).any P = true by
      decide +kernel)
  obtain ⟨d, moved, found⟩ := Run.exists_of_follow found
  simp only [Bool.and_eq_true, Option.any_eq_true, beq_iff_eq, statusOf] at found
  obtain ⟨⟨r, here, managed, done⟩, cancelled⟩ := found
  have kept := (absorbing _ _ c d reached moved 0 r here managed (by simp [done])).1
  rw [cancelled, done] at kept
  cases kept

/-- A second cancel call finds the run done and leaves it so. -/
theorem terminal_states_absorbing_done : ∃ c d : Config scheduler,
    Run (Guard.free scheduler) (initial [getSnapshot] []) c ∧ Run sparingOutcomes c d ∧
      statusOf c 0 = some .done ∧ statusOf d 0 = some .done := by
  let P (c : Config scheduler) : Bool :=
    (c.follow sparingOutcomes (called 2 (.cancel 0 "again") 1)).any fun _ =>
      (c.state.db.run? 0).any fun r => r.schedulerManaged && r.status == .done
  obtain ⟨c, reached, found⟩ := Run.exists_of_follow (P := P)
    (show ((initial [getSnapshot] []).follow (Guard.free scheduler) executedUnderCancel).any P = true by
      decide +kernel)
  obtain ⟨d, moved, found⟩ := Run.exists_of_follow found
  simp only [Bool.and_eq_true, Option.any_eq_true, beq_iff_eq] at found
  obtain ⟨r, here, managed, done⟩ := found
  refine ⟨c, d, reached, moved, by simp [statusOf, here, done], ?_⟩
  rw [statusOf, (terminal_states_absorbing _ _ c d reached moved 0 r here managed (by simp [done])).1, done]

end ApiManger.Scheduler
