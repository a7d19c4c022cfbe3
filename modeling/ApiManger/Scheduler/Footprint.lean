import ApiManger.Scheduler.Machine

/-!
# Which operations the code uses

For each kind of code the operations it may come to, with what is fixed about
their arguments: the run and token of a claimed run, the checkpoint of a pool
thread, the shape of a document that is inserted.
-/

namespace ApiManger.Scheduler
open Python Store Execution Interleaving

/-- The operations that leave the shared state as it is. -/
def Op.isRead : Op → Bool
  | .utcnow | .hang | .intervalPassed | .rounds | .findRun _ | .queryRuns _ | .countCheckpoints ..
  | .findCheckpoints .. | .findHeld .. | .findSnapshots _ | .findResult _ | .isSet _ | .authFailure
  | .inFlight | .joinFutures | .heartbeatWait | .hostState | .resolveAccount _ | .replayStep => true
  | _ => false

/-- A run as it is inserted. -/
structure FreshRun (r : SecurityTestRun) : Prop where
  unleased : r.leaseToken = none
  undated : r.leaseExpiresAt = none
  status : r.schedulerManaged = true ∧ r.status = .preparing ∨
    r.schedulerManaged = false ∧ r.status = .running
  attempts : r.dispatchAttempt = 0
  bounded : r.schedulerManaged = true → 1 ≤ r.maxDispatchAttempts
  total : r.schedulerManaged = true → r.totalCases = r.snapshotIds.length
  distinct : r.schedulerManaged = true → r.snapshotIds.Nodup
  hosts : r.hostState = []

/-- A checkpoint as it is inserted. -/
structure FreshCheckpoint (c : SecurityExecutionCheckpoint) : Prop where
  status : c.status = .pending
  unleased : c.leaseToken = none
  result : c.resultId = none

/-- The operations that give a run back to the queue, or close one of the retired chain. -/
inductive RequeueOp : Op → Prop
  | read {o : Op} (h : o.isRead = true) : RequeueOp o
  | requeueExpired (id : ObjectId) (token : Option Token) (now : Timestamp) :
      RequeueOp (.updateRun (.requeueExpired id token now))
  | refreshCounts (id : ObjectId) (counts : Counts) : RequeueOp (.updateRun (.refreshCounts id counts))
  | requeueOrphan (id : ObjectId) (cutoff now : Timestamp) :
      RequeueOp (.updateRun (.requeueOrphan id cutoff now))
  | expireLegacy (id : ObjectId) (cutoff now : Timestamp) :
      RequeueOp (.updateRun (.expireLegacy id cutoff now))
  | releaseHeld (run : ObjectId) (token : Option Token) (now : Timestamp) :
      RequeueOp (.updateCheckpoints (.releaseHeld run token none now))
  | releaseAll (run : ObjectId) (now : Timestamp) : RequeueOp (.updateCheckpoints (.releaseAll run now))

/-- The operations of recovery. -/
inductive RecoverOp : Op → Prop
  | requeue {o : Op} (h : RequeueOp o) : RecoverOp o
  | preparingFailed (id : ObjectId) (now : Timestamp) : RecoverOp (.updateRun (.preparingFailed id now))
  | preparingQueued (id : ObjectId) (now : Timestamp) (total : Nat) :
      RecoverOp (.updateRun (.preparingQueued id now total))
  | finalizeCancelled (id : ObjectId) (counts : Counts) (now : Timestamp) :
      RecoverOp (.updateRun (.finalizeCancelled id counts now))
  | upsert (c : SecurityExecutionCheckpoint) (fresh : FreshCheckpoint c) :
      RecoverOp (.upsertCheckpoint c)
  | cancelOpen (run : ObjectId) (reason : String) (now : Timestamp) :
      RecoverOp (.updateCheckpoints (.cancelOpen run reason now))

/-- The operations that resume a paused run. -/
inductive ResumeOp : Op → Prop
  | read {o : Op} (h : o.isRead = true) : ResumeOp o
  | resume (id : ObjectId) (now : Timestamp) : ResumeOp (.updateRun (.resume id now))
  | resumeAuth (id : ObjectId) (revision : String) (now : Timestamp) :
      ResumeOp (.updateRun (.resumeAuth id revision now))
  | syncRelations (w : RelationSync) : ResumeOp (.syncRelations w)

/-- The operations of the calls of the application. -/
inductive CallOp : Op → Prop
  | recover {o : Op} (h : RecoverOp o) : CallOp o
  | resume {o : Op} (h : ResumeOp o) : CallOp o
  | uuid4 : CallOp .uuid4
  | insertRun (r : SecurityTestRun) (fresh : FreshRun r) : CallOp (.insertRun r)
  | enqueueQueued (id : ObjectId) (now : Timestamp) (pending : Nat) :
      CallOp (.updateRun (.enqueueQueued id now pending))
  | requestCancel (id : ObjectId) (reason : String) (now : Timestamp) :
      CallOp (.updateRun (.requestCancel id reason now))

/-- The operations of a worker whose dispatch failed. -/
inductive FailureOp (claimed : ClaimedRun) : Op → Prop
  | read {o : Op} (h : o.isRead = true) : FailureOp claimed o
  | dispatchFailed (errorType : String) (now : Timestamp) :
      FailureOp claimed (.updateRun
        (.dispatchFailed claimed.run.id claimed.token (retryable claimed.run) errorType now))
  | releaseHeld (reason : String) (now : Timestamp) :
      FailureOp claimed
        (.updateCheckpoints (.releaseHeld claimed.run.id (some claimed.token) (some reason) now))
  | syncRelations (w : RelationSync) : FailureOp claimed (.syncRelations w)

/-- The operations of a worker on the run it has claimed, but for those that start its threads and
those that close the run. -/
inductive ClaimedOp (claimed : ClaimedRun) : Op → Prop
  | failure {o : Op} (h : FailureOp claimed o) : ClaimedOp claimed o
  | heartbeat (now expires : Timestamp) :
      ClaimedOp claimed (.updateRun (.heartbeat claimed.run.id claimed.token now expires))
  | pauseClaimed (errorType dependency revision : String) (now : Timestamp) :
      ClaimedOp claimed
        (.updateRun (.pauseClaimed claimed.run.id claimed.token errorType dependency revision now))
  | authReady (now : Timestamp) :
      ClaimedOp claimed (.updateRun (.authReady claimed.run.id claimed.token now))
  | syncCounts (counts : Counts) (hosts : List HostState) (now : Timestamp) :
      ClaimedOp claimed (.updateRun (.syncCounts claimed.run.id counts hosts now))
  | stopRequeue (now : Timestamp) :
      ClaimedOp claimed (.updateRun (.stopRequeue claimed.run.id claimed.token now))
  | pauseAuth (errorType dependency revision : String) (hosts : List HostState) (now : Timestamp) :
      ClaimedOp claimed (.updateRun
        (.pauseAuth claimed.run.id claimed.token errorType dependency revision hosts now))
  | finishFailed (id : ObjectId) (reasons : List String) (errorType : String) (now : Timestamp) :
      ClaimedOp claimed
        (.updateCheckpoints (.finish id claimed.token .error reasons [] none errorType now))
  | cancel : ClaimedOp claimed (.set .cancel)
  | collectDone : ClaimedOp claimed .collectDone
  | closeHeartbeat : ClaimedOp claimed .closeHeartbeat

/-- The operations of the loop that submits the checkpoints. -/
inductive LoopOp (claimed : ClaimedRun) : Op → Prop
  | claimed {o : Op} (h : ClaimedOp claimed o) : LoopOp claimed o
  | submit (id : ObjectId) : LoopOp claimed (.submit id)

/-- The operations of a worker when no future is left. -/
inductive SettleOp (claimed : ClaimedRun) : Op → Prop
  | claimed {o : Op} (h : ClaimedOp claimed o) : SettleOp claimed o
  | cancelOpen (reason : String) (now : Timestamp) :
      SettleOp claimed (.updateCheckpoints (.cancelOpen claimed.run.id reason now))
  | finish (cancelled : Bool) (hosts : List HostState) (now : Timestamp) :
      SettleOp claimed (.updateRun (.finish claimed.run.id claimed.token cancelled hosts now))

/-- The operations of a pool thread on its checkpoint, from its claim to its end but for the
replay itself; those that store a result only when `storing`. -/
inductive PoolOp (job : Job) (id : ObjectId) (storing : Bool) : Op → Prop
  | read {o : Op} (h : o.isRead = true) : PoolOp job id storing o
  | finish (status : CheckpointStatus) (reasons : List String) (summary : Dict)
      (result : Option ObjectId) (errorType : String) (now : Timestamp)
      (final : status.isFinal = true) (stores : result.isSome = true → storing = true) :
      PoolOp job id storing (.updateCheckpoints
        (.finish id job.claimed.token status reasons summary result errorType now))
  | release (reason : String) (errorType : Option String) (now : Timestamp) :
      PoolOp job id storing
        (.updateCheckpoints (.release id job.claimed.token reason errorType now))
  | progress (summary : Dict) (now : Timestamp) :
      PoolOp job id storing (.updateCheckpoints (.progress id job.claimed.token summary now))
  | insertResult (r : SecurityTestResult) (stores : storing = true) :
      PoolOp job id storing (.insertResult r)
  | recordHook (result : ObjectId) (stores : storing = true) :
      PoolOp job id storing (.recordHook result)
  | auth : PoolOp job id storing (.set .auth)
  | noteAuthFailure (errorType : String) : PoolOp job id storing (.noteAuthFailure errorType)
  | acquire (host : String) : PoolOp job id storing (.acquire host)
  | recordOutcome (host : String) (evidence : Dict) :
      PoolOp job id storing (.recordOutcome host evidence)

/-- The operations of a pool thread on its checkpoint. -/
inductive ReplayOp (job : Job) (id : ObjectId) : Op → Prop
  | claim (now : Timestamp) : ReplayOp job id
      (.claimCheckpoint id job.claimed.run.id job.claimed.token now)
  | work {o : Op} (h : PoolOp job id true o) : ReplayOp job id o
  | startReplay : ReplayOp job id (.startReplay id)

/-- All operations of a pool thread. -/
inductive PoolThreadOp (job : Job) (id : ObjectId) : Op → Prop
  | replay {o : Op} (h : ReplayOp job id o) : PoolThreadOp job id o
  | complete (exception : Option PyError) : PoolThreadOp job id (.complete exception)

/-- The operations of a worker from its claim on. -/
inductive DispatchOp : Op → Prop
  | loop (claimed : ClaimedRun) {o : Op} (h : LoopOp claimed o) : DispatchOp o
  | settle (claimed : ClaimedRun) {o : Op} (h : SettleOp claimed o) : DispatchOp o
  | startExecution (job : Job) : DispatchOp (.startExecution job)

/-- All operations of a worker. -/
inductive WorkerOp : Op → Prop
  | recover {o : Op} (h : RecoverOp o) : WorkerOp o
  | claimRun (worker queue : String) (now expires : Timestamp) :
      WorkerOp (.claimRun worker queue now expires)
  | dispatch {o : Op} (h : DispatchOp o) : WorkerOp o

/-- The operations of a heartbeat thread. -/
inductive HeartbeatOp (job : Job) : Op → Prop
  | read {o : Op} (h : o.isRead = true) : HeartbeatOp job o
  | heartbeat (now expires : Timestamp) :
      HeartbeatOp job (.updateRun (.heartbeat job.claimed.run.id job.claimed.token now expires))
  | lost : HeartbeatOp job (.set .lost)

/-! ## Shared pieces -/

section
variable {P : Op → Prop} (read : ∀ o, o.isRead = true → P o)
include read

theorem checkpointCounts_uses (run : ObjectId) : (checkpointCounts run).Uses P := by
  unfold checkpointCounts
  iterate 6 refine .bind (.perform (read _ rfl)) fun _ => ?_
  exact .ret

theorem anyEventSet_uses (events : List Event) : (anyEventSet events).Uses P := by
  induction events with
  | nil => exact .ret
  | cons e rest ih =>
    refine .bind (.perform (read _ rfl)) fun found => ?_
    split
    · exact .ret
    · exact ih

theorem syncParameterRelationRunState_uses (run : SecurityTestRun) (status reason : String)
    (sync : ∀ w, P (.syncRelations w)) : (syncParameterRelationRunState run status reason).Uses P :=
  .when (.bind (.perform (read _ rfl)) fun _ => .perform (sync _))

theorem syncCounts_uses (run : ObjectId)
    (sync : ∀ counts hosts now, P (.updateRun (.syncCounts run counts hosts now))) :
    (syncCounts run).Uses P := by
  refine .bind (checkpointCounts_uses read _) fun _ => .bind (.perform (read _ rfl)) fun _ => ?_
  exact .bind (.perform (read _ rfl)) fun _ => .bind (.perform (sync ..)) fun _ => .ret

theorem heartbeatExecution_uses (run : ObjectId) (token : Token) (leaseSeconds : Int)
    (heartbeat : ∀ now expires, P (.updateRun (.heartbeat run token now expires))) :
    (heartbeatExecution run token leaseSeconds).Uses P :=
  .bind (.perform (read _ rfl)) fun _ => .perform (heartbeat _ _)

end

/-! ## Recovery -/

theorem newCheckpoint_fresh (run : SecurityTestRun) (ordinal : Nat) (x : RequestSnapshot)
    (now : Timestamp) : FreshCheckpoint (newCheckpoint run ordinal x now) := ⟨rfl, rfl, rfl⟩

theorem recoverOp_read {o : Op} (h : o.isRead = true) : RecoverOp o := .requeue (.read h)

theorem ensureCheckpoints_uses (run : SecurityTestRun) (snapshots : List RequestSnapshot) :
    (ensureCheckpoints run snapshots).Uses RecoverOp :=
  .bind (.perform (recoverOp_read rfl)) fun _ => .bulk fun _ =>
    .perform (.upsert _ (newCheckpoint_fresh ..))

theorem finalizeCancelledRun_uses (run : ObjectId) (reason : String) :
    (finalizeCancelledRun run reason).Uses RecoverOp := by
  refine .bind (.perform (recoverOp_read rfl)) fun _ => .bind (.perform (.cancelOpen ..)) fun _ => ?_
  refine .bind (checkpointCounts_uses (fun _ => recoverOp_read) run) fun _ => ?_
  exact .bind (.perform (.finalizeCancelled ..)) fun _ => .ret

theorem recoverPreparing_uses (now : Timestamp) (run : SecurityTestRun) :
    (recoverPreparing now run).Uses RecoverOp := by
  refine .bind (.perform (recoverOp_read rfl)) fun snapshots => ?_
  split
  · exact .bind (.perform (.preparingFailed ..)) fun _ => .ret
  · refine .bind (ensureCheckpoints_uses ..) fun _ => ?_
    exact .bind (.perform (.preparingQueued ..)) fun _ => .ret

theorem refreshCounts_uses (run : ObjectId) : (refreshCounts run).Uses RequeueOp :=
  .bind (checkpointCounts_uses (fun _ => .read) run) fun _ =>
    .bind (.perform (.refreshCounts ..)) fun _ => .ret

theorem recoverExpired_uses (now : Timestamp) (run : SecurityTestRun) :
    (recoverExpired now run).Uses RequeueOp :=
  .bind (.perform (.releaseHeld ..)) fun _ => .bind (.perform (.requeueExpired ..)) fun _ =>
    .when (refreshCounts_uses _)

theorem recoverOrphan_uses (now cutoff : Timestamp) (run : SecurityTestRun) :
    (recoverOrphan now cutoff run).Uses RequeueOp :=
  .bind (.perform (.releaseAll ..)) fun _ => .bind (.perform (.requeueOrphan ..)) fun _ =>
    .when (refreshCounts_uses _)

theorem expireLegacy_uses (now cutoff : Timestamp) (run : SecurityTestRun) :
    (expireLegacy now cutoff run).Uses RequeueOp :=
  .bind (.perform (.expireLegacy ..)) fun _ => .ret

theorem recoverExpiredExecutions_uses (queue : String) (orphanGrace legacyStale : Int) :
    (recoverExpiredExecutions queue orphanGrace legacyStale).Uses RecoverOp := by
  have read : ∀ {o : Op}, o.isRead = true → RecoverOp o := recoverOp_read
  refine .bind (.perform (read rfl)) fun now => ?_
  refine .bind (.perform (read rfl)) fun _ => .bind (.forEach (recoverPreparing_uses now)) fun _ => ?_
  refine .bind (.perform (read rfl)) fun _ => .bind (.forEach fun run => ?_) fun _ => ?_
  · exact (recoverExpired_uses now run).mono fun _ => .requeue
  · refine .bind (.perform (read rfl)) fun _ => .bind (.forEach fun run => ?_) fun _ => ?_
    · exact (recoverOrphan_uses now _ run).mono fun _ => .requeue
    · refine .bind (.perform (read rfl)) fun _ => .bind (.forEach fun run => ?_) fun _ => ?_
      · exact (expireLegacy_uses now _ run).mono fun _ => .requeue
      · exact .bind (.perform (read rfl)) fun _ => .forEach fun _ => finalizeCancelledRun_uses ..

/-! ## Calls -/

theorem callOp_read {o : Op} (h : o.isRead = true) : CallOp o := .recover (recoverOp_read h)

theorem normalizeSnapshotIds_nodup {ids normal : List ObjectId}
    (h : normalizeSnapshotIds ids = .ok normal) : normal.Nodup := by
  have step : ∀ (l seen : List ObjectId), seen.Nodup →
      (l.foldl (fun seen id => if seen.contains id then seen else seen ++ [id]) seen).Nodup := by
    intro l
    induction l with
    | nil => exact fun _ h => h
    | cons x xs ih =>
      intro seen nodup
      refine ih _ ?_
      dsimp only
      split
      · exact nodup
      · rename_i absent
        simp only [List.contains_eq_mem, decide_eq_true_eq] at absent
        refine List.nodup_append.mpr ⟨nodup, by simp, fun a old b new => ?_⟩
        rw [List.mem_singleton] at new
        exact fun same => absent (new ▸ same ▸ old)
  unfold normalizeSnapshotIds at h
  split at h
  · cases h
  · exact Except.ok.inj h ▸ step ids [] List.nodup_nil

theorem preparingRun_fresh {q : EnqueueRequest} {ids normal : List ObjectId} (key : IdempotencyKey)
    (now : Timestamp) (policy : validatePolicy q.policy = .ok ())
    (h : normalizeSnapshotIds ids = .ok normal) : FreshRun (preparingRun q normal key now) where
  unleased := rfl
  undated := rfl
  status := .inl ⟨rfl, rfl⟩
  attempts := rfl
  bounded _ := validatePolicy_attempts policy
  total _ := rfl
  distinct _ := normalizeSnapshotIds_nodup h
  hosts := rfl

variable (id : ObjectId)

theorem reload_uses : (reload id).Uses CallOp := by
  refine .bind (.perform (callOp_read rfl)) fun found => ?_
  cases found with
  | some run => exact .ret
  | none => exact .raise

theorem queuePrepared_uses (run : SecurityTestRun) (snapshots : List RequestSnapshot) (pending : Nat) :
    (queuePrepared run snapshots pending).Uses CallOp := by
  unfold queuePrepared
  split
  · refine .bind ((ensureCheckpoints_uses run snapshots).mono fun _ => .recover) fun _ => ?_
    refine .bind (.perform (callOp_read rfl)) fun _ => ?_
    exact .bind (.perform (.enqueueQueued ..)) fun _ => reload_uses _
  · exact .ret

theorem insertOrFind_uses {run : SecurityTestRun} (key : IdempotencyKey) (fresh : FreshRun run) :
    (insertOrFind run key).Uses CallOp := by
  refine .handle (.bind (.perform (.insertRun _ fresh)) fun _ => .ret) fun e => ?_
  split
  · refine .bind (.perform (callOp_read rfl)) fun found => ?_
    cases found with
    | some stored => exact .ret
    | none => exact .raise
  · exact .raise

theorem enqueueSnapshotBatch_uses (q : EnqueueRequest) : (enqueueSnapshotBatch q).Uses CallOp := by
  refine .ofExcept_bind fun _ _ => .ofExcept_bind fun _ policy => .ofExcept_bind fun ids normal => ?_
  refine .bind (.perform (callOp_read rfl)) fun found => .ofExcept_bind fun snapshots _ => ?_
  refine .bind (.perform (callOp_read rfl)) fun existing => ?_
  cases existing with
  | some existing =>
    dsimp only
    split
    · exact .raise
    · split
      · exact .ret
      · exact .bind (queuePrepared_uses ..) fun _ => .ret
  | none =>
    refine .bind (.perform (callOp_read rfl)) fun now => ?_
    refine .bind (insertOrFind_uses _ (preparingRun_fresh _ _ policy normal)) fun _ => ?_
    exact .bind (queuePrepared_uses ..) fun _ => .ret

theorem requestExecutionCancel_uses (reason : String) :
    (requestExecutionCancel id reason).Uses CallOp := by
  refine .bind (.perform (callOp_read rfl)) fun found => ?_
  cases found with
  | none => exact .ret
  | some run =>
    dsimp only
    split
    · exact .ret
    · refine .bind ?_ fun _ => .perform (callOp_read rfl)
      unfold stopRun
      split
      · exact (finalizeCancelledRun_uses ..).mono fun _ => .recover
      · exact .bind (.perform (callOp_read rfl)) fun _ =>
          .bind (.perform (.requestCancel ..)) fun _ => .ret

theorem resumeExecution_uses : (resumeExecution id).Uses ResumeOp := by
  refine .bind (.perform (.read rfl)) fun found => ?_
  cases found with
  | none => exact .ret
  | some run =>
    refine .bind (.when ?_) fun _ => .perform (.read rfl)
    refine .bind (.perform (.read rfl)) fun _ => .bind (.perform (.resume ..)) fun _ => .when ?_
    exact syncParameterRelationRunState_uses (fun _ => .read) _ _ _ .syncRelations

theorem resumeAuthDependency_uses (revision : String) :
    (resumeAuthDependency id revision).Uses ResumeOp := by
  unfold resumeAuthDependency
  split
  · exact .perform (.read rfl)
  · refine .bind (.perform (.read rfl)) fun found => ?_
    cases found with
    | none => exact .perform (.read rfl)
    | some run =>
      refine .bind (.perform (.read rfl)) fun _ => .bind (.perform (.resumeAuth ..)) fun _ => ?_
      refine .bind (.when ?_) fun _ => .perform (.read rfl)
      exact syncParameterRelationRunState_uses (fun _ => .read) _ _ _ .syncRelations

theorem retryExecution_uses (statuses : List CheckpointStatus) (operator : String) :
    (retryExecution id statuses operator).Uses CallOp := by
  refine .bind (.perform (callOp_read rfl)) fun found => ?_
  cases found with
  | none => exact .raise
  | some old =>
    refine .bind (.perform (callOp_read rfl)) fun checkpoints => ?_
    split
    · exact .raise
    · exact .ofExcept_bind fun _ _ => .bind (.perform .uuid4) fun _ => enqueueSnapshotBatch_uses _

theorem createExecutionRun_uses (checkType : String) (c : ExecutionContext) :
    (createExecutionRun checkType c).Uses CallOp :=
  .ofExcept_bind fun _ _ => .bind (.perform (callOp_read rfl)) fun _ =>
    .perform (.insertRun _ ⟨rfl, rfl, .inr ⟨rfl, rfl⟩, rfl, nofun, nofun, nofun, rfl⟩)

/-- The calls of the application use the operations of calls. -/
theorem Request.code_uses (r : Request) : r.code.Uses CallOp := by
  cases r with
  | enqueue q => exact .bind (enqueueSnapshotBatch_uses q) fun _ => .ret
  | cancel run reason => exact .bind (requestExecutionCancel_uses run reason) fun _ => .ret
  | resume run => exact .bind ((resumeExecution_uses run).mono fun _ => .resume) fun _ => .ret
  | resumeAuth run revision => exact .bind ((resumeAuthDependency_uses run revision).mono fun _ => .resume) fun _ => .ret
  | retry run statuses operator => exact .bind (retryExecution_uses run statuses operator) fun _ => .ret
  | createRun checkType context => exact .bind (createExecutionRun_uses checkType context) fun _ => .ret
  | recover queue orphanGrace legacyStale =>
    exact (recoverExpiredExecutions_uses ..).mono fun _ => .recover

/-! ## Pool threads -/

section
variable {job : Job} {storing : Bool}

theorem finishCheckpoint_uses {id : ObjectId} {status : CheckpointStatus} (reasons : List String)
    (summary : Dict) {result : Option ObjectId} (errorType : String) (final : status.isFinal = true)
    (stores : result.isSome = true → storing = true) :
    (finishCheckpoint id job.claimed.token status reasons summary result errorType).Uses
      (PoolOp job id storing) :=
  .bind (.perform (.read rfl)) fun _ => .perform (.finish _ _ _ _ _ _ final stores)

theorem releaseCheckpoint_uses (id : ObjectId) (reason : String) (errorType : Option String) :
    (releaseCheckpoint id job.claimed.token reason errorType).Uses (PoolOp job id storing) :=
  .bind (.perform (.read rfl)) fun _ => .perform (.release ..)

theorem statusOfError_final (failed : Bool) : (statusOfError failed).isFinal = true := by
  cases failed <;> rfl

theorem mayRunAgain_uses {id : ObjectId} : mayRunAgain.Uses (PoolOp job id storing) :=
  anyEventSet_uses (fun _ => .read) _

variable (c : SecurityExecutionCheckpoint)

theorem finishBlocked_uses (reason : String) :
    (finishBlocked job c reason).Uses (PoolOp job c.id storing) := by
  refine .bind ?_ fun again => ?_
  · unfold blockedAgain
    split
    · exact mayRunAgain_uses
    · exact .ret
  · split
    · exact .bind (releaseCheckpoint_uses ..) fun _ => .ret
    · refine .bind (finishCheckpoint_uses _ _ _ ?_ nofun) fun _ => .ret
      split <;> rfl

theorem abandonCheckpoint_uses :
    (abandonCheckpoint job c).Uses (PoolOp job c.id storing) := by
  refine .bind mayRunAgain_uses fun again => ?_
  split
  · exact .bind (.perform (.read rfl)) fun _ => .bind (releaseCheckpoint_uses ..) fun _ => .ret
  · exact .bind (finishCheckpoint_uses _ _ _ rfl nofun) fun _ => .ret

theorem resolveContext_uses :
    (resolveContext job c).Uses (PoolOp job c.id storing) := by
  unfold resolveContext
  split
  · refine .handle (.bind (.perform (.read rfl)) fun _ => .ret) fun e => ?_
    split
    · refine .bind (.perform (.noteAuthFailure _)) fun _ => .bind (.perform .auth) fun _ => ?_
      exact .bind (releaseCheckpoint_uses ..) fun _ => .ret
    · exact .raise
  · exact .ret

theorem replayLoop_uses (n : Nat) :
    (replayLoop job c n).Uses (PoolOp job c.id storing) := by
  induction n with
  | zero => exact .bind (.perform (.read rfl)) fun _ => .ret
  | succ n ih =>
    refine .bind (.perform (.read rfl)) fun step => ?_
    cases step with
    | returned evidence => exact .ret
    | raised e => exact .raise
    | progress progress =>
      refine .bind (.when (.handle (.ofExcept_bind fun _ _ => ?_) fun _ => .ret)) fun _ => ih
      exact .bind (.perform (.read rfl)) fun _ => .perform (.progress ..)
    | request => exact .bind (.when (.bind (.perform (.acquire _)) fun _ => .ret)) fun _ => ih
    | requestDone evidence =>
      exact .bind (.when (.handle (.perform (.recordOutcome ..)) fun _ => .ret)) fun _ => ih

theorem refusePermit_uses :
    (refusePermit job c).Uses (PoolOp job c.id storing) := by
  unfold refusePermit
  split
  · exact .perform (.acquire _)
  · exact .ret

theorem finishFromExisting_uses (existing : SecurityTestResult) :
    (finishFromExisting job c existing).Uses (PoolOp job c.id true) := by
  refine .bind (.when (.perform (.recordOutcome ..))) fun _ => ?_
  exact .bind (finishCheckpoint_uses _ _ _ (statusOfError_final _) fun _ => rfl) fun _ => .ret

theorem recordExecutionResultInput_uses {id : ObjectId} (run : SecurityTestRun)
    (snapshot : RequestSnapshot) (value : ExecutionResultInput) :
    (recordExecutionResultInput run snapshot value).Uses (PoolOp job id true) := by
  refine .ofExcept_bind fun _ _ => .bind ?_ fun existing => ?_
  · unfold existingResult
    split
    · exact .ret
    · exact .perform (.read rfl)
  · cases existing with
    | some existing => exact .ret
    | none =>
      refine .bind (.perform (.read rfl)) fun now => .handle (.perform (.insertResult _ rfl)) fun e => ?_
      split
      · refine .bind (.perform (.read rfl)) fun found => ?_
        cases found with
        | some stored => exact .ret
        | none => exact .raise
      · exact .raise

theorem recordFirstRun_uses (snapshot : RequestSnapshot)
    (evidence : Dict) : (recordFirstRun job c snapshot evidence).Uses (PoolOp job c.id true) := by
  refine .bind (.when (.perform (.recordOutcome ..))) fun _ => ?_
  refine .ofExcept_bind fun summary _ => .ofExcept_bind fun judgement _ => ?_
  refine .bind (recordExecutionResultInput_uses ..) fun result => ?_
  refine .bind (.when (.perform (.recordHook _ rfl))) fun _ => ?_
  exact .bind (finishCheckpoint_uses _ _ _ (statusOfError_final _) fun _ => rfl) fun _ => .ret

theorem replay_uses :
    (replay job c).Uses (ReplayOp job c.id) := by
  refine .bind (.perform .startReplay) fun _ => .bind (.perform (.work (.read rfl))) fun n => ?_
  exact (replayLoop_uses c n).mono fun _ => .work

theorem attemptReplay_uses :
    (attemptReplay job c).Uses (ReplayOp job c.id) := by
  refine .handle (.bind (anyEventSet_uses (fun _ h => .work (.read h)) _) fun aborting => ?_) fun e => ?_
  · split
    · exact .bind ((abandonCheckpoint_uses c).mono fun _ => .work) fun _ => .ret
    · refine .bind ((resolveContext_uses c).mono fun _ => .work) fun unresolved => ?_
      cases unresolved with
      | some outcome => exact .ret
      | none => exact .bind (replay_uses c) fun _ => .ret
  · split
    · exact .bind ((finishBlocked_uses c _).mono fun _ => .work) fun _ => .ret
    · exact .ret

theorem executeCheckpoint_uses (job : Job) (id : ObjectId) :
    (executeCheckpoint job id).Uses (ReplayOp job id) := by
  refine .bind (.perform (.work (.read rfl))) fun now => .bind (.perform (.claim _)) fun claimed => ?_
  rcases claimed with _ | ⟨c, rfl, ofRun⟩
  · exact .ret
  · refine .bind (.perform (.work (.read rfl))) fun existing => ?_
    cases existing with
    | some existing => exact (finishFromExisting_uses c existing).mono fun _ => .work
    | none =>
      refine .bind (.perform (.work (.read rfl))) fun snapshots => ?_
      split
      · refine .bind ((refusePermit_uses c).mono fun _ => .work) fun refusal => ?_
        cases refusal with
        | some reason => exact (finishBlocked_uses c reason).mono fun _ => .work
        | none =>
          refine .bind (attemptReplay_uses c) fun attempt => ?_
          cases attempt with
          | settled outcome => exact .ret
          | evidence evidence => exact (recordFirstRun_uses c _ evidence).mono fun _ => .work
      · exact .bind ((finishCheckpoint_uses _ _ _ rfl fun _ => rfl).mono fun _ => .work) fun _ => .ret

theorem poolThread_uses (job : Job) (id : ObjectId) :
    (poolThread job id).Uses (PoolThreadOp job id) := by
  refine .bind (.handle (.bind ((executeCheckpoint_uses job id).mono fun _ => .replay) fun _ => .ret)
    fun _ => .ret) fun _ => ?_
  exact .perform (.complete _)

end

/-! ## Heartbeats -/

theorem heartbeatThread_uses (job : Job) : (heartbeatThread job).Uses (HeartbeatOp job) := by
  refine .bind (.perform (.read rfl)) fun n => ?_
  induction n with
  | zero => exact .perform (.read rfl)
  | succ n ih =>
    refine .bind (.perform (.read rfl)) fun closed => ?_
    split
    · exact .ret
    · refine .bind (heartbeatExecution_uses (fun _ => .read) _ _ _ .heartbeat) fun renewed => ?_
      split
      · exact ih
      · exact .perform .lost

/-! ## Workers -/

section
variable (claimed : ClaimedRun)

theorem claimedOp_read {o : Op} (h : o.isRead = true) : ClaimedOp claimed o := .failure (.read h)

theorem pauseClaimedRun_uses (e : PyError) : (pauseClaimedRun claimed e).Uses (ClaimedOp claimed) :=
  .bind (.perform (claimedOp_read _ rfl)) fun _ => .bind (.perform (.pauseClaimed ..)) fun _ =>
    syncParameterRelationRunState_uses (fun _ => claimedOp_read _) _ _ _ fun w => .failure (.syncRelations w)

theorem preflight_uses (adapter : ExecutionAdapter) (policy : ExecutionPolicy) :
    (preflight claimed adapter policy).Uses (ClaimedOp claimed) := by
  have read : ∀ {o : Op}, o.isRead = true → ClaimedOp claimed o := claimedOp_read claimed
  refine .ofExcept_bind fun _ _ => .when (.bind (.perform (read rfl)) fun checkpoints => ?_)
  refine .bind (.forEach fun _ => .perform (read rfl)) fun _ => ?_
  exact .bind (.perform (read rfl)) fun _ => .bind (.perform (.authReady _)) fun _ => .ret

theorem admitRun_uses (adapter : ExecutionAdapter) :
    (admitRun claimed adapter).Uses (ClaimedOp claimed) := by
  refine .handle (.ofExcept_bind fun _ _ => .bind (preflight_uses ..) fun _ => .ret) fun e => ?_
  dsimp only
  split
  · exact .bind (pauseClaimedRun_uses ..) fun _ => .ret
  · exact .bind (pauseClaimedRun_uses ..) fun _ => .ret
  · exact .bind (pauseClaimedRun_uses ..) fun _ => .ret
  · exact .raise

theorem releaseHeld_uses (reason : String) : (releaseHeld claimed reason).Uses (FailureOp claimed) :=
  .bind (.perform (.read rfl)) fun _ => .perform (.releaseHeld ..)

theorem handleDispatchFailure_uses (e : PyError) :
    (handleDispatchFailure claimed e).Uses (FailureOp claimed) := by
  refine .bind (releaseHeld_uses ..) fun _ => .bind (.perform (.read rfl)) fun _ => ?_
  refine .bind (.perform (.dispatchFailed ..)) fun _ => .when ?_
  exact syncParameterRelationRunState_uses (fun _ => .read) _ _ _ .syncRelations

theorem claimed_syncCounts_uses : (syncCounts claimed.run.id).Uses (ClaimedOp claimed) :=
  syncCounts_uses (fun _ => claimedOp_read claimed) _ .syncCounts

theorem pollStatus_uses : (pollStatus claimed.run.id).Uses (ClaimedOp claimed) := by
  refine .bind (.perform (claimedOp_read _ rfl)) fun found => ?_
  cases found with
  | some current => exact .when (.perform .cancel)
  | none => exact .ret

end

section
variable (job : Job)

theorem collectFuture_uses (f : ObjectId × Option PyError) :
    (collectFuture job f).Uses (ClaimedOp job.claimed) := by
  obtain ⟨id, _ | e⟩ := f
  · exact .ret
  · refine .bind (.perform (claimedOp_read _ rfl)) fun held => ?_
    cases held with
    | some c => exact .bind (.perform (claimedOp_read _ rfl)) fun _ => .perform (.finishFailed ..)
    | none => exact .ret

theorem settleStopped_uses : (settleStopped job).Uses (ClaimedOp job.claimed) := by
  have read : ∀ {o : Op}, o.isRead = true → ClaimedOp job.claimed o := claimedOp_read job.claimed
  refine .bind ((releaseHeld_uses ..).mono fun _ => .failure) fun _ => .bind (claimed_syncCounts_uses _) fun _ => ?_
  refine .bind (.perform (read rfl)) fun stop => ?_
  split
  · refine .bind (.perform (read rfl)) fun lost => ?_
    split
    · exact .ret
    · exact .bind (.perform (read rfl)) fun _ => .bind (.perform (.stopRequeue _)) fun _ => .ret
  · exact .ret

theorem settleAuthPause_uses : (settleAuthPause job).Uses (ClaimedOp job.claimed) := by
  have read : ∀ {o : Op}, o.isRead = true → ClaimedOp job.claimed o := claimedOp_read job.claimed
  refine .bind ((releaseHeld_uses ..).mono fun _ => .failure) fun _ => .bind (claimed_syncCounts_uses _) fun _ => ?_
  refine .bind (.perform (read rfl)) fun _ => .bind (.perform (read rfl)) fun _ => ?_
  refine .bind (.perform (read rfl)) fun _ => .bind (.perform (.pauseAuth ..)) fun _ => ?_
  refine .bind ?_ fun _ => .ret
  exact syncParameterRelationRunState_uses (fun _ => read) _ _ _ fun w => .failure (.syncRelations w)

theorem settleFinal_uses (cancelled : Bool) :
    (settleFinal job cancelled).Uses (SettleOp job.claimed) := by
  have read : ∀ {o : Op}, o.isRead = true → SettleOp job.claimed o :=
    fun h => .claimed (claimedOp_read job.claimed h)
  refine .bind (.when (.bind (.perform (read rfl)) fun _ => .perform (.cancelOpen ..))) fun _ => ?_
  refine .bind ((claimed_syncCounts_uses job.claimed).mono fun _ => .claimed) fun _ => ?_
  refine .bind (.perform (read rfl)) fun _ => ?_
  refine .bind (.perform (read rfl)) fun _ => .bind (.perform (.finish ..)) fun _ => ?_
  refine .bind (.when ?_) fun _ => .ret
  exact syncParameterRelationRunState_uses (fun _ => read) _ _ _ fun w =>
    .claimed (.failure (.syncRelations w))

theorem authFailed_uses : authFailed.Uses (ClaimedOp job.claimed) := by
  refine .bind (.perform (claimedOp_read _ rfl)) fun auth => ?_
  split
  · exact .bind (.perform (claimedOp_read _ rfl)) fun _ => .ret
  · exact .ret

theorem settleRun_uses : (settleRun job).Uses (SettleOp job.claimed) := by
  have read : ∀ o : Op, o.isRead = true → SettleOp job.claimed o :=
    fun _ h => .claimed (claimedOp_read job.claimed h)
  refine .bind (anyEventSet_uses read _) fun stopped => ?_
  split
  · exact (settleStopped_uses job).mono fun _ => .claimed
  · refine .bind ((authFailed_uses job).mono fun _ => .claimed) fun pausing => ?_
    split
    · exact (settleAuthPause_uses job).mono fun _ => .claimed
    · exact .bind (.perform (read _ rfl)) fun cancelled => settleFinal_uses job cancelled

theorem submitMore_uses (maxWorkers : Int) (ids : List ObjectId) :
    (submitMore maxWorkers ids).Uses (LoopOp job.claimed) := by
  have read : ∀ o : Op, o.isRead = true → LoopOp job.claimed o :=
    fun _ h => .claimed (claimedOp_read job.claimed h)
  induction ids with
  | nil => exact .ret
  | cons id rest ih =>
    refine .bind (.perform (read _ rfl)) fun busy => ?_
    split
    · refine .bind (anyEventSet_uses read _) fun stopping => ?_
      split
      · exact .ret
      · exact .bind (.perform (.submit id)) fun _ => ih
    · exact .ret

theorem dispatchLoop_uses (n : Nat) (ids : List ObjectId) :
    (dispatchLoop job n ids).Uses (LoopOp job.claimed) := by
  have held : ∀ o, ClaimedOp job.claimed o → LoopOp job.claimed o := fun _ => .claimed
  have read : ∀ {o : Op}, o.isRead = true → LoopOp job.claimed o :=
    fun h => held _ (claimedOp_read job.claimed h)
  induction n generalizing ids with
  | zero => exact .perform (read rfl)
  | succ n ih =>
    refine .bind (.perform (read rfl)) fun busy => ?_
    split
    · exact .ret
    · refine .bind (anyEventSet_uses (fun _ => read) _) fun stopping => ?_
      refine .bind (.when (.perform (held _ .cancel))) fun _ => .bind (.perform (read rfl)) fun poll => ?_
      refine .bind (.when ((pollStatus_uses job.claimed).mono held)) fun _ => ?_
      refine .bind (submitMore_uses job _ ids) fun rest => .bind (.perform (read rfl)) fun busy => ?_
      split
      · exact .ret
      · refine .bind (.perform (held _ .collectDone)) fun done => ?_
        refine .bind (.forEach fun f => (collectFuture_uses job f).mono held) fun _ => ?_
        refine .bind (.perform (read rfl)) fun sync => ?_
        exact .bind (.when ((claimed_syncCounts_uses job.claimed).mono held)) fun _ => ih rest

theorem executeJob_uses : (executeJob job).Uses DispatchOp := by
  have loop : ∀ {o : Op}, LoopOp job.claimed o → DispatchOp o := .loop job.claimed
  have read : ∀ {o : Op}, o.isRead = true → DispatchOp o :=
    fun h => loop (.claimed (claimedOp_read job.claimed h))
  refine .bind (.perform (.startExecution job)) fun _ => .bind (.perform (read rfl)) fun pending => ?_
  refine .bind (.perform (read rfl)) fun n => .finally_ ?_ (.perform (loop (.claimed .closeHeartbeat)))
  refine .bind (.finally_ ((dispatchLoop_uses job n _).mono fun _ => loop) (.perform (read rfl))) fun _ => ?_
  exact (settleRun_uses job).mono fun _ => .settle job.claimed

end

theorem dispatchClaimed_uses (setup : WorkerSetup) (claimed : ClaimedRun) :
    (dispatchClaimed setup claimed).Uses DispatchOp := by
  have held : ∀ o, ClaimedOp claimed o → DispatchOp o := fun _ h => .loop claimed (.claimed h)
  have read : ∀ {o : Op}, o.isRead = true → DispatchOp o := fun h => held _ (claimedOp_read claimed h)
  unfold dispatchClaimed
  split
  · exact (pauseClaimedRun_uses claimed _).mono held
  · refine .bind ((admitRun_uses claimed _).mono held) fun admitted => .when ?_
    refine .handle (.bind (.ofExcept_bind fun policy _ => ?_) fun _ => .ret)
      fun e => (handleDispatchFailure_uses claimed e).mono fun _ h => held _ (.failure h)
    refine .bind (heartbeatExecution_uses (fun _ => read) _ _ _ fun _ _ => held _ (.heartbeat ..))
      fun renewed => ?_
    split
    · exact executeJob_uses _
    · exact .ret

theorem claimNextExecution_uses {P : Op → Prop} (read : ∀ o, o.isRead = true → P o)
    (worker queue : String) (leaseSeconds : Int)
    (claim : ∀ now expires, P (.claimRun worker queue now expires)) :
    (claimNextExecution worker queue leaseSeconds).Uses P := by
  unfold claimNextExecution
  split
  · exact .raise
  · split
    · exact .raise
    · exact .bind (.perform (read _ rfl)) fun now => .perform (claim _ _)

theorem runOnce_uses (setup : WorkerSetup) : (runOnce setup).Uses WorkerOp := by
  refine .bind ((recoverExpiredExecutions_uses ..).mono fun _ => .recover) fun _ => ?_
  refine .bind (claimNextExecution_uses (fun _ h => .recover (recoverOp_read h)) _ _ _ (.claimRun _ _))
    fun claimed => ?_
  cases claimed with
  | none => exact .ret
  | some claimed => exact (dispatchClaimed_uses setup claimed).mono fun _ => .dispatch

end ApiManger.Scheduler
