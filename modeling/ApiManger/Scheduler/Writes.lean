import ApiManger.Execution.Evidence

/-!
# The updates of the scheduler

Every update of a run or a checkpoint in
`apiAnalysis/tool/execution_scheduler.py`, one constructor per call site: the filter
the update carries (`guard`) and what it sets (`apply`). Mongo applies an update to
the documents its filter matches, atomically. A run update filters by `_id`, so it
reaches at most one document. `summary` and `auth_context_summary` of a run are only
displayed and are left out.
-/

namespace ApiManger.Scheduler
open Python Store Execution

/-- The updates of `security_test_run`. -/
inductive RunWrite where
  /-- `enqueue_snapshot_batch`: the checkpoints exist, the run is queued. -/
  | enqueueQueued (id : ObjectId) (now : Timestamp) (pending : Nat)
  /-- `heartbeat_execution`. -/
  | heartbeat (id : ObjectId) (token : Token) (now expires : Timestamp)
  /-- `_finalize_cancelled_run`: filtered by `_id` alone. -/
  | finalizeCancelled (id : ObjectId) (counts : Counts) (now : Timestamp)
  /-- `request_execution_cancel` of a running run. -/
  | requestCancel (id : ObjectId) (reason : String) (now : Timestamp)
  /-- `resume_execution`. -/
  | resume (id : ObjectId) (now : Timestamp)
  /-- `resume_auth_dependency`. -/
  | resumeAuth (id : ObjectId) (revision : String) (now : Timestamp)
  /-- `recover_expired_executions`: a preparing run whose snapshots are gone. -/
  | preparingFailed (id : ObjectId) (now : Timestamp)
  /-- `recover_expired_executions`: a preparing run completed and queued. -/
  | preparingQueued (id : ObjectId) (now : Timestamp) (total : Nat)
  /-- `recover_expired_executions`: an expired lease, with the token it was read under. -/
  | requeueExpired (id : ObjectId) (token : Option Token) (now : Timestamp)
  /-- `recover_expired_executions`: `_count_updates` after a requeue, by `_id` alone. -/
  | refreshCounts (id : ObjectId) (counts : Counts)
  /-- `recover_expired_executions`: a running run without a lease. -/
  | requeueOrphan (id : ObjectId) (cutoff now : Timestamp)
  /-- `recover_expired_executions`: a stale run of the retired chain. -/
  | expireLegacy (id : ObjectId) (cutoff now : Timestamp)
  /-- `ExecutionWorker._pause_claimed_run`. -/
  | pauseClaimed (id : ObjectId) (token : Token) (errorType dependency revision : String)
      (now : Timestamp)
  /-- `ExecutionWorker._preflight` with a resolved account context. -/
  | authReady (id : ObjectId) (token : Token) (now : Timestamp)
  /-- `ExecutionWorker._sync_counts`: by `_id` alone. -/
  | syncCounts (id : ObjectId) (counts : Counts) (hosts : List HostState) (now : Timestamp)
  /-- `ExecutionWorker.execute_run`, worker stopped. -/
  | stopRequeue (id : ObjectId) (token : Token) (now : Timestamp)
  /-- `ExecutionWorker.execute_run`, account context lost: by `_id` and lease token. -/
  | pauseAuth (id : ObjectId) (token : Token) (errorType dependency revision : String)
      (hosts : List HostState) (now : Timestamp)
  /-- `ExecutionWorker.execute_run`, the final write: by `_id` and lease token. -/
  | finish (id : ObjectId) (token : Token) (cancelled : Bool) (hosts : List HostState)
      (now : Timestamp)
  /-- `ExecutionWorker._handle_dispatch_failure`: by `_id` and lease token. -/
  | dispatchFailed (id : ObjectId) (token : Token) (retryable : Bool) (errorType : String)
      (now : Timestamp)

namespace RunWrite

/-- The document the filter names. -/
def target : RunWrite → ObjectId
  | enqueueQueued id .. | heartbeat id .. | finalizeCancelled id .. | requestCancel id ..
  | resume id .. | resumeAuth id .. | preparingFailed id .. | preparingQueued id ..
  | requeueExpired id .. | refreshCounts id .. | requeueOrphan id .. | expireLegacy id ..
  | pauseClaimed id .. | authReady id .. | syncCounts id .. | stopRequeue id ..
  | pauseAuth id .. | finish id .. | dispatchFailed id .. => id

variable (r : SecurityTestRun)

/-- `lease_expires_at <= now`; a missing field never matches. -/
def expiredAt (now : Timestamp) : Bool :=
  r.leaseExpiresAt.any fun e => decide (e ≤ now)

/-- `started_at <= cutoff`; a missing field never matches. -/
def startedBy (cutoff : Timestamp) : Bool :=
  r.startedAt.any fun e => decide (e ≤ cutoff)

/-- The rest of the filter. A recovery that read no token filters by the empty token, which no
run carries. -/
def guard : RunWrite → Bool
  | enqueueQueued .. | preparingFailed .. | preparingQueued .. => r.status == .preparing
  | heartbeat _ token _ _ =>
    r.leaseToken == some token && (r.status == .running || r.status == .cancelRequested)
  | finalizeCancelled .. | refreshCounts .. | syncCounts .. => true
  | requestCancel .. => r.status == .running
  | resume .. => r.status == .paused
  | resumeAuth _ revision _ => r.status == .paused && r.dependencyType == "auth_profile" &&
      r.dependencyId == revision
  | requeueExpired _ token now => r.status == .running && token.isSome && r.leaseToken == token &&
      expiredAt r now
  | requeueOrphan _ cutoff _ => r.schedulerManaged && r.status == .running &&
      startedBy r cutoff && r.leaseExpiresAt.isNone
  | expireLegacy _ cutoff _ => !r.schedulerManaged && r.status == .running && startedBy r cutoff
  | pauseClaimed _ token .. | stopRequeue _ token _ =>
    r.leaseToken == some token && r.status == .running
  | authReady _ token _ | pauseAuth _ token .. | finish _ token .. | dispatchFailed _ token .. =>
    r.leaseToken == some token

/-- `unset__lease_owner, unset__lease_token, unset__lease_expires_at`. -/
def releaseLease : SecurityTestRun :=
  { r with leaseOwner := "", leaseToken := none, leaseExpiresAt := none }

/-- The fields both auth pauses set. -/
def pauseFields (errorType dependency revision : String) (now : Timestamp) :
    SecurityTestRun :=
  releaseLease { r with
    status := .paused, lastErrorType := errorType, pauseCode := "auth_unavailable",
    dependencyType := "auth_profile", dependencyId := dependency,
    dependencyRevisionId := revision, updatedAt := now }

def apply : RunWrite → SecurityTestRun
  | enqueueQueued _ now pending => { r with
      status := .queued, queuedAt := some now, updatedAt := now,
      counts := { r.counts with pendingCases := pending } }
  | heartbeat _ _ now expires => { r with
      heartbeatAt := some now, leaseExpiresAt := some expires, updatedAt := now }
  | finalizeCancelled _ counts now => releaseLease { r with
      counts := counts, status := .cancelled, finishedAt := some now, updatedAt := now }
  | requestCancel _ reason now => { r with
      status := .cancelRequested, cancelReason := reason, updatedAt := now }
  | resume _ now => { r with
      status := .queued, queuedAt := some now, updatedAt := now, lastErrorType := "" }
  | resumeAuth _ _ now => { r with
      status := .queued, queuedAt := some now, updatedAt := now, lastErrorType := "",
      pauseCode := "", dependencyType := "", dependencyId := "", dependencyRevisionId := "" }
  | preparingFailed _ now => { r with
      status := .failed, lastErrorType := "PreparingSnapshotsUnavailable",
      finishedAt := some now, updatedAt := now }
  | preparingQueued _ now total => { r with
      status := .queued, queuedAt := some now, totalCases := total,
      counts := { r.counts with pendingCases := total }, updatedAt := now }
  | requeueExpired _ _ now | stopRequeue _ _ now => releaseLease { r with
      status := .queued, queuedAt := some now, updatedAt := now }
  | refreshCounts _ counts => { r with counts := counts }
  | requeueOrphan _ _ now => releaseLease { r with
      status := .queued, queuedAt := some now, updatedAt := now,
      lastErrorType := "OrphanedLeaseRecovered" }
  | expireLegacy _ _ now => { r with
      status := .failed, lastErrorType := "LegacyRunExpired", finishedAt := some now,
      updatedAt := now }
  | pauseClaimed _ _ errorType dependency revision now =>
    pauseFields r errorType dependency revision now
  | authReady _ _ now => { r with lastErrorType := "", updatedAt := now }
  | syncCounts _ counts hosts now => { r with counts := counts, hostState := hosts, updatedAt := now }
  | pauseAuth _ _ errorType dependency revision hosts now =>
    { pauseFields r errorType dependency revision now with hostState := hosts }
  | finish _ _ cancelled hosts now => releaseLease { r with
      status := if cancelled then .cancelled else .done, hostState := hosts,
      finishedAt := some now, updatedAt := now }
  | dispatchFailed _ _ true errorType now => releaseLease { r with
      status := .queued, lastErrorType := errorType, updatedAt := now, queuedAt := some now }
  | dispatchFailed _ _ false errorType now => releaseLease { r with
      status := .failed, lastErrorType := errorType, updatedAt := now, finishedAt := some now }

/-- The update on one document. -/
def on (w : RunWrite) (r : SecurityTestRun) : SecurityTestRun :=
  if r.id = w.target ∧ guard r w then apply r w else r

end RunWrite

/-- The updates of `security_execution_checkpoint`. -/
inductive CheckpointWrite where
  /-- `_finish_checkpoint`. -/
  | finish (id : ObjectId) (token : Token) (status : CheckpointStatus) (reasons : List String)
      (summary : Dict) (result : Option ObjectId) (errorType : String) (now : Timestamp)
  /-- A held checkpoint back to pending: `finish_blocked`, an abort before the request, a lost
  account context (which alone sets `error_type`). -/
  | release (id : ObjectId) (token : Token) (reason : String) (errorType : Option String)
      (now : Timestamp)
  /-- `report_progress`. -/
  | progress (id : ObjectId) (token : Token) (summary : Dict) (now : Timestamp)
  /-- All checkpoints of a run held under a token, back to pending; recovery leaves the reason
  codes as they are. -/
  | releaseHeld (run : ObjectId) (token : Option Token) (reason : Option String) (now : Timestamp)
  /-- All running checkpoints of an orphaned run. -/
  | releaseAll (run : ObjectId) (now : Timestamp)
  /-- All open checkpoints of a cancelled run. -/
  | cancelOpen (run : ObjectId) (reason : String) (now : Timestamp)

namespace CheckpointWrite

/-- `status=RUNNING, lease_token=token`. -/
def heldBy (c : SecurityExecutionCheckpoint) (token : Token) : Bool :=
  c.status == .running && c.leaseToken == some token

def guard (c : SecurityExecutionCheckpoint) : CheckpointWrite → Bool
  | finish id token .. | release id token .. | progress id token .. => c.id == id && heldBy c token
  | releaseHeld run token .. => c.runId == run && token.any (heldBy c)
  | releaseAll run _ => c.runId == run && c.status == .running
  | cancelOpen run .. => c.runId == run && c.status.isOpen

def apply (c : SecurityExecutionCheckpoint) : CheckpointWrite → SecurityExecutionCheckpoint
  | finish _ _ status reasons summary result errorType now => { c with
      status := status, reasonCodes := reasons, outcomeSummary := summary, errorType := errorType,
      finishedAt := some now, updatedAt := now, leaseToken := none,
      resultId := result.or c.resultId }
  | release _ _ reason errorType now => { c with
      status := .pending, reasonCodes := [reason], errorType := errorType.getD c.errorType,
      updatedAt := now, leaseToken := none, startedAt := none }
  | progress _ _ summary now => { c with outcomeSummary := summary, updatedAt := now }
  | releaseHeld _ _ reason now => { c with
      status := .pending, reasonCodes := reason.elim c.reasonCodes ([·]), updatedAt := now,
      leaseToken := none, startedAt := none }
  | releaseAll _ now => { c with
      status := .pending, updatedAt := now, leaseToken := none, startedAt := none }
  | cancelOpen _ reason now => { c with
      status := .cancelled, reasonCodes := [reason], finishedAt := some now, updatedAt := now,
      leaseToken := none }

/-- The update on one document. -/
def on (w : CheckpointWrite) (c : SecurityExecutionCheckpoint) : SecurityExecutionCheckpoint :=
  if guard c w then apply c w else c

end CheckpointWrite
end ApiManger.Scheduler
