import ApiManger.Scheduler.Requests

/-!
# The worker

`ExecutionWorker`: one checkpoint in a pool thread, one run with its thread pool,
one dispatch. A `while` loop takes the number of its rounds from outside and waits
for ever when they are used up, so a loop that never ends is a thread that never
answers. The summary of a finished run and the request trace are displayed only
and are left out.
-/

namespace ApiManger.Scheduler
open Python Store Execution Interleaving

/-! ## Recording a result -/

/-- The result already stored under an execution key. -/
def existingResult (key : String) : Code (Option SecurityTestResult) :=
  if key == "" then return none else findResult key

/-- `result.save(force_insert=True)`, or the result that already has the key. -/
def insertOrFindResult (result : SecurityTestResult) (key : String) : Code SecurityTestResult :=
  Prog.handle (insertResult result) fun e => do
    if e = notUniqueError && key != "" then
      let found ← findResult key
      match found with
      | some stored => return stored
      | none => throw e
    else throw e

def recordExecutionResultInput (run : SecurityTestRun) (snapshot : RequestSnapshot)
    (value : ExecutionResultInput) : Code SecurityTestResult := do
  ofExcept value.validate
  let existing ← existingResult value.executionKey
  match existing with
  | some existing => return existing
  | none =>
    let now ← utcnow
    insertOrFindResult (resultDocument run snapshot value 0 now) value.executionKey

/-! ## One checkpoint -/

/-- What `_execute_checkpoint` returns. -/
inductive CheckpointOutcome where
  | notClaimed | authPaused
  | status (s : CheckpointStatus)

def executionKey (run : ObjectId) (snapshot : ObjectId) : String :=
  toString run ++ ":" ++ toString snapshot

def finishCheckpoint (checkpoint : ObjectId) (token : Token) (status : CheckpointStatus)
    (reasons : List String) (summary : Dict) (result : Option ObjectId) (errorType : String) :
    Code Unit := do
  let now ← utcnow
  updateCheckpoints (.finish checkpoint token status reasons summary result errorType now)

/-- A held checkpoint back to pending. -/
def releaseCheckpoint (checkpoint : ObjectId) (token : Token) (reason : String)
    (errorType : Option String) : Code Unit := do
  let now ← utcnow
  updateCheckpoints (.release checkpoint token reason errorType now)

/-- The status of a checkpoint whose summary has this error. -/
def statusOfError (failed : Bool) : CheckpointStatus := if failed then .error else .done

def existingStatus (existing : SecurityTestResult) : CheckpointStatus :=
  statusOfError (existing.verdict == "error" || Dict.truthy existing.evidenceSummary "error_type")

variable (job : Job) (checkpoint : SecurityExecutionCheckpoint) (claimed : ClaimedRun)
  (snapshot : RequestSnapshot)

/-- The checkpoint already has a result: finish it from there. -/
def finishFromExisting
    (existing : SecurityTestResult) : Code CheckpointOutcome := do
  Prog.when (job.adapter.requestPolicyScope = .checkpoint)
    (recordOutcome checkpoint.host existing.evidenceSummary)
  finishCheckpoint checkpoint.id job.claimed.token (existingStatus existing) existing.reasonCodes
    existing.evidenceSummary (some existing.id)
    (Dict.get existing.evidenceSummary "error_type").strOrEmpty
  return .status (existingStatus existing)

/-- `a.is_set() or b.is_set() or ...`. -/
def anyEventSet : List Event → Code Bool
  | [] => return false
  | e :: rest => do
    let found ← isSet e
    if found then return true else anyEventSet rest

def shouldAbort : Code Bool := anyEventSet [.cancel, .lost, .auth, .stop]

/-- Whether a checkpoint given up while the execution stops may be taken up again: then it goes
back to pending, otherwise it is cancelled. -/
def mayRunAgain : Code Bool := anyEventSet [.lost, .auth, .stop]

/-- Whether a refused checkpoint goes back to pending. -/
def blockedAgain (reason : String) : Code Bool :=
  if reason == "execution_stopping" then mayRunAgain else return false

def finishBlocked (reason : String) :
    Code CheckpointOutcome := do
  let again ← blockedAgain reason
  if again then
    releaseCheckpoint checkpoint.id job.claimed.token reason none
    return .status .pending
  else
    let status := if reason == "execution_stopping" then .cancelled else .skipped
    finishCheckpoint checkpoint.id job.claimed.token status [reason] [] none ""
    return .status status

/-- The execution was stopped while the checkpoint waited for its permit. -/
def abandonCheckpoint :
    Code CheckpointOutcome := do
  let again ← mayRunAgain
  if again then
    let auth ← isSet .auth
    releaseCheckpoint checkpoint.id job.claimed.token
      (if auth then "account_context_unavailable" else "lease_lost") none
    return .status .pending
  else
    finishCheckpoint checkpoint.id job.claimed.token .cancelled ["cancel_requested"] [] none ""
    return .status .cancelled

/-- The account context of a request; a missing one gives the checkpoint back. -/
def resolveContext :
    Code (Option CheckpointOutcome) :=
  if job.adapter.requiresAccountContext then
    Prog.handle (do resolveAccount checkpoint.host; return none) fun
      | .accountContextError cls => do
        noteAuthFailure cls
        setEvent .auth
        releaseCheckpoint checkpoint.id job.claimed.token "account_context_unavailable" (some cls)
        return some .authPaused
      | e => throw e
  else return none

/-- The adapters that get a `progress_callback`. -/
def progressAdapters : List String := ["parameter_relation_validation", "authorization_matrix"]

/-- `max(0, int(progress.get(key) or 0))`. -/
def boundedCount (progress : Dict) (key : String) : Except PyError Json :=
  (intOrZero progress key).map fun n => .int (max 0 n)

def safeProgress (progress : Dict) : Except PyError Dict := do
  let text (key : String) (bound : Nat) : Json :=
    .str ((Dict.get progress key).strOrEmpty.take bound).toString
  return [("phase", text "phase" 60), ("message", text "message" 240),
    ("request_count", ← boundedCount progress "request_count"),
    ("request_budget", ← boundedCount progress "request_budget"),
    ("attempt", ← boundedCount progress "attempt"), ("status_code", Dict.get progress "status_code")]

def reportProgress (progress : Dict) :
    Code Unit := do
  let summary ← ofExcept (safeProgress progress)
  let now ← utcnow
  updateCheckpoints (.progress checkpoint.id job.claimed.token summary now)

/-- Errors of a callback go back into the adapter, whose next step is free anyway. -/
def ignoringErrors (p : Code Unit) : Code Unit := Prog.handle p fun _ => return ()

/-- `adapter.replay`: whatever the adapter does, through its callbacks, until it returns or raises. -/
def replayLoop (job : Job) (checkpoint : SecurityExecutionCheckpoint) : Nat → Code Dict
  | 0 => do hang; return []
  | n + 1 => do
    let step ← replayStep
    match step with
    | .returned evidence => return evidence
    | .raised e => throw e
    | .progress progress =>
      Prog.when (progressAdapters.contains job.adapter.adapterId)
        (ignoringErrors (reportProgress job checkpoint progress))
      replayLoop job checkpoint n
    | .request =>
      Prog.when (job.adapter.requestPolicyScope = .request) (do let _ ← acquire checkpoint.host)
      replayLoop job checkpoint n
    | .requestDone evidence =>
      Prog.when (job.adapter.requestPolicyScope = .request)
        (ignoringErrors (recordOutcome checkpoint.host evidence))
      replayLoop job checkpoint n

def replay : Code Dict := do
  startReplay checkpoint.id
  let n ← rounds
  replayLoop job checkpoint n

def raisedEvidence (e : PyError) : Dict := [
  ("status_code", .null), ("ok", .bool false), ("elapsed_ms", .int 0), ("response_len", .int 0),
  ("domain", .str checkpoint.host), ("auth_mode", .str job.claimed.run.authMode),
  ("error_type", .str e.className)]

/-- How the guarded part of `_execute_checkpoint` ends: settled, or with evidence to judge. -/
inductive Attempt where
  | settled (outcome : CheckpointOutcome)
  | evidence (evidence : Dict)

/-- The `try` of `_execute_checkpoint`. -/
def attemptReplay : Code Attempt :=
  Prog.handle (do
      let aborting ← shouldAbort
      if aborting then
        let outcome ← abandonCheckpoint job checkpoint
        return .settled outcome
      else
        let unresolved ← resolveContext job checkpoint
        match unresolved with
        | some outcome => return .settled outcome
        | none =>
          let evidence ← replay job checkpoint
          return .evidence evidence)
    fun
    | .requestBlocked reason => do
      let outcome ← finishBlocked job checkpoint reason
      return .settled outcome
    | e => return .evidence (raisedEvidence job checkpoint e)

/-- The verdict of a first run, after the required-parameter gate. -/
def judge (evidence : Dict) : Except PyError Judgement := do
  let judgement ←
    if genericAdapters.contains job.adapter.adapterId && isMutation snapshot then
      classifyGenericMutationResult evidence
    else job.adapter.judge evidence job.claimed.run.checkType job.claimed.run.authMode
  return applyRequiredParameterGate judgement evidence

/-- The `result_target` of the evidence, where it is a dictionary. -/
def resultTarget (evidence : Dict) : Dict :=
  match Dict.get evidence "result_target" with
  | .obj target => target
  | _ => []

/-- The arguments of `record_execution_result`. -/
def resultInput
    (evidence summary : Dict) (j : Judgement) : ExecutionResultInput where
  caseName := snapshot.method ++ " " ++
    (if snapshot.path == "" then snapshot.urlPath else snapshot.path)
  checkType := job.claimed.run.checkType
  verdict := j.verdict
  evidenceSummary := summary
  target := resultTarget evidence
  evidenceRef := job.claimed.run.evidenceRef
  reasonCodes := j.reasons
  confidence := j.confidence
  executionKey := executionKey job.claimed.run.id checkpoint.snapshotId

/-- `checkpoint_status` of a first run. -/
def firstRunStatus (summary : Dict) : CheckpointStatus :=
  statusOfError (Dict.truthy summary "error_type")

/-- Judge the evidence, store the result and finish the checkpoint. -/
def recordFirstRun (evidence : Dict) : Code CheckpointOutcome := do
  Prog.when (job.adapter.requestPolicyScope = .checkpoint) (recordOutcome checkpoint.host evidence)
  let evidence := withParameterQuality evidence
    (requiredParameterQualitySummary snapshot.parameterSources)
  let summary ← ofExcept (sanitizeExecutionEvidence evidence)
  let judgement ← ofExcept (judge job snapshot evidence)
  let result ← recordExecutionResultInput job.claimed.run snapshot
    (resultInput job checkpoint snapshot evidence summary judgement)
  Prog.when job.adapter.hasRecord (recordHook result.id)
  finishCheckpoint checkpoint.id job.claimed.token (firstRunStatus summary) judgement.reasons summary
    (some result.id) (Dict.get summary "error_type").strOrEmpty
  return .status (firstRunStatus summary)

/-- The reason for which the checkpoint gets no permit; an adapter may ask for one per request
instead. -/
def refusePermit : Code (Option String) :=
  if job.adapter.requestPolicyScope = .checkpoint then acquire checkpoint.host else return none

/-- A checkpoint without a result: get a permit, replay, record. -/
def executeFirstRun : Code CheckpointOutcome := do
  let refusal ← refusePermit job checkpoint
  match refusal with
  | some reason => finishBlocked job checkpoint reason
  | none =>
    let attempt ← attemptReplay job checkpoint
    match attempt with
    | .settled outcome => return outcome
    | .evidence evidence => recordFirstRun job checkpoint snapshot evidence

def executeCheckpoint (id : ObjectId) : Code CheckpointOutcome := do
  let now ← utcnow
  let claimed ← claimCheckpoint id job.claimed.run.id job.claimed.token now
  match claimed with
  | none => return .notClaimed
  | some ⟨checkpoint, _, _⟩ =>
    let existing ← findResult (executionKey job.claimed.run.id checkpoint.snapshotId)
    match existing with
    | some existing => finishFromExisting job checkpoint existing
    | none =>
      let snapshots ← findSnapshots [checkpoint.snapshotId]
      match snapshots with
      | snapshot :: _ => executeFirstRun job checkpoint snapshot
      | [] =>
        finishCheckpoint checkpoint.id job.claimed.token .error ["snapshot_not_found"] [] none
          "SnapshotNotFound"
        return .status .error

/-- A pool thread: the future keeps the exception, if there was one. -/
def poolThread (id : ObjectId) : Code Unit := do
  let exception ← Prog.handle (do let _ ← executeCheckpoint job id; return none) fun e =>
    return some e
  complete exception

/-! ## One run -/

/-- `_HeartbeatThread.run`. -/
def heartbeatLoop (job : Job) : Nat → Code Unit
  | 0 => hang
  | n + 1 => do
    let closed ← heartbeatWait
    if closed then return ()
    else
      let renewed ← heartbeatExecution job.claimed.run.id job.claimed.token job.leaseSeconds
      if renewed then heartbeatLoop job n else setEvent .lost

def heartbeatThread : Code Unit := do
  let n ← rounds
  heartbeatLoop job n

def markFutureFailure (id : ObjectId) (e : PyError) : Code Unit := do
  let held ← findHeld id job.claimed.token
  match held with
  | some ⟨checkpoint, _⟩ =>
    finishCheckpoint checkpoint.id job.claimed.token .error ["worker_case_failure"] [] none e.className
  | none => return ()

def syncCounts (run : ObjectId) : Code Unit := do
  let counts ← checkpointCounts run
  let now ← utcnow
  let hosts ← hostState
  let _ ← updateRun (.syncCounts run counts hosts now)

def pollStatus (run : ObjectId) : Code Unit := do
  let found ← findRun (.byId run)
  match found with
  | some current => Prog.when (current.status = .cancelRequested) (setEvent .cancel)
  | none => return ()

/-- The inner `while`: submit checkpoints as long as there is room and nothing stops. -/
def submitMore (maxWorkers : Int) : List ObjectId → Code (List ObjectId)
  | [] => return []
  | id :: rest => do
    let busy ← inFlight
    if (busy : Int) < maxWorkers then
      let stopping ← anyEventSet [.cancel, .lost, .auth]
      if stopping then return id :: rest
      else
        submit id
        submitMore maxWorkers rest
    else return id :: rest

/-- A finished future. -/
def collectFuture : ObjectId × Option PyError → Code Unit
  | (id, some e) => markFutureFailure job id e
  | (_, none) => return ()

/-- The outer `while`, with the checkpoints not submitted yet. -/
def dispatchLoop (job : Job) : Nat → List ObjectId → Code Unit
  | 0, _ => hang
  | n + 1, ids => do
    let busy ← inFlight
    if ids.isEmpty && busy == 0 then return ()
    else
      let stopping ← anyEventSet [.lost, .stop]
      Prog.when stopping (setEvent .cancel)
      let poll ← intervalPassed
      Prog.when poll (pollStatus job.claimed.run.id)
      let rest ← submitMore job.policy.maxWorkers ids
      let busy ← inFlight
      if busy == 0 then return ()
      else
        let done ← collectDone
        Prog.forEach (collectFuture job) done
        let sync ← intervalPassed
        Prog.when sync (syncCounts job.claimed.run.id)
        dispatchLoop job n rest

/-- What `execute_run` returns. -/
inductive RunOutcome where
  | leaseLost | workerStopped
  | status (s : RunStatus)

/-- All checkpoints the run holds under its token, back to pending. -/
def releaseHeld (reason : String) : Code Unit := do
  let now ← utcnow
  updateCheckpoints (.releaseHeld claimed.run.id (some claimed.token) (some reason) now)

/-- The lease was lost, or the worker stopped. -/
def settleStopped : Code RunOutcome := do
  releaseHeld job.claimed "lease_lost"
  syncCounts job.claimed.run.id
  let stop ← isSet .stop
  if stop then
    let lost ← isSet .lost
    if lost then return .leaseLost
    else
      let now ← utcnow
      let _ ← updateRun (.stopRequeue job.claimed.run.id job.claimed.token now)
      return .workerStopped
  else return .leaseLost

/-- The profile revision a paused run waits for. -/
def authDependency (run : SecurityTestRun) : String :=
  if run.authProfileRevisionId != "" then run.authProfileRevisionId else run.authContextRef

/-- The account context was lost on the way. -/
def settleAuthPause : Code RunOutcome := do
  let run := job.claimed.run
  releaseHeld job.claimed "account_context_unavailable"
  syncCounts run.id
  let failure ← authFailure
  let errorType := failure.getD "AccountContextUnavailable"
  let hosts ← hostState
  let now ← utcnow
  let _ ← updateRun (.pauseAuth run.id job.claimed.token errorType (authDependency run)
    run.authProfileRevisionId hosts now)
  syncParameterRelationRunState run "needs_context" errorType
  return .status .paused

/-- The final write. -/
def settleFinal (cancelled : Bool) : Code RunOutcome := do
  let run := job.claimed.run
  Prog.when cancelled do
    let now ← utcnow
    updateCheckpoints (.cancelOpen run.id "cancel_requested" now)
  syncCounts run.id
  let hosts ← hostState
  let now ← utcnow
  let _ ← updateRun (.finish run.id job.claimed.token cancelled hosts now)
  Prog.when cancelled (syncParameterRelationRunState run "automatic_failed" "cancelled")
  return .status (if cancelled then .cancelled else .done)

/-- `auth_failure_event.is_set() and not cancel_event.is_set()`. -/
def authFailed : Code Bool := do
  let auth ← isSet .auth
  if auth then
    let cancelled ← isSet .cancel
    return !cancelled
  else return false

/-- The end of `execute_run`, when no future is left. -/
def settleRun : Code RunOutcome := do
  let stopped ← anyEventSet [.lost, .stop]
  if stopped then settleStopped job
  else
    let pausing ← authFailed
    if pausing then settleAuthPause job
    else
      let cancelled ← isSet .cancel
      settleFinal job cancelled

/-- `execute_run` once the heartbeat thread is started. -/
def executeJob : Code RunOutcome := do
  startExecution job
  let pending ← findCheckpoints job.claimed.run.id [.pending]
  let n ← rounds
  Prog.finally_ (do
      Prog.finally_ (dispatchLoop job n (pending.map (·.id))) joinFutures
      settleRun job)
    closeHeartbeat

def executeRun (lease : Int) (claimed : ClaimedRun) (adapter : ExecutionAdapter) : Code RunOutcome := do
  let policy ← ofExcept (policyFromDict claimed.run.executionPolicy)
  let leaseSeconds := max lease policy.leaseSeconds
  let renewed ← heartbeatExecution claimed.run.id claimed.token leaseSeconds
  if renewed then executeJob ⟨claimed, adapter, policy, leaseSeconds⟩ else return .leaseLost

/-! ## One dispatch -/

def pauseClaimedRun (e : PyError) : Code Unit := do
  let now ← utcnow
  let _ ← updateRun (.pauseClaimed claimed.run.id claimed.token e.className
    (authDependency claimed.run) claimed.run.authProfileRevisionId now)
  let status := match e with
    | .accountContextError _ => "needs_context"
    | _ => "automatic_failed"
  syncParameterRelationRunState claimed.run status e.className

def allCheckpointStatuses : List CheckpointStatus :=
  [.pending, .running, .done, .error, .skipped, .cancelled]

def preflight (adapter : ExecutionAdapter) (policy : ExecutionPolicy) :
    Code Unit := do
  ofExcept (adapter.validate claimed.run policy.allowMutation)
  Prog.when adapter.requiresAccountContext do
    let checkpoints ← findCheckpoints claimed.run.id allCheckpointStatuses
    let hosts := ((checkpoints.map (·.host)).dedup).insertionSort (· ≤ ·)
    Prog.forEach resolveAccount (if hosts.isEmpty then [""] else hosts)
    let now ← utcnow
    let _ ← updateRun (.authReady claimed.run.id claimed.token now)

/-- `int(run.dispatch_attempt or 0) < int(run.max_dispatch_attempts or 3)`. -/
def retryable (run : SecurityTestRun) : Bool :=
  decide ((run.dispatchAttempt : Int) <
    if run.maxDispatchAttempts = 0 then 3 else run.maxDispatchAttempts)

def handleDispatchFailure (e : PyError) : Code Unit := do
  releaseHeld claimed "worker_dispatch_failure"
  let now ← utcnow
  let _ ← updateRun (.dispatchFailed claimed.run.id claimed.token (retryable claimed.run) e.className now)
  Prog.when (!retryable claimed.run)
    (syncParameterRelationRunState claimed.run "automatic_failed" e.className)

/-- An `ExecutionWorker`, as far as `run_once` depends on it. -/
structure WorkerSetup where
  workerId : String
  queueName : String := "snapshot"
  leaseSeconds : Int := 60
  adapters : List ExecutionAdapter := builtinExecutionAdapters classifyExecutionResult

/-- Whether the claimed run passed its admission; otherwise it is paused. -/
def admitRun (adapter : ExecutionAdapter) : Code Bool :=
  Prog.handle (do
      let policy ← ofExcept (policyFromDict claimed.run.executionPolicy)
      preflight claimed adapter policy
      return true)
    fun e => match e with
    | .executionAdapterError _ | .requestBlocked _ | .accountContextError _ => do
      pauseClaimedRun claimed e
      return false
    | e => throw e

def dispatchClaimed (setup : WorkerSetup) (claimed : ClaimedRun) : Code Unit := do
  match setup.adapters.find? (·.adapterId == claimed.run.adapterId) with
  | none => pauseClaimedRun claimed (.executionAdapterError "UnsupportedExecutionAdapter")
  | some adapter =>
    let admitted ← admitRun claimed adapter
    Prog.when admitted
      (Prog.handle (do let _ ← executeRun setup.leaseSeconds claimed adapter)
        (handleDispatchFailure claimed))

def runOnce (setup : WorkerSetup) : Code Unit := do
  recoverExpiredExecutions setup.queueName 300 86400
  let claimed ← claimNextExecution setup.workerId setup.queueName setup.leaseSeconds
  match claimed with
  | none => return ()
  | some claimed => dispatchClaimed setup claimed

end ApiManger.Scheduler
