import ApiManger.Scheduler.System

/-!
# The calls of the application

`enqueue_snapshot_batch`, `request_execution_cancel`, `resume_execution`,
`resume_auth_dependency`, `retry_execution`, `create_execution_run` and
`recover_expired_executions`, each as the sequence of Mongo operations it makes.
The Redis wake-up never changes what is stored and is left out.
-/

namespace ApiManger.Scheduler
open Python Store Execution Interleaving

/-! ## Enqueue -/

/-- The arguments of `enqueue_snapshot_batch`; an empty idempotency key is `none`. -/
structure EnqueueRequest where
  checkType : String
  context : ExecutionContext
  snapshotIds : List ObjectId
  policy : ExecutionPolicy := {}
  evidenceRef : String := ""
  operator : String := ""
  priority : Int := 100
  queueName : String := "snapshot"
  idempotencyKey : Option IdempotencyKey := none

/-- `normalize_snapshot_ids`: the first occurrence of each. -/
def normalizeSnapshotIds (ids : List ObjectId) : Except PyError (List ObjectId) :=
  if ids.isEmpty then .error (.valueError "at least one snapshot id is required")
  else .ok (ids.foldl (fun seen id => if seen.contains id then seen else seen ++ [id]) [])

def policyToDict (p : ExecutionPolicy) : Json := .obj [
  ("max_workers", .int p.maxWorkers), ("per_host_workers", .int p.perHostWorkers),
  ("min_interval_ms", .int p.minIntervalMs),
  ("request_timeout_seconds", .int p.requestTimeoutSeconds),
  ("lease_seconds", .int p.leaseSeconds), ("transport_error_stop", .int p.transportErrorStop),
  ("rate_limit_stop", .int p.rateLimitStop), ("server_error_stop", .int p.serverErrorStop),
  ("max_dispatch_attempts", .int p.maxDispatchAttempts),
  ("allow_mutation", .bool p.allowMutation),
  ("mutation_acknowledged", .bool p.mutationAcknowledged)]

def buildIdempotencyKey (c : ExecutionContext) (ids : List ObjectId) (checkType : String)
    (policy : ExecutionPolicy) : IdempotencyKey := .content <| .obj [
  ("project_id", .str c.projectId), ("env_id", .str c.envId), ("account_id", .str c.accountId),
  ("auth_mode", .str c.authMode), ("auth_provider_id", .str c.authProviderId),
  ("auth_context_ref", .str c.authContextRef),
  ("auth_profile_revision_id", .str c.authProfileRevisionId),
  ("auth_realm_revision_id", .str c.authRealmRevisionId),
  ("auth_adapter_version_id", .str c.authAdapterVersionId),
  ("adapter_id", .str c.adapterId), ("adapter_version", .str c.adapterVersion),
  ("plan_version", .str c.planVersion), ("plan_sha256", .str c.planSha256),
  ("check_type", .str checkType),
  ("snapshot_ids", .arr ((ids.insertionSort (· ≤ ·)).map fun id => .str (toString id))),
  ("policy", policyToDict policy)]

def snapshotHost (x : RequestSnapshot) : String :=
  (if x.domain != "" then x.domain else if x.urlHostname != "" then x.urlHostname else "<unknown>").map
    Char.toLower

/-- The account bindings a snapshot may carry, each with the value expected of it. -/
def accountBindings (c : ExecutionContext) (x : RequestSnapshot) : List (String × String) := [
  (x.accountId, c.accountId), (x.authProviderId, c.authProviderId),
  (x.authContextRef, if c.authContextRef != "" then c.authContextRef else c.accountId),
  (x.authProfileRevisionId, c.authProfileRevisionId),
  (x.authRealmRevisionId, c.authRealmRevisionId),
  (x.authAdapterVersionId, c.authAdapterVersionId)]

/-- `_load_and_validate_snapshots`, after the query. -/
def validateSnapshots (ids : List ObjectId) (c : ExecutionContext) (policy : ExecutionPolicy)
    (found : List RequestSnapshot) : Except PyError (List RequestSnapshot) := do
  let missing := ids.filter fun id => !found.any (·.id == id)
  if !missing.isEmpty then
    throw (.valueError ("snapshot ids not found: " ++ ",".intercalate ((missing.take 5).map toString)))
  let ordered := ids.filterMap fun id => found.find? (·.id == id)
  if ordered.any (·.projectId != c.projectId) then
    throw (.valueError "snapshot project does not match execution context")
  if c.envId != "" && ordered.any fun x => x.envId != "" && x.envId != c.envId then
    throw (.valueError "snapshot environment does not match execution context")
  if c.authMode == "account" && ordered.any fun x => (accountBindings c x).any fun (actual, expected) =>
      expected != "" && actual != "" && actual != expected then
    throw (.valueError "snapshot account binding does not match execution context")
  let unsafeFound := ordered.any isMutation
  if unsafeFound && !policy.allowMutation then
    throw (.valueError "mutation snapshots require an explicitly acknowledged policy")
  if unsafeFound && genericAdapters.contains c.adapterId && policy.maxDispatchAttempts != 1 then
    throw (.valueError "generic mutation batches require max_dispatch_attempts=1")
  return ordered

variable (id : ObjectId) (run : SecurityTestRun)

/-- The checkpoint `_ensure_checkpoints` inserts for a snapshot that has none. -/
def newCheckpoint (ordinal : Nat) (x : RequestSnapshot) (now : Timestamp) :
    SecurityExecutionCheckpoint where
  id := 0
  runId := run.id
  snapshotId := x.id
  projectId := run.projectId
  envId := run.envId
  pathid := x.pathid
  ordinal := ordinal
  host := snapshotHost x
  updatedAt := now

/-- `_ensure_checkpoints`: one upsert for each snapshot; the bulk write is not ordered, so one that
fails does not keep the others back. -/
def ensureCheckpoints (snapshots : List RequestSnapshot) : Code Unit := do
  let now ← utcnow
  Prog.bulk (fun (x, ordinal) => upsertCheckpoint (newCheckpoint run ordinal x now))
    snapshots.zipIdx

/-- The document `enqueue_snapshot_batch` inserts. -/
def preparingRun (q : EnqueueRequest) (ids : List ObjectId) (key : IdempotencyKey) (now : Timestamp) :
    SecurityTestRun where
  id := 0
  checkType := q.checkType
  projectId := q.context.projectId
  envId := q.context.envId
  accountId := q.context.accountId
  authMode := q.context.authMode
  authProviderId := q.context.authProviderId
  authContextRef := q.context.authContextRef
  authProfileRevisionId := q.context.authProfileRevisionId
  authRealmRevisionId := q.context.authRealmRevisionId
  authAdapterVersionId := q.context.authAdapterVersionId
  adapterId := q.context.adapterId
  adapterVersion := q.context.adapterVersion
  evidenceRef := q.evidenceRef
  operator := q.operator
  retryOfRunId := q.context.retryOfRunId
  status := .preparing
  schedulerManaged := true
  idempotencyKey := some key
  queueName := q.queueName
  priority := q.priority
  snapshotIds := ids
  executionPolicy := q.policy
  totalCases := ids.length
  counts := ⟨ids.length, 0, 0, 0, 0, 0⟩
  maxDispatchAttempts := q.policy.maxDispatchAttempts
  startedAt := none
  updatedAt := now

/-- The run a preparing run has become. -/
def reload : Code SecurityTestRun := do
  let found ← findRun (.byId id)
  match found with
  | some run => return run
  | none => throw (.other "DoesNotExist")

/-- The end of `enqueue_snapshot_batch`: create the checkpoints, then queue the run. -/
def queuePrepared (snapshots : List RequestSnapshot) (pending : Nat) :
    Code SecurityTestRun := do
  if run.status == .preparing then
    ensureCheckpoints run snapshots
    let now ← utcnow
    let _ ← updateRun (.enqueueQueued run.id now pending)
    reload run.id
  else return run

/-- `run.save(force_insert=True)`, or the run that already has the key. -/
def insertOrFind (key : IdempotencyKey) : Code (SecurityTestRun × Bool) :=
  Prog.handle (do let stored ← insertRun run; return (stored, true)) fun e => do
    if e = notUniqueError then
      let found ← findRun (.byKey key)
      match found with
      | some stored => return (stored, false)
      | none => throw e
    else throw e

/-- Equality of `{str(item) for item in ids}`. -/
def sameSnapshots (a b : List ObjectId) : Bool := a.all b.contains && b.all a.contains

def enqueueSnapshotBatch (q : EnqueueRequest) : Code (SecurityTestRun × Bool) := do
  ofExcept q.context.validate
  ofExcept (validatePolicy q.policy)
  let ids ← ofExcept (normalizeSnapshotIds q.snapshotIds)
  let found ← findSnapshots ids
  let snapshots ← ofExcept (validateSnapshots ids q.context q.policy found)
  let key := q.idempotencyKey.getD (buildIdempotencyKey q.context ids q.checkType q.policy)
  let found ← findRun (.byKey key)
  match found with
  | some existing =>
    if !sameSnapshots existing.snapshotIds ids then
      throw (.valueError "idempotency_key already used with different snapshot_ids")
    else if existing.status != .preparing then return (existing, false)
    else
      let run ← queuePrepared existing snapshots ids.length
      return (run, false)
  | none =>
    let now ← utcnow
    let (run, created) ← insertOrFind (preparingRun q ids key now) key
    let run ← queuePrepared run snapshots ids.length
    return (run, created)

/-! ## Cancel, resume, retry -/

def finalizeCancelledRun (run : ObjectId) (reason : String) : Code Unit := do
  let now ← utcnow
  updateCheckpoints (.cancelOpen run reason now)
  let counts ← checkpointCounts run
  let _ ← updateRun (.finalizeCancelled run counts now)

/-- A worker may hold the run: ask it to stop. -/
def markCancelRequested (run : ObjectId) (reason : String) : Code Unit := do
  let now ← utcnow
  let _ ← updateRun (.requestCancel run reason now)

/-- Stop a run that is not final: at once where no worker holds it. -/
def stopRun (reason : String) : Code Unit :=
  if run.status == .preparing || run.status == .queued || run.status == .paused then
    finalizeCancelledRun run.id reason
  else markCancelRequested run.id reason

def requestExecutionCancel (reason : String) : Code (Option SecurityTestRun) := do
  let found ← findRun (.managed id)
  match found with
  | none => return none
  | some run =>
    if run.status.isFinal then return some run
    else
      stopRun run reason
      findRun (.byId run.id)

def resumeExecution : Code (Option SecurityTestRun) := do
  let found ← findRun (.managed id)
  match found with
  | none => return none
  | some run =>
    Prog.when (run.status == .paused) do
      let now ← utcnow
      let changed ← updateRun (.resume run.id now)
      Prog.when changed (syncParameterRelationRunState run "running" "resumed")
    findRun (.byId run.id)

def resumeAuthDependency (revision : String) : Code (Option SecurityTestRun) := do
  if revision == "" then findRun (.byId id)
  else
    let found ← findRun (.pausedOn id revision)
    match found with
    | none => findRun (.byId id)
    | some run =>
      let now ← utcnow
      let changed ← updateRun (.resumeAuth run.id revision now)
      Prog.when changed (syncParameterRelationRunState run "running" "auth_repaired")
      findRun (.byId run.id)

/-- The context `retry_execution` derives from the old run. -/
def retryContext (old : SecurityTestRun) : ExecutionContext where
  projectId := old.projectId
  envId := old.envId
  accountId := old.accountId
  authMode := old.authMode
  authProviderId := old.authProviderId
  authContextRef := old.authContextRef
  authProfileRevisionId := old.authProfileRevisionId
  authRealmRevisionId := old.authRealmRevisionId
  authAdapterVersionId := old.authAdapterVersionId
  adapterId := if old.adapterId == "" then "snapshot_batch" else old.adapterId
  adapterVersion := if old.adapterVersion == "" then "1" else old.adapterVersion
  parentRunId := some old.id
  retryOfRunId := some old.id

def retryExecution (statuses : List CheckpointStatus) (operator : String) :
    Code (SecurityTestRun × Bool) := do
  let found ← findRun (.managed id)
  match found with
  | none => throw (.valueError "scheduled run not found")
  | some old =>
    let checkpoints ← findCheckpoints old.id statuses
    if checkpoints.isEmpty then throw (.valueError "no checkpoints match retry statuses")
    else
      let policy ← ofExcept (policyFromDict old.executionPolicy)
      let nonce ← uuid4
      enqueueSnapshotBatch {
        checkType := old.checkType, context := retryContext old,
        snapshotIds := checkpoints.map (·.snapshotId), policy := policy,
        evidenceRef := old.evidenceRef, operator := operator, priority := old.priority,
        queueName := old.queueName, idempotencyKey := some (.retry old.id nonce) }

/-- `create_execution_run`, the retired chain: a running run without a scheduler. -/
def createExecutionRun (checkType : String) (c : ExecutionContext) : Code SecurityTestRun := do
  ofExcept c.validate
  let now ← utcnow
  insertRun {
    id := 0, checkType := checkType, projectId := c.projectId, envId := c.envId,
    accountId := c.accountId, authMode := c.authMode, authProviderId := c.authProviderId,
    authContextRef := c.authContextRef, authProfileRevisionId := c.authProfileRevisionId,
    authRealmRevisionId := c.authRealmRevisionId, authAdapterVersionId := c.authAdapterVersionId,
    adapterId := c.adapterId, adapterVersion := c.adapterVersion, status := .running,
    startedAt := some now, updatedAt := now }

/-! ## Recovery -/

/-- A preparing run left behind: complete it, or fail it when a snapshot is gone. -/
def recoverPreparing (now : Timestamp) (run : SecurityTestRun) : Code Unit := do
  let snapshots ← findSnapshots run.snapshotIds
  if run.snapshotIds.isEmpty || snapshots.length != run.snapshotIds.length then
    let _ ← updateRun (.preparingFailed run.id now)
  else
    ensureCheckpoints run (run.snapshotIds.filterMap fun id => snapshots.find? (·.id == id))
    let _ ← updateRun (.preparingQueued run.id now run.snapshotIds.length)

/-- `_count_updates` after a requeue. -/
def refreshCounts (run : ObjectId) : Code Unit := do
  let counts ← checkpointCounts run
  let _ ← updateRun (.refreshCounts run counts)

/-- A run whose lease had expired: its held checkpoints first, then the run itself. -/
def recoverExpired (now : Timestamp) (run : SecurityTestRun) : Code Unit := do
  updateCheckpoints (.releaseHeld run.id run.leaseToken none now)
  let changed ← updateRun (.requeueExpired run.id run.leaseToken now)
  Prog.when changed (refreshCounts run.id)

/-- A running run without a lease. -/
def recoverOrphan (now cutoff : Timestamp) (run : SecurityTestRun) : Code Unit := do
  updateCheckpoints (.releaseAll run.id now)
  let changed ← updateRun (.requeueOrphan run.id cutoff now)
  Prog.when changed (refreshCounts run.id)

/-- A stale run of the retired chain. -/
def expireLegacy (now cutoff : Timestamp) (run : SecurityTestRun) : Code Unit := do
  let _ ← updateRun (.expireLegacy run.id cutoff now)

/-- A requested cancel whose worker is gone. -/
def recoverCancelled : Code Unit :=
  finalizeCancelledRun run.id (if run.cancelReason == "" then "cancel_requested" else run.cancelReason)

/-- `recover_expired_executions`; every caller leaves `now` to the clock. -/
def recoverExpiredExecutions (queue : String) (orphanGrace legacyStale : Int) : Code Unit := do
  let now ← utcnow
  let preparing ← queryRuns (.preparing (now - 300) queue)
  Prog.forEach (recoverPreparing now) preparing
  let expired ← queryRuns (.expired now queue)
  Prog.forEach (recoverExpired now) expired
  let orphanCutoff := now - max 60 orphanGrace
  let orphaned ← queryRuns (.orphaned orphanCutoff queue)
  Prog.forEach (recoverOrphan now orphanCutoff) orphaned
  let legacyCutoff := now - max 3600 legacyStale
  let legacy ← queryRuns (.legacy legacyCutoff)
  Prog.forEach (expireLegacy now legacyCutoff) legacy
  let cancelRequested ← queryRuns (.cancelRequested now queue)
  Prog.forEach recoverCancelled cancelRequested

end ApiManger.Scheduler
