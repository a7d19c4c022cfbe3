import ApiManger.Python.Value

/-!
# The stored documents

The Mongo documents of `apiAnalysis/db/collection.py` that the execution path reads
and writes, with the fields it reads and writes. An `ObjectId` is a number: only
equality is used. A lease token stands for a `uuid4().hex`. A `datetime` is a number
of seconds. An unset field is `none` or the empty string, as the code reads it.
-/

namespace ApiManger.Store
open Python

abbrev ObjectId := Nat
abbrev Token := Nat
abbrev Timestamp := Int

/-- `security_test_run.status`. -/
inductive RunStatus where
  | preparing | queued | running | cancelRequested | cancelled | paused | done | failed
  deriving DecidableEq

/-- `security_execution_checkpoint.status`. -/
inductive CheckpointStatus where
  | pending | running | done | error | skipped | cancelled
  deriving DecidableEq

def finalRunStatuses : List RunStatus := [.done, .failed, .cancelled]

def RunStatus.isFinal (s : RunStatus) : Bool := s ∈ finalRunStatuses

/-- The statuses `_finish_checkpoint` leaves behind; nothing moves a checkpoint out of them. -/
def CheckpointStatus.isFinal : CheckpointStatus → Bool
  | .pending | .running => false
  | .done | .error | .skipped | .cancelled => true

/-- An open checkpoint still has work to do. -/
def CheckpointStatus.isOpen (s : CheckpointStatus) : Bool := !s.isFinal

@[simp] theorem CheckpointStatus.isOpen_iff {s : CheckpointStatus} :
    s.isOpen = true ↔ s = .pending ∨ s = .running := by cases s <;> simp [isOpen, isFinal]

@[simp] theorem RunStatus.isFinal_iff {s : RunStatus} :
    s.isFinal = true ↔ s = .done ∨ s = .failed ∨ s = .cancelled := by
  cases s <;> simp [isFinal, finalRunStatuses]

/-- The six case counters of a run (`CHECKPOINT_COUNT_FIELDS`). -/
structure Counts where
  pendingCases : Nat
  runningCases : Nat
  completedCases : Nat
  failedCases : Nat
  skippedCases : Nat
  cancelledCases : Nat

/-- The counter that `CHECKPOINT_COUNT_FIELDS` keeps for a status. -/
def Counts.of (c : Counts) : CheckpointStatus → Nat
  | .pending => c.pendingCases
  | .running => c.runningCases
  | .done => c.completedCases
  | .error => c.failedCases
  | .skipped => c.skippedCases
  | .cancelled => c.cancelledCases

def Counts.total (c : Counts) : Nat :=
  c.pendingCases + c.runningCases + c.completedCases + c.failedCases + c.skippedCases
    + c.cancelledCases

/-- The stop counters of one host (`HostPolicyCoordinator._states`, without pacing). -/
structure HostState where
  host : String
  transportErrors : Int
  rateLimits : Int
  serverErrors : Int
  stoppedReason : String
  deriving DecidableEq

/-- `ExecutionPolicy`, in a run as its `execution_policy`. -/
structure ExecutionPolicy where
  maxWorkers : Int := 8
  perHostWorkers : Int := 4
  minIntervalMs : Int := 25
  requestTimeoutSeconds : Int := 5
  leaseSeconds : Int := 60
  transportErrorStop : Int := 2
  rateLimitStop : Int := 3
  serverErrorStop : Int := 3
  maxDispatchAttempts : Int := 3
  allowMutation : Bool := false
  mutationAcknowledged : Bool := false

/-- The value of `idempotency_key`: chosen by the caller, or the SHA-256 of a payload. A digest
is represented by the payload it was computed from, which takes SHA-256 as collision free. -/
inductive IdempotencyKey where
  | explicit (text : String)
  | content (payload : Json)
  /-- `retry_execution`: the run retried and a fresh `uuid4`. -/
  | retry (run : ObjectId) (nonce : Token)
  deriving DecidableEq

structure SecurityTestRun where
  id : ObjectId
  checkType : String
  projectId : String
  envId : String := ""
  accountId : String := ""
  authMode : String := "inherit"
  authProviderId : String := ""
  authContextRef : String := ""
  authProfileRevisionId : String := ""
  authRealmRevisionId : String := ""
  authAdapterVersionId : String := ""
  adapterId : String := ""
  adapterVersion : String := ""
  evidenceRef : String := ""
  operator : String := ""
  retryOfRunId : Option ObjectId := none
  status : RunStatus := .running
  schedulerManaged : Bool := false
  idempotencyKey : Option IdempotencyKey := none
  queueName : String := "snapshot"
  priority : Int := 100
  snapshotIds : List ObjectId := []
  executionPolicy : ExecutionPolicy := {}
  totalCases : Nat := 0
  counts : Counts := ⟨0, 0, 0, 0, 0, 0⟩
  dispatchAttempt : Nat := 0
  maxDispatchAttempts : Int := 3
  leaseOwner : String := ""
  leaseToken : Option Token := none
  leaseExpiresAt : Option Timestamp := none
  heartbeatAt : Option Timestamp := none
  queuedAt : Option Timestamp := none
  updatedAt : Timestamp := 0
  cancelReason : String := ""
  lastErrorType : String := ""
  pauseCode : String := ""
  dependencyType : String := ""
  dependencyId : String := ""
  dependencyRevisionId : String := ""
  hostState : List HostState := []
  startedAt : Option Timestamp := none
  finishedAt : Option Timestamp := none

structure SecurityExecutionCheckpoint where
  id : ObjectId
  runId : ObjectId
  snapshotId : ObjectId
  projectId : String := ""
  envId : String := ""
  pathid : Int := 0
  ordinal : Nat := 0
  host : String := ""
  status : CheckpointStatus := .pending
  attemptCount : Nat := 0
  leaseToken : Option Token := none
  resultId : Option ObjectId := none
  reasonCodes : List String := []
  outcomeSummary : Dict := []
  errorType : String := ""
  startedAt : Option Timestamp := none
  finishedAt : Option Timestamp := none
  updatedAt : Timestamp := 0

/-- `request_snapshot`. `urlHostname` and `urlPath` are what `urlsplit(url)` gives. -/
structure RequestSnapshot where
  id : ObjectId
  pathid : Int := 0
  projectId : String := ""
  envId : String := ""
  accountId : String := ""
  authProviderId : String := ""
  authContextRef : String := ""
  authProfileRevisionId : String := ""
  authRealmRevisionId : String := ""
  authAdapterVersionId : String := ""
  method : String := "GET"
  path : String := ""
  domain : String := ""
  urlHostname : String := ""
  urlPath : String := ""
  url : String := ""
  pathParams : Dict := []
  query : Dict := []
  body : Dict := []
  parameterSources : Dict := []
  metadata : Dict := []

structure SecurityTestResult where
  id : ObjectId
  runId : ObjectId
  executionKey : Option String := none
  projectId : String := ""
  envId : String := ""
  accountId : String := ""
  authMode : String := ""
  authProviderId : String := ""
  snapshotId : Option ObjectId := none
  caseName : String
  checkType : String
  target : Dict := []
  method : String := ""
  verdict : String
  outcomeClass : String := ""
  priority : String := ""
  severity : String := ""
  confidence : Rat := 0
  reasonCodes : List String := []
  evidenceSummary : Dict := []
  evidenceRef : String := ""
  relatedPathid : Option Int := none
  relatedVulnId : Option ObjectId := none
  ctime : Timestamp := 0
  deriving DecidableEq

/-- `parameter_relation`, as far as a scheduled validation run touches it. -/
structure ParameterRelation where
  id : ObjectId
  lastValidationRunId : Option ObjectId := none
  preprocessStatus : String := ""
  preprocessReasonCodes : List String := []
  mtime : Timestamp := 0

end ApiManger.Store
