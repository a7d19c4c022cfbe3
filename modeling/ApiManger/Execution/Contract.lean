import ApiManger.Store.Documents

/-!
# Policies, contexts, adapters and results

The checked values that enter the scheduler: `ExecutionPolicy` and
`ExecutionContext` with their `validate`, `ExecutionAdapter` with the admission
check of a claimed run, and the `security_test_result` document that
`record_execution_result_input` builds from an `ExecutionResultInput`.
-/

namespace ApiManger.Execution
open Python Store

/-- A list of checks in order: the first that fails raises `ValueError` with its message. -/
def requireAll : List (Bool × String) → Except PyError Unit
  | [] => .ok ()
  | (ok, message) :: rest => if ok then requireAll rest else .error (.valueError message)

theorem requireAll_ok {checks : List (Bool × String)} :
    requireAll checks = .ok () ↔ ∀ c ∈ checks, c.1 = true := by
  induction checks with
  | nil => simp [requireAll]
  | cons c rest ih =>
    obtain ⟨ok, message⟩ := c
    cases ok <;> simp [requireAll, ih]

/-- A range check of `ExecutionPolicy.validate`. -/
def between (lo : Int) (value : Int) (hi : Int) : Bool := decide (lo ≤ value) && decide (value ≤ hi)

/-- `ExecutionPolicy.validate`. -/
def validatePolicy (p : ExecutionPolicy) : Except PyError Unit := requireAll [
  (between 1 p.maxWorkers 64, "max_workers must be between 1 and 64"),
  (between 1 p.perHostWorkers p.maxWorkers, "per_host_workers must be between 1 and max_workers"),
  (between 0 p.minIntervalMs 60000, "min_interval_ms must be between 0 and 60000"),
  (between 1 p.requestTimeoutSeconds 300, "request_timeout_seconds must be between 1 and 300"),
  (between 15 p.leaseSeconds 3600, "lease_seconds must be between 15 and 3600"),
  (between 0 p.transportErrorStop 100, "transport_error_stop must be between 0 and 100"),
  (between 0 p.rateLimitStop 100, "rate_limit_stop must be between 0 and 100"),
  (between 0 p.serverErrorStop 100, "server_error_stop must be between 0 and 100"),
  (between 1 p.maxDispatchAttempts 20, "max_dispatch_attempts must be between 1 and 20"),
  (!p.allowMutation || p.mutationAcknowledged,
    "mutation execution requires explicit acknowledgement")]

/-- The default policy passes its own check. -/
theorem validatePolicy_default : validatePolicy {} = .ok () := by decide

/-- The attempt bound of a valid policy is at least one. -/
theorem validatePolicy_attempts {p : ExecutionPolicy} (h : validatePolicy p = .ok ()) :
    1 ≤ p.maxDispatchAttempts := by
  have checks := requireAll_ok.mp h
  have attempts : between 1 p.maxDispatchAttempts 20 = true :=
    checks (between 1 p.maxDispatchAttempts 20, "max_dispatch_attempts must be between 1 and 20")
      (by simp)
  simp only [between, Bool.and_eq_true, decide_eq_true_eq] at attempts
  exact attempts.1

/-- `ExecutionPolicy.from_dict` of a stored policy. -/
def policyFromDict (p : ExecutionPolicy) : Except PyError ExecutionPolicy :=
  (validatePolicy p).map fun _ => p

def authModes : List String := ["anonymous", "account", "inherit", "matrix"]

structure ExecutionContext where
  projectId : String
  envId : String := ""
  accountId : String := ""
  authMode : String := "inherit"
  authProviderId : String := ""
  authContextRef : String := ""
  authProfileRevisionId : String := ""
  authRealmRevisionId : String := ""
  authAdapterVersionId : String := ""
  adapterId : String := "snapshot_batch"
  adapterVersion : String := "1"
  planVersion : String := ""
  planSha256 : String := ""
  parentRunId : Option ObjectId := none
  retryOfRunId : Option ObjectId := none

def anySet (values : List String) : Bool := values.any (· != "")
def allSet (values : List String) : Bool := values.all (· != "")

def ExecutionContext.validate (c : ExecutionContext) : Except PyError Unit :=
  let accountRefs := [c.accountId, c.authProviderId, c.authContextRef]
  let versionRefs := [c.authProfileRevisionId, c.authRealmRevisionId, c.authAdapterVersionId]
  requireAll [
    (c.projectId != "", "project_id is required"),
    (authModes.contains c.authMode, "unsupported auth_mode: " ++ c.authMode),
    (!(c.authMode == "anonymous" && anySet accountRefs),
      "anonymous execution cannot bind account context"),
    (!(c.authMode == "account" && !allSet [c.envId, c.accountId, c.authProviderId]),
      "account auth requires env_id, account_id and auth_provider_id"),
    (!(c.authMode == "matrix" && anySet (accountRefs ++ versionRefs)),
      "matrix execution binds principals per case, not one run-level account"),
    (!(c.authMode != "account" && anySet [c.authProviderId, c.authContextRef]),
      "auth provider references require account auth_mode"),
    (!(c.authMode != "account" && anySet versionRefs),
      "auth version references require account auth_mode"),
    (!(c.authProviderId == "auth_recipe" && !allSet versionRefs),
      "recipe auth requires pinned profile, realm and adapter versions")]

/-- A verdict with its reason codes and confidence. -/
structure Judgement where
  verdict : String
  reasons : List String
  confidence : Rat

/-- The two values of `request_policy_scope`. -/
inductive RequestPolicyScope where
  | checkpoint | request
  deriving DecidableEq

/-- `ExecutionAdapter`. `replay` and the body of the `record` hook reach outside the process and
are inputs of the model; `hasRecord` says whether there is a hook. -/
structure ExecutionAdapter where
  adapterId : String
  adapterVersion : String
  judge : Dict → String → String → Except PyError Judgement
  authModes : List String
  requiresAccountContext : Bool := false
  supportsMutation : Bool := false
  requestPolicyScope : RequestPolicyScope := .checkpoint
  hasRecord : Bool := false

def ExecutionAdapter.validate (a : ExecutionAdapter) (run : SecurityTestRun) (allowMutation : Bool) :
    Except PyError Unit := do
  if run.adapterId != a.adapterId then
    throw (.executionAdapterError "UnsupportedExecutionAdapter")
  if (if run.adapterVersion == "" then "1" else run.adapterVersion) != a.adapterVersion then
    throw (.executionAdapterError "UnsupportedExecutionAdapterVersion")
  let authMode := if run.authMode == "" then "inherit" else run.authMode
  if !a.authModes.contains authMode then
    throw (.executionAdapterError "ExecutionAdapterAuthModeMismatch")
  if allowMutation && !a.supportsMutation then
    throw (.executionAdapterError "ExecutionAdapterMutationMismatch")

def builtinExecutionAdapters (judge : Dict → String → String → Except PyError Judgement) :
    List ExecutionAdapter := [
  { adapterId := "snapshot_batch", adapterVersion := "1", judge := judge,
    authModes := ["anonymous", "inherit"], supportsMutation := true },
  { adapterId := "authenticated_snapshot_batch", adapterVersion := "1", judge := judge,
    authModes := ["account"], requiresAccountContext := true, supportsMutation := true }]

def verdictOutcomeMap : List (String × String) := [
  ("potential_vuln", "candidate"), ("need_review", "review"), ("no_vuln", "pass"),
  ("not_evaluable", "blocked"), ("error", "error"), ("isolated_not_found", "pass"),
  ("isolated_blocked", "pass"), ("blocked_own_data", "pass"),
  ("relation_verified", "informational"), ("blocked_empty", "blocked"),
  ("rejected_input", "blocked"), ("PARTIAL_IDOR_PARAM", "candidate"),
  ("UNAUTH_EXPOSURE", "candidate"), ("review", "review")]

def projectOutcomeClass (verdict : String) : String :=
  (verdictOutcomeMap.lookup verdict).getD "informational"

structure ExecutionResultInput where
  caseName : String
  checkType : String
  verdict : String
  target : Dict := []
  method : String := ""
  evidenceSummary : Dict := []
  evidenceRef : String := ""
  reasonCodes : List String := []
  confidence : Rat := 0
  priority : String := ""
  severity : String := ""
  relatedPathid : Option Int := none
  executionKey : String := ""

/-- `bool(text.strip())`. -/
def notBlank (text : String) : Bool := !(strip text).isEmpty

def ExecutionResultInput.validate (v : ExecutionResultInput) : Except PyError Unit := requireAll [
  (notBlank v.caseName, "case_name is required"),
  (notBlank v.checkType, "check_type is required"),
  (notBlank v.verdict, "verdict is required"),
  (decide (0 ≤ v.confidence) && decide (v.confidence ≤ 1), "confidence must be between 0 and 1"),
  (v.relatedPathid.all (decide <| 0 ≤ ·), "related_pathid must be non-negative")]

/-- `dict.update`. -/
def updateDict (base extra : Dict) : Dict := extra.foldl (fun d (k, v) => Dict.set d k v) base

/-- The document `record_execution_result_input` saves for a snapshot of the run. -/
def resultDocument (run : SecurityTestRun) (snapshot : RequestSnapshot) (v : ExecutionResultInput)
    (id : ObjectId) (now : Timestamp) : SecurityTestResult where
  id := id
  runId := run.id
  executionKey := if v.executionKey == "" then none else some v.executionKey
  projectId := run.projectId
  envId := run.envId
  accountId := run.accountId
  authMode := run.authMode
  authProviderId := run.authProviderId
  snapshotId := some snapshot.id
  caseName := v.caseName
  checkType := v.checkType
  target := updateDict [
    ("project_id", .str run.projectId), ("env_id", .str run.envId),
    ("account_id", .str run.accountId), ("auth_mode", .str run.authMode),
    ("auth_provider_id", .str run.authProviderId), ("auth_context_ref", .str run.authContextRef),
    ("snapshot_id", .str (toString snapshot.id)), ("pathid", .int snapshot.pathid)] v.target
  method := snapshot.method
  verdict := v.verdict
  outcomeClass := projectOutcomeClass v.verdict
  priority := v.priority
  severity := v.severity
  confidence := v.confidence
  reasonCodes := v.reasonCodes
  evidenceSummary := v.evidenceSummary
  evidenceRef := v.evidenceRef
  relatedPathid := some snapshot.pathid
  relatedVulnId := none
  ctime := now

end ApiManger.Execution
