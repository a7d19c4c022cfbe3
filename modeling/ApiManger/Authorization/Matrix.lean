import ApiManger.Scheduler.Worker

/-!
# The authorization matrix adapter

`apiAnalysis/tool/authorization_matrix.py`: what the adapter adds to the evidence of
a replay, its verdict, and the result a matrix run stores for one of its cases. The
replay itself (`replay_parameter_validation`) reaches outside the process, so its
evidence is arbitrary.
-/

namespace ApiManger.Authorization
open Python Store Execution Scheduler

def statusCode (evidence : Dict) (key : String) : Option Int := (Dict.get evidence key).toInt.toOption

/-- `200 <= status < 300`. -/
def isSuccess (status : Int) : Bool := decide (200 ≤ status) && decide (status < 300)

def observeAuthorizationDecision (evidence : Dict) : Except PyError String :=
  if !(statusCode evidence "source_status_code").any isSuccess then .ok "unknown"
  else match statusCode evidence "consumer_status_code" with
    | none => .ok "unknown"
    | some status =>
      if status = 401 || status = 403 || status = 404 then .ok "deny"
      else if status = 429 || decide (500 ≤ status) then .ok "unknown"
      else if isSuccess status then do
        let found ← intOrZero evidence "authorization_resource_match_count"
        let fields ← intOrZero evidence "authorization_resource_field_count"
        return if fields ≠ 0 ∧ found = fields then "allow" else if found ≠ 0 then "allow_partial" else "unknown"
      else .ok "unknown"

/-- The verdict on a case whose owner could read the resource. -/
def judgeObserved (expected observed : String) : Judgement :=
  if expected == "deny" then
    if observed == "allow" then
      ⟨"potential_vuln", ["authorization_policy_denied_but_resource_disclosed"], 96/100⟩
    else if observed == "allow_partial" then
      ⟨"potential_vuln", ["authorization_policy_denied_but_resource_partially_disclosed"], 84/100⟩
    else if observed == "deny" then ⟨"no_vuln", ["authorization_policy_denial_enforced"], 97/100⟩
    else ⟨"need_review", ["authorization_denial_response_inconclusive"], 62/100⟩
  else if expected == "allow" then
    if observed == "allow" then ⟨"no_vuln", ["authorization_policy_allow_enforced"], 94/100⟩
    else if observed == "deny" then ⟨"need_review", ["authorization_expected_access_blocked"], 88/100⟩
    else if observed == "allow_partial" then
      ⟨"need_review", ["authorization_expected_access_partial"], 72/100⟩
    else ⟨"need_review", ["authorization_allow_response_inconclusive"], 58/100⟩
  else ⟨"need_review", ["authorization_policy_requires_human_decision"], 5/10⟩

def judgeAuthorizationMatrix (evidence : Dict) (_checkType _authMode : String) :
    Except PyError Judgement := do
  let observed ←
    if Dict.truthy evidence "authorization_observed_decision" then
      pure (Dict.get evidence "authorization_observed_decision").pyStr
    else observeAuthorizationDecision evidence
  if !(statusCode evidence "source_status_code").any isSuccess then
    return ⟨"not_evaluable", ["authorization_owner_resource_unavailable"], 92/100⟩
  return judgeObserved (strOr evidence "authorization_expected_decision" "review") observed

/-- `[str(item.get("relation_id") or "") for item in (relations or []) if ...]`. -/
def relationIds : Json → Except PyError (List String)
  | .arr items => (items.mapM asDict).map fun items =>
      (items.map fun item => (Dict.get item "relation_id").strOrEmpty).filter (· != "")
  | x => if x.truthy then .error (.typeError "object is not iterable") else .ok []

/-- `_result_target`. -/
def matrixResultTarget (snapshot : RequestSnapshot) (evidence : Dict) : Except PyError Dict := do
  let plan ← asDict (Dict.get snapshot.metadata "validation_plan")
  let case ← asDict (Dict.get plan "authorization_case")
  let version ← intOrZero case "policy_version"
  let relations ← relationIds (Dict.get plan "relations")
  let text (key : String) : Json := .str (Dict.get case key).strOrEmpty
  return [("path", .str (strOr plan "resource_path" snapshot.path)),
    ("resource_family", text "resource_family"), ("action", text "action"),
    ("authorization_policy_key", text "policy_key"),
    ("authorization_policy_version_id", text "policy_version_id"),
    ("authorization_policy_version", .int version), ("authorization_case_key", text "case_key"),
    ("resource_owner_principal_id", text "resource_owner_principal_id"),
    ("subject_principal_id", text "subject_principal_id"),
    ("expected_decision", text "expected_decision"),
    ("observed_decision", .str (strOr evidence "authorization_observed_decision" "unknown")),
    ("matched_rule_id", text "matched_rule_id"), ("relation_ids", .arr (relations.map .str))]

/-- The `replay` of `build_authorization_matrix_adapter`, over the evidence of the requests. -/
def matrixEvidence (snapshot : RequestSnapshot) (evidence : Dict) : Except PyError Dict := do
  let evidence := Dict.set evidence "authorization_matrix_case" (.bool true)
  let observed ← observeAuthorizationDecision evidence
  let evidence := Dict.set evidence "authorization_observed_decision" (.str observed)
  let target ← matrixResultTarget snapshot evidence
  return Dict.set evidence "result_target" (.obj target)

/-- `build_authorization_matrix_adapter`. -/
def authorizationMatrixAdapter : ExecutionAdapter where
  adapterId := "authorization_matrix"
  adapterVersion := "1"
  judge := judgeAuthorizationMatrix
  authModes := ["matrix"]
  requiresAccountContext := false
  supportsMutation := false
  hasRecord := true

/-- The context `schedule_authorization_matrix` enqueues its run with. -/
def matrixContext (projectId envId planSha256 : String) : ExecutionContext where
  projectId := projectId
  envId := envId
  authMode := "matrix"
  adapterId := "authorization_matrix"
  adapterVersion := "1"
  planVersion := "authorization-matrix-v1"
  planSha256 := planSha256

/-- The policy of a matrix run over `cases` cases. -/
def matrixPolicy (cases : Nat) : ExecutionPolicy :=
  let workers : Int := max 1 (min 8 cases)
  { maxWorkers := workers, perHostWorkers := max 1 (min 4 workers), requestTimeoutSeconds := 10,
    minIntervalMs := 50 }

/-- `schedule_authorization_matrix`, over the snapshots of the expanded cases. -/
def matrixRequest (projectId envId planSha256 operator : String) (key : IdempotencyKey)
    (cases : List ObjectId) : EnqueueRequest where
  checkType := "authorization_matrix"
  context := matrixContext projectId envId planSha256
  snapshotIds := cases
  policy := matrixPolicy cases.length
  operator := operator
  idempotencyKey := some key

/-- A run of the authorization matrix: what its request set and no update of a run changes. -/
structure MatrixRun (run : SecurityTestRun) : Prop where
  checkType : run.checkType = "authorization_matrix"
  authMode : run.authMode = "matrix"
  accountId : run.accountId = ""

/-- One execution of a matrix case: the dispatch, its checkpoint and snapshot, and the evidence of
the requests, or the exception they ended with. -/
structure MatrixExecution where
  job : Job
  adapter : job.adapter = authorizationMatrixAdapter
  run : MatrixRun job.claimed.run
  checkpoint : SecurityExecutionCheckpoint
  snapshot : RequestSnapshot
  requests : Except PyError Dict

/-- The evidence `_execute_checkpoint` goes on with. -/
def MatrixExecution.evidence (e : MatrixExecution) : Dict :=
  let replayed := match e.requests.bind (matrixEvidence e.snapshot) with
    | .ok evidence => evidence
    | .error err => raisedEvidence e.job e.checkpoint err
  withParameterQuality replayed (requiredParameterQualitySummary e.snapshot.parameterSources)

def MatrixExecution.result (e : MatrixExecution) (id : ObjectId) (now : Timestamp) :
    Except PyError SecurityTestResult := do
  let summary ← sanitizeExecutionEvidence e.evidence
  let judgement ← judge e.job e.snapshot e.evidence
  let input := resultInput e.job e.checkpoint e.snapshot e.evidence summary judgement
  input.validate
  return resultDocument e.job.claimed.run e.snapshot input id now

/-- A stored result of a matrix run. A review may have linked it to a finding. -/
def MatrixResult (r : SecurityTestResult) : Prop :=
  ∃ (e : MatrixExecution) (id : ObjectId) (now : Timestamp) (stored : SecurityTestResult)
    (finding : Option ObjectId), e.result id now = .ok stored ∧ r = { stored with relatedVulnId := finding }

def caseKey (r : SecurityTestResult) : String := (Dict.get r.target "authorization_case_key").strOrEmpty

end ApiManger.Authorization
