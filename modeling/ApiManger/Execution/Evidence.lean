import Mathlib.Algebra.Order.Ring.Unbundled.Rat
import Mathlib.Data.List.Sort
import ApiManger.Execution.Contract

/-!
# Evidence and verdicts

What the scheduler keeps of the evidence a replay returns
(`sanitize_execution_evidence`), the verdicts of its two built-in judges, and the
gate that refuses a pass resting on an unestablished required parameter
(`apiAnalysis/tool/parameter_sources.py`).
-/

namespace ApiManger.Execution
open Python Store

def safeMethods : List String := ["GET", "HEAD", "OPTIONS"]

/-- A snapshot the scheduler treats as a mutation. -/
def isMutation (snapshot : RequestSnapshot) : Bool :=
  !safeMethods.contains (snapshot.method.map Char.toUpper)

/-- The generic adapters, whose mutations get the generic verdict and one dispatch. -/
def genericAdapters : List String := ["snapshot_batch", "authenticated_snapshot_batch"]

/-- `allowed` of `sanitize_execution_evidence`. -/
def allowedEvidence : List String := [
  "status_code", "expected_status_codes", "ok", "elapsed_ms",
  "response_len", "domain", "auth_mode", "error_type",
  "response_sha256", "response_content_type", "response_json_type",
  "response_record_count", "response_collection_path",
  "response_top_level_keys", "response_field_names",
  "request_method", "request_origin", "request_path",
  "request_query_names", "request_header_names", "request_cookie_names",
  "request_auth_header_names", "request_auth_cookie_names",
  "request_body_bytes", "request_content_type",
  "request_timeout_seconds", "request_allow_redirects",
  "request_tls_verify", "auth_request_count",
  "apifox_experiment", "mutation_request",
  "before_readback_attempted", "after_readback_attempted",
  "cleanup_attempted", "final_readback_attempted", "lifecycle_gap",
  "lifecycle_strategy", "lifecycle_request_count",
  "before_status_code", "mutation_status_code", "after_status_code",
  "cleanup_status_code", "final_status_code", "effect_observed",
  "cleanup_verified", "restore_payload_ready", "created_id_extracted",
  "source_status_code", "consumer_status_code",
  "authorization_matrix_case", "authorization_case_key",
  "authorization_policy_key", "authorization_policy_version_id",
  "authorization_policy_version", "resource_owner_principal_id",
  "subject_principal_id", "authorization_expected_decision",
  "authorization_observed_decision", "authorization_matched_rule_id",
  "authorization_rule_reason_codes", "authorization_resource_family",
  "authorization_action", "authorization_resource_match_count",
  "authorization_resource_field_count", "resource_path", "value_digest",
  "sqli_screen", "parameter_quality"]

variable (evidence : Dict)

/-- `int(evidence.get(key) or 0)`. -/
def intOrZero (key : String) : Except PyError Int :=
  if Dict.truthy evidence key then (Dict.get evidence key).toInt else .ok 0

/-- `str(evidence.get(key) or default)`. -/
def strOr (key default : String) : String :=
  if Dict.truthy evidence key then (Dict.get evidence key).pyStr else default

def lengthBucket (length : Int) : String :=
  if length = 0 then "0" else if length < 100 then "1-99" else if length < 1000 then "100-999"
  else if length < 10000 then "1k-9k" else "10k+"

def responseClusterKey : Except PyError String := do
  let errorType := (Dict.get evidence "error_type").strOrEmpty
  if errorType != "" then return "transport:" ++ errorType
  let length ← intOrZero evidence "response_len"
  let status := match Dict.get evidence "status_code" with
    | .null => "none"
    | s => s.pyStr
  return ":".intercalate ["http", status, strOr evidence "response_content_type" "unknown",
    strOr evidence "response_json_type" "none", lengthBucket length]

def sanitizeExecutionEvidence : Except PyError Dict := do
  let sanitized := allowedEvidence.filterMap fun key => (Dict.get? evidence key).map (key, ·)
  let clusterKey ← responseClusterKey sanitized
  return Dict.set sanitized "cluster_key" (.str clusterKey)

/-- `evidence.get("error_type") or evidence.get("error")`, as a truth value. -/
def hasError : Bool :=
  Dict.truthy evidence "error_type" || Dict.truthy evidence "error"

def transportError : Judgement := ⟨"error", ["transport_error"], 9/10⟩

/-- `classify_execution_result`; a status that is no number raises. -/
def classifyExecutionResult (checkType authMode : String) :
    Except PyError Judgement := do
  if hasError evidence then return transportError
  if Dict.get evidence "status_code" = .null then return transportError
  let status ← (Dict.get evidence "status_code").toInt
  let isUnauth := authMode == "anonymous" && ["unauth_access", "anonymous_access"].contains checkType
  if isUnauth && (status = 401 || status = 403) then
    return ⟨"no_vuln", ["anonymous_authentication_required"], 97/100⟩
  if isUnauth && (200 ≤ status && status < 300) then
    return ⟨"need_review", ["anonymous_2xx_requires_content_review"], 65/100⟩
  if status = 429 then return ⟨"not_evaluable", ["rate_limited"], 9/10⟩
  if 500 ≤ status && status < 600 then return ⟨"not_evaluable", ["server_error"], 8/10⟩
  if 300 ≤ status && status < 400 then
    return ⟨"not_evaluable", ["redirect_requires_review"], 65/100⟩
  if isUnauth then return ⟨"not_evaluable", ["anonymous_response_not_conclusive"], 6/10⟩
  return ⟨"not_evaluable", ["adapter_judge_required"], 95/100⟩

def classifyGenericMutationResult : Except PyError Judgement := do
  if hasError evidence then return transportError
  if Dict.get evidence "status_code" = .null then return transportError
  let status ← (Dict.get evidence "status_code").toInt
  if status = 429 then return ⟨"not_evaluable", ["rate_limited"], 9/10⟩
  if 500 ≤ status && status < 600 then return ⟨"not_evaluable", ["server_error"], 8/10⟩
  if 300 ≤ status && status < 400 then
    return ⟨"not_evaluable", ["redirect_requires_review"], 65/100⟩
  return ⟨"need_review", ["mutation_response_requires_effect_review"], 75/100⟩

/-! ## The required-parameter gate -/

def requiredPathBlockingSources : List String := ["empty_default", "unresolved"]

def passBlockingVerdicts : List String :=
  ["no_vuln", "isolated_not_found", "isolated_blocked", "blocked_own_data"]

/-- `required_parameter_quality_summary`. -/
structure ParameterQuality where
  blocksPass : Bool
  syntheticRequired : List String
  placeholderRequired : List String
  requestSampleOnlyRequired : List String

/-- The required parameters with their `source` and `value_quality`. -/
def requiredParameters (sources : Dict) : List (String × String × String) :=
  sources.filterMap fun (name, info) => match info with
    | .obj info => if Dict.truthy info "required" then
        some (name, strOr info "source" "", strOr info "value_quality" "") else none
    | _ => none

def bounded (names : List String) : List String := (names.insertionSort (· ≤ ·)).take 20

def requiredParameterQualitySummary (sources : Dict) : ParameterQuality :=
  let required := requiredParameters sources
  let synthetic := required.filter fun (_, source, _) => requiredPathBlockingSources.contains source
  let rest := required.filter fun (_, source, _) => !requiredPathBlockingSources.contains source
  let named (quality : String) := bounded ((rest.filter fun (_, _, q) => q == quality).map (·.1))
  let syntheticNames := bounded (synthetic.map (·.1))
  ⟨!syntheticNames.isEmpty || !(named "placeholder").isEmpty, syntheticNames, named "placeholder",
    named "sampled"⟩

def ParameterQuality.toJson (q : ParameterQuality) : Json :=
  .obj [("blocks_pass", .bool q.blocksPass),
    ("synthetic_required", .arr (q.syntheticRequired.map .str)),
    ("placeholder_required", .arr (q.placeholderRequired.map .str)),
    ("request_sample_only_required", .arr (q.requestSampleOnlyRequired.map .str))]

/-- The evidence with the quality summary where it says something. -/
def withParameterQuality (q : ParameterQuality) : Dict :=
  if q.blocksPass || !q.requestSampleOnlyRequired.isEmpty then
    Dict.set evidence "parameter_quality" q.toJson
  else evidence

/-- `summary.get("blocks_pass")` of `evidence.get("parameter_quality")`. -/
def blocksPass : Bool :=
  match Dict.get evidence "parameter_quality" with
  | .obj summary => Dict.truthy summary "blocks_pass"
  | _ => false

def applyRequiredParameterGate (j : Judgement) (evidence : Dict) : Judgement :=
  if passBlockingVerdicts.contains j.verdict && blocksPass evidence then
    ⟨"not_evaluable", j.reasons ++ ["required_parameter_value_not_established"], min j.confidence (6/10)⟩
  else j

end ApiManger.Execution
