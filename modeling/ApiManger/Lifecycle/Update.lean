import Mathlib.Data.Rat.Defs
import ApiManger.Execution.Contract
import ApiManger.Lifecycle.Restore
import ApiManger.Python.Url
import ApiManger.Store.Documents

/-!
# Replaying an update with restore

The `update_restore` strategy of `replay_mutation_lifecycle` against a server that
holds one JSON resource, with the checks before it, and `judge_mutation_lifecycle`
(`apiAnalysis/tool/apifox_mutation_lifecycle.py`). The server is any state machine:
it may apply a request whatever it answers.
-/

namespace ApiManger.Lifecycle
open Python Store Execution

/-- What `replay_snapshot_with_json` hands back: the evidence, and the parsed body or `None`. -/
structure Reply where
  evidence : Dict
  json : Json := .null

variable (evidence : Dict)

/-- `_http_ok`; a status is `None` or an `int`. -/
def httpOk : Bool := match Dict.get evidence "status_code" with
  | .int status => 200 ≤ status && status < 400 && !Dict.truthy evidence "error_type"
  | _ => false

inductive Request where
  | readback
  | mutation
  | restore (body : Json)

/-- A server that holds one JSON resource, shown as an object of the page it serves. -/
structure Server where
  State : Type
  resource : State → Dict
  page : State → Json
  send : Request → State → Reply × State
  /-- The resource is an object of the page. -/
  shown : ∀ s, resource s ∈ objects (page s)
  /-- A readback leaves the resource as it is. -/
  reads : ∀ s, resource (send .readback s).2 = resource s
  /-- An accepted readback with a body answers the page. -/
  honest : ∀ s, httpOk (send .readback s).1.evidence = true → (send .readback s).1.json ≠ .null →
    (send .readback s).1.json = page s

/-! ## The plan -/

/-- What the strategy reads of `mutation_lifecycle_plan`. -/
structure UpdatePlan where
  readbackPayload : Dict
  preflightOnly : Bool := false

def runtimePayload (snapshot : RequestSnapshot) : Dict := [
  ("rendered_url", .str snapshot.url), ("url", .str snapshot.url),
  ("path_params", .obj snapshot.pathParams), ("query", .obj snapshot.query),
  ("parameter_sources", .obj snapshot.parameterSources)]

def mutationBlockingSources : List String :=
  ["empty_default", "unresolved", "parameter_archive_project_scoped"]

/-- `_synthetic_required_parameters`, in the order of the payload. -/
def syntheticRequiredParameters (payload : Dict) : Except PyError (List String) := do
  let sources ← asDict (Dict.get payload "parameter_sources")
  return sources.filterMap fun (name, info) => match info with
    | .obj info =>
      if Dict.truthy info "required" && mutationBlockingSources.contains (Dict.get info "source").strOrEmpty
      then some name else none
    | _ => none

/-- `urlsplit(str(payload.get("rendered_url") or payload.get("url") or ""))`. -/
def payloadUrl (payload : Dict) : SplitUrl :=
  let url := if Dict.truthy payload "rendered_url" then (Dict.get payload "rendered_url").pyStr
    else (Dict.get payload "url").strOrEmpty
  urlsplit url.toList

/-- What a url says of the resource it names. -/
def resourceUrl (url : SplitUrl) : List Char × List Char × List Char :=
  let path := (url.path.reverse.dropWhile (· == '/')).reverse
  (url.scheme.map Char.toLower, url.netloc.map Char.toLower, if path.isEmpty then ['/'] else path)

/-- A query parameter that names a resource. -/
def isResourceName (name : String) : Bool :=
  let lower := name.map Char.toLower
  lower == "id" || lower.endsWith "_id" || lower.endsWith "id" || lower.endsWith "uuid"

/-- The values two mappings share a name for are the same text. -/
def agreeOn (p : String → Bool) (xs ys : Dict) : Bool :=
  xs.all fun (name, value) => match Dict.get? ys name with
    | some other => !p name || value.pyStr == other.pyStr
    | none => true

def updateResourceIdentityAligned (mutationPayload readPayload : Dict) : Except PyError Bool := do
  if resourceUrl (payloadUrl mutationPayload) ≠ resourceUrl (payloadUrl readPayload) then return false
  let mutationPath ← asDict (Dict.get mutationPayload "path_params")
  let readPath ← asDict (Dict.get readPayload "path_params")
  if !agreeOn (fun _ => true) mutationPath readPath then return false
  let mutationQuery ← asDict (Dict.get mutationPayload "query")
  let readQuery ← asDict (Dict.get readPayload "query")
  return agreeOn isResourceName mutationQuery readQuery

/-! ## The replay -/

def baseEvidence (snapshot : RequestSnapshot) (strategy : String) : Dict := [
  ("status_code", .null), ("ok", .bool false), ("elapsed_ms", .int 0),
  ("response_len", .int 0), ("response_sha256", .str ""), ("response_content_type", .str ""),
  ("response_json_type", .str ""), ("domain", .str snapshot.domain),
  ("auth_mode", .str "account"), ("request_method", .str snapshot.method),
  ("mutation_request", .bool true), ("lifecycle_strategy", .str strategy),
  ("before_readback_attempted", .bool false), ("after_readback_attempted", .bool false),
  ("cleanup_attempted", .bool false), ("final_readback_attempted", .bool false),
  ("restore_payload_ready", .bool false), ("created_id_extracted", .bool false),
  ("effect_observed", .bool false), ("cleanup_verified", .bool false),
  ("lifecycle_request_count", .int 0), ("lifecycle_gap", .str "")]

def primaryKeys : List String := [
  "status_code", "ok", "elapsed_ms", "response_len", "response_sha256",
  "response_content_type", "response_json_type", "error_type",
  "response_record_count", "response_collection_path",
  "response_top_level_keys", "response_field_names",
  "request_origin", "request_path", "request_query_names", "request_header_names",
  "request_cookie_names", "request_body_bytes", "request_content_type"]

/-- One key of `_copy_primary`. -/
def copyKey (primary evidence : Dict) (key : String) : Dict := match Dict.get? primary key with
  | some value => Dict.set evidence key value
  | none => evidence

def copyPrimary (evidence primary : Dict) : Dict := primaryKeys.foldl (copyKey primary) evidence

def withGap (gap : String) : Dict := Dict.set evidence "lifecycle_gap" (.str gap)

/-- `evidence["lifecycle_request_count"] += 1`, and the status of the reply under its key. -/
def counted (statusKey : String) (reply : Reply) : Dict :=
  let count := match Dict.get evidence "lifecycle_request_count" with
    | .int n => n
    | _ => 0
  Dict.set (Dict.set evidence "lifecycle_request_count" (.int (count + 1))) statusKey
    (Dict.get reply.evidence "status_code")

/-- What the replay leaves: its evidence, whether the mutation was sent, and the server. -/
structure Outcome (server : Server) where
  evidence : Dict
  sent : Bool
  state : server.State

/-- The two bodies have one digest. -/
def sameDigest (a b : Json) : Bool := digest a == digest b

/-- An accepted readback shows the body that was restored. -/
def showsRestored (template : Dict) (body : Json) (final : Reply) : Bool :=
  httpOk final.evidence && (restoreBody template final.json).any (sameDigest · body)

variable (server : Server)

/-- From the restore request on. -/
def replayRestore (template : Dict) (body : Json) (evidence : Dict) (s : server.State) : Outcome server :=
  let evidence := Dict.set evidence "cleanup_attempted" (.bool true)
  let (cleanup, s) := server.send (.restore body) s
  let evidence := counted evidence "cleanup_status_code" cleanup
  if !httpOk cleanup.evidence then ⟨withGap evidence "restore_request_failed", true, s⟩ else
  let evidence := Dict.set evidence "final_readback_attempted" (.bool true)
  let (final, s) := server.send .readback s
  let evidence := counted evidence "final_status_code" final
  let verified := showsRestored template body final
  let evidence := Dict.set evidence "cleanup_verified" (.bool verified)
  ⟨withGap evidence (if verified then "" else "restore_readback_mismatch"), true, s⟩

def replayMutation (template : Dict) (body : Json) (evidence : Dict) (s : server.State) : Outcome server :=
  let (mutation, s) := server.send .mutation s
  let evidence := copyPrimary (counted evidence "mutation_status_code" mutation) mutation.evidence
  if !httpOk mutation.evidence then ⟨withGap evidence "mutation_not_accepted", true, s⟩ else
  let evidence := Dict.set evidence "after_readback_attempted" (.bool true)
  let (after, s) := server.send .readback s
  let evidence := counted evidence "after_status_code" after
  let evidence := match restoreBody template after.json with
    | some afterBody => Dict.set evidence "effect_observed" (.bool !sameDigest afterBody body)
    | none => evidence
  replayRestore server template body evidence s

/-- From the readback before the mutation on. -/
def replayUpdate (template : Dict) (preflightOnly : Bool) (evidence : Dict) (s : server.State) :
    Outcome server :=
  let evidence := Dict.set evidence "before_readback_attempted" (.bool true)
  let (before, s) := server.send .readback s
  let evidence := counted evidence "before_status_code" before
  if !httpOk before.evidence || before.json = .null then
    ⟨copyPrimary (withGap evidence "before_readback_unavailable") before.evidence, false, s⟩ else
  let body := restoreBody template before.json
  let evidence := Dict.set evidence "restore_payload_ready" (.bool body.isSome)
  match body with
  | none => ⟨copyPrimary (withGap evidence "unique_restore_payload_unavailable") before.evidence, false, s⟩
  | some body =>
    if preflightOnly then
      ⟨copyPrimary (withGap evidence "preflight_complete_mutation_not_sent") before.evidence, false, s⟩
    else replayMutation server template body evidence s

/-- `replay_mutation_lifecycle` of a plan whose strategy is `update_restore`. -/
def replayMutationLifecycle (snapshot : RequestSnapshot) (plan : UpdatePlan) (s : server.State) :
    Except PyError (Outcome server) := do
  let evidence := baseEvidence snapshot "update_restore"
  if (← syntheticRequiredParameters (runtimePayload snapshot)) ≠ [] then
    return ⟨withGap evidence "synthetic_required_mutation_value", false, s⟩
  if !(← updateResourceIdentityAligned (runtimePayload snapshot) plan.readbackPayload) then
    return ⟨withGap evidence "readback_resource_identity_mismatch", false, s⟩
  return replayUpdate server snapshot.body plan.preflightOnly evidence s

def judgeMutationLifecycle : Judgement :=
  let gap := (Dict.get evidence "lifecycle_gap").strOrEmpty
  let gapOr (other : String) : String := if gap = "" then other else gap
  if Dict.truthy evidence "error_type" then
    ⟨"error", [gapOr "mutation_lifecycle_transport_error"], 9/10⟩
  else if gap = "before_readback_unavailable" then ⟨"not_evaluable", [gap, "mutation_not_sent"], 95/100⟩
  else if gap = "unique_restore_payload_unavailable" then
    ⟨"not_evaluable", [gap, "mutation_not_sent"], 95/100⟩
  else if gap = "preflight_complete_mutation_not_sent" then
    ⟨"not_evaluable", [gap, "restore_payload_ready"], 99/100⟩
  else if gap = "mutation_not_accepted" then ⟨"not_evaluable", [gap], 9/10⟩
  else if Dict.truthy evidence "cleanup_verified" then
    ⟨"not_evaluable", [if Dict.truthy evidence "effect_observed" then "mutation_effect_observed_and_restored"
      else "mutation_restored_no_effect_observed"], 98/100⟩
  else if Dict.truthy evidence "cleanup_attempted" || gap.endsWith "cleanup_not_possible" then
    ⟨"need_review", [gapOr "mutation_cleanup_unverified"], 98/100⟩
  else ⟨"not_evaluable", [gapOr "mutation_lifecycle_incomplete"], 8/10⟩

end ApiManger.Lifecycle
