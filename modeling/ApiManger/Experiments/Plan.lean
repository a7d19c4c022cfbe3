import ApiManger.Experiments.Compose
import ApiManger.Python.Canonical
import ApiManger.Python.Url

/-!
# Experiment plans

A plan lists the requests of an import that may be sent to a test environment. It is known by a
digest over the digests of its candidates; digests tell two documents apart just where they
differ in more than the order of keys.
-/

namespace ApiManger.Experiments
open Python

/-- `_sha256`, its digest as a document. -/
structure Digest where
  sha : Json → Json
  exact : ∀ a b : Json, sha a = sha b ↔ a.Same b
  plain : ∀ a : Json, (sha a).canonical = sha a

structure Limits where
  maxEndpoints : Int
  reportSampleLimit : Int

def Limits.validate (limits : Limits) : Except String Unit :=
  if ¬(1 ≤ limits.maxEndpoints ∧ limits.maxEndpoints ≤ 100000) then
    .error "max_endpoints is outside the supported budget"
  else if ¬(0 ≤ limits.reportSampleLimit ∧ limits.reportSampleLimit ≤ 100) then
    .error "report_sample_limit is outside the supported budget"
  else .ok ()

/-- An active environment, with its `environment_host_names`. -/
structure Environment where
  environmentType : String
  allowMutation : Bool
  hostNames : List String

/-- `profile_context_fields` of the active profile of a revision. -/
structure ContextFields where
  accountId : String
  authProviderId : String
  authContextRef : String
  authProfileRevisionId : String
  authRealmRevisionId : String
  authAdapterVersionId : String

/-- A `raw_data` row of an import. -/
structure Asset where
  id : String
  ptahId : Int
  source : String
  projectId : String
  importRunId : String
  envId : String
  method : String
  sourceMeta : Dict

/-- What the database shows while a plan is built: the environment, the configuration digest of
the revision, its profile, the assets, and the endpoint composed for an asset. -/
structure Shown where
  environment : Option Environment
  revision : Option String
  profile : Option ContextFields
  assets : List Asset
  endpoint : Asset → Option Endpoint

/-- The arguments of `build_apifox_experiment_plan`. -/
structure PlanArguments where
  projectId : String
  envId : String
  profileRevisionId : String
  importRunId : String
  pathids : List Int
  limits : Limits

structure Candidate where
  assetId : String
  pathid : Int
  method : String
  host : String
  mutation : Bool
  payloadSha256 : Json
  sourceUpdatedAt : String
  payload : Payload

structure Plan where
  projectId : String
  envId : String
  profileRevisionId : String
  importRunId : String
  context : ContextFields
  candidates : List Candidate
  skipped : Dict
  inputWatermarkSha256 : Json
  planSha256 : Json
  limits : Limits

/-- The functions building a plan rests on; `headerValid` is `check_header_validity`. -/
structure PlanOutside where
  digest : Digest
  composer : Composer
  headerValid : String → Json → Bool

def schemaVersion : String := "apifox-test-experiment.v1"

def safeMethods : List String := ["GET", "HEAD", "OPTIONS"]

def testEnvironmentTypes : List String :=
  ["test", "testing", "preprod", "preproduction", "staging", "development", "dev"]

def requiredPathBlockingSources : List String := ["empty_default", "unresolved"]

/-! ## Unresolved paths -/

/-- The text starts with a name in braces. -/
def startsBraced : List Char → Bool
  | '{' :: rest =>
    let name := rest.takeWhile fun c => c != '{' && c != '}'
    !name.isEmpty && (rest.drop name.length).head? == some '}'
  | _ => false

/-- The text starts with a colon and a name. -/
def startsNamed : List Char → Bool
  | ':' :: c :: _ => c.isAlpha || c == '_'
  | _ => false

/-- `_UNRESOLVED_PATH.search` -/
def unresolvedPath (path : List Char) : Bool :=
  startsNamed path || path.tails.any fun rest => startsBraced rest || match rest with
    | '/' :: after => startsNamed after
    | _ => false

/-- A required path parameter has no value of its own. -/
def unresolvedRequiredPath (sources : Dict) : Bool :=
  sources.any fun e => match e.2 with
    | .obj meta_ => (Dict.get meta_ "position").strOrEmpty == "path" && Dict.truthy meta_ "required" &&
      requiredPathBlockingSources.contains (Dict.get meta_ "source").strOrEmpty
    | _ => false

/-! ## Building a plan -/

/-- The url a candidate is digested with. -/
def Payload.shownUrl (payload : Payload) : String :=
  if payload.renderedUrl ≠ "" then payload.renderedUrl else payload.url

/-- The document `payload_sha256` is the digest of. -/
def Payload.document (payload : Payload) (method : String) : Json :=
  .obj [("method", .str method), ("url", .str payload.shownUrl), ("query", payload.query),
    ("headers", .obj payload.headers), ("cookies", .obj payload.cookies), ("body", payload.body),
    ("parameter_sources", .obj payload.parameterSources)]

/-- One round of the loop over the assets, of a payload that was composed: why the asset is
skipped, or its candidate. -/
def candidateOf (outside : PlanOutside) (allowedHosts : List String) (asset : Asset) (payload : Payload) :
    Except String Candidate :=
  let url := payload.shownUrl
  let parsed := urlsplit url.toList
  let host := (hostname url).getD ""
  if !payload.headers.all (fun e => outside.headerValid e.1 e.2) then .error "invalid_request_header"
  else if !(["http", "https"].contains (String.ofList parsed.scheme)) || host == "" then
    .error "absolute_url_unavailable"
  else if !(allowedHosts.contains host) then .error "host_outside_environment"
  else if unresolvedPath parsed.path then .error "unresolved_path_parameter"
  else if unresolvedRequiredPath payload.parameterSources then .error "unresolved_path_parameter"
  else
    let method := upper (if payload.method ≠ "" then payload.method
      else if asset.method ≠ "" then asset.method else "GET")
    .ok {
      assetId := asset.id
      pathid := asset.ptahId
      method
      host
      mutation := !(safeMethods.contains method)
      payloadSha256 := outside.digest.sha (payload.document method)
      sourceUpdatedAt := (Dict.get asset.sourceMeta "updated_at").strOrEmpty
      payload }

/-- One round of the loop over the assets. -/
def examine (outside : PlanOutside) (shown : Shown) (context : ComposeContext) (allowedHosts : List String)
    (asset : Asset) : Except String (Except String Candidate) :=
  if asset.envId ≠ "" ∧ asset.envId ≠ context.envId then .ok (.error "environment_mismatch")
  else match shown.endpoint asset with
    | none => .ok (.error "request_payload_unavailable")
    | some endpoint => do
      let payload ← buildRequestPayload outside.composer context endpoint
      .ok (candidateOf outside allowedHosts asset payload)

/-- `Counter`: how often each reason stands in the list. -/
def countReasons (reasons : List String) : Dict :=
  reasons.eraseDups.map fun reason => (reason, .int (reasons.count reason))

def candidatesOf : List (Except String Candidate) → List Candidate :=
  List.filterMap Except.toOption

def skippedOf (results : List (Except String Candidate)) : Dict :=
  countReasons (results.filterMap fun result => match result with
    | .error reason => some reason
    | .ok _ => none)

/-- What a candidate is in the watermark. -/
def Candidate.reference (c : Candidate) : Json :=
  .obj [("asset_id", .str c.assetId), ("pathid", .int c.pathid), ("method", .str c.method), ("host", .str c.host),
    ("payload_sha256", c.payloadSha256), ("source_updated_at", .str c.sourceUpdatedAt)]

def watermarkDocument (projectId envId profileRevisionId configSha256 importRunId : String)
    (candidates : List Candidate) : Json :=
  .obj [("project_id", .str projectId), ("env_id", .str envId), ("profile_revision_id", .str profileRevisionId),
    ("profile_config_sha256", .str configSha256), ("import_run_id", .str importRunId),
    ("candidates", .arr (candidates.map Candidate.reference))]

def planDocument (watermark : Json) (candidates : List Candidate) (skipped : Dict) : Json :=
  .obj [("schema_version", .str schemaVersion), ("input_watermark_sha256", watermark),
    ("candidate_pathids", .arr (candidates.map fun c => .int c.pathid)), ("skipped", .obj skipped)]

/-- `_asset_query`, in the order of the path ids. -/
def assetQuery (projectId importRunId : String) (pathids : List Int) (assets : List Asset) : List Asset :=
  (assets.filter fun asset => asset.source == "apifox" && asset.projectId == projectId &&
    (importRunId == "" || asset.importRunId == importRunId) &&
    (pathids.isEmpty || pathids.contains asset.ptahId)).insertionSort fun a b => a.ptahId ≤ b.ptahId

/-- `_environment` -/
def environmentFor (shown : Shown) : Except String Environment :=
  match shown.environment with
  | none => .error "selected project environment is not active"
  | some environment =>
    if !(testEnvironmentTypes.contains (lower (stripped environment.environmentType))) then
      .error "Apifox experiments require an explicit test environment type"
    else .ok environment

def profileExecutionContext (shown : Shown) (profileRevisionId : String) : Except String (String × ContextFields) :=
  match shown.revision, shown.profile with
  | none, _ => .error "profile revision was not found"
  | some _, none => .error "profile revision does not belong to the selected project/environment"
  | some configSha256, some fields =>
    if fields.authProfileRevisionId ≠ profileRevisionId then
      .error "selected profile revision is not the active Profile revision"
    else .ok (configSha256, fields)

/-- The plan over the candidates and the counted reasons. -/
def planOf (outside : PlanOutside) (args : PlanArguments) (configSha256 : String) (context : ContextFields)
    (results : List (Except String Candidate)) : Plan :=
  let candidates := candidatesOf results
  let skipped := skippedOf results
  let watermark := outside.digest.sha (watermarkDocument (stripped args.projectId) (stripped args.envId)
    (stripped args.profileRevisionId) configSha256 (stripped args.importRunId) candidates)
  { projectId := stripped args.projectId
    envId := stripped args.envId
    profileRevisionId := stripped args.profileRevisionId
    importRunId := stripped args.importRunId
    context
    candidates
    skipped
    inputWatermarkSha256 := watermark
    planSha256 := outside.digest.sha (planDocument watermark candidates skipped)
    limits := args.limits }

def buildApifoxExperimentPlan (outside : PlanOutside) (shown : Shown) (args : PlanArguments) : Except String Plan := do
  let projectId := stripped args.projectId
  let envId := stripped args.envId
  let profileRevisionId := stripped args.profileRevisionId
  let importRunId := stripped args.importRunId
  if projectId = "" ∨ envId = "" ∨ profileRevisionId = "" then
    throw "project_id, env_id and profile_revision_id are required"
  args.limits.validate
  let environment ← environmentFor shown
  let (configSha256, fields) ← profileExecutionContext shown profileRevisionId
  if environment.hostNames = [] then throw "test environment has no allowed Hosts"
  let assets := assetQuery projectId importRunId args.pathids shown.assets
  if args.limits.maxEndpoints < assets.length then
    throw ("Apifox endpoint budget exceeded: " ++ toString assets.length ++ " > " ++ toString args.limits.maxEndpoints)
  let context : ComposeContext := ⟨projectId, envId, fields.accountId, "account", "apifox_test_experiment"⟩
  let results ← assets.mapM (examine outside shown context environment.hostNames)
  if (candidatesOf results).any Candidate.mutation ∧ ¬environment.allowMutation then
    throw "test environment does not allow mutation experiments"
  if candidatesOf results = [] then throw "no constructable Apifox experiment candidates"
  return planOf outside args configSha256 fields results

end ApiManger.Experiments
