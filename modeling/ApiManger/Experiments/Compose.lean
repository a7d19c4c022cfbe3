import ApiManger.Python.Text

/-!
# Composed requests

A request of an endpoint is composed from its row, its newest sample and its parameters. What
the database shows of a parameter stands beside it; locators and the rendering of the url are
parameters.
-/

namespace ApiManger.Experiments
open Python

/-- One `req_data` row, with the values the database has for it elsewhere. -/
structure Entry where
  parameter : String
  position : String
  type : String
  required : Bool
  contentType : String
  value : List Json
  locator : Dict
  canonicalName : String
  schemaPath : String
  /-- `_resolve_dependency_value` -/
  dependency : Json × Dict
  /-- `_relation_value` -/
  relation : Json
  /-- `_lookup_archive_value`: value, source and quality -/
  archive : Json × Json × Json

/-- The newest sample of an endpoint. -/
structure Sample where
  id : String
  url : String
  query : Json
  headers : Dict
  body : Json
  responseSample : Json
  responseStatusCode : Json

/-- A `raw_data` row with what is read beside it. -/
structure Endpoint where
  id : String
  ptahId : Int
  projectId : String
  envId : String
  importRunId : String
  sourceMeta : Dict
  method : String
  url : String
  path : String
  domain : String
  query : Json
  headers : Dict
  rawReq : List Json
  rawRes : List Json
  responseStatusCode : List Json
  action : String
  rule : String
  tags : String
  des : String
  entries : List Entry
  sample : Option Sample

/-- `_select_value`, of a list. -/
def selectValue (values : List Json) : Json := values.headD .null

def placeholderValueLiterals : List String :=
  ["", "string", "example", "sample", "demo", "test", "xxx", "xxxx", "placeholder", "todo", "fixme", "tbd", "n/a",
    "none", "null", "-", "--", "?", "foo", "bar", "baz", "value", "name", "id"]

def isPlaceholderValue : Json → Bool
  | .null => true
  | .arr items => items.isEmpty
  | .obj fields => fields.isEmpty
  | value => placeholderValueLiterals.contains (lower (stripped value.pyStr))

def defaultForMissingParameter (name position type : String) (required : Bool) : Json :=
  let low := lower ((split name '.').getLastD "")
  let typ := lower type
  if !required && ["query", "header", "cookie", "body"].contains position then .null
  else if position == "query" && low == "offset" then .int 0
  else if position == "query" && low == "limit" then .int 10
  else if position == "query" && (typ == "array" || endsWith low "ids") then .arr []
  else if position == "query" && ["integer", "int", "int32", "int64", "number"].contains typ then .int 0
  else if position == "query" && ["boolean", "bool"].contains typ then .bool false
  else if position == "body" && (typ == "array" || endsWith low "[]") then .arr []
  else .str ""

/-- `value or default` -/
def orElse (value default : Json) : Json := if value.truthy then value else default

/-- The value of a parameter and where it is from. -/
structure Resolved where
  value : Json
  source : Json
  valueQuality : Json
  dependencyMeta : Dict

/-- The first value among the row, its dependency, its relations, the archive and the default. -/
def Entry.resolve (e : Entry) : Resolved :=
  let position := if e.position == "" then "body" else e.position
  if selectValue e.value ≠ .null then ⟨selectValue e.value, .str "req_data", .str "unknown", []⟩
  else if e.dependency.1 ≠ .null then
    ⟨e.dependency.1, orElse (Dict.get e.dependency.2 "source") (.str "parameter_dependency"),
      orElse (Dict.get e.dependency.2 "value_quality") (.str "unknown"), e.dependency.2⟩
  else if e.relation ≠ .null then ⟨e.relation, .str "parameter_relation", .str "unknown", e.dependency.2⟩
  else if e.archive.1 ≠ .null then ⟨e.archive.1, e.archive.2.1, e.archive.2.2, e.dependency.2⟩
  else
    ⟨defaultForMissingParameter e.parameter position e.type e.required, .str "empty_default", .str "unknown",
      e.dependency.2⟩

/-- The quality a value is labelled with. -/
def Resolved.label (r : Resolved) : Json :=
  if r.source = .str "empty_default" then .str "placeholder"
  else if r.valueQuality ≠ .str "observed" ∧ isPlaceholderValue r.value then .str "placeholder"
  else r.valueQuality

/-- What `build_request_payload` returns. -/
structure Payload where
  pathid : Int
  rawId : String
  source : String
  projectId : String
  importRunId : String
  envId : String
  accountId : String
  authMode : String
  method : String
  url : String
  renderedUrl : String
  path : String
  domain : String
  contentType : Json
  query : Json
  headers : Dict
  cookies : Dict
  pathParams : Dict
  body : Json
  rawBodySample : Json
  responseSample : Json
  expectedStatusCodes : List Json
  parameterSources : Dict
  metadata : Dict

/-- The functions composing rests on: `parameter_locator` of a row at a position,
`set_value_at_locator` and `render_request_url`. -/
structure Composer where
  parameterLocator : Entry → String → Dict
  setValueAtLocator : Json → Dict → Json → Except String Json
  renderRequestUrl : Payload → String

def normalizeHeaders (headers : Dict) : Dict :=
  (headers.map fun (key, value) => match value with
    | .arr items => (key, items.headD (.str ""))
    | value => (key, value)).filter fun e => e.1 != "Content-Length" && e.1 != "content-length"

def headerValue (headers : Dict) (name : String) : Json :=
  ((headers.find? fun e => lower e.1 == lower name).map (·.2)).getD .null

/-- The parts of a request while its parameters are read. -/
structure Draft where
  query : Dict
  headers : Dict
  path : Dict
  cookies : Dict
  body : Json
  contentType : Json
  parameterSources : Dict

/-- The record of a parameter that is left out. -/
def omittedSource (e : Entry) (position : String) (r : Resolved) : Json :=
  .obj [("position", .str position), ("source", .str "omitted_empty_optional"), ("value_quality", .str "unknown"),
    ("required", .bool e.required), ("type", .str e.type), ("dependency", .obj r.dependencyMeta)]

/-- The record of a parameter that is sent. -/
def sentSource (e : Entry) (position : String) (r : Resolved) (locator : Dict) : Json :=
  .obj [("position", .str position), ("source", r.source), ("value_quality", r.label), ("required", .bool e.required),
    ("type", .str e.type), ("dependency", .obj r.dependencyMeta),
    ("canonical_name", orElse (.str e.canonicalName) (orElse (Dict.get locator "canonical_name") (.str ""))),
    ("schema_path", orElse (.str e.schemaPath) (orElse (Dict.get locator "schema_path") (.str e.parameter))),
    ("locator", .obj [("version", Dict.get locator "version"), ("kind", Dict.get locator "kind"),
      ("json_pointer", Dict.get locator "json_pointer")])]

/-- One round of the loop over the parameters. -/
def addEntry (composer : Composer) (draft : Draft) (e : Entry) : Except String Draft :=
  if e.parameter == "" then .ok draft
  else
    let position := if e.position == "" then "body" else e.position
    let r := e.resolve
    if r.value = .null then
      .ok { draft with
        parameterSources := Dict.set draft.parameterSources e.parameter (omittedSource e position r) }
    else
      let locator := if e.locator.isEmpty then composer.parameterLocator e position else e.locator
      let draft := { draft with
        contentType := orElse (.str e.contentType) draft.contentType
        parameterSources := Dict.set draft.parameterSources e.parameter (sentSource e position r locator) }
      if position == "query" then .ok { draft with query := Dict.set draft.query e.parameter r.value }
      else if position == "header" then .ok { draft with headers := Dict.set draft.headers e.parameter r.value }
      else if position == "path" then .ok { draft with path := Dict.set draft.path e.parameter r.value }
      else if position == "cookie" then .ok { draft with cookies := Dict.set draft.cookies e.parameter r.value }
      else do
        let body ← composer.setValueAtLocator draft.body locator r.value
        .ok { draft with body }

/-- `asset_context`, of one field and its legacy key. -/
def contextField (field : String) (sourceMeta : Dict) (key : String) : String :=
  if field ≠ "" then field else (Dict.get sourceMeta key).strOrEmpty

/-- For whom a request is composed. -/
structure ComposeContext where
  projectId : String
  envId : String
  accountId : String
  authMode : String
  source : String

/-- The payload of an endpoint whose parameters were read, without the rendered url. -/
def payloadOf (context : ComposeContext) (data : Endpoint) (draft : Draft) : Payload :=
  let orText (text default : String) : String := if text = "" then default else text
  let codes := match data.sample with
    | some sample => if sample.responseStatusCode ≠ .null then [sample.responseStatusCode]
      else data.responseStatusCode
    | none => data.responseStatusCode
  { pathid := data.ptahId
    rawId := data.id
    source := context.source
    projectId := orText context.projectId (contextField data.projectId data.sourceMeta "internal_project_id")
    importRunId := contextField data.importRunId data.sourceMeta "import_run_id"
    envId := orText context.envId (contextField data.envId data.sourceMeta "env_id")
    accountId := context.accountId
    authMode := orText context.authMode "inherit"
    method := upper (orText data.method "GET")
    url := data.sample.elim data.url Sample.url
    renderedUrl := ""
    path := data.path
    domain := data.domain
    contentType := orElse draft.contentType (.str "application/json")
    query := if draft.query.isEmpty then orElse (data.sample.elim data.query Sample.query) (.obj [])
      else .obj draft.query
    headers := draft.headers
    cookies := draft.cookies
    pathParams := draft.path
    body := if draft.body ≠ .null then draft.body else .obj []
    rawBodySample := data.sample.elim (selectValue data.rawReq) Sample.body
    responseSample := data.sample.elim (selectValue data.rawRes) Sample.responseSample
    expectedStatusCodes := codes
    parameterSources := draft.parameterSources
    metadata := [("action", .str data.action), ("rule", .str data.rule), ("tags", .str data.tags),
      ("description", .str data.des), ("sample_id", .str (data.sample.elim "" Sample.id))] }

/-- The draft before the first parameter. -/
def startDraft (data : Endpoint) : Draft :=
  let headers := normalizeHeaders (data.sample.elim data.headers Sample.headers)
  ⟨[], headers, [], [], .null, headerValue headers "content-type", []⟩

/-- `build_request_payload`, of an endpoint that was found. -/
def buildRequestPayload (composer : Composer) (context : ComposeContext) (data : Endpoint) :
    Except String Payload := do
  let draft ← data.entries.foldlM (addEntry composer) (startDraft data)
  let payload := payloadOf context data draft
  .ok { payload with renderedUrl := composer.renderRequestUrl payload }

/-- The document of a `request_snapshot`. -/
structure SnapshotData where
  pathid : Int
  rawData : Option String
  source : String
  projectId : String
  importRunId : String
  envId : String
  accountId : String
  authMode : String
  authProviderId : Json
  authContextRef : Json
  authProfileRevisionId : Json
  authRealmRevisionId : Json
  authAdapterVersionId : Json
  planVersion : Json
  planSha256 : Json
  adapterId : Json
  adapterVersion : Json
  method : String
  url : String
  path : String
  domain : String
  query : Json
  headers : Dict
  cookies : Dict
  pathParams : Dict
  body : Json
  contentType : Json
  expectedStatusCodes : List Json
  parameterSources : Dict
  metadata : Dict

/-- `payload.get("body") in [None, {}]` -/
def isEmptyBody (body : Json) : Prop := body = .null ∨ body = .obj []

instance (body : Json) : Decidable (isEmptyBody body) := inferInstanceAs (Decidable (_ ∨ _))

/-- `payload_to_snapshot_data`, without a row. -/
def payloadToSnapshotData (payload : Payload) : SnapshotData where
  pathid := payload.pathid
  rawData := none
  source := if payload.source == "" then "asset" else payload.source
  projectId := payload.projectId
  importRunId := payload.importRunId
  envId := payload.envId
  accountId := payload.accountId
  authMode := if payload.authMode == "" then "inherit" else payload.authMode
  authProviderId := orElse (Dict.get payload.metadata "auth_provider_id") (.str "")
  authContextRef := orElse (Dict.get payload.metadata "auth_context_ref") (.str "")
  authProfileRevisionId := orElse (Dict.get payload.metadata "auth_profile_revision_id") (.str "")
  authRealmRevisionId := orElse (Dict.get payload.metadata "auth_realm_revision_id") (.str "")
  authAdapterVersionId := orElse (Dict.get payload.metadata "auth_adapter_version_id") (.str "")
  planVersion := orElse (Dict.get payload.metadata "plan_version") (.str "")
  planSha256 := orElse (Dict.get payload.metadata "plan_sha256") (.str "")
  adapterId := orElse (Dict.get payload.metadata "adapter_id") (.str "")
  adapterVersion := orElse (Dict.get payload.metadata "adapter_version") (.str "")
  method := if payload.method == "" then "GET" else payload.method
  url := if payload.renderedUrl == "" then payload.url else payload.renderedUrl
  path := payload.path
  domain := payload.domain
  query := orElse payload.query (.obj [])
  headers := payload.headers
  cookies := payload.cookies
  pathParams := payload.pathParams
  body := if isEmptyBody payload.body then payload.rawBodySample else payload.body
  contentType := orElse payload.contentType (.str "application/json")
  expectedStatusCodes := payload.expectedStatusCodes
  parameterSources := payload.parameterSources
  metadata := payload.metadata

/-! ## The method of a payload -/

/-- The method of a payload is in capitals, and there is one. -/
theorem buildRequestPayload_method {composer : Composer} {context : ComposeContext} {data : Endpoint}
    {payload : Payload} (built : buildRequestPayload composer context data = .ok payload) :
    payload.method ≠ "" ∧ upper payload.method = payload.method := by
  unfold buildRequestPayload at built
  cases composed : data.entries.foldlM (addEntry composer) (startDraft data) with
  | error e => rw [composed] at built; cases built
  | ok draft =>
    rw [composed] at built
    cases built
    refine ⟨upper_ne_empty ?_, upper_upper _⟩
    dsimp only
    split
    · decide
    · next present => exact present

end ApiManger.Experiments
