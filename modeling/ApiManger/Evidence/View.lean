import ApiManger.Evidence.Rows
import ApiManger.Samples.Store

/-!
# The evidence view

`endpoint_evidence_view` of an endpoint, over its samples and its parameter rows, and how captured
requests come to be there.
-/

namespace ApiManger.Evidence
open Python Samples Collection

/-- The endpoint, its `raw_data` row. -/
structure EvidenceEndpoint where
  ptahId : Int
  source : String
  sourceId : String
  sourceMeta : Dict
  assetKind : String
  method : String
  path : String
  url : String
  domain : String
  des : String
  action : String
  tags : String
  responseStatusCode : List Json
  maxRecords : ℕ
  rawReq : List (Option String)
  rawRes : List (Option String)

/-- What is stored of an endpoint. -/
structure EvidenceStore where
  endpoint : EvidenceEndpoint
  samples : List RequestSample
  reqRows : List ParameterRow
  resRows : List ParameterRow

/-! ## Storing a capture -/

/-- A captured request, with the texts of its bodies. -/
structure Capture where
  call : SaveCall
  request : Option String

/-- The call of `save_request_sample` for a capture. -/
def Capture.saveCall (c : Capture) : SaveCall :=
  { c.call with captured := { c.call.captured with body := .json (c.request.elim .null .str) } }

/-- The endpoint with the bodies of a capture, while there is room for them. -/
def EvidenceEndpoint.record (endpoint : EvidenceEndpoint) (c : Capture) : EvidenceEndpoint :=
  if endpoint.rawReq.length < endpoint.maxRecords then
    { endpoint with
      rawReq := endpoint.rawReq ++ [c.request]
      rawRes := endpoint.rawRes ++ [c.call.responseBody] }
  else endpoint

def shapeKey (key : String) : String :=
  ".".intercalate ((split key '.').map fun part => if part != "" && part.toList.all Char.isDigit then "[]" else part)

mutual

/-- The keys of `flatten_json`, below a parent. -/
def flattenKeys : Json → String → List String
  | .obj fields, parent => fieldKeys fields parent
  | .arr items, parent => itemKeys items 0 parent
  | _, parent => [parent]

def fieldKeys : List (String × Json) → String → List String
  | [], _ => []
  | (key, value) :: rest, parent =>
    flattenKeys value (if parent = "" then key else parent ++ "." ++ key) ++ fieldKeys rest parent

def itemKeys : List Json → ℕ → String → List String
  | [], _, _ => []
  | value :: rest, i, parent =>
    flattenKeys value (if parent = "" then toString i else parent ++ "." ++ toString i) ++ itemKeys rest (i + 1) parent

end

variable (r : Reader)

/-- `body_shape_signature`, of a text. -/
def bodyShapeSignature (text : String) : BodyShape :=
  if text = "" then {}
  else match bodyParse r text with
    | none => {}
    | some (document, contentType) =>
      { contentType
        keys := (((flattenKeys document "").filter (· != "")).map shapeKey).dedup.insertionSort (· ≤ ·) }

/-- The digests, with the shapes of the bodies that captures have. -/
def bodyDigests (g : Digests) : Digests :=
  { g with bodyShape := fun body => match body with
      | .json .null => {}
      | .json (.str text) => bodyShapeSignature r text
      | body => g.bodyShape body }

/-- A capture is stored: its sample, and the rows of the bodies. -/
def storeCapture (g : Digests) (r : Reader) (store : EvidenceStore) (c : Capture) : EvidenceStore :=
  let endpoint := store.endpoint.record c
  { endpoint
    samples := saveRequestSample (bodyDigests r g) c.saveCall store.samples
    reqRows := disassembleBodies r store.reqRows endpoint.rawReq
    resRows := disassembleBodies r store.resRows endpoint.rawRes }

/-! ## The view -/

def sourceLabels : List (String × String) :=
  [("apifox", "Apifox 接口文档"), ("postman", "Postman 集合"), ("openapi", "OpenAPI 文档"), ("swagger", "Swagger 文档"),
    ("har", "HAR 流量"), ("mitm", "代理流量"), ("traffic", "真实流量")]

def sourceLabel (kind default : String) : String := ((sourceLabels.find? (·.1 == kind)).map (·.2)).getD default

def withoutMarks : List Char → List Char
  | '[' :: ']' :: rest => withoutMarks rest
  | c :: rest => c :: withoutMarks rest
  | [] => []

/-- One of the entries of the view's parameters. -/
structure ParameterView where
  direction : String
  parameter : String
  displayPath : String
  position : String
  required : Bool
  type : String
  description : String
  examples : List Json
  highlight : Bool

def textOr (text default : String) : String := if text = "" then default else text

def parameterRow (direction : String) (highlighted : List String) (row : ParameterRow) : ParameterView :=
  let parameter := row.parameter.getD ""
  let displayPath := textOr row.displayPath (textOr row.schemaPath (textOr row.rawPath parameter))
  let leaf := lower ((split (String.ofList (withoutMarks displayPath.toList)) '.').getLastD "")
  { direction
    parameter
    displayPath
    position := textOr row.position (if direction = "response" then "body" else "unknown")
    required := row.required
    type := textOr row.type "unknown"
    description := row.des
    examples := if sensitiveKey parameter then []
      else (row.value.take 3).map fun value => sanitizeSampleValue r 8 parameter value
    highlight := highlighted.contains (lower parameter) || highlighted.contains (lower displayPath) ||
      highlighted.contains leaf }

/-- One of the entries of the view's samples; a document stands for the text that `json.dumps` writes of it. -/
structure SampleView where
  source : String
  sourceLabel : String
  method : String
  url : String
  domain : String
  query : Json
  queryPretty : Json
  headers : Json
  headersPretty : Json
  body : Json
  bodyPretty : Json
  response : Json
  responsePretty : Json
  statusCode : Option Int
  responseLen : ℕ
  hitCount : ℕ
  capturedAt : Store.Timestamp
  envId : String
  accountId : String

/-- `_pretty`, of what was sanitized before. -/
def pretty (value : Json) : Json :=
  if [.null, .str "", .obj [], .arr []].contains value then .str "" else sanitized r value

def bodyValue : Account.Body → Json
  | .json value => value
  | .bytes content => .str (String.ofList (decodeUtf8 content))

/-- `_sample_row`; `redactUrl` is `redact_url`. -/
def sampleRow (redactUrl : String → String) (sample : RequestSample) : SampleView :=
  let headers := sanitized r (.obj sample.captured.headers)
  let query := sanitized r (.obj sample.captured.query)
  let body := sanitized r (bodyValue sample.captured.body)
  let response := sanitized r (sample.responseSample.elim .null .str)
  let source := lower (textOr sample.source "traffic")
  { source
    sourceLabel := sourceLabel source (textOr sample.source "样本")
    method := upper sample.method
    url := redactUrl sample.captured.url
    domain := sample.domain
    query
    queryPretty := pretty r query
    headers
    headersPretty := pretty r headers
    body
    bodyPretty := pretty r body
    response
    responsePretty := pretty r response
    statusCode := sample.responseStatusCode
    responseLen := sample.responseLen
    hitCount := sample.hitCount
    capturedAt := sample.lastSeen
    envId := sample.labels.envId
    accountId := sample.labels.accountId }

def sourceKind (endpoint : EvidenceEndpoint) (samples : List RequestSample) : String :=
  let explicit := lower (stripped endpoint.source)
  let sources := samples.map fun sample => lower (stripped sample.source)
  if explicit ≠ "" then explicit
  else match ["har", "mitm", "traffic", "postman"].find? sources.contains with
    | some kind => kind
    | none =>
      if Dict.truthy endpoint.sourceMeta "apifox_endpoint_id" || Dict.truthy endpoint.sourceMeta "apifox_project_id" then
        "apifox"
      else if endpoint.assetKind = "abstract" then "openapi"
      else if !endpoint.rawRes.isEmpty then "traffic"
      else if !endpoint.rawReq.isEmpty then "postman"
      else "unknown"

/-- What `endpoint_evidence_view` returns. -/
structure EvidenceView where
  pathid : Int
  method : String
  path : String
  url : String
  domain : String
  name : String
  description : String
  action : String
  tags : String
  source : String
  sourceLabel : String
  sourceId : String
  responseStatusCodes : List Json
  requestParameters : List ParameterView
  responseParameters : List ParameterView
  requestParameterCount : ℕ
  responseParameterCount : ℕ
  samples : List SampleView
  sampleCount : ℕ

/-- The order of the rows. -/
def rowBefore (row row' : ParameterRow) : Prop :=
  row.position < row'.position ∨ row.position = row'.position ∧ row.parameter.getD "" ≤ row'.parameter.getD ""

instance : DecidableRel rowBefore := fun _ _ => inferInstanceAs (Decidable (_ ∨ _ ∧ _))

/-- What the view is asked for. -/
structure ViewArguments where
  highlighted : List String
  sampleLimit : ℕ
  parameterLimit : ℕ
  redactUrl : String → String

def endpointEvidenceView (args : ViewArguments) (store : EvidenceStore) : EvidenceView :=
  let endpoint := store.endpoint
  let samples := (store.samples.insertionSort fun a b => b.lastSeen ≤ a.lastSeen).take args.sampleLimit
  let rows (direction : String) (rows : List ParameterRow) :=
    ((rows.insertionSort rowBefore).take args.parameterLimit).map (parameterRow r direction args.highlighted)
  let kind := sourceKind endpoint samples
  { pathid := endpoint.ptahId
    method := upper endpoint.method
    path := endpoint.path
    url := args.redactUrl endpoint.url
    domain := endpoint.domain
    name := textOr (Dict.get endpoint.sourceMeta "name").strOrEmpty endpoint.des
    description := endpoint.des
    action := endpoint.action
    tags := endpoint.tags
    source := kind
    sourceLabel := sourceLabel kind "接口资产"
    sourceId := endpoint.sourceId
    responseStatusCodes := endpoint.responseStatusCode
    requestParameters := rows "request" store.reqRows
    responseParameters := rows "response" store.resRows
    requestParameterCount := store.reqRows.length
    responseParameterCount := store.resRows.length
    samples := samples.map (sampleRow r args.redactUrl)
    sampleCount := store.samples.length }

end ApiManger.Evidence
