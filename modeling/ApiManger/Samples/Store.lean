import Mathlib.Data.List.Sort
import ApiManger.Account.RequestKwargs
import ApiManger.Collection.UpdateOne

/-!
# Request samples

`apiAnalysis/tool/request_sample_store.py`: of one API asset a few captured requests
are kept, one for each shape. A request of a shape that was seen before renews the
labels and the response of the sample, whose own request stays; `save_observation`
relabels the sample it is given.
-/

namespace ApiManger.Samples
open Python Store Account Collection

/-! ## Shapes -/

def routeQueryKeys : List String :=
  ["a", "act", "action", "api", "c", "controller", "m", "method", "module", "op", "route", "s", "service"]

def ignoredQueryKeys : List String :=
  ["_", "_t", "callback", "cb", "csrf", "limit", "nonce", "page", "page_no", "page_size", "per_page", "r", "rand",
    "random", "sign", "signature", "size", "sort", "timestamp", "token", "ts"]

def genericRoutePaths : List String := ["/api.php", "/gateway", "/index.php", "/router"]

/-- `_query_items`: by key, with the texts of the values. -/
def queryItems (query : Dict) : List (String × List String) :=
  let text (value : Json) : String := if value == .null then "" else value.pyStr
  (query.insertionSort fun a b => a.1 ≤ b.1).map fun e => match e.2 with
    | .arr items => (e.1, items.map text)
    | value => (e.1, [text value])

/-- `_is_route_like_value`; a value that the pattern matches has a slash. -/
def isRouteLikeValue (value : String) : Bool :=
  containsText value "/" || containsText value "." || containsText value "::"

def routeQuerySignature (path : String) (query : Dict) : List (String × List String) :=
  let generic := genericRoutePaths.contains (lower path) || endsWith (lower path) ".php"
  (queryItems query).filter fun e => routeQueryKeys.contains (lower e.1) ||
    (lower e.1 == "r" && generic && e.2.any isRouteLikeValue)

def queryKeySignature (query : Dict) : List String :=
  (((queryItems query).map (·.1)).filter fun key => !ignoredQueryKeys.contains (lower key)).dedup.insertionSort (· ≤ ·)

/-- `body_shape_signature` answers this. -/
structure BodyShape where
  contentType : String := ""
  keys : List String := []

/-- The payload of `sample_signature`. -/
structure SampleShape where
  method : String
  path : String
  routeQuery : List (String × List String)
  queryKeys : List String
  bodyShape : BodyShape
  authShape : List String

/-- The code that shapes rest on: `body_shape_signature`, which parses bodies, and the two digests. -/
structure Digests where
  bodyShape : Body → BodyShape
  shape : SampleShape → String
  response : String → String

/-- What a sample holds of a captured request: the base that requests are composed from. -/
structure Captured where
  url : String
  query : Dict := []
  headers : Dict := []
  body : Body := .json .null
  deriving DecidableEq

/-! ## Calls -/

/-- The labels of a sample. -/
structure Labels where
  projectId : String := ""
  envId : String := ""
  accountId : String := ""
  importRunId : String := ""
  observationId : String := ""

/-- The arguments of `save_request_sample`, with the time of the call. -/
structure SaveCall where
  method : String := "GET"
  path : String := ""
  domain : String := ""
  captured : Captured
  responseStatusCode : Option Int := none
  responseBody : Option String := none
  labels : Labels := {}
  source : String := "traffic"
  now : Timestamp

/-- The arguments of `save_observation` that label the sample it is given: `selectedProjectId` is the project of its
decision, `loaded` are the labels the sample was loaded with. -/
structure ObserveCall where
  signature : String
  loaded : Labels
  selectedProjectId : String
  hasAsset : Bool
  envId : String := ""
  accountId : String := ""
  importRunId : String := ""
  observationId : String

variable (g : Digests)

def sampleSignature (call : SaveCall) : String :=
  let path := if call.path == "" then String.ofList (urlsplit call.captured.url.toList).path else call.path
  let authHeaders := ["authorization", "cookie", "x-token", "x-csrf-token"]
  g.shape {
    method := upper (if call.method == "" then "GET" else call.method)
    path := path
    routeQuery := routeQuerySignature path call.captured.query
    queryKeys := queryKeySignature call.captured.query
    bodyShape := g.bodyShape call.captured.body
    authShape := ((call.captured.headers.map (lower ·.1)).filter authHeaders.contains).dedup.insertionSort (· ≤ ·) }

/-! ## Samples -/

/-- `request_sample`, of one asset; its signature is unique. -/
structure RequestSample where
  signature : String
  source : String := "traffic"
  labels : Labels
  method : String
  path : String
  domain : String
  captured : Captured
  bodyShape : BodyShape
  responseStatusCode : Option Int
  responseLen : ℕ
  responseHash : String
  responseSample : Option String
  hitCount : ℕ := 1
  lastSeen : Timestamp

def maxSamplesPerApi : ℕ := 10

def fullResponseSampleLimit : ℕ := 2048

def bodyLen (body : Option String) : ℕ := (body.map (·.utf8ByteSize)).getD 0

def bodyHash (body : Option String) : String := (body.map g.response).getD ""

def sampleResponse (body : Option String) : Option String := body.map (firstChars · fullResponseSampleLimit)

/-- Labels that a call gives, or else those before. -/
def Labels.renewed (before given : Labels) : Labels where
  projectId := orText given.projectId before.projectId
  envId := orText given.envId before.envId
  accountId := orText given.accountId before.accountId
  importRunId := orText given.importRunId before.importRunId
  observationId := orText given.observationId before.observationId

/-- A sample whose shape was captured again: its request stays as it was. -/
def RequestSample.again (call : SaveCall) (sample : RequestSample) : RequestSample :=
  { sample with
    hitCount := sample.hitCount + 1
    lastSeen := call.now
    responseStatusCode := call.responseStatusCode
    responseLen := bodyLen call.responseBody
    responseHash := bodyHash g call.responseBody
    labels := sample.labels.renewed call.labels
    source := orText call.source (orText sample.source "traffic")
    responseSample := if sample.responseSample = none ∨ sample.responseSample = some "" then sampleResponse call.responseBody
      else sample.responseSample }

def newSample (call : SaveCall) : RequestSample where
  signature := sampleSignature g call
  source := orText call.source "traffic"
  labels := call.labels
  method := upper (if call.method == "" then "GET" else call.method)
  path := call.path
  domain := call.domain
  captured := call.captured
  bodyShape := g.bodyShape call.captured.body
  responseStatusCode := call.responseStatusCode
  responseLen := bodyLen call.responseBody
  responseHash := bodyHash g call.responseBody
  responseSample := sampleResponse call.responseBody
  lastSeen := call.now

/-- `save_request_sample`, on the samples of the asset. -/
def saveRequestSample (call : SaveCall) (samples : List RequestSample) : List RequestSample :=
  match updateOne (fun sample => sample.signature == sampleSignature g call) (RequestSample.again g call) samples with
  | some samples => samples
  | none => if maxSamplesPerApi ≤ samples.length then samples else samples ++ [newSample g call]

/-- `save()` of a label loaded before: it is written where it is not the loaded one. -/
def writtenLabel (loaded stored value : String) : String := if value = loaded then stored else value

/-- The labels that `save_observation` writes. -/
def ObserveCall.write (call : ObserveCall) (stored : Labels) : Labels where
  projectId := writtenLabel call.loaded.projectId stored.projectId call.selectedProjectId
  envId := writtenLabel call.loaded.envId stored.envId call.envId
  accountId := writtenLabel call.loaded.accountId stored.accountId call.accountId
  importRunId := writtenLabel call.loaded.importRunId stored.importRunId call.importRunId
  observationId := writtenLabel call.loaded.observationId stored.observationId call.observationId

/-- What `save_observation` does to the sample it is given. -/
def saveObservation (call : ObserveCall) (samples : List RequestSample) : List RequestSample :=
  if call.selectedProjectId == "" || !call.hasAsset then samples
  else updateIfAny (fun sample => sample.signature == call.signature)
    (fun sample => { sample with labels := call.write sample.labels }) samples

def newest (samples : List RequestSample) : Option RequestSample :=
  samples.foldl (fun best sample => match best with
    | some kept => if kept.lastSeen < sample.lastSeen then some sample else best
    | none => some sample) none

def bestRequestSample (samples : List RequestSample) (projectId envId accountId : String) : Option RequestSample :=
  newest (samples.filter fun sample => (projectId == "" || sample.labels.projectId == projectId) &&
    (envId == "" || sample.labels.envId == envId) && (accountId == "" || sample.labels.accountId == accountId))

end ApiManger.Samples
