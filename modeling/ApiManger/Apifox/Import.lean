import ApiManger.Collection.Keyed
import ApiManger.Imperative.Routine
import ApiManger.Python.Documents
import ApiManger.Python.Mapping
import ApiManger.Signatures.Path

/-!
# Import of Apifox documents

`import_apifox_detail_file` of `apiAnalysis/tool/apifox_importer.py`: the endpoint of a document
is written to the row that is found by its id, or by the signature of its method and path, or to a
new one.
-/

namespace ApiManger.Apifox
open Python Account Collection Imperative Signatures

/-! ## Rows -/

/-- An endpoint in a project. -/
structure Record where
  projectId : String
  sourceId : String
  deriving DecidableEq

/-- `raw_data`, without what an import writes once and never reads. -/
structure RawRow where
  id : String
  source : String
  sourceId : String
  sourceMeta : Mapping Json
  projectId : String
  envId : String
  importRunId : String
  assetKind : String
  abstractSignature : String
  domain : String
  path : String
  ptahId : ℕ
  method : String
  url : String
  des : Json
  tags : String
  responseStatusCode : List Int

/-- `(source_meta or {}).get("apifox_project_id")`, as text. -/
def metaProject (sourceMeta : Mapping Json) : String := ((sourceMeta.get? "apifox_project_id").getD .null).strOrEmpty

/-- The row is one of Apifox with this endpoint id. -/
def RawRow.isApifox (row : RawRow) (sourceId : String) : Bool := row.source == "apifox" && row.sourceId == sourceId

/-- The stored rows, and the counter of their `ptah_id`. -/
structure RawStore where
  rows : List RawRow
  distinct : Distinct RawRow.id rows
  sequence : ℕ

/-- `row.save()`. -/
def RawStore.save (s : RawStore) (row : RawRow) : RawStore where
  rows := Collection.save RawRow.id row s.rows
  distinct := s.distinct.save row
  sequence := s.sequence

/-! ## Documents -/

def httpMethods : List String := [
  "GET", "POST", "PUT", "DELETE", "PATCH", "HEAD", "OPTIONS", "TRACE", "CONNECT", "PROPFIND", "PROPPATCH", "MKCOL",
  "COPY", "MOVE", "LOCK", "UNLOCK", "REPORT", "SEARCH", "MKACTIVITY", "CHECKOUT", "MERGE", "ACL"]

def formalServerBaseUrls : Mapping String := .empty

/-- What an import relies on: the digits of all scripts, the digest of a text, new object ids, the further checks of
`urlparse`, what the database refuses to store, `_PROJECT_SERVER_BASE_URLS`, and the import of the parameters of an
endpoint. -/
structure ApifoxOutside where
  decimals : Decimals
  md5 : String → String
  newObjectId : List String → String
  fresh : ∀ ids, newObjectId ids ∉ ids
  refusesNetloc : String → Bool
  refuses : RawRow → Bool
  projectServers : Mapping String
  parameters : Dict → Except PyError (ℕ × ℕ)

def normalizeBaseUrl (baseUrl : String) : String :=
  let value := rstripChar (stripped baseUrl) '/'
  if value != "" && !containsText value "://" then "https://" ++ value else value

def joinUrl (baseUrl path : String) : String :=
  if containsText path "://" then path
  else
    let base := normalizeBaseUrl baseUrl
    if base == "" then orText path "/" else base ++ "/" ++ lstripChar path '/'

section
variable (o : ApifoxOutside)

variable (endpoint : Dict)

def endpointBaseUrl (fallbackBaseUrl : String) : String :=
  let serverId := (Dict.get endpoint "serverId").strOrEmpty
  let fallback := normalizeBaseUrl fallbackBaseUrl
  let server := (o.projectServers.get? serverId).getD ""
  let standing := (o.projectServers.get? "default").getD ""
  let formal := formalServerBaseUrls.get? serverId
  if server != "" then normalizeBaseUrl server
  else if (serverId == "" || serverId == "default") && standing != "" then normalizeBaseUrl standing
  else if serverId != "" && serverId != "default" && formal.isSome then formal.getD ""
  else if fallback != "" then fallback
  else orText (formal.getD "") ((formalServerBaseUrls.get? "default").getD "")

/-- The material of `api_signature_object_id`, for an abstract asset without query and body. -/
def apiSignature (method path : String) : String :=
  (Json.obj [("asset_kind", .str "abstract"), ("scope", .str "abstract"), ("method", .str (upper (orText method "GET"))),
    ("path", .str (normalizeSignaturePath o.decimals path)), ("route_query", .obj []), ("query_keys", .arr []),
    ("body_shape", .obj [("content_type", .str ""), ("keys", .arr [])])]).dumpsCompact

/-- `api_signature_object_id`, of such an asset. -/
def apiSignatureObjectId (method path : String) : String := firstChars (o.md5 (apiSignature o method path)) 24

def endpointSourceMeta (context : Mapping Json) : Mapping Json :=
  let custom := Dict.get endpoint "customApiFields"
  (Mapping.ofItems [
    ("apifox_endpoint_id", Dict.get endpoint "id"), ("apifox_project_id", Dict.get endpoint "projectId"),
    ("apifox_module_id", Dict.get endpoint "moduleId"), ("apifox_folder_id", Dict.get endpoint "folderId"),
    ("apifox_server_id", Dict.get endpoint "serverId"), ("operation_id", Dict.get endpoint "operationId"),
    ("name", Dict.get endpoint "name"), ("status", Dict.get endpoint "status"),
    ("visibility", Dict.get endpoint "visibility"), ("ordering", Dict.get endpoint "ordering"),
    ("created_at", Dict.get endpoint "createdAt"), ("updated_at", Dict.get endpoint "updatedAt"),
    ("custom_api_fields", if custom.truthy then custom else .obj [])]).update context

def responseStatusCodes : Except PyError (List Int) := do
  let responses ← documentsOf (Dict.get endpoint "responses")
  return (responses.filterMap fun response => (Dict.get response "code").toInt.toOption).eraseDups

/-- `",".join(...)` of the tags. -/
def tagText : String :=
  match Dict.get endpoint "tags" with
  | .arr items => ",".intercalate (items.map Json.pyStr)
  | value => value.strOrEmpty

/-- `endpoint.get("path") or endpoint.get("name") or "/"`. -/
def endpointPath : Json :=
  if Dict.truthy endpoint "path" then Dict.get endpoint "path"
  else if Dict.truthy endpoint "name" then Dict.get endpoint "name"
  else .str "/"

def endpointMethod : String := upper (Dict.get endpoint "method").strOrEmpty

def recordOf : Record where
  projectId := (Dict.get endpoint "projectId").strOrEmpty
  sourceId := (Dict.get endpoint "id").strOrEmpty

/-! ## The row of an endpoint -/

/-- The row that is written: one that is there, or a new one with an id. -/
inductive Target where
  | update (row : RawRow)
  | create (id : String)

/-- The first stored row of Apifox with this endpoint id. -/
def firstRow (rows : List RawRow) (sourceId : String) : Option RawRow :=
  if sourceId == "" then none else rows.find? (·.isApifox sourceId)

/-- The first row, where it is not of another project. -/
def ownFirstRow (rows : List RawRow) (record : Record) : Option RawRow :=
  match firstRow rows record.sourceId with
  | none => none
  | some row =>
    let existing := metaProject row.sourceMeta
    if existing != "" && record.projectId != "" && existing != record.projectId then none else some row

/-- The row that `_upsert_raw` writes, with the id of the signature. -/
def targetOf (rows : List RawRow) (record : Record) (rawId : String) : Target :=
  match ownFirstRow rows record with
  | some row => .update row
  | none => match lookup RawRow.id rows rawId with
    | none => .create rawId
    | some row =>
      if row.isApifox record.sourceId then .update row
      else if row.source == "apifox" && metaProject row.sourceMeta == record.projectId && record.sourceId == "" then
        .update row
      else .create (o.newObjectId (rows.map (·.id)))

/-- What `_upsert_raw` computes of an endpoint before it looks for its row. -/
structure Prepared where
  endpoint : Dict
  context : Mapping Json
  method : String
  path : String
  url : String
  domain : String
  signature : String
  rawId : String

/-- The values of a text in the context, or else an old one. -/
def contextText (context : Mapping Json) (key old : String) : String :=
  orText ((context.get? key).getD .null).strOrEmpty old

def prepare (baseUrl : String) (context : Mapping Json) : Except PyError Prepared := do
  let method := endpointMethod endpoint
  if method == "" then .error (.valueError "Apifox endpoint has no method")
  else do
    let url := joinUrl (endpointBaseUrl o endpoint baseUrl) (endpointPath endpoint).pyStr
    let domain ← netlocOf o.refusesNetloc url
    match endpointPath endpoint with
    | .str path => return {
        endpoint := endpoint
        context := context
        method := method
        path := path
        url := url
        domain := domain
        signature := abstractSignature o.decimals upper method path
        rawId := apiSignatureObjectId o method path }
    | _ => .error (.typeError "expected string or bytes-like object")

/-- The description of an endpoint, or its name. -/
def createdDes : Json :=
  if Dict.truthy endpoint "description" then Dict.get endpoint "description"
  else if Dict.truthy endpoint "name" then Dict.get endpoint "name"
  else .str ""

/-- The new row of an endpoint. -/
def Prepared.created (p : Prepared) (codes : List Int) (id : String) (ptahId : ℕ) : RawRow where
  id := id
  source := "apifox"
  sourceId := (recordOf p.endpoint).sourceId
  sourceMeta := endpointSourceMeta p.endpoint p.context
  projectId := contextText p.context "project_id" ""
  envId := contextText p.context "env_id" ""
  importRunId := contextText p.context "import_run_id" ""
  assetKind := "abstract"
  abstractSignature := p.signature
  domain := p.domain
  path := p.path
  ptahId := ptahId
  method := p.method
  url := p.url
  des := createdDes p.endpoint
  tags := tagText p.endpoint
  responseStatusCode := codes

/-- The row that is there, with the fields of an endpoint. -/
def Prepared.updated (p : Prepared) (codes : List Int) (row : RawRow) : RawRow where
  id := row.id
  source := orText row.source "apifox"
  sourceId := orText row.sourceId (recordOf p.endpoint).sourceId
  sourceMeta := endpointSourceMeta p.endpoint p.context
  projectId := contextText p.context "project_id" row.projectId
  envId := contextText p.context "env_id" row.envId
  importRunId := contextText p.context "import_run_id" row.importRunId
  assetKind := orText row.assetKind "abstract"
  abstractSignature := p.signature
  domain := p.domain
  path := p.path
  ptahId := row.ptahId
  method := p.method
  url := p.url
  des := if Dict.truthy p.endpoint "description" then Dict.get p.endpoint "description" else row.des
  tags := orText (tagText p.endpoint) row.tags
  responseStatusCode := row.responseStatusCode ++ codes.filter (!row.responseStatusCode.contains ·)

/-- `data.save()`. -/
def saveRaw (row : RawRow) : Routine RawStore PyError RawRow :=
  if o.refuses row then Routine.raise (.other "ValidationError")
  else do
    Routine.modify (·.save row)
    return row

/-- `get_next_sequence("raw_data")`. -/
def nextSequence : Routine RawStore PyError ℕ := do
  Routine.modify fun s => { s with sequence := s.sequence + 1 }
  let s ← Routine.get
  return s.sequence

def upsertRaw (baseUrl : String) (context : Mapping Json) : Routine RawStore PyError RawRow := do
  let p ← Routine.ofExcept (prepare o endpoint baseUrl context)
  let s ← Routine.get
  let target := targetOf o s.rows (recordOf endpoint) p.rawId
  let codes ← Routine.ofExcept (responseStatusCodes endpoint)
  match target with
  | .update row => saveRaw o (p.updated codes row)
  | .create id => do
    let ptahId ← nextSequence
    saveRaw o (p.created codes id ptahId)

/-! ## Importing a file -/

/-- The arguments of `import_apifox_detail_file`, with what `_load_json` reads of the file. -/
structure ImportCall where
  file : String
  loaded : Except PyError Json
  baseUrl : String := ""
  sourceContext : Mapping Json := .empty

inductive ImportResult where
  | nonHttp
  | unsupportedHttpMethod (method : String) (endpointId : Json)
  | imported (endpointId : Json) (pathid : ℕ) (method path : String) (reqParams resParams : ℕ)

/-- The endpoint of a document. -/
def endpointOf (call : ImportCall) : Except PyError Dict := do
  let doc ← asDocument (← call.loaded)
  if Dict.truthy doc "data" then asDocument (Dict.get doc "data") else return doc

def importContext (call : ImportCall) (endpoint : Dict) : Except PyError (Mapping Json) := do
  let base := endpointBaseUrl o endpoint call.baseUrl
  let path := Dict.get endpoint "path"
  let host ← netlocOf o.refusesNetloc (joinUrl base path.strOrEmpty)
  return (Mapping.ofItems [("source_file", .str call.file), ("resolved_base_url", .str base),
    ("resolved_host", .str host)]).update call.sourceContext

/-- The type of an endpoint is given, and is not `http`. -/
def isOtherType : Bool := Dict.truthy endpoint "type" && Dict.get endpoint "type" != .str "http"

def importApifoxDetailFile (call : ImportCall) : Routine RawStore PyError ImportResult := do
  let endpoint ← Routine.ofExcept (endpointOf call)
  if isOtherType endpoint then Routine.ret .nonHttp
  else if !httpMethods.contains (endpointMethod endpoint) then
    Routine.ret (.unsupportedHttpMethod (endpointMethod endpoint) (Dict.get endpoint "id"))
  else do
    let context ← Routine.ofExcept (importContext o call endpoint)
    let data ← upsertRaw o endpoint call.baseUrl context
    let counts ← Routine.ofExcept (o.parameters endpoint)
    return .imported (Dict.get endpoint "id") data.ptahId data.method data.path counts.1 counts.2

/-- Imports one after the other, also after one that raised. -/
def importAll (calls : List ImportCall) (s : RawStore) : RawStore :=
  calls.foldl (fun s call => (importApifoxDetailFile o call s).2) s

end

end ApiManger.Apifox
