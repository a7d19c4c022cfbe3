import ApiManger.Python.CompactText
import ApiManger.Python.Sorted
import ApiManger.Python.Text

/-!
# Request fixtures

`apiAnalysis/tool/request_fixture.py`: a fixture holds a copy of the payload of its current revision, revisions are
added and never changed, and each change of the lifecycle or of the current revision appends an event. A call that
raises an error changes nothing.
-/

namespace ApiManger.Fixtures
open Collection Python

/-- `hashlib.sha256(text.encode("utf-8")).hexdigest()` and `str.lower`. -/
structure FixtureOutside where
  sha256 : String → String
  lower : String → String

def authHeaderNames : List String :=
  ["authorization", "proxy-authorization", "cookie", "set-cookie", "x-access-token", "x-auth-token"]

def authParameterNames : List String :=
  ["authorization", "cookie", "token", "access_token", "refresh_token", "session", "sessionid", "sid", "csrf", "xsrf",
    "signature", "sign"]

inductive Lifecycle where
  | active
  | inactive
  | archived
deriving DecidableEq

inductive EventType where
  | created
  | revised
  | activated
  | deactivated
  | archived
deriving DecidableEq

/-- The business inputs of a fixture or a revision. -/
structure Payload where
  query : Dict
  headers : Dict
  pathParams : Dict
  body : Json
  note : String

/-- `ProjectRequestFixture`. -/
structure Fixture where
  payload : Payload
  active : Bool
  lifecycle : Lifecycle
  currentRevisionId : String
  currentRevisionNo : ℕ
  payloadSha256 : String
  modificator : String

/-- `ProjectRequestFixtureRevision`. -/
structure Revision where
  fixtureRevisionId : String
  revisionNo : ℕ
  payloadSha256 : String
  payload : Payload
  createdBy : String

/-- `ProjectRequestFixtureEvent`. -/
structure Event where
  fixtureRevisionId : String
  eventType : EventType
  fromLifecycle : Option Lifecycle
  toLifecycle : Lifecycle
  actor : String
  reason : String

/-- The fixture of one project, environment, endpoint, profile and name, with its revisions and events. -/
structure FixtureStore where
  fixture : Option Fixture
  revisions : List Revision
  events : List Event

def FixtureStore.empty : FixtureStore := ⟨none, [], []⟩

/-- The texts that identify a fixture. -/
structure FixtureKey where
  projectId : String
  envId : String
  pathid : ℤ
  profileId : String
  name : String

variable (o : FixtureOutside)

def fixtureId (key : FixtureKey) : String :=
  let name := stripped key.name
  let raw := "\x00".intercalate [stripped key.projectId, stripped key.envId, toString key.pathid,
    stripped key.profileId, if name = "" then "default" else name]
  "request-fixture-" ++ firstChars (o.sha256 raw) 32

/-- `_text(value)[:n]`. -/
def clipped (value : String) (n : ℕ) : String := firstChars (stripped value) n

/-- The document that is digested. -/
def Payload.document (p : Payload) : Json :=
  .obj [("query", .obj p.query), ("headers", .obj p.headers), ("path_params", .obj p.pathParams), ("body", p.body),
    ("note", .str p.note)]

/-- `_fixture_payload_sha256`. -/
def fixturePayloadSha256 (p : Payload) : String := o.sha256 p.document.dumpsAscii

def appendFixtureEvent (s : FixtureStore) (fixture : Fixture) (eventType : EventType) (actor reason : String)
    (fromLifecycle : Option Lifecycle) (revisionId : String) : FixtureStore :=
  { s with events := s.events ++ [{
      fixtureRevisionId := if revisionId = "" then fixture.currentRevisionId else revisionId
      eventType := eventType
      fromLifecycle := fromLifecycle
      toLifecycle := fixture.lifecycle
      actor := clipped actor 120
      reason := clipped reason 500 }] }

/-! ## Checks -/

def mapping (value : Json) (field : String) : Except String Dict :=
  match value with
  | .null => .ok []
  | .str "" => .ok []
  | .obj fields => .ok fields
  | _ => .error (field ++ " 必须是 JSON 对象")

def validateNonAuthHeaders (headers : Dict) : Except String Unit :=
  let forbidden := sorted ((headers.map (·.1)).filter fun key => authHeaderNames.contains (o.lower (stripped key)))
  if forbidden = [] then .ok ()
  else .error ("认证 Header 由账号认证方案自动刷新，测试数据模板不能保存：" ++ ", ".intercalate forbidden)

/-- `text.strip(".")`. -/
def stripDots (text : String) : String :=
  rstripChar (String.ofList (text.toList.dropWhile (· == '.'))) '.'

mutual

def validateNonAuthPayload (o : FixtureOutside) (field path : String) : Json → Except String Unit
  | .obj fields => validateNonAuthFields o field path fields
  | .arr items => validateNonAuthItems o field path 0 items
  | .str text =>
    let lowered := o.lower (stripped text)
    if startsWith lowered "bearer " || containsText lowered "-----begin private key-----" then
      .error (field ++ " 包含疑似认证材料，测试数据模板不能保存")
    else .ok ()
  | _ => .ok ()

def validateNonAuthFields (o : FixtureOutside) (field path : String) : List (String × Json) → Except String Unit
  | [] => .ok ()
  | (key, item) :: rest => do
    let location := stripDots (path ++ "." ++ key)
    if authParameterNames.contains (replaceChar (o.lower (stripped key)) '-' '_') then
      throw (field ++ " 中的认证字段由认证方案管理，测试数据模板不能保存：" ++ location)
    validateNonAuthPayload o field location item
    validateNonAuthFields o field path rest

def validateNonAuthItems (o : FixtureOutside) (field path : String) (index : ℕ) : List Json → Except String Unit
  | [] => .ok ()
  | item :: rest => do
    validateNonAuthPayload o field (path ++ "[" ++ toString index ++ "]") item
    validateNonAuthItems o field path (index + 1) rest

end

/-! ## Operations -/

/-- The arguments of `save_request_fixture`, and whether the endpoint is one of the project. -/
structure SaveCall where
  query : Json
  headers : Json
  pathParams : Json
  body : Json
  note : String
  operator : String
  endpoint : Bool

/-- The payload that a call saves, where its checks pass. -/
def SaveCall.payload (c : SaveCall) : Except String Payload := do
  let query ← mapping c.query "Query"
  let headers ← mapping c.headers "Header"
  let pathParams ← mapping c.pathParams "Path"
  validateNonAuthHeaders o headers
  validateNonAuthPayload o "Query" "" (.obj query)
  validateNonAuthPayload o "Path" "" (.obj pathParams)
  validateNonAuthPayload o "Body" "" c.body
  return { query := query, headers := headers, pathParams := pathParams, body := c.body, note := clipped c.note 500 }

/-- The revision of a payload, and whether it is new. -/
def revisionOf (id : String) (s : FixtureStore) (p : Payload) (operator : String) :
    Revision × Bool :=
  let digest := fixturePayloadSha256 o p
  match s.revisions.find? (·.payloadSha256 == digest) with
  | some revision => (revision, false)
  | none =>
    let revisionNo := (s.revisions.map (·.revisionNo)).foldl max 0 + 1
    ({ fixtureRevisionId := id ++ "-r" ++ toString revisionNo ++ "-" ++ firstChars digest 12
       revisionNo := revisionNo
       payloadSha256 := digest
       payload := p
       createdBy := clipped operator 120 }, true)

def saveRequestFixture (id : String) (c : SaveCall) (s : FixtureStore) :
    Except String FixtureStore := do
  let payload ← c.payload o
  if !c.endpoint then
    throw "测试数据模板对应的接口不存在或不属于当前项目"
  if s.fixture.any (·.lifecycle == .archived) then
    throw "archived fixture is immutable; create a new named fixture"
  let (revision, revisionCreated) := revisionOf o id s payload c.operator
  let revisions := if revisionCreated then s.revisions ++ [revision] else s.revisions
  let fixture : Fixture := {
    payload := payload
    active := true
    lifecycle := .active
    currentRevisionId := revision.fixtureRevisionId
    currentRevisionNo := revision.revisionNo
    payloadSha256 := fixturePayloadSha256 o payload
    modificator := clipped c.operator 120 }
  let saved : FixtureStore := { s with fixture := some fixture, revisions := revisions }
  match s.fixture with
  | none => return appendFixtureEvent saved fixture .created c.operator "" none revision.fixtureRevisionId
  | some previous =>
    if previous.lifecycle != .active then
      return appendFixtureEvent saved fixture .activated c.operator "" (some previous.lifecycle)
        revision.fixtureRevisionId
    else if previous.currentRevisionId != revision.fixtureRevisionId then
      return appendFixtureEvent saved fixture (if revisionCreated then .revised else .activated) c.operator
        (if revisionCreated then "new immutable fixture revision" else "activated existing revision")
        (some previous.lifecycle) revision.fixtureRevisionId
    else return saved

def activateFixtureRevision (fixtureRevisionId operator reason : String) (s : FixtureStore) :
    Except String FixtureStore :=
  match s.fixture, s.revisions.find? (·.fixtureRevisionId == stripped fixtureRevisionId) with
  | some fixture, some revision =>
    if fixture.lifecycle == .archived then .error "archived fixture cannot be activated"
    else if fixture.lifecycle == .active && fixture.currentRevisionId == revision.fixtureRevisionId then .ok s
    else
      let activated : Fixture := {
        payload := revision.payload
        active := true
        lifecycle := .active
        currentRevisionId := revision.fixtureRevisionId
        currentRevisionNo := revision.revisionNo
        payloadSha256 := revision.payloadSha256
        modificator := clipped operator 120 }
      .ok (appendFixtureEvent { s with fixture := some activated } activated .activated operator reason
        (some fixture.lifecycle) revision.fixtureRevisionId)
  | _, _ => .error "fixture or revision not found"

def deactivateRequestFixture (operator reason : String) (s : FixtureStore) : Except String FixtureStore :=
  match s.fixture with
  | none => .error "fixture not found"
  | some fixture =>
    if fixture.lifecycle == .archived then .error "archived fixture cannot be deactivated"
    else if fixture.lifecycle == .inactive then .ok s
    else
      let inactive := { fixture with lifecycle := .inactive, active := false, modificator := clipped operator 120 }
      .ok (appendFixtureEvent { s with fixture := some inactive } inactive .deactivated operator reason
        (some fixture.lifecycle) "")

def archiveRequestFixture (operator reason : String) (s : FixtureStore) : Except String FixtureStore :=
  match s.fixture with
  | none => .error "fixture not found"
  | some fixture =>
    if fixture.lifecycle == .archived then .ok s
    else
      let archived := { fixture with lifecycle := .archived, active := false, modificator := clipped operator 120 }
      .ok (appendFixtureEvent { s with fixture := some archived } archived .archived operator reason
        (some fixture.lifecycle) "")

/-- A call on the fixture. -/
inductive FixtureCall where
  | save (c : SaveCall)
  | activate (fixtureRevisionId operator reason : String)
  | deactivate (operator reason : String)
  | archive (operator reason : String)

def FixtureCall.result (id : String) (s : FixtureStore) : FixtureCall → Except String FixtureStore
  | .save c => saveRequestFixture o id c s
  | .activate fixtureRevisionId operator reason => activateFixtureRevision fixtureRevisionId operator reason s
  | .deactivate operator reason => deactivateRequestFixture operator reason s
  | .archive operator reason => archiveRequestFixture operator reason s

/-- The store after a call: an error changes nothing. -/
def perform (id : String) (s : FixtureStore) (call : FixtureCall) : FixtureStore :=
  match call.result o id s with
  | .ok s' => s'
  | .error _ => s

end ApiManger.Fixtures
