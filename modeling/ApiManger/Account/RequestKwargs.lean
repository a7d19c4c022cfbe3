import Mathlib.Data.Rat.Defs
import Mathlib.Tactic.Positivity
import ApiManger.Account.Context

/-!
# The arguments of a replayed request

`_request_kwargs`: which headers, cookies and body a stored snapshot is replayed
with. In account mode the snapshot's own authentication is stripped and the headers
of the account context are laid over what is left, name by name.
-/

namespace ApiManger.Account
open Python Store Collection

/-! ## Snapshots -/

/-- A stored body: a JSON value, or bytes. -/
inductive Body where
  | json (value : Json)
  | bytes (content : List Nat)
  deriving DecidableEq

/-- The fields of a `request_snapshot` that decide how it is replayed. -/
structure ReplaySnapshot where
  projectId : String := ""
  envId : String := ""
  accountId : String := ""
  authProviderId : String := ""
  authContextRef : String := ""
  authMode : String := ""
  domain : String := ""
  url : String
  headers : Mapping Json := .empty
  cookies : Mapping Json := .empty
  body : Body := .json .null
  contentType : String := ""

/-- `API_MANAGER_AUTHORIZATION` and `API_MANAGER_AUTH_COOKIE`. -/
structure AuthEnvironment where
  authorization : String := ""
  cookie : String := ""

/-! ## Headers -/

def authHeaderNames : List String := [
  "authorization", "cookie", "proxy-authorization", "x-api-key", "api-key", "x-auth-token",
  "x-access-token", "access-token", "token", "jwt", "session", "sessionid", "x-csrf-token", "x-xsrf-token"]

def isAuthHeader (name : String) : Bool :=
  let lowered := replaceChar (lower (stripped name)) '_' '-'
  authHeaderNames.contains lowered || containsText lowered "authorization" || endsWith lowered "-token" ||
    endsWith lowered "-api-key"

def stripAuth (headers : Mapping Json) : Mapping Json := headers.filterKeys fun name => !isAuthHeader name

/-- The credentials of a context, as headers or cookies of a request. -/
def asJson (d : Mapping String) : Mapping Json := d.mapValues Json.str

def headersWithLocalAuth (env : AuthEnvironment) (headers : Mapping Json) (authMode : String)
    (context : Option AccountContext) : Except PyError (Mapping Json) :=
  if authMode == "anonymous" then .ok (stripAuth headers)
  else if authMode == "account" then match context with
    | none => .error contextInvalid
    | some c => .ok ((stripAuth headers).update (asJson c.headers))
  else if authMode == "inherit" then
    let withAuthorization := if env.authorization == "" then headers
      else headers.set "Authorization" (.str env.authorization)
    .ok (if env.cookie == "" then withAuthorization else withAuthorization.set "Cookie" (.str env.cookie))
  else .error (.valueError ("unsupported auth_mode: " ++ authMode))

/-! ## Options -/

/-- The digits of a decimal numeral around its point, as an integer and the number of places. -/
def readPlaces (text : List Char) : Option (Int × Nat) :=
  let whole := text.takeWhile (· != '.')
  let places := (text.dropWhile (· != '.')).drop 1
  (readInt (whole ++ places)).map fun n => (n, places.length)

/-- A decimal numeral with an optional exponent. -/
def readDecimal (text : List Char) : Option ℚ :=
  let isE (c : Char) : Bool := c == 'e' || c == 'E'
  let exponent := (text.dropWhile (!isE ·)).drop 1
  match readPlaces (text.takeWhile (!isE ·)), if exponent.isEmpty then some 0 else readInt exponent with
  | some (n, places), some e => some ((n : ℚ) * (10 : ℚ) ^ (e - places))
  | _, _ => none

/-- `float(value)`; `none` is a number that is not finite. -/
def floatOf : Json → Except PyError (Option ℚ)
  | .int n => .ok (some n)
  | .bool b => .ok (some (if b then 1 else 0))
  | .float t => .ok (readDecimal t.toList)
  | .str s =>
    let text := strip s
    let unsigned := String.ofList ((text.dropWhile fun c => c == '+' || c == '-').map Char.toLower)
    if ["nan", "inf", "infinity"].contains unsigned then .ok none
    else match readDecimal text with
      | some q => .ok (some q)
      | none => .error (.valueError "could not convert string to float")
  | .null | .arr _ | .obj _ => .error (.typeError "float() argument must be a string or a number")

/-- What is left of the options of a request. -/
structure RequestOptions where
  timeout : Option ℚ := none
  allowRedirects : Option Bool := none

def timeoutOption (options : Dict) : Except PyError (Option ℚ) :=
  match Dict.get? options "timeout" with
  | none => .ok none
  | some value => do
    let outside := PyError.valueError "timeout must be between 1 and 300 seconds"
    match ← floatOf value with
    | some q => if 1 ≤ q ∧ q ≤ 300 then return some q else throw outside
    | none => throw outside

/-- Whether redirects are followed, among the options. -/
def redirectOption (options : Dict) : Except PyError (Option Bool) :=
  match Dict.get? options "allow_redirects" with
  | none => .ok none
  | some (.bool b) => .ok (some b)
  | some _ => .error (.valueError "allow_redirects must be a boolean")

def validatedRequestOptions (options : Dict) : Except PyError RequestOptions := do
  let unsupported := (options.map (·.1)).filter fun key => key != "timeout" && key != "allow_redirects"
  if !unsupported.isEmpty then
    throw (.valueError ("unsupported request options: " ++
      ",".intercalate (unsupported.dedup.insertionSort (· ≤ ·))))
  else
    let timeout ← timeoutOption options
    let allowRedirects ← redirectOption options
    return ⟨timeout, allowRedirects⟩

/-! ## The context of the request -/

/-- `a or b`, of texts. -/
def orText (a b : String) : String := if a == "" then b else a

/-- The reference a snapshot asks for; what it leaves open is taken from the context. -/
def snapshotReference (s : ReplaySnapshot) (c : AccountContext) : AccountContextRef where
  projectId := orText s.projectId c.projectId
  envId := orText s.envId c.envId
  accountId := orText s.accountId c.accountId
  providerId := orText s.authProviderId c.providerId
  contextRef := orText s.authContextRef c.contextRef

def validatedAccountContext (s : ReplaySnapshot) (authMode : String) (context : Option AccountContext)
    (now : Timestamp) : Except PyError (Option AccountContext) :=
  if authMode ≠ "account" then .ok none
  else match context with
    | none => .error contextInvalid
    | some c => (c.validate (snapshotReference s c) (orText s.domain ((hostname s.url).getD "")) 0 now).map some

/-! ## The body -/

/-- Whether every item is a byte, where `bytes(body)` does not raise. -/
def asBytes (items : List Json) : Option (List Nat) := items.mapM fun
  | .int n => if 0 ≤ n ∧ n < 256 then some n.toNat else none
  | .bool b => some (if b then 1 else 0)
  | _ => none

def normalizeBody : Body → Option Body
  | .json .null | .json (.obj []) => none
  | .json (.str s) => if s == "" then none else some (.json (.str s))
  | .json (.arr items) => match asBytes items with
    | some content => some (.bytes content)
    | none => some (.json (.arr items))
  | body => some body

/-- What is sent as the body: `json=body`, `data=urlencode(body, doseq=True)`, `data=json.dumps(body)`,
or `data=body`. -/
inductive Payload where
  | json (body : Json)
  | form (body : Dict)
  | dumped (body : Json)
  | data (body : Body)

def payloadOf (contentType : String) : Body → Payload
  | .json (.obj fields) =>
    if containsText contentType "application/x-www-form-urlencoded" then .form fields
    else if containsText contentType "json" then .json (.obj fields)
    else .dumped (.obj fields)
  | .json (.arr items) =>
    if containsText contentType "json" then .json (.arr items) else .dumped (.arr items)
  | body => .data body

/-- The content type of a request in lower case. -/
def contentTypeOf (s : ReplaySnapshot) (headers : Mapping Json) : Except PyError String :=
  let header (name : String) : Json := (headers.get? name).getD .null
  let value := if s.contentType != "" then .str s.contentType
    else if (header "Content-Type").truthy then header "Content-Type"
    else if (header "content-type").truthy then header "content-type" else .str ""
  match value with
  | .str text => .ok (lower text)
  | _ => .error (.other "AttributeError")

/-! ## The arguments -/

/-- The keyword arguments of the request. -/
structure RequestKwargs where
  headers : Mapping Json
  cookies : Option (Mapping Json)
  options : RequestOptions
  verify : Bool
  payload : Option Payload

/-- `auth_mode or snapshot.auth_mode or "inherit"`. -/
def effectiveMode (authMode : String) (s : ReplaySnapshot) : String :=
  orText authMode (orText s.authMode "inherit")

/-- The cookies of the request, where there are any. -/
def cookiesOf (authMode : String) (s : ReplaySnapshot) (context : Option AccountContext) :
    Option (Mapping Json) :=
  if authMode == "inherit" && !s.cookies.items.isEmpty then some s.cookies
  else match context with
    | some c => if authMode == "account" && !c.cookies.items.isEmpty then some (asJson c.cookies) else none
    | none => none

/-- `bool(metadata.get("tls_verify", True))`. -/
def tlsVerify (context : Option AccountContext) : Bool :=
  match context with
  | some c => ((Dict.get? c.metadata "tls_verify").map Json.truthy).getD true
  | none => true

def requestKwargs (env : AuthEnvironment) (s : ReplaySnapshot) (authMode : String) (options : Dict)
    (context : Option AccountContext) (now : Timestamp) : Except PyError RequestKwargs := do
  let mode := effectiveMode authMode s
  let context ← validatedAccountContext s mode context now
  let headers ← headersWithLocalAuth env s.headers mode context
  let contentType ← contentTypeOf s headers
  let options ← validatedRequestOptions options
  return {
    headers := headers, cookies := cookiesOf mode s context, options := options
    verify := tlsVerify context, payload := (normalizeBody s.body).map (payloadOf contentType) }

end ApiManger.Account
