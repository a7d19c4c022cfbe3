import ApiManger.Account.RequestKwargs
import ApiManger.Imperative.Routine
import ApiManger.Recipe.Language

/-!
# The executor of recipes

`AuthRecipeExecutor` of `apiAnalysis/tool/auth_recipe.py`: the steps of a recipe change
the variables, the diagnostics and the request counter of `execute`, and what was sent is
kept beside them. What comes from outside (responses, cookies, codes, the clock, the
cryptography) is a function of the moment, so every behaviour of a server is one.
-/

namespace ApiManger.Recipe
open Python Account Mfa Store Imperative

/-! ## Outside -/

/-- The arguments of `session.request`. -/
structure Request where
  method : String
  url : String
  headers : Mapping String
  timeout : Int
  verify : Bool
  json : Option Json := none
  data : Option Json := none
  params : Option Json := none

/-- What the code reads of a response; `json` is the document of its body, if it is one. -/
structure Response where
  statusCode : Int
  headers : List (String × String) := []
  json : Option Json := none
  text : String := ""
  url : String := ""
  isRedirect : Bool := false

/-- What `session.request` raises: `SSLError`, `ConnectionError`, `Timeout`, another `RequestException` that is a
`ValueError` or is not, and what it raises for arguments it cannot encode. -/
inductive SendError where
  | ssl | connection | timeout | invalid | requestException | valueError | typeError

inductive Reply where
  | response (r : Response)
  | raised (e : SendError)

/-- A cookie of the session. -/
structure Cookie where
  name : String
  value : String

/-- What becomes of the text of a public key. -/
inductive LoadedKey where
  | rsa (bits : ℕ)
  | notRsa
  | invalid
  /-- `cryptography` raises `UnsupportedAlgorithm`. -/
  | unsupported
  deriving DecidableEq

/-- What is outside of the code. `refusesNetloc` are the further checks of `urlsplit` on a host part, and `urljoin` has
no result where it raises a `ValueError`. -/
structure Outside where
  refusesNetloc : String → Bool := fun _ => false
  urljoin : String → String → Option String
  md5 : String → String
  sha256 : String → String
  base64 : String → String
  loadKey : (certificate : Bool) → String → LoadedKey
  encrypt : (key padding value encoding : String) → Option String
  unixMillis : ℕ → ℕ
  uuid4 : ℕ → String
  utcnow : ℕ → Timestamp
  reply : ℕ → Request → Reply
  jar : ℕ → List Cookie
  waitForCode : ℕ → (receiverId correlation : String) → Int → Outcome

inductive RecipeError where
  | failure (f : AuthRecipeFailure)
  | send (e : SendError)
  | python (e : PyError)

/-! ## Origins -/

/-- The host and the port of a host part, without the user in front. -/
def hostAndPort (netloc : List Char) : List Char × List Char :=
  let host := (netloc.reverse.takeWhile (· != '@')).reverse
  if host.contains '[' then
    let inner := (host.dropWhile (· != '[')).drop 1
    (inner.takeWhile (· != ']'), (((inner.dropWhile (· != ']')).drop 1).dropWhile (· != ':')).drop 1)
  else (host.takeWhile (· != ':'), (host.dropWhile (· != ':')).drop 1)

/-- `parsed.username or parsed.password`. -/
def hasUser (netloc : List Char) : Bool :=
  netloc.contains '@' && ((netloc.reverse.dropWhile (· != '@')).drop 1).any (· != ':')

/-- `parsed.port or 0`; none where it raises. -/
def portOf (port : List Char) : Option ℕ :=
  if port.isEmpty then some 0
  else if port.all Char.isDigit then (readDigits 0 port).filter (· ≤ 65535) else none

/-- What `urlsplit` leaves of a url before it is split. -/
def cleanedUrl (url : List Char) : List Char :=
  (url.dropWhile fun c => c.toNat ≤ 32).filter fun c => c != '\t' && c != '\r' && c != '\n'

variable (o : Outside)

def normalizeOrigin (value : String) : Except PyError String :=
  let text := stripped value
  if text == "" then .ok ""
  else
    let parsed := urlsplit (cleanedUrl (if containsText text "://" then text else "https://" ++ text).toList)
    let scheme := String.ofList parsed.scheme
    let host := rstripChar (lower (String.ofList (hostAndPort parsed.netloc).1)) '.'
    if parsed.netloc.contains '[' != parsed.netloc.contains ']' || o.refusesNetloc (String.ofList parsed.netloc) then
      .error (.valueError "Invalid IPv6 URL")
    else if (scheme != "http" && scheme != "https") || host == "" || hasUser parsed.netloc then .ok ""
    else match portOf (hostAndPort parsed.netloc).2 with
      | none => .ok ""
      | some port =>
        let standard := if scheme == "https" then 443 else 80
        .ok (scheme ++ "://" ++ host ++ if port != 0 && port != standard then ":" ++ toString port else "")

/-- `urljoin(base, target)`. -/
def joinUrl (base target : String) : Except PyError String :=
  match o.urljoin base target with
  | some url => .ok url
  | none => .error (.valueError "Invalid IPv6 URL")

/-- `str(urlsplit(url).path or "/")[:240]`. -/
def pathOf (url : String) : String :=
  firstChars (orText (String.ofList (urlsplit (cleanedUrl url.toList)).path) "/") 240

/-! ## State -/

/-- The variables of `execute` while its steps run, and the requests it sent. -/
structure RecipeState where
  vars : Dict := []
  diagnostics : List Dict := []
  requestCount : ℕ := 0
  sent : List Request := []

/-- How far the execution is. -/
def RecipeState.moment (s : RecipeState) : ℕ := s.diagnostics.length + s.sent.length

/-- An `AuthRecipeExecutor`. -/
structure Executor where
  timeoutSeconds : Int
  maxRequests : ℕ

/-- `AuthRecipeExecutor(...)`. -/
def Executor.make (timeoutSeconds maxRequests : Int) : Executor where
  timeoutSeconds := max 1 (min timeoutSeconds 30)
  maxRequests := (max 1 (min maxRequests maxAuthRequests)).toNat

/-- The arguments of `execute`. -/
structure LoginCall where
  recipe : Json
  credentials : Dict := []
  realmAuthOrigins : List String
  adapterAuthOrigins : List String
  realmConfig : Dict := []
  realmSecrets : Dict := []
  tlsVerify : Bool := true

/-- The context of the templates. -/
def LoginCall.context (call : LoginCall) (vars : Dict) : Dict :=
  [("credential", .obj call.credentials), ("config", .obj call.realmConfig), ("secret", .obj call.realmSecrets),
    ("vars", .obj vars)]

abbrev Code := Routine RecipeState RecipeError

/-- Code that raises exceptions of Python. -/
def python {α : Type} (x : Except PyError α) : Code α := .ofExcept (x.mapError .python)

/-- Raise an `AuthRecipeFailure` with the diagnostics so far and some further ones. -/
def failWith {α : Type} (code stage : String) (requestCount : ℕ) (further : List Dict) : Code α := do
  let s ← Routine.get
  .raise (.failure (.make code stage requestCount (s.diagnostics ++ further)))

def addDiagnostic (row : Dict) : Code Unit := .modify fun s => { s with diagnostics := s.diagnostics ++ [row] }

def setVariable (name : String) (value : Json) : Code Unit := .modify fun s => { s with vars := Dict.set s.vars name value }

/-- `session.request`. -/
def send (r : Request) : Code Response := do
  let s ← Routine.get
  Routine.modify fun s => { s with sent := s.sent ++ [r] }
  match o.reply s.moment r with
  | .response response => return response
  | .raised e => .raise (.send e)

/-- `session.cookies[name]`. -/
def cookieNamed (jar : List Cookie) (name : String) : Except PyError String :=
  match jar.filter (·.name == name) with
  | [] => .error (.keyError name)
  | [cookie] => if cookie.value == "" then .error (.keyError name) else .ok cookie.value
  | _ => .error cookieConflictError

/-- `response.headers[name]`. -/
def Response.header? (r : Response) (name : String) : Option String :=
  (r.headers.find? fun e => lower e.1 == lower name).map (·.2)

def headerNamed (r : Response) (name : String) : Except PyError String :=
  match r.header? name with
  | some value => .ok value
  | none => .error (.keyError name)

/-- `response.json()`. -/
def Response.document (r : Response) : Except PyError Json :=
  match r.json with
  | some document => .ok document
  | none => .error (.valueError "JSONDecodeError")

/-! ## Setting a value -/

/-- `_load_rsa_public_key`: the text of the key. -/
def loadRsaPublicKey (value : Json) : Except PyError String :=
  let encoded := stripped value.strOrEmpty
  if encoded == "" || decide (32768 < encoded.utf8ByteSize) then .error (.valueError "RSA public key is invalid")
  else match o.loadKey (containsText encoded "BEGIN CERTIFICATE") encoded with
    | .unsupported => .error unsupportedAlgorithm
    | .invalid => .error (.valueError "RSA public key is invalid")
    | .notRsa => .error (.valueError "RSA public key must be at least 2048 bits")
    | .rsa bits => if bits < 2048 then .error (.valueError "RSA public key must be at least 2048 bits") else .ok encoded

def paddingNamed : String → Option String
  | "pkcs1v15" => some "pkcs1v15"
  | "oaep-sha1" | "oaep_sha1" => some "oaep-sha1"
  | "oaep-sha256" | "oaep_sha256" | "oaep" => some "oaep-sha256"
  | _ => none

def rsaEncrypt (step context : Dict) : Except PyError Json := do
  let value ← render context ((Dict.get? step "value").getD (.str ""))
  let key ← render context (valueOr (Dict.get step "public_key") (valueOr (Dict.get step "key") (.str "")))
  let key ← loadRsaPublicKey o key
  let some padding := paddingNamed (lower (stripped (strOr (Dict.get step "padding") "pkcs1v15")))
    | throw (.valueError "unsupported RSA padding")
  let encoding := lower (strOr (Dict.get step "output_encoding") "base64")
  let some encrypted := o.encrypt key padding value.pyStr encoding
    | throw (.valueError "RSA plaintext is too large for the selected key")
  if encoding != "base64" && encoding != "hex" then throw (.valueError "unsupported RSA output encoding")
  return .str encrypted

def setValue (moment : ℕ) (step context : Dict) : Except PyError Json := do
  let operation := strOr (Dict.get step "operation") "literal"
  if operation == "literal" then return ← render context (Dict.get step "value")
  if operation == "unix_time" then
    let unit := lower (strOr (Dict.get step "unit") "seconds")
    if ["seconds", "second", "s"].contains unit then return .int (o.unixMillis moment / 1000 : ℕ)
    if ["milliseconds", "millisecond", "ms"].contains unit then return .int (o.unixMillis moment)
    throw (.valueError "unsupported unix timestamp unit")
  if operation == "uuid4" then return .str (o.uuid4 moment)
  let rendered ← render context ((Dict.get? step "value").getD (.str ""))
  if operation == "concat" then
    let values ← render context (valueOr (Dict.get step "values") (.arr []))
    return .str (String.join ((← iterate values).map Json.pyStr))
  if operation == "md5" then return .str (o.md5 rendered.pyStr)
  if operation == "sha256" then return .str (o.sha256 rendered.pyStr)
  if operation == "base64" then return .str (o.base64 rendered.pyStr)
  if operation == "rsa_encrypt" then return ← rsaEncrypt o step context
  throw (.valueError "unsupported recipe set operation")

/-! ## Requests of a step -/

/-- The body and the query of a step. -/
structure Payload where
  json : Option Json
  data : Option Json
  params : Option Json

def renderField (context step : Dict) (key : String) : Except PyError (Option Json) :=
  match Dict.get? step key with
  | some value => (render context value).map some
  | none => .ok none

def renderPayload (context step : Dict) : Except PyError Payload := do
  return { json := ← renderField context step "json", data := ← renderField context step "form"
           params := ← renderField context step "query" }

/-- `str(_render(step.get("url") or "", context))`. -/
def renderUrl (context step : Dict) : Except PyError String :=
  (render context (valueOr (Dict.get step "url") (.str ""))).map Json.pyStr

def renderHeaders (context step : Dict) : Except PyError (Mapping String) := do
  safeHeaders (← render context (valueOr (Dict.get step "headers") (.obj [])))

def methodOf (step : Dict) : String := upper (strOr (Dict.get step "method") "POST")

def statusesOf (value : Json) : Except PyError (List Int) := do (← iterate value).mapM asInt

/-! ## Receiving a code -/

def pollRow (stage method origin url : String) (status : Int) (attempt : ℕ) (tlsVerify : Bool) : Dict :=
  [("stage", .str stage), ("kind", .str "mfa_receive"), ("mode", .str "pull"), ("method", .str method),
    ("origin", .str origin), ("path", .str (pathOf url)), ("status_code", .int status), ("attempt", .int attempt),
    ("status", .str "received"), ("tls_verify", .bool tlsVerify)]

/-- The row of a wait for a code that is pushed. -/
def pushRow (stage receiverId status : String) : Dict :=
  [("stage", .str stage), ("kind", .str "mfa_receive"), ("mode", .str "push"), ("receiver_id", .str receiverId),
    ("status", .str status)]

/-- A poll, as far as it is prepared before its first request. -/
structure Poll where
  stage : String
  step : Dict
  method : String
  url : String
  origin : String
  headers : Mapping String
  timeout : Int
  maxAttempts : ℕ
  accepted : List Int
  notReady : List Int
  rule : Dict
  tlsVerify : Bool

/-- What a response to a poll leads to. -/
inductive Turn where
  | code (c : String)
  /-- The code is not there yet, or cannot be read. -/
  | again
  /-- A status that is neither accepted nor of a code that is not ready. -/
  | refused
  | raised (e : PyError)

/-- The code of an accepted response. -/
def Poll.read (p : Poll) (r : Response) (jar : List Cookie) : Except PyError String := do
  let source := strOr (Dict.get p.rule "source") "json"
  let value ←
    if source == "json" then jsonMatchValue (← r.document) p.rule
    else if source == "header" then (headerNamed r (strOr (Dict.get p.rule "name") "X-MFA-Code")).map .str
    else if source == "cookie" then (cookieNamed jar (strOr (Dict.get p.rule "name") "mfa_code")).map .str
    else if source == "text" then pure (.str r.text)
    else throw (.keyError "source")
  (validateMfaCode value).mapError fun _ => .valueError "MFA verification code is invalid"

def Poll.turn (p : Poll) (r : Response) (jar : List Cookie) : Turn :=
  if !p.accepted.contains r.statusCode && !p.notReady.contains r.statusCode then .refused
  else if p.accepted.contains r.statusCode then match p.read r jar with
    | .ok code => .code code
    | .error e => if isLookupError e then .again else .raised e
  else .again

def Poll.request (p : Poll) (payload : Payload) : Request where
  method := p.method
  url := p.url
  headers := p.headers
  timeout := p.timeout
  verify := p.tlsVerify
  json := payload.json
  data := payload.data
  params := payload.params

/-- The attempts that are left of a poll, after `count` requests: the code and the requests. -/
def Poll.run (o : Outside) (x : Executor) (p : Poll) (payload : Except PyError Payload) : ℕ → ℕ → Code (String × ℕ)
  | 0, count => failWith "MFA_OR_INTERACTION_REQUIRED" p.stage count []
  | left + 1, count =>
    if x.maxRequests ≤ count then failWith "CONFIG_INVALID" p.stage count []
    else do
      let payload' ← python payload
      let response ← send o (p.request payload')
      addDiagnostic (pollRow p.stage p.method p.origin p.url response.statusCode (p.maxAttempts - left) p.tlsVerify)
      let s ← Routine.get
      match p.turn response (o.jar s.moment) with
      | .code code => return (code, count + 1)
      | .raised e => .raise (.python e)
      | .refused => do
        let code ← python (statusFailureCode response.statusCode p.step)
        failWith code p.stage (count + 1) []
      | .again => Poll.run o x p payload left (count + 1)

/-- What a poll reads of its step before the first request, once its url is allowed. -/
def preparePoll (x : Executor) (call : LoginCall) (stage : String) (step context : Dict) (url origin : String) :
    Except PyError Poll := do
  let headers ← renderHeaders context step
  let timeout ← clampedInt (Dict.get step "timeout_seconds") x.timeoutSeconds 1 30
  let maxAttempts ← clampedInt (Dict.get step "max_attempts") 1 1 6
  checkFloat (valueOr (Dict.get step "poll_interval_seconds") (.int 0))
  let accepted ← statusesOf (valueOr (Dict.get step "success_statuses") (.arr [.int 200]))
  let notReady ← statusesOf (valueOr (Dict.get step "not_ready_statuses") (.arr [.int 202]))
  let .obj rule := valueOr (Dict.get step "extract") (.obj [("source", .str "json"), ("path", .str "code")])
    | throw (.valueError "MFA receiver extract rule is invalid")
  return { stage := stage, step := step, method := methodOf step, url := url, origin := origin, headers := headers
           timeout := timeout, maxAttempts := maxAttempts.toNat, accepted := accepted, notReady := notReady
           rule := rule, tlsVerify := call.tlsVerify }

/-- Whether a step waits for a code that is pushed. -/
def isPush (step : Dict) : Bool := lower (strOr (Dict.get step "mode") "pull") == "push"

/-- The code that is pushed to the receiver of a step. -/
def receivePushed (stage : String) (step context : Dict) (count : ℕ) : Code (String × ℕ) := do
  let receiverId ← python ((normalizeReceiverId (Dict.get step "receiver_id").strOrEmpty).mapError fun _ =>
    .valueError "MFA receiver id is invalid")
  let correlation ← python (render context (valueOr (Dict.get step "correlation") (.str "")))
  let timeout ← python (clampedInt (Dict.get step "timeout_seconds") 60 1 300)
  let s ← Routine.get
  match o.waitForCode s.moment receiverId (firstChars correlation.pyStr 256) timeout with
  | .ok code => do
    addDiagnostic (pushRow stage receiverId "received")
    return (code, count)
  | .error (.timedOut _) => failWith "MFA_OR_INTERACTION_REQUIRED" stage count [pushRow stage receiverId "timeout"]
  | .error (.receiverError _) =>
    failWith "MFA_OR_INTERACTION_REQUIRED" stage count [pushRow stage receiverId "unavailable"]
  | .error (.valueError message) => .raise (.python (.valueError message))

/-- `_receive_mfa`: the code, and the requests with those of the poll. -/
def receiveMfa (x : Executor) (call : LoginCall) (allowed : List String) (step context : Dict)
    (count : ℕ) : Code (String × ℕ) := do
  let stage := firstChars (strOr (Dict.get step "id") "mfa_receive") 80
  if isPush step then receivePushed o stage step context count
  else do
    let url ← python (renderUrl context step)
    let origin ← python (normalizeOrigin o url)
    if origin == "" || !allowed.contains origin then
      failWith "CONFIG_INVALID" stage count [[("stage", .str stage), ("kind", .str "mfa_receive"),
        ("mode", .str "pull"), ("status", .str "origin_blocked")]]
    else do
      let poll ← python (preparePoll x call stage step context url origin)
      Poll.run o x poll (renderPayload context step) poll.maxAttempts count

end ApiManger.Recipe
