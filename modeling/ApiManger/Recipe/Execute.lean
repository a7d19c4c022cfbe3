import ApiManger.Recipe.Executor

/-!
# Executing a recipe

`AuthRecipeExecutor.execute`: the steps one by one, each inside the handlers that turn
exceptions into failures, and the credentials made of the variables in the end.
-/

namespace ApiManger.Recipe
open Python Account Mfa Store Imperative

/-! ## Http steps -/

/-- What stays the same while a step of `execute` runs. -/
structure StepFrame where
  o : Outside
  x : Executor
  call : LoginCall
  allowed : List String
  stage : String
  step : Dict

namespace StepFrame
variable (f : StepFrame)

def responseRow (kind method origin url : String) (status : Int) : Dict :=
  [("stage", .str f.stage), ("kind", .str kind), ("method", .str method), ("origin", .str origin),
    ("path", .str (pathOf url)), ("status_code", .int status), ("status", .str "received"),
    ("tls_verify", .bool f.call.tlsVerify)]

/-- Count a request, where one is left, and send it. -/
def sendCounted (r : Request) (kind origin : String) : Code Response := do
  Routine.modify fun s => { s with requestCount := s.requestCount + 1 }
  let s ← Routine.get
  if f.x.maxRequests < s.requestCount then failWith "CONFIG_INVALID" f.stage (s.requestCount - 1) []
  else do
    let response ← send f.o r
    addDiagnostic (f.responseRow kind r.method origin r.url response.statusCode)
    return response

/-- Raise a failure with the requests so far. -/
def fail {α : Type} (code : String) : Code α := do
  let s ← Routine.get
  failWith code f.stage s.requestCount []

/-- The redirects of a response, where `left` more may be followed. -/
def followRedirects (url : String) (headers : Mapping String) (timeout : Int) : ℕ → Response → Code Response
  | 0, response => if response.isRedirect then f.fail "LOGIN_PROTOCOL_CHANGED" else return response
  | left + 1, response =>
    if response.isRedirect then do
      let target ← python (joinUrl f.o (orText response.url url) ((response.header? "Location").getD ""))
      let origin ← python (normalizeOrigin f.o target)
      if !f.allowed.contains origin then f.fail "CONFIG_INVALID"
      else do
        let next ← f.sendCounted { method := "GET", url := target, headers := headers, timeout := timeout
                                   verify := f.call.tlsVerify } "redirect" origin
        followRedirects url headers timeout left next
    else return response

/-- `max(0, min(int(step.get("max_redirects") or 3), 5))`. -/
def maxRedirects : Except PyError ℕ := (clampedInt (Dict.get f.step "max_redirects") 3 0 5).map Int.toNat

def firstRequest (url : String) (headers : Mapping String) (timeout : Int) (payload : Payload) : Request where
  method := methodOf f.step
  url := url
  headers := headers
  timeout := timeout
  verify := f.call.tlsVerify
  json := payload.json
  data := payload.data
  params := payload.params

/-- The first request and its redirects. -/
def request (url origin : String) (headers : Mapping String) (timeout : Int) (payload : Payload) : Code Response := do
  let response ← f.sendCounted (f.firstRequest url headers timeout payload) "http" origin
  if response.isRedirect && Dict.truthy f.step "follow_redirects" then do
    let most ← python f.maxRedirects
    f.followRedirects url headers timeout most response
  else return response

def jsonFailureCode (r : Response) : Except PyError String := do
  let path := (Dict.get f.step "json_error_path").strOrEmpty
  if path == "" then return ""
  let .ok value := r.document.bind (jsonPath · path) | return ""
  if !value.truthy then return ""
  let mapping ← mappingOr (Dict.get f.step "json_error_code_map")
  let code := valueOr (Dict.get mapping value.pyStr) (valueOr (Dict.get f.step "json_error_default") (.str ""))
  return if authFailureCodes.contains code.pyStr then code.pyStr else ""

/-- Whether a status is one of the step. -/
def acceptsStatus (status : Int) : Except PyError Bool :=
  let listed := Dict.get f.step "success_statuses"
  if listed.truthy then (statusesOf listed).map (·.contains status)
  else .ok (decide (200 ≤ status ∧ status < 300))

/-- Whether the response is one that the step accepts. -/
def checkResponse (r : Response) : Code Unit := do
  let code ← python (f.jsonFailureCode r)
  if code != "" then f.fail code
  else do
    let accepted ← python (f.acceptsStatus r.statusCode)
    if accepted then return ()
    else do
      let code ← python (statusFailureCode r.statusCode f.step)
      f.fail code

/-- A rule of `extract`, also where it is only a path. -/
def ruleOf : Json → Dict
  | .obj rule => rule
  | value => [("source", .str "json"), ("path", .str value.pyStr), ("required", .bool true)]

/-- What a rule takes out of a response. -/
def extractValue (r : Response) (url : String) (jar : List Cookie) (target : String) (rule : Dict) :
    Except PyError Json := do
  let source := strOr (Dict.get rule "source") "json"
  if source == "json" then return ← jsonPath (← r.document) (strOr (Dict.get rule "path") target)
  if source == "header" then return .str (← headerNamed r (strOr (Dict.get rule "name") target))
  if source == "cookie" then return .str (← cookieNamed jar (strOr (Dict.get rule "name") target))
  if source == "status" then return .int r.statusCode
  if source == "url" then return .str (orText r.url url)
  throw (.keyError target)

/-- Whether a rule must find its value. -/
def isRequired (rule : Dict) : Bool := ((Dict.get? rule "required").getD (.bool true)).truthy

/-- One rule of `extract`. -/
def extractOne (r : Response) (url : String) (e : String × Json) : Code Unit := do
  let s ← Routine.get
  let rule := ruleOf e.2
  match extractValue r url (f.o.jar s.moment) e.1 rule with
  | .ok value => setVariable e.1 value
  | .error error =>
    if !isLookupError error then .raise (.python error)
    else if isRequired rule then f.fail (strOr (Dict.get rule "failure_code") "TOKEN_EXTRACTION_FAILED")
    else return ()

/-- A step of type `http`. -/
def runHttp : Code Unit := do
  let s ← Routine.get
  let context := f.call.context s.vars
  let url ← python (renderUrl context f.step)
  let origin ← python (normalizeOrigin f.o url)
  if origin == "" || !f.allowed.contains origin then
    failWith "CONFIG_INVALID" f.stage s.requestCount
      [[("stage", .str f.stage), ("kind", .str "http"), ("status", .str "origin_blocked")]]
  else do
    let headers ← python (renderHeaders context f.step)
    let timeout ← python (clampedInt (Dict.get f.step "timeout_seconds") f.x.timeoutSeconds 1 30)
    let payload ← python (renderPayload context f.step)
    let response ← f.request url origin headers timeout payload
    f.checkResponse response
    let rules ← python (mappingOr (Dict.get f.step "extract"))
    Routine.forEach (f.extractOne response url) rules

/-! ## Steps -/

/-- A step of type `set`. -/
def runSet : Code Unit := do
  let s ← Routine.get
  let value ← python (setValue f.o s.moment f.step (f.call.context s.vars))
  setVariable (strOr (Dict.get f.step "target") f.stage) value
  addDiagnostic [("stage", .str f.stage), ("kind", .str "set"), ("status", .str "ok")]

/-- A step of type `mfa_receive`. -/
def runMfa : Code Unit := do
  let s ← Routine.get
  let (code, count) ← receiveMfa f.o f.x f.call f.allowed f.step (f.call.context s.vars) s.requestCount
  setVariable (strOr (Dict.get f.step "target") "mfa_code") (.str code)
  Routine.modify fun s => { s with requestCount := count }

def isSet : Bool := decide (Dict.get f.step "type" = .str "set")

def isMfa : Bool := decide (Dict.get f.step "type" = .str "mfa_receive")

/-- The body of a step. -/
def runBody : Code Unit := if f.isSet then f.runSet else if f.isMfa then f.runMfa else f.runHttp

end StepFrame

/-- The code of the failure that a handler of `execute` makes of an exception; none where no handler takes it. -/
def RecipeError.handled : RecipeError → Option String
  | .failure _ => none
  | .send .ssl | .send .connection | .send .timeout => some "AUTH_HOST_UNREACHABLE"
  | .send .invalid | .send .valueError | .send .typeError => some "CONFIG_INVALID"
  | .send .requestException => some "ADAPTER_RUNTIME_ERROR"
  | .python (.keyError _) | .python (.typeError _) | .python (.valueError _) => some "CONFIG_INVALID"
  | .python _ => none

/-- The handlers around a step. -/
def StepFrame.onError (f : StepFrame) (e : RecipeError) : Code Unit :=
  match e.handled with
  | some code => f.fail code
  | none => .raise e

/-- A step with its handlers. -/
def StepFrame.run (f : StepFrame) : Code Unit := .handle f.runBody f.onError

variable (o : Outside)

def frameOf (x : Executor) (call : LoginCall) (allowed : List String) (p : Dict × ℕ) : StepFrame where
  o := o
  x := x
  call := call
  allowed := allowed
  stage := firstChars (strOr (Dict.get p.1 "id") ("step-" ++ toString (p.2 + 1))) 80
  step := p.1

/-! ## The credentials -/

/-- What the output of a recipe makes of the variables. -/
structure Output where
  headers : Mapping String
  cookies : Mapping String
  authKind : String
  expiresAt : Option Timestamp

/-- `str(name): str(value)` of a mapping. -/
def texts (fields : Dict) : Mapping String := .ofItems (fields.map fun e => (e.1, e.2.pyStr))

def outputCookies (output context : Dict) (authKind : String) (jar : List Cookie) : Except PyError (Mapping String) := do
  let rendered ← render context (valueOr (Dict.get output "cookies") (.obj []))
  let .obj fields := rendered | throw attributeError
  let sessions := ((Dict.get? output "include_session_cookies").getD (.bool (authKind == "cookie" || authKind == "mixed"))).truthy
  return if sessions then (texts fields).update (.ofItems (jar.map fun c => (c.name, c.value))) else texts fields

/-- Where the credentials expire. -/
def outputExpiry (output context : Dict) (now : Timestamp) : Except PyError (Option Timestamp) :=
  match Dict.get output "expires_in_seconds" with
  | .null | .str "" => .ok none
  | value => do
    let seconds ← asInt (← render context value)
    return some (now + max 30 (min seconds 86400))

/-- The kind of an output, and its headers and cookies, of which there must be some. -/
def outputSecrets (output context : Dict) (jar : List Cookie) :
    Except PyError (String × Mapping String × Mapping String) := do
  let authKind := lower (strOr (Dict.get output "auth_kind") "mixed")
  if !(["bearer", "cookie", "mixed"].contains authKind) then throw (.valueError "invalid auth kind")
  let headers ← safeHeaders (← render context (valueOr (Dict.get output "headers") (.obj [])))
  let cookies ← outputCookies output context authKind jar
  if authKind == "bearer" && headers.items.isEmpty then throw (.keyError "headers")
  if authKind == "cookie" && cookies.items.isEmpty then throw (.keyError "cookies")
  if authKind == "mixed" && headers.items.isEmpty && cookies.items.isEmpty then throw (.keyError "credentials")
  return (authKind, headers, cookies)

/-- The output of a recipe. -/
def buildOutput (output context : Dict) (jar : List Cookie) (now : Timestamp) : Except PyError Output := do
  let (authKind, headers, cookies) ← outputSecrets output context jar
  let expiresAt ← outputExpiry output context now
  return { headers := headers, cookies := cookies, authKind := authKind, expiresAt := expiresAt }

def identityNames : List String := ["uid", "userid", "user_id", "entid", "ent_id", "enterprise_id", "tenant_id"]

/-- A variable that is a text or a whole number; a truth value is one. -/
def isTextOrInt : Json → Bool
  | .str _ | .int _ | .bool _ => true
  | _ => false

/-- The variables that identify the business account. -/
def businessIdentity (vars : Dict) : Mapping String :=
  .ofItems ((vars.filter fun e => identityNames.contains e.1 && isTextOrInt e.2 && stripped e.2.pyStr != "").map fun e =>
    (e.1, firstChars e.2.pyStr 256))

structure RecipeExecutionResult where
  headers : Mapping String
  cookies : Mapping String
  authKind : String
  expiresAt : Option Timestamp
  requestCount : ℕ
  diagnostics : List Dict
  businessIdentity : Mapping String

/-! ## Execution -/

/-- `{normalize_origin(item) for item in origins}`, without the empty one. -/
def originsOf (origins : List String) : Except PyError (List String) :=
  (origins.mapM (normalizeOrigin o)).map (·.filter (· != ""))

/-- What `execute` checks before the first step: the origins that are allowed. -/
def checkLogin (call : LoginCall) : Except RecipeError (List String) :=
  match validateRecipe call.recipe with
  | .error (.typeError _) | .error (.valueError _) => .error (.failure (.make "CONFIG_INVALID" "recipe_validation" 0 []))
  | .error e => .error (.python e)
  | .ok _ =>
    match originsOf o call.realmAuthOrigins, originsOf o call.adapterAuthOrigins with
    | .error e, _ | .ok _, .error e => .error (.python e)
    | .ok realm, .ok adapter =>
      let allowed := realm.filter (adapter.contains ·)
      if allowed.isEmpty then .error (.failure (.make "CONFIG_INVALID" "origin_policy" 0 [])) else .ok allowed

/-- The steps of the recipe, from the first one on. -/
def runSteps (x : Executor) (call : LoginCall) (allowed : List String) (steps : List (Dict × ℕ)) : Code Unit :=
  .forEach (fun p => (frameOf o x call allowed p).run) steps

/-- The end of `execute`. -/
def finish (call : LoginCall) : Code RecipeExecutionResult := do
  let s ← Routine.get
  let output := fieldsOf (valueOr (Dict.get (fieldsOf call.recipe) "output") (.obj []))
  match buildOutput output (call.context s.vars) (o.jar s.moment) (o.utcnow s.moment) with
  | .error (.keyError _) | .error (.typeError _) | .error (.valueError _) =>
    failWith "TOKEN_EXTRACTION_FAILED" "output" s.requestCount []
  | .error e => .raise (.python e)
  | .ok built => return { headers := built.headers, cookies := built.cookies, authKind := built.authKind
                          expiresAt := built.expiresAt, requestCount := s.requestCount, diagnostics := s.diagnostics
                          businessIdentity := businessIdentity s.vars }

def execute (x : Executor) (call : LoginCall) : Code RecipeExecutionResult := do
  let allowed ← .ofExcept (checkLogin o call)
  runSteps o x call allowed (recipeSteps (fieldsOf call.recipe)).zipIdx
  finish o call

end ApiManger.Recipe
