import ApiManger.Python.Url
import ApiManger.Account.RequestKwargs
import ApiManger.Execution.Contract
import ApiManger.Chain.Resolve

/-!
# Replaying a chain

`replay_chain_live` creates a run and takes the steps of an accepted definition in
order. Each step is planned anew from the responses captured so far. A ready step is
composed from its asset, saved under the key of the definition and the step, and sent;
what it answers is captured for the steps after it.
-/

namespace ApiManger.Chain
open Python Store Execution Account

/-! ## Calls -/

/-- What `create_request_snapshot` composes. -/
structure ComposedRequest where
  method : String
  snapshot : ReplaySnapshot

/-- What comes of a request that was sent: `evidence["ok"]`, and the JSON of the response, or `None`. -/
structure Reply where
  ok : Bool
  body : Json := .null

/-- `ok and body is not None`. -/
def Reply.succeeded (reply : Reply) : Bool := reply.ok && reply.body != .null

/-- What the code outside answers during a call, where each step asks at most once. -/
structure Outside where
  endpoint : EndpointLookup
  accountContext : Option (String → Except ChainError AccountContext) := none
  compose : ChainStep → Except ChainError (Option ComposedRequest)
  /-- Whether a document takes a dictionary as one of its fields. -/
  storable : Mapping Json → Bool := fun _ => true
  environment : AuthEnvironment := {}
  now : Timestamp := 0
  reply : ChainStep → Reply

/-- The arguments of `replay_chain_live`. -/
structure ChainCall where
  definition : ChainDefinition
  context : ExecutionContext
  sources : Mapping Json := .empty
  allowLiveRequests : Bool := false
  requestOptions : Dict := []
  operator : String := ""
  maxSteps : Option Int := none
  outside : Outside

/-! ## Urls -/

/-- A url; `query` are the pairs that `urlencode` writes into it. -/
structure ChainUrl where
  scheme : List Char
  netloc : List Char
  path : List Char
  query : List (String × String)
  fragment : List Char

/-- The text of a url before its query. -/
def ChainUrl.location (url : ChainUrl) : String :=
  let path := if url.netloc.isEmpty then url.path
    else '/' :: '/' :: url.netloc ++ (if url.path.isEmpty || url.path.head? == some '/' then [] else ['/']) ++ url.path
  String.ofList (if url.scheme.isEmpty then path else url.scheme ++ ':' :: path)

variable (call : ChainCall) (step : ChainStep)

/-- The template of `_step_url`. -/
def urlTemplate (endpoint : EndpointEntry) : Except ChainError String :=
  if stripped endpoint.url != "" then .ok (stripped endpoint.url)
  else if stripped endpoint.domain == "" then
    .error (.definition (step.stepId ++ ": endpoint asset has neither url nor domain"))
  else .ok (stripped endpoint.domain ++ step.pathTemplate)

/-- `_step_url`, of the template. -/
def stepUrl (template : String) (pathValues : Mapping Json) : Except ChainError String :=
  let (rendered, missing) := renderPathTemplate template pathValues
  if missing.isEmpty then .ok rendered
  else .error (.definition (step.stepId ++ ": endpoint url lacks placeholder(s): " ++ ", ".intercalate missing))

/-- The texts of a value that is written with `doseq`. -/
def doseqTexts : Json → List String
  | .str s => [s]
  | .arr items => items.map Json.pyStr
  | .obj fields => fields.map (·.1)
  | v => [v.pyStr]

/-- The texts of a value of a query: of a list, those of its items. -/
def queryTexts : Json → List String
  | .arr items => items.flatMap doseqTexts
  | v => doseqTexts v

def mergeQuery (rendered : String) (query : Mapping Json) : ChainUrl :=
  let split := urlsplit rendered.toList
  let kept := (parseQsl (queryOf rendered.toList)).filter fun pair => (query.get? pair.1).isNone
  { scheme := split.scheme, netloc := split.netloc, path := split.path, fragment := fragmentOf rendered.toList
    query := kept ++ query.items.flatMap fun e => (queryTexts e.2).map (e.1, ·) }

/-! ## One step -/

/-- `path_values`, where no entry lacks its value. -/
def pathValuesOf (plan : StepPlan) : Except ChainError (Mapping Json) :=
  if plan.resolvedParameters.items.any fun e => e.2.position == .path && e.2.value.isNone then
    .error (.raised (.keyError "value"))
  else .ok (plan.resolvedParameters.filterMapValues fun entry => if entry.position = .path then entry.value else none)

/-- `query_values`. -/
def queryValuesOf (plan : StepPlan) : Mapping Json :=
  plan.resolvedParameters.filterMapValues fun entry => if entry.position = .query then entry.value else none

def accountContextOf : Except ChainError (Option AccountContext) :=
  if call.context.authMode == "account" then match call.outside.accountContext with
    | none => .error (.definition "account auth requires an account context resolver")
    | some resolve => (resolve (orText step.accountProfile call.context.accountId)).map some
  else .ok none

/-- What a ready step is sent with. -/
structure PreparedStep where
  template : String
  pathValues : Mapping Json
  queryValues : Mapping Json
  accountContext : Option AccountContext
  composed : ComposedRequest
  url : ChainUrl

/-- A ready step, up to the save of its snapshot. -/
def prepareStep (plan : StepPlan) : Except ChainError PreparedStep := do
  let pathValues ← pathValuesOf plan
  let queryValues := queryValuesOf plan
  let accountContext ← accountContextOf call step
  match ← call.outside.compose step with
  | none => .error (.definition (step.stepId ++ ": pathid " ++ toString step.pathid ++ " has no imported asset"))
  | some composed =>
    let template ← urlTemplate step ((call.outside.endpoint step.pathid).getD {})
    let rendered ← stepUrl step template pathValues
    if call.outside.storable pathValues && call.outside.storable queryValues then
      return ⟨template, pathValues, queryValues, accountContext, composed, mergeQuery rendered queryValues⟩
    else .error (.raised (.other "ValidationError"))

/-- The arguments of the request; a host that the snapshot leaves open is read from the url of the step. -/
def PreparedStep.kwargs (prepared : PreparedStep) (call : ChainCall) : Except PyError RequestKwargs :=
  requestKwargs call.outside.environment { prepared.composed.snapshot with url := prepared.url.location }
    call.context.authMode call.requestOptions prepared.accountContext call.outside.now

/-! ## The steps -/

/-- The status of a step in the report. -/
inductive ExecutedStatus where
  | executed | failed | blocked

/-- A step in the report. -/
structure ExecutedStep where
  stepId : String
  status : ExecutedStatus
  reasonCodes : List String := []
  notes : List String := []

/-- A request that was sent, with what was captured before it. -/
structure SentStep where
  step : ChainStep
  sources : Mapping Json
  prepared : PreparedStep
  kwargs : RequestKwargs
  succeeded : Bool

/-- What the loop carries: `keys` are the template keys it saved, `results` the steps with a result row. -/
structure ReplayState where
  captured : Mapping Json
  failures : List String := []
  executed : List ExecutedStep := []
  keys : List String := []
  results : List String := []
  sent : List SentStep := []

namespace ReplayState

/-- A step that is not ready. -/
def block (s : ReplayState) (step : ChainStep) (plan : StepPlan) : ReplayState :=
  { s with
    failures := s.failures ++ [step.stepId]
    executed := s.executed ++ [⟨step.stepId, .blocked, plan.reasonCodes, plan.notes⟩] }

/-- A snapshot was saved. -/
def save (s : ReplayState) (key : String) : ReplayState := { s with keys := s.keys ++ [key] }

/-- A request was sent. -/
def send (s : ReplayState) (step : ChainStep) (prepared : PreparedStep) (kwargs : RequestKwargs)
    (succeeded : Bool) : ReplayState :=
  { s with sent := s.sent ++ [⟨step, s.captured, prepared, kwargs, succeeded⟩] }

/-- A result row was written, and what came of the step is kept. -/
def close (s : ReplayState) (step : ChainStep) (reply : Reply) : ReplayState :=
  let s := { s with results := s.results ++ [step.stepId] }
  if reply.succeeded then { s with
      captured := s.captured.set step.responseRef reply.body
      executed := s.executed ++ [⟨step.stepId, .executed, [], []⟩] }
  else { s with
      failures := s.failures ++ [step.stepId]
      executed := s.executed ++ [⟨step.stepId, .failed, [], []⟩] }

end ReplayState

/-- What the unique index on `template_key` raises. -/
def notUnique : ChainError := .raised (.other "NotUniqueError")

def planStep (d : ChainDefinition) (s : ReplayState) (step : ChainStep) :
    Except ChainError StepPlan := do
  let plan ← resolveChain d s.captured (some call.outside.endpoint) s.failures
  match plan.steps.find? fun item => item.1.stepId == step.stepId with
  | some item => return item.2
  | none => .error (.raised (.other "StopIteration"))

/-- A saved snapshot is replayed; where its arguments raise nothing is sent. -/
def replaySnapshot (s : ReplayState) (step : ChainStep) (prepared : PreparedStep) :
    ReplayState × Reply :=
  match prepared.kwargs call with
  | .error _ => (s, ⟨false, .null⟩)
  | .ok kwargs => (s.send step prepared kwargs (call.outside.reply step).succeeded, call.outside.reply step)

/-- The end of a turn: its result is recorded. -/
def recordStep (replayed : ReplayState × Reply) : ReplayState × Option ChainError :=
  if step.pathid < 0 then (replayed.1, some (.raised (.valueError "related_pathid must be non-negative")))
  else (replayed.1.close step replayed.2, none)

/-- One turn of the loop: what it leaves, and what it raised. -/
def replayStep (d : ChainDefinition) (key : String → String) (taken : List String) (s : ReplayState)
    (step : ChainStep) : ReplayState × Option ChainError :=
  match planStep call d s step with
  | .error e => (s, some e)
  | .ok plan =>
    if plan.status ≠ .ready then (s.block step plan, none)
    else match prepareStep call step plan with
      | .error e => (s, some e)
      | .ok prepared =>
        if key step.stepId ∈ taken ∨ key step.stepId ∈ s.keys then (s, some notUnique)
        else recordStep step (replaySnapshot call (s.save (key step.stepId)) step prepared)

section
-- the equations of the loop do not look into a turn
attribute [local irreducible] replayStep

/-- The loop. -/
def replaySteps (call : ChainCall) (d : ChainDefinition) (key : String → String) (taken : List String) :
    ReplayState → List ChainStep → ReplayState × Option ChainError
  | s, [] => (s, none)
  | s, step :: rest => match replayStep call d key taken s step with
    | (s, none) => replaySteps call d key taken s rest
    | (s, some e) => (s, some e)

theorem replaySteps_nil (call : ChainCall) (d : ChainDefinition) (key : String → String) (taken : List String)
    (s : ReplayState) : replaySteps call d key taken s [] = (s, none) := by
  rw [replaySteps]

theorem replaySteps_cons (call : ChainCall) (d : ChainDefinition) (key : String → String) (taken : List String)
    (s : ReplayState) (step : ChainStep) (rest : List ChainStep) :
    replaySteps call d key taken s (step :: rest) = match (replayStep call d key taken s step).2 with
      | none => replaySteps call d key taken (replayStep call d key taken s step).1 rest
      | some e => ((replayStep call d key taken s step).1, some e) := by
  rw [replaySteps]
  rcases replayStep call d key taken s step with ⟨s', _ | e⟩
  · rfl
  · rfl

end

/-! ## The call -/

/-- A run of a chain. -/
structure ChainRun where
  id : ObjectId
  name : String
  checkType : String
  chainSha256 : String
  stepCount : ℕ
  operator : String
  context : ExecutionContext
  status : RunStatus

/-- The database: its runs, the template keys of its snapshots, and the result rows of run and step. -/
structure ChainStore where
  runs : List ChainRun := []
  templateKeys : List String := []
  results : List (ObjectId × String) := []

def ChainStore.nextId (store : ChainStore) : ObjectId := store.runs.length

/-- What a call leaves: the run it created, the keys of the snapshots it saved, the requests it sent, and what it
returned or raised. -/
structure ReplayReport where
  run : Option ObjectId
  saved : List String
  sent : List SentStep
  outcome : Except ChainError (List ExecutedStep)

/-- The checks before the run is created. -/
def checkCall : Except ChainError ChainDefinition :=
  if call.allowLiveRequests = false then .error .notConfirmed
  else do
    let d ← normalizeChainDefinition call.definition
    let unbound := unboundStepIds d call.outside.endpoint
    if !unbound.isEmpty then .error (.definition ("chain source binding failed: " ++ ", ".intercalate unbound))
    else match call.context.validate with
      | .error e => .error (.raised e)
      | .ok _ => return d

def stepsOf (d : ChainDefinition) : List ChainStep :=
  d.steps.take (match call.maxSteps with
    | none => d.steps.length
    | some n => n.toNat)

def chainTemplateKey (sha256 : ChainDefinition → String) (d : ChainDefinition) (stepId : String) : String :=
  "interface_chain:" ++ sha256 d ++ ":" ++ stepId

/-- The loop of a call, from the keys that are taken. -/
def replayLoop (sha256 : ChainDefinition → String) (call : ChainCall) (d : ChainDefinition) (taken : List String) :
    ReplayState × Option ChainError :=
  replaySteps call d (chainTemplateKey sha256 d) taken { captured := call.sources } (stepsOf call d)

def createExecutionRun (sha256 : ChainDefinition → String) (call : ChainCall) (d : ChainDefinition) (id : ObjectId) :
    ChainRun where
  id := id
  name := "interface-chain:" ++ d.name
  checkType := "read_chain_replay"
  chainSha256 := sha256 d
  stepCount := d.steps.length
  operator := call.operator
  context := call.context
  status := .running

def replayChainLive (sha256 : ChainDefinition → String) (call : ChainCall) (store : ChainStore) :
    ChainStore × ReplayReport :=
  match checkCall call with
  | .error e => (store, ⟨none, [], [], .error e⟩)
  | .ok d =>
    let (s, raised) := replayLoop sha256 call d store.templateKeys
    ({ runs := store.runs ++ [createExecutionRun sha256 call d store.nextId]
       templateKeys := store.templateKeys ++ s.keys
       results := store.results ++ s.results.map (store.nextId, ·) },
     { run := some store.nextId
       saved := s.keys
       sent := s.sent
       outcome := match raised with
        | some e => .error e
        | none => .ok s.executed })

end ApiManger.Chain
