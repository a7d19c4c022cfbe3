import Mathlib.Algebra.Ring.Int.Defs
import Mathlib.Data.List.Sort
import ApiManger.Parameters.WorstCase

/-!
# Scheduling a batch of validations

`schedule_validation_batch`: the relations are bound and grouped by their pair of
endpoints, the estimates of the pairs are added up and compared with the limit of the
environment, and `create_validation_case_snapshot` makes the plan of each pair. The
estimate of a pair and the budget of its plan are two different numbers.
-/

namespace ApiManger.Parameters
open Python

/-! ## What the store knows -/

/-- `parameter_relation`, as far as a validation is scheduled with it. -/
structure ParameterRelation where
  id : String
  resPathid : Int
  reqPathid : Int
  parameter : String
  sourceLocator : Option (List LocatorToken)
  targetLocator : Option (List LocatorToken)
  selectedSourceHost : String := ""
  selectedConsumerHost : String := ""

/-- `(res_pathid, req_pathid)`. -/
def ParameterRelation.pair (r : ParameterRelation) : Int × Int := (r.resPathid, r.reqPathid)

/-- `ProjectAuthProfile`; `testAccount` is what `profile_is_test_account` says of it. -/
structure ValidationProfile where
  profileId : String
  projectId : String
  envId : String
  allowedHosts : List String := []
  testAccount : Bool := true

/-- A request template. -/
structure RequestTemplate where
  method : String
  domain : String

/-- `raw_data` of an endpoint. -/
structure Endpoint where
  method : String
  domain : String
  url : String

/-- What the two functions look up: `bind_relation_locations`, the endpoint of a path, the endpoint of a path in
the project of a profile, `_request_template`, and the gaps of `request_input_view`. -/
structure ValidationStore where
  bind : ParameterRelation → Except PyError ParameterRelation
  endpoint : Int → Option Endpoint
  projectEndpoint : String → Int → Option Endpoint
  requestTemplate : Int → ValidationProfile → Except PyError RequestTemplate
  gaps : Int → ValidationProfile → List String

/-! ## Hosts -/

def environmentBaseUrl (environment : ProjectEnvironment) (selectedHost : String) : String :=
  let selected := normalizeHost selectedHost
  let matching := environment.hosts.find? fun
    | .obj fields => normalizeHost (hostEntry (.obj fields)) == selected
    | _ => false
  match matching with
  | some (.obj fields) =>
    if Dict.truthy fields "base_url" then (Dict.get fields "base_url").pyStr
    else if Dict.truthy fields "host" then (Dict.get fields "host").pyStr else selected
  | _ => selected

def profileHost (profile : ValidationProfile) (environment : ProjectEnvironment)
    (selectedHost fallbackHost : String) : Except PyError HostOption :=
  let environmentHosts := environmentHostNames environment
  let own := (profile.allowedHosts.map normalizeHost).filter (· != "")
  let allowed := if own.isEmpty then environmentHosts else own
  let host := normalizeHost (if selectedHost != "" then selectedHost
    else if fallbackHost != "" then fallbackHost else environment.defaultHost)
  if host == "" then .error (.valueError "validation Host is required")
  else if !environmentHosts.isEmpty && !environmentHosts.contains host then
    .error (.valueError "validation Host is outside the selected environment")
  else if !allowed.contains host then .error (.valueError "validation Host is outside the auth profile scope")
  else .ok ⟨host, environmentBaseUrl environment host⟩

def domainSuffix (host : String) : String :=
  let parts := split (normalizeHost host) '.'
  ".".intercalate (if 3 ≤ parts.length then parts.drop (parts.length - 3) else parts)

/-- `dict.setdefault`, in a list of hosts and their base urls. -/
def setDefaultHost (hosts : List HostOption) (option : HostOption) : List HostOption :=
  if hosts.any (·.host == option.host) then hosts else hosts ++ [option]

def baseByHost (environment : ProjectEnvironment) : List HostOption :=
  let listed := environment.hosts.foldl (fun hosts item =>
    let host := normalizeHost (hostEntry item)
    let baseUrl := stripped (match item with
      | .obj fields => if Dict.truthy fields "base_url" then (Dict.get fields "base_url").pyStr
        else (Dict.get fields "host").strOrEmpty
      | x => x.strOrEmpty)
    if host == "" then hosts
    else setDefaultHost hosts ⟨host, if containsText baseUrl "://" then baseUrl else "https://" ++ baseUrl⟩) []
  (environmentHostNames environment).foldl (fun hosts host => setDefaultHost hosts ⟨host, "https://" ++ host⟩) listed

/-- The score of a candidate. -/
def hostScore (endpoint : Option Endpoint) (environment : ProjectEnvironment) (selectedHost host : String) : ℕ :=
  let endpointHost := normalizeHost (match endpoint with
    | some e => if e.domain != "" then e.domain else e.url
    | none => "")
  let selected := normalizeHost selectedHost
  let defaultHost := normalizeHost environment.defaultHost
  10 + (if selected != "" && host == selected then 200 else 0) +
    (if endpointHost != "" && host == endpointHost then 100
      else if endpointHost != "" && domainSuffix host == domainSuffix endpointHost then 45 else 0) +
    if defaultHost != "" && host == defaultHost then 25 else 0

/-- `host_candidates`: the best score first, equal scores by host. -/
def hostCandidates (endpoint : Option Endpoint) (environment : ProjectEnvironment) (profile : ValidationProfile)
    (selectedHost : String) : List HostOption :=
  let allowed := (profile.allowedHosts.map normalizeHost).filter (· != "")
  let score := hostScore endpoint environment selectedHost
  ((baseByHost environment).filter fun o => allowed.isEmpty || allowed.contains o.host).insertionSort fun a b =>
    score b.host < score a.host ∨ score a.host = score b.host ∧ a.host ≤ b.host

/-! ## One pair -/

/-- What raises while a batch is scheduled. -/
inductive ScheduleError where
  | raised (e : PyError)
  | largeValidationApprovalRequired (estimatedRequests automaticLimit : Int)

/-- What a batch is scheduled with. -/
structure BatchRequest where
  relations : List ParameterRelation
  sourceProfile : ValidationProfile
  consumerProfile : ValidationProfile
  environment : ProjectEnvironment
  sourceHost : String := ""
  consumerHost : String := ""
  manualValues : List (String × Json) := []
  approvedLargeRun : Bool := false
  perRelationRequestBudget : Json := .int 0

namespace BatchRequest

variable (b : BatchRequest)

def maximumBudget : Int :=
  if b.approvedLargeRun then (environmentExecutionPolicy (some b.environment)).approvedRequestLimit
  else (environmentExecutionPolicy (some b.environment)).autoRequestLimit

def requestedBudget : Int :=
  if b.perRelationRequestBudget.truthy then match b.perRelationRequestBudget.toInt with
    | .ok budget => budget
    | .error _ => 0
  else 0

def relationBudget : Int :=
  if b.requestedBudget ≠ 0 then max 1 (min b.requestedBudget b.maximumBudget)
  else min maxAutomaticRequests (environmentExecutionPolicy (some b.environment)).autoRequestLimit

/-- The budget of the plan of a pair. -/
def caseBudget : Int := max 1 (min b.relationBudget b.maximumBudget)

def mutationExecutionAllowed : Bool :=
  (environmentExecutionPolicy (some b.environment)).allowMutation && b.sourceProfile.testAccount &&
    b.consumerProfile.testAccount

/-- The mappings of a plan, in the order of the relations' ids. -/
def mappings (group : List ParameterRelation) : List RelationMapping :=
  (group.insertionSort fun a b => a.id ≤ b.id).map fun r =>
    ⟨r.id, r.parameter, r.sourceLocator.getD [], b.manualValues.lookup r.id⟩

/-- The candidate hosts of one side, or the selected host alone. -/
def caseHosts (store : ValidationStore) (profile : ValidationProfile) (pathid : Int)
    (selected : HostOption) : List HostOption :=
  let candidates := hostCandidates (store.projectEndpoint profile.projectId pathid) b.environment profile selected.host
  if candidates.isEmpty then [selected] else candidates

/-- The host selected for one side. -/
def caseHost (profile : ValidationProfile) (asked chosen fallback : String) :
    Except PyError HostOption :=
  profileHost profile b.environment (if asked != "" then asked else chosen) fallback

/-- `create_validation_case_snapshot`, for relations that are bound. -/
def createValidationCaseSnapshot (store : ValidationStore) (group : List ParameterRelation) :
    Except ScheduleError ValidationPlan := do
  let raise {α : Type} (message : String) : Except ScheduleError α := .error (.raised (.valueError message))
  let lift {α : Type} (x : Except PyError α) : Except ScheduleError α := x.mapError .raised
  match group with
  | [] => raise "at least one relation is required"
  | primary :: _ =>
    if b.sourceProfile.projectId != b.consumerProfile.projectId then
      raise "source and consumer profiles must belong to one project"
    else if b.sourceProfile.envId != b.consumerProfile.envId || b.sourceProfile.envId != b.environment.envId then
      raise "validation profiles must belong to the selected environment"
    else if group.any fun r => r.sourceLocator.isNone || r.targetLocator.isNone then
      raise "relation source or target locator is unavailable"
    else if group.any fun r => r.pair != primary.pair then
      raise "one validation case must use one source/consumer endpoint pair"
    else
      let source ← lift (store.requestTemplate primary.resPathid b.sourceProfile)
      let consumer ← lift (store.requestTemplate primary.reqPathid b.consumerProfile)
      let consumerMethod := upper consumer.method
      let mutation := mutationMethods.contains consumerMethod
      if !readMethods.contains (upper source.method) then raise "relation source must be a read-only request"
      else if !(readMethods ++ mutationMethods).contains consumerMethod then
        raise "relation consumer method is unsupported"
      else if mutation && !b.mutationExecutionAllowed then raise "写入验证只允许测试/预发环境中的测试账号"
      else if b.caseBudget < relationRequestEstimate consumerMethod then
        .error (.largeValidationApprovalRequired (relationRequestEstimate consumerMethod) b.caseBudget)
      else
        let sourceSelected ← lift (b.caseHost b.sourceProfile b.sourceHost primary.selectedSourceHost source.domain)
        let consumerSelected ←
          lift (b.caseHost b.consumerProfile b.consumerHost primary.selectedConsumerHost consumer.domain)
        let sourceOptions := b.caseHosts store b.sourceProfile primary.resPathid sourceSelected
        let consumerOptions := b.caseHosts store b.consumerProfile primary.reqPathid consumerSelected
        let gapLabels := (store.gaps primary.resPathid b.sourceProfile).map ("来源 " ++ ·) ++
          (store.gaps primary.reqPathid b.consumerProfile).map ("消费 " ++ ·)
        if !gapLabels.isEmpty then
          raise ("接口测试数据未就绪：" ++ "、".intercalate (gapLabels.take 8) ++ "。请先在参数关系页补充，保存后可复用。")
        else
          return {
            relations := b.mappings group
            sourceHosts := sourceOptions.take b.caseBudget.toNat
            consumerHosts := consumerOptions.take b.caseBudget.toNat
            sourceDefault := sourceSelected
            consumerDefault := consumerSelected
            consumerMethod := consumer.method
            mutation := mutation
            requestBudget := b.caseBudget
            environmentRequestLimit := (environmentExecutionPolicy (some b.environment)).autoRequestLimit
            environmentApprovedLimit := (environmentExecutionPolicy (some b.environment)).approvedRequestLimit
            approvedLargeRun := b.approvedLargeRun }

end BatchRequest

/-! ## The batch -/

/-- The relations by pair, in the order of their first occurrence. -/
def groupByPair (relations : List ParameterRelation) : List ((Int × Int) × List ParameterRelation) :=
  relations.foldl (fun groups r =>
    if groups.any (·.1 == r.pair) then groups.map fun g => if g.1 == r.pair then (g.1, g.2 ++ [r]) else g
    else groups ++ [(r.pair, [r])]) []

/-- `sorted(grouped_relations.items())`. -/
def sortedPairs (relations : List ParameterRelation) : List ((Int × Int) × List ParameterRelation) :=
  (groupByPair relations).insertionSort fun a b => a.1.1 < b.1.1 ∨ a.1.1 = b.1.1 ∧ a.1.2 ≤ b.1.2

/-- What is enqueued: the plans of the checkpoints and the numbers of the scope. -/
structure ScheduledBatch where
  plans : List ValidationPlan
  estimatedRequests : Int
  relationBudget : Int
  containsMutation : Bool

namespace BatchRequest

def pairEstimate (b : BatchRequest) (store : ValidationStore) (pair : Int × Int) : Int :=
  let method := ((store.endpoint pair.2).map fun e => upper e.method).getD ""
  let base := relationRequestEstimate method
  max base (if b.requestedBudget ≠ 0 then b.relationBudget else base)

/-- `schedule_validation_batch`, up to the run it enqueues. -/
def scheduleValidationBatch (b : BatchRequest) (store : ValidationStore) : Except ScheduleError ScheduledBatch := do
  let automaticLimit := (environmentExecutionPolicy (some b.environment)).autoRequestLimit
  if automaticLimit < b.requestedBudget && !b.approvedLargeRun then
    .error (.largeValidationApprovalRequired b.requestedBudget automaticLimit)
  else
    let relations ← (b.relations.mapM store.bind).mapError .raised
    let estimated := ((groupByPair relations).map fun g => b.pairEstimate store g.1).sum
    if automaticLimit < estimated && !b.approvedLargeRun then
      .error (.largeValidationApprovalRequired estimated automaticLimit)
    else
      let plans ← (sortedPairs relations).mapM fun g => b.createValidationCaseSnapshot store g.2
      if plans.isEmpty then .error (.raised (.valueError "at least one relation is required"))
      else return {
        plans := plans
        estimatedRequests := estimated
        relationBudget := b.relationBudget
        containsMutation := (groupByPair relations).any fun g =>
          mutationMethods.contains (((store.endpoint g.1.2).map fun e => upper e.method).getD "") }

end BatchRequest

end ApiManger.Parameters
