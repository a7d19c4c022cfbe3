import ApiManger.Chain.Definition

/-!
# Resolving a chain

`bind_chain_sources` compares every step with the imported endpoint of its path;
`resolve_chain` decides step by step whether it is ready: its dependencies are, its
endpoint fits, and its references are found in the responses captured so far.
-/

namespace ApiManger.Chain
open Python

/-! ## Endpoints -/

/-- What an endpoint lookup answers. -/
structure EndpointEntry where
  method : String := ""
  path : String := ""
  url : String := ""
  domain : String := ""
  projectId : String := ""

abbrev EndpointLookup := Int → Option EndpointEntry

/-- The reasons why a step is not bound. -/
def bindReasons (d : ChainDefinition) (step : ChainStep) : Option EndpointEntry → List String
  | none => ["endpoint_asset_missing"]
  | some entry =>
    let method := upper (stripped entry.method)
    let path := stripped entry.path
    let project := stripped entry.projectId
    (if method != "" && method != step.method then ["method_mismatch"] else []) ++
      (if path != "" && canonicalPathTemplate path != canonicalPathTemplate step.pathTemplate
        then ["path_template_mismatch"] else []) ++
      if project != "" && d.projectId != "" && project != d.projectId then ["project_mismatch"] else []

/-- `bind_chain_sources`: the reasons of each step. -/
def bindChainSources (d : ChainDefinition) (lookup : EndpointLookup) : List (String × List String) :=
  d.steps.map fun step => (step.stepId, bindReasons d step (lookup step.pathid))

/-- `binding["unbound_step_ids"]`. -/
def unboundStepIds (d : ChainDefinition) (lookup : EndpointLookup) : List String :=
  ((bindChainSources d lookup).filter fun item => !item.2.isEmpty).map (·.1)

/-! ## The plan of one step -/

inductive StepStatus where
  | ready | blocked | failed
  deriving DecidableEq

/-- An entry of `resolved_parameters`; `value` is missing where a reference is not found. -/
structure ResolvedEntry where
  position : Position
  type : String
  required : Bool
  ref : Option String
  sourceResponseRef : String
  value : Option Json

/-- The plan of one step, with what the loop over its parameters carries. -/
structure StepPlan where
  status : StepStatus := .ready
  reasonCodes : List String := []
  notes : List String := []
  resolvedParameters : Mapping ResolvedEntry := .empty
  pathValues : Mapping Json := .empty
  renderedPath : String := ""

def StepPlan.block (plan : StepPlan) (code detail : String) : StepPlan :=
  { plan with
    status := .blocked
    reasonCodes := if plan.reasonCodes.contains code then plan.reasonCodes else plan.reasonCodes ++ [code]
    notes := if detail == "" then plan.notes else plan.notes ++ [detail] }

def isEmptySource (value : Json) : Bool :=
  value == .null || value == .str "" || value == .arr [] || value == .obj []

def resolvedValue (sources : Mapping Json) (p : ChainParameter) : Except ChainError (Option Json) :=
  match p.source with
  | .constant value => .ok (some value)
  | .upstreamRef ref _ => resolveUpstreamRef sources ref

def ChainParameter.entry (p : ChainParameter) (value : Option Json) : ResolvedEntry :=
  ⟨p.position, p.type, p.required, p.ref?, p.sourceResponseRef, value⟩

/-- A parameter is on record, and its value goes into the path where that is its position. -/
def StepPlan.record (plan : StepPlan) (p : ChainParameter) (value : Option Json) : StepPlan :=
  { plan with
    resolvedParameters := plan.resolvedParameters.set p.name (p.entry value)
    pathValues := match value with
      | some v => if p.position = .path then plan.pathValues.set p.name v else plan.pathValues
      | none => plan.pathValues }

/-- One turn of the loop over the parameters. -/
def resolveParameter (sources : Mapping Json) (plan : StepPlan) (p : ChainParameter) : Except ChainError StepPlan := do
  let value ← resolvedValue sources p
  match p.source, value with
  | .constant constant, _ =>
    let plan := if plan.status = .ready ∧ p.required = true ∧ isEmptySource constant = true then
      plan.block "MISSING_REQUIRED_PARAMETER" ("required constant '" ++ p.name ++ "' has no value") else plan
    return plan.record p value
  | .upstreamRef ref _, none =>
    let plan := plan.record p none
    return if p.required then plan.block "MISSING_UPSTREAM_REF" ("'" ++ p.name ++ "' cannot resolve '" ++ ref ++ "'")
      else { plan with
        reasonCodes := if plan.reasonCodes.contains "OPTIONAL_UPSTREAM_REF_EMPTY" then plan.reasonCodes
          else plan.reasonCodes ++ ["OPTIONAL_UPSTREAM_REF_EMPTY"]
        notes := plan.notes ++ ["optional '" ++ p.name ++ "' omitted: '" ++ ref ++ "' not present"] }
  | .upstreamRef ref requiredNonEmpty, some v =>
    let plan := plan.record p (some v)
    return if requiredNonEmpty && isEmptySource v then
      plan.block "EMPTY_REQUIRED_SOURCE" ("'" ++ p.name ++ "' resolved from '" ++ ref ++ "' but is empty") else plan

/-- The plan of a step before its parameters. -/
def startPlan (reasons : List String) (failures : List String) (statuses : Mapping StepStatus) (step : ChainStep) :
    StepPlan :=
  let blocking := step.dependsOn.filter fun dependency => statuses.get? dependency != some .ready
  let plan : StepPlan := {}
  let plan := if failures.contains step.stepId then
      { plan with status := .failed, reasonCodes := ["UPSTREAM_STEP_FAILED"] }
    else if !blocking.isEmpty then
      plan.block "UPSTREAM_STEP_BLOCKED" ("blocked by upstream step(s): " ++ ", ".intercalate blocking)
    else plan
  if plan.status = .ready ∧ !reasons.isEmpty then
    plan.block "SOURCE_NOT_BOUND" ("source binding failed: " ++ ", ".intercalate reasons)
  else plan

/-- One turn of the loop over the steps. -/
def resolveStep (reasons : List String) (sources : Mapping Json) (failures : List String) (statuses : Mapping StepStatus)
    (step : ChainStep) : Except ChainError StepPlan := do
  let plan ← step.parameters.foldlM (resolveParameter sources) (startPlan reasons failures statuses step)
  let (rendered, missing) := renderPathTemplate step.pathTemplate plan.pathValues
  let plan := { plan with renderedPath := rendered }
  return if !missing.isEmpty ∧ plan.status = .ready then
    plan.block "UNRESOLVED_PATH_PARAMETER" ("unresolved path parameter(s): " ++ ", ".intercalate missing) else plan

/-- The loop over the steps, with the statuses of those before. -/
def resolveSteps (reasons : ChainStep → List String) (sources : Mapping Json) (failures : List String) :
    Mapping StepStatus → List ChainStep → Except ChainError (List (ChainStep × StepPlan))
  | _, [] => .ok []
  | statuses, step :: rest => do
    let plan ← resolveStep (reasons step) sources failures statuses step
    return (step, plan) :: (← resolveSteps reasons sources failures (statuses.set step.stepId plan.status) rest)

/-- What `resolve_chain` answers, as far as it is read again. -/
structure ChainPlan where
  steps : List (ChainStep × StepPlan)
  safeToExecute : Bool

def resolveChain (definition : ChainDefinition) (sources : Mapping Json) (lookup : Option EndpointLookup)
    (stepFailures : List String) : Except ChainError ChainPlan := do
  let d ← normalizeChainDefinition definition
  let failures := (stepFailures.map stripped).filter (· != "")
  let reasons (step : ChainStep) : List String := match lookup with
    | some lookup => bindReasons d step (lookup step.pathid)
    | none => []
  let steps ← resolveSteps reasons sources failures .empty d.steps
  return ⟨steps, !steps.isEmpty && steps.all fun s => s.2.status == .ready⟩

end ApiManger.Chain
