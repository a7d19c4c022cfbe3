import Mathlib.Data.Prod.Lex
import ApiManger.Python.Mapping
import ApiManger.Python.Sorted

/-!
# Steps of an unlock plan

`evaluate_steps` of `apiAnalysis/tool/unlock_plan.py`: the readiness of each step of a blocked plan, from the facts
that are satisfied. Readiness is never stored.
-/

namespace ApiManger.Unlock
open Collection Python

/-- `precondition_fact.state`. -/
inductive FactState where
  | satisfied
  | unsatisfied
  | unknown
deriving DecidableEq

structure PreconditionFact where
  factKey : String
  state : FactState

inductive Status where
  | pending
  | inProgress
  | done
  | abandoned
deriving DecidableEq

/-- `status in unlock_step.TERMINAL`. -/
def Status.isTerminal : Status → Bool
  | .done => true
  | .abandoned => true
  | _ => false

structure UnlockStep where
  stepKey : String
  title : String
  serves : String
  priority : Option ℤ
  status : Status
  requiresFactKeys : List String
  producesFactKeys : List String
deriving DecidableEq

inductive Readiness where
  | ready
  | blocked
  | inProgress
  | done
  | abandoned
deriving DecidableEq

/-- What `evaluate_steps` says of one step. -/
structure Evaluated where
  stepKey : String
  title : String
  serves : String
  priority : Option ℤ
  status : Status
  readiness : Readiness
  requiresFactKeys : List String
  blockedBy : List String
  producesFactKeys : List String
  downstreamCount : ℕ
  downstreamStepKeys : List String
  preconditionLost : List String
  deadlockedByAbandoned : List String

def satisfiedKeys (facts : List PreconditionFact) : List String :=
  (facts.filter (·.state == .satisfied)).map (·.factKey)

variable (steps : List UnlockStep)

def byKey : Mapping UnlockStep := .ofItems (steps.map fun s => (s.stepKey, s))

/-- `produced_by`: the first step that produces a fact. -/
def producedBy : Mapping String :=
  steps.foldl (fun d s => s.producesFactKeys.foldl (fun d produced => d.setdefault produced s.stepKey) d) .empty

/-- The readiness of a step that misses these facts. -/
def readinessOf (status : Status) (missing : List String) : Readiness :=
  match status with
  | .done => .done
  | .abandoned => .abandoned
  | .inProgress => .inProgress
  | .pending => if missing = [] then .ready else .blocked

/-- The open steps that require what a step produces. -/
def downstream (step : UnlockStep) : List String :=
  sorted ((steps.filter fun other => other.stepKey != step.stepKey && !other.status.isTerminal &&
    other.requiresFactKeys.any (step.producesFactKeys.contains ·)).map (·.stepKey))

/-- The producer of a fact, where it is abandoned. -/
def blockedProducer (key : String) : Option String :=
  ((producedBy steps).get? key).filter fun producer =>
    ((byKey steps).get? producer).map (·.status) == some .abandoned

def evaluateStep (satisfied : List String) (step : UnlockStep) : Evaluated :=
  let missing := sorted (step.requiresFactKeys.filter fun key => !satisfied.contains key)
  let downstream := downstream steps step
  { stepKey := step.stepKey
    title := step.title
    serves := step.serves
    priority := step.priority
    status := step.status
    readiness := readinessOf step.status missing
    requiresFactKeys := step.requiresFactKeys
    blockedBy := missing
    producesFactKeys := step.producesFactKeys
    downstreamCount := downstream.length
    downstreamStepKeys := downstream
    preconditionLost := if step.status.isTerminal || step.status == .inProgress then missing else []
    deadlockedByAbandoned := sorted (step.requiresFactKeys.filterMap (blockedProducer steps)) }

/-- `item["priority"] if item["priority"] is not None else 100`, and the key of the step. -/
def Evaluated.rank (item : Evaluated) : ℤ ×ₗ String := toLex (item.priority.getD 100, item.stepKey)

def evaluateSteps (facts : List PreconditionFact) : List Evaluated :=
  sortedBy Evaluated.rank (steps.map (evaluateStep steps (satisfiedKeys facts)))

/-- The steps of a project and an environment, which the unique index of `unlockStep` keeps apart. -/
structure Plan where
  steps : List UnlockStep
  distinct : (steps.map (·.stepKey)).Nodup

end ApiManger.Unlock
