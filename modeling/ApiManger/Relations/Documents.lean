import Mathlib.Data.Rat.Defs
import ApiManger.Store.Documents

/-!
# Parameter relations: the documents

`parameter_relation` of `apiAnalysis/db/collection.py`: a parameter of a response of one
endpoint that fills a parameter of a request of another one. Rules, discovery,
preprocessing, validations and people write to it. A text that is missing is the empty one.
-/

namespace ApiManger.Relations
open Python Store

/-- `location_status`; `other` is any further text. -/
inductive LocationStatus where
  | pending | resolved | unresolved | other

/-- `manual_decision`; `other` is any further text. -/
inductive ManualDecision where
  | none | trusted | rejected | deleted | needsData | stale | other
  deriving DecidableEq

/-- `discovery_source`; `other` is any further text. -/
inductive DiscoverySource where
  | none | manualOverride | manualTombstone | projectSchemaAndTraffic | abstractRuleP1 | other
  deriving DecidableEq

inductive PreprocessStatus where
  | pending | stale | deleted | rejected | trusted | needsData | needsContext | verified | accepted | needsCorrection
  | policyBlocked | approvalRequired | automaticFailed | autoReady | other

/-- `preprocess_reason_codes`. -/
inductive ReasonCode where
  | directionConfirmed | directionAutoSwapped | directionCandidate
  | locationResolved | locationUnresolved | locatorAmbiguous
  | multiParameterCase | legacyRuntimeObserved | hostExactMatch | hostFallback
  | experienceStale | manualRelationConfirmed | manualDataRequired | latestValidationPassed | mutationEffectAfterError
  | sourceNotReadOnly | environmentRequired | authProfileRequired | hostRequired | mutationPolicyBlocked
  | latestRequestDataRejected | latestBusinessAuthRejected | requestInputGaps | largeRunApprovalRequired
  | hostSweepApprovalRequired | latestValidationFailed | autoRequestBudgetOk | requestInputReady | mutationPolicyAllowed

structure ParameterRelation where
  id : ℕ
  projectId : String := ""
  envId : Option String := none
  parameter : String
  sourceParameter : String := ""
  targetParameter : String := ""
  sourcePosition : String := "body"
  targetPosition : String := ""
  sourceLocator : Dict := []
  targetLocator : Dict := []
  locatorVersion : Int := 2
  locationStatus : LocationStatus := .pending
  locationNote : String := ""
  reqPathid : Int
  resPathid : Int
  rule : String := ""
  relation : String := ""
  score : ℚ := 0
  reasonCodes : List String := []
  evidence : List Json := []
  verified : Bool := false
  manualDecision : ManualDecision := .none
  feedbackNote : String := ""
  preprocessVersion : String := ""
  preprocessStatus : PreprocessStatus := .pending
  preprocessReasonCodes : List ReasonCode := []
  machineConfidence : ℚ := 0
  estimatedRequests : ℕ := 0
  selectedSourceHost : String := ""
  selectedConsumerHost : String := ""
  approvalStatus : String := "not_required"
  discoveryVersion : String := ""
  discoverySource : DiscoverySource := .none
  evidenceSources : List String := []
  schemaFingerprint : String := ""
  confirmedSchemaFingerprint : String := ""
  staleReason : String := ""

/-- The direction of a relation, its parameters, their positions and their locators. -/
structure RelationMapping where
  reqPathid : Int
  resPathid : Int
  sourceParameter : String
  targetParameter : String
  sourcePosition : String
  targetPosition : String
  sourceLocator : Dict
  targetLocator : Dict

def ParameterRelation.mapping (r : ParameterRelation) : RelationMapping where
  reqPathid := r.reqPathid
  resPathid := r.resPathid
  sourceParameter := r.sourceParameter
  targetParameter := r.targetParameter
  sourcePosition := r.sourcePosition
  targetPosition := r.targetPosition
  sourceLocator := r.sourceLocator
  targetLocator := r.targetLocator

/-- Confirmed by a validation or by a person, or created by a person. -/
def ParameterRelation.isProtected (r : ParameterRelation) : Bool :=
  r.verified || r.manualDecision == .trusted || r.discoverySource == .manualOverride

end ApiManger.Relations
