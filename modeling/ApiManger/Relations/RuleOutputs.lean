import Mathlib.Data.List.Sort
import Mathlib.Data.String.Basic
import ApiManger.Collection.Cursor
import ApiManger.Collection.UpdateOne
import ApiManger.Imperative.Routine
import ApiManger.Python.Text
import ApiManger.Relations.Documents

/-!
# Persisting the outputs of rules

`persist_typed_outputs` of `apiAnalysis/tool/unified_rule_analysis.py`: the outputs of an
analysis in the order of a key, each written to the classification, the roles, the
priorities or the relations of a project. After each output the key is reported; a later
call goes on behind it.
-/

namespace ApiManger.Relations
open Python Store Collection Imperative

/-! ## Results of an analysis -/

structure EndpointClassificationCandidate where
  endpointRef : String
  proposedAction : String
  confidence : ℚ
  reasonCodes : List String := []
  scoreContributions : List (String × String × ℚ) := []
  applyAllowed : Bool

structure ParameterRoleCandidate where
  occurrenceRef : String
  pathid : Int
  canonicalName : String
  position : String
  role : String
  confidence : ℚ
  relationEligible : Bool := false
  reasonCodes : List String := []

structure ParameterRelationCandidate where
  producerRef : String
  consumerRef : String
  relation : String
  confidence : ℚ
  reasonCodes : List String := []

/-- The output of a rule; `other` is of a type that is not persisted. -/
inductive TypedOutput where
  | classification (o : EndpointClassificationCandidate)
  | role (o : ParameterRoleCandidate)
  | relation (o : ParameterRelationCandidate)
  | other

structure RuleMatch where
  ruleId : String
  ruleVersion : Int
  ruleSha256 : String
  scoreContributions : List Json := []
  output : TypedOutput

/-- The fields of a `raw_data` document that are read. -/
structure EndpointDocument where
  pk : ℕ
  ptahId : Int
  method : String
  path : String
  action : String := ""
  rule : String := ""

/-- The fields of a `req_data` or `res_data` document that are read. -/
structure ParameterDocument where
  direction : String := ""
  schemaPath : String := ""
  locator : Dict := []
  type : String := ""
  required : Bool := false

structure LocatorFact where
  version : Int
  direction : String
  position : String
  kind : String
  schemaPath : String
  canonicalName : String

structure ParameterOccurrenceFact where
  pathid : Int
  canonicalName : String
  locator : LocatorFact

structure UnifiedAnalysisResult where
  projectId : String
  envId : String
  inputWatermarkSha256 : String
  endpointDocuments : Int → Option EndpointDocument
  parameterDocuments : String → Option ParameterDocument
  relationFacts : String → Option ParameterOccurrenceFact
  ruleMatches : List RuleMatch

/-- How floats are rounded: `int(round(confidence * 100))` and `round(confidence * 100.0, 2)`. -/
structure FloatRounding where
  percent : ℚ → Int
  score : ℚ → ℚ

/-! ## Documents -/

/-- The classification of a `raw_data` document. -/
structure Classification where
  pk : ℕ
  action : String := ""
  classConfidence : Int := 0
  classReasonCodes : List String := []
  classScoreContributions : List (String × String × ℚ) := []
  rule : String := ""

/-- `idor_parameter_candidate`. -/
structure ParameterRole where
  projectId : String
  envId : String
  pathid : Int
  parameter : String
  direction : String
  position : String
  schemaPath : String
  rawData : ℕ
  method : String
  path : String
  canonicalName : String
  locator : Dict
  paramType : String
  required : Bool
  role : String := "unknown"
  roleConfidence : ℚ := 0
  reasonCodes : List String := []
  sourceMeta : Dict := []
  manualRole : String := ""
  manualNote : String := ""

structure ParameterPriorityItem where
  projectId : String
  parameter : String
  canonicalKey : String
  ruleRole : String := ""
  ruleWeight : ℚ := 0
  ruleReasons : List String := []

structure RuleStore where
  endpoints : List Classification := []
  roles : List ParameterRole := []
  priorities : List ParameterPriorityItem := []
  relations : List ParameterRelation := []
  nextId : ℕ := 0

/-- What is counted. -/
inductive Count where
  | classificationMissing | classificationManualPreserved | classificationUpserted
  | roleMissing | roleCreated | roleUpdated | priorityUpserted
  | relationFactMissing | relationProtected | relationExistingCreateOnly | relationCreated
  | findingWrites
  deriving DecidableEq

/-- A `Counter`. -/
abbrev Counts := Count → ℕ

/-- `counts[n] += 1`. -/
def Counts.add (counts : Counts) (n : Count) : Counts := Function.update counts n (counts n + 1)

/-! ## Operations -/

/-- `text.rsplit(":", 1)[-1]`. -/
def lastPart (text : String) : String := String.ofList (text.toList.reverse.takeWhile (· != ':')).reverse

/-- `"{:012d}".format(n)`. -/
def zeroPadded (n : Int) : String :=
  let digits := (toString n.natAbs).toList
  let width := if n < 0 then 11 else 12
  (if n < 0 then "-" else "") ++ String.ofList (List.replicate (width - digits.length) '0' ++ digits)

/-- The key of an output; none where it is not persisted. -/
def operationKey : TypedOutput → Except PyError (Option String)
  | .classification o => do
    return some ("classification:" ++ zeroPadded (← (Json.str (lastPart o.endpointRef)).toInt))
  | .role o => .ok (some ("role:" ++ zeroPadded o.pathid ++ ":" ++ o.position ++ ":" ++ o.canonicalName))
  | .relation o =>
    if o.relation != "insufficient_evidence" then
      .ok (some ("relation:" ++ o.producerRef ++ ":" ++ o.consumerRef))
    else .ok none
  | .other => .ok none

def operationRows (result : UnifiedAnalysisResult) : Except PyError (List (String × RuleMatch)) := do
  let keys ← result.ruleMatches.mapM fun m => operationKey m.output
  let rows := (keys.zip result.ruleMatches).filterMap fun p => p.1.map fun key => (key, p.2)
  return rows.insertionSort (·.1 ≤ ·.1)

def protectedRelation (r : ParameterRelation) : Bool :=
  r.verified || [.trusted, .rejected, .deleted].contains r.manualDecision ||
    [.manualOverride, .manualTombstone].contains r.discoverySource

/-- The source of the classification in `endpoint_fact_from_document`. -/
def classificationSource (d : EndpointDocument) : Except PyError String :=
  if d.ptahId < 0 ∨ stripped d.method = "" ∨ stripped d.path = "" then
    .error (.valueError "endpoint pathid, method and path_template are required")
  else if d.action = "" then .ok "none"
  else .ok (if startsWith d.rule "path_score" || startsWith d.rule "abstract_rule:" then "machine" else "manual")

/-- The variables of `persist_typed_outputs`, with the documents. -/
structure PersistState where
  store : RuleStore
  counts : Counts

abbrev PersistCode := Routine PersistState PyError

def count (n : Count) : PersistCode Unit := .modify fun s => { s with counts := s.counts.add n }

def write (f : RuleStore → RuleStore) : PersistCode Unit := .modify fun s => { s with store := f s.store }

/-- `"abstract_rule:{}:{}"`. -/
def RuleMatch.ruleName (m : RuleMatch) : String := "abstract_rule:" ++ m.ruleId ++ ":" ++ toString m.ruleVersion

section
variable (rounding : FloatRounding) (result : UnifiedAnalysisResult) (m : RuleMatch)

/-- The fields of an endpoint that a classification sets. -/
def classify (o : EndpointClassificationCandidate) (c : Classification) : Classification :=
  { c with
    action := o.proposedAction
    classConfidence := rounding.percent o.confidence
    classReasonCodes := o.reasonCodes
    classScoreContributions := o.scoreContributions
    rule := m.ruleName }

def applyClassification (o : EndpointClassificationCandidate) : PersistCode Unit := do
  let pathid ← .ofExcept (Json.str (lastPart o.endpointRef)).toInt
  match result.endpointDocuments pathid with
  | none => count .classificationMissing
  | some endpoint => do
    let source ← .ofExcept (classificationSource endpoint)
    if !o.applyAllowed || source == "manual" then count .classificationManualPreserved
    else do
      write fun s => { s with endpoints := updateIfAny (·.pk == endpoint.pk) (classify rounding m o) s.endpoints }
      count .classificationUpserted

variable (o : ParameterRoleCandidate)

/-- Whether a role is the one of an occurrence. -/
def isRoleOf (document : ParameterDocument) (row : ParameterRole) : Bool :=
  row.projectId == result.projectId && row.envId == result.envId && row.pathid == o.pathid &&
    row.parameter == o.canonicalName && row.direction == (if document.direction = "" then "request" else document.direction) &&
    row.position == o.position && row.schemaPath == document.schemaPath

def newRole (document : ParameterDocument) (endpoint : EndpointDocument) : ParameterRole where
  projectId := result.projectId
  envId := result.envId
  pathid := o.pathid
  parameter := o.canonicalName
  direction := if document.direction = "" then "request" else document.direction
  position := o.position
  schemaPath := document.schemaPath
  rawData := endpoint.pk
  method := endpoint.method
  path := endpoint.path
  canonicalName := o.canonicalName
  locator := document.locator
  paramType := document.type
  required := document.required

/-- The fields of a role that a rule sets. -/
def setRole (row : ParameterRole) : ParameterRole :=
  { row with
    role := o.role
    roleConfidence := o.confidence
    reasonCodes := o.reasonCodes
    sourceMeta := [("source", .str "abstract_rule_p1"), ("rule_id", .str m.ruleId), ("rule_version", .int m.ruleVersion),
      ("rule_sha256", .str m.ruleSha256), ("relation_eligible", .bool o.relationEligible),
      ("input_watermark_sha256", .str result.inputWatermarkSha256), ("score_contributions", .arr m.scoreContributions)] }

/-- The fields of a priority that a rule sets. -/
def setPriority (item : ParameterPriorityItem) : ParameterPriorityItem :=
  { item with ruleRole := o.role, ruleWeight := o.confidence, ruleReasons := o.reasonCodes }

def isPriorityOf (item : ParameterPriorityItem) : Bool :=
  item.projectId == result.projectId && item.parameter == o.canonicalName

/-- `save()` of a row that was found first, or is new. -/
def upsert {α : Type} (p : α → Bool) (set : α → α) (new : α) (rows : List α) : List α :=
  (updateOne p set rows).getD (rows ++ [set new])

def applyRole : PersistCode Unit :=
  match result.parameterDocuments o.occurrenceRef, result.endpointDocuments o.pathid with
  | some document, some endpoint => do
    let s ← Routine.get
    count (if s.store.roles.any (isRoleOf result o document) then .roleUpdated else .roleCreated)
    write fun s => { s with
      roles := upsert (isRoleOf result o document) (setRole result m o) (newRole result o document endpoint) s.roles
      priorities := upsert (isPriorityOf result o) (setPriority o)
        { projectId := result.projectId, parameter := o.canonicalName, canonicalKey := o.canonicalName } s.priorities }
    count .priorityUpserted
  | _, _ => count .roleMissing

def locatorFromFact (f : ParameterOccurrenceFact) : Dict :=
  [("version", .int f.locator.version), ("direction", .str f.locator.direction), ("position", .str f.locator.position),
    ("kind", .str f.locator.kind), ("schema_path", .str f.locator.schemaPath),
    ("canonical_name", .str f.locator.canonicalName)]

/-- A parameter of a relation, which may be its own one. -/
def ParameterRelation.parameterOr (r : ParameterRelation) (name : String) : String := if name = "" then r.parameter else name

def isRelationOf (source target : ParameterOccurrenceFact) (r : ParameterRelation) : Bool :=
  r.projectId == result.projectId && (r.envId == some "" || r.envId == some result.envId) &&
    r.resPathid == source.pathid && r.reqPathid == target.pathid &&
    r.parameterOr r.sourceParameter == source.canonicalName && r.parameterOr r.targetParameter == target.canonicalName

def newRelation (o : ParameterRelationCandidate) (source target : ParameterOccurrenceFact) (id : ℕ) : ParameterRelation where
  id := id
  projectId := result.projectId
  envId := some result.envId
  parameter := target.canonicalName
  sourceParameter := source.canonicalName
  targetParameter := target.canonicalName
  sourcePosition := source.locator.position
  targetPosition := target.locator.position
  sourceLocator := locatorFromFact source
  targetLocator := locatorFromFact target
  locatorVersion := max source.locator.version target.locator.version
  locationStatus := .resolved
  reqPathid := target.pathid
  resPathid := source.pathid
  rule := m.ruleName
  relation := o.relation
  score := rounding.score o.confidence
  machineConfidence := o.confidence
  reasonCodes := o.reasonCodes
  evidence := [.obj [("kind", .str "abstract_rule_candidate"), ("rule_id", .str m.ruleId),
    ("rule_version", .int m.ruleVersion), ("rule_sha256", .str m.ruleSha256),
    ("input_watermark_sha256", .str result.inputWatermarkSha256), ("score_contributions", .arr m.scoreContributions)]]
  discoveryVersion := "unified-offline-rules.p1.v1"
  discoverySource := .abstractRuleP1
  evidenceSources := ["profile_scoped_observation"]

def applyRelation (o : ParameterRelationCandidate) : PersistCode Unit :=
  match result.relationFacts o.producerRef, result.relationFacts o.consumerRef with
  | some source, some target => do
    let s ← Routine.get
    match s.store.relations.find? (isRelationOf result source target) with
    | some existing => count (if protectedRelation existing then .relationProtected else .relationExistingCreateOnly)
    | none => do
      write fun s => { s with
        relations := s.relations ++ [newRelation rounding result m o source target s.nextId]
        nextId := s.nextId + 1 }
      count .relationCreated
  | _, _ => count .relationFactMissing

def applyOutput : PersistCode Unit :=
  match m.output with
  | .classification o => applyClassification rounding result m o
  | .role o => applyRole result m o
  | .relation o => applyRelation rounding result m o
  | .other => return ()

end

/-- The rows that a call does not leave out. -/
def rowsAfter (resumeAfter : String) (rows : List (String × RuleMatch)) : List (String × RuleMatch) :=
  rows.filter fun row => !(resumeAfter != "" && decide (row.1 ≤ resumeAfter))

section
variable (rounding : FloatRounding) (result : UnifiedAnalysisResult)

def applyRows (rows : List (String × RuleMatch)) : PersistCode Unit :=
  .forEach (fun row => applyOutput rounding result row.2) rows

def persistTypedOutputs (resumeAfter : String) (initialCounts : Counts) (store : RuleStore) :
    Except PyError Counts × RuleStore :=
  match operationRows result with
  | .error e => (.error e, store)
  | .ok rows => match applyRows rounding result (rowsAfter resumeAfter rows) ⟨store, initialCounts⟩ with
    | (.ok _, s) => (.ok (Function.update s.counts .findingWrites 0), s.store)
    | (.error e, s) => (.error e, s.store)

/-- A call of `progress_callback`, and the documents at that time. -/
structure Progress where
  key : String
  counts : Counts
  store : RuleStore

/-- The call of `progress_callback` after the row at a place, in a call of `persist_typed_outputs` from the start. -/
def progressAt (store : RuleStore) (rows : List (String × RuleMatch)) (i : ℕ) : Option Progress :=
  match rows[i]?, applyRows rounding result (rows.take (i + 1)) ⟨store, fun _ => 0⟩ with
  | some row, (.ok _, s) => some ⟨row.1, s.counts, s.store⟩
  | _, _ => none

end

end ApiManger.Relations
