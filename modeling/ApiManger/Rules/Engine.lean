import Mathlib.Algebra.Order.Floor.Ring
import Mathlib.Data.Rat.Floor
import ApiManger.Python.Mapping
import ApiManger.Python.Product
import ApiManger.Rules.Spec

/-!
# The offline rule engine

`OfflineRuleEngine.evaluate` of `apiAnalysis/rule/framework.py`: every combination of the facts of the inputs
is put to the scope and the predicates of the rule, and those that pass are scored and handed to the output
adapter. Floats are computed exactly; `round(score, 6)` rounds half to even.
-/

namespace ApiManger.Rules
open Python

/-- The classes of facts. `fact` is the base class. -/
inductive FactType where
  | fact | endpoint | parameterOccurrence | observationSummary | principalContext | relation | executionCapability
  deriving DecidableEq

/-- `Fact`: what the engine reads of one, and the rest. A field that the class of the fact does not have is
empty. -/
structure Fact (P : Type) where
  factId : String
  projectId : String
  envId : String
  kind : FactType
  principalId : String := ""
  profileRevisionId : String := ""
  scopeKey : String := ""
  content : P

/-- `isinstance(fact, expected_type)`. -/
def Fact.isA {P : Type} (f : Fact P) (expected : FactType) : Bool := expected == .fact || f.kind == expected

/-- The facts of a combination by the inputs they are for. -/
abbrev Context (P : Type) := Mapping (Fact P)

structure PredicateResult where
  matched : Bool
  value : ℚ
  reasonCodes : List String

/-- `PredicateDefinition`. An evaluation may also return something else than a `PredicateResult`. -/
structure PredicateDefinition (P : Type) where
  name : String
  requiredInputs : List (String × FactType)
  validateArgs : Arguments → Except RuleError Unit
  evaluate : Context P → Arguments → Except RuleError (Option PredicateResult)

structure ScoreContribution where
  predicate : String
  value : ℚ
  weight : ℚ
  contribution : ℚ
  reasonCodes : List String

/-- `OutputAdapterDefinition`, with outputs in `O`. -/
structure OutputAdapterDefinition (P O : Type) where
  name : String
  requiredInputs : List (String × FactType)
  validateArgs : Arguments → Except RuleError Unit
  emit : Context P → RuleSpec → ℚ → List String → List ScoreContribution → Except RuleError O

structure RuleMatch (O : Type) where
  ruleId : String
  ruleVersion : ℤ
  ruleSha256 : String
  factRefs : List (String × String)
  score : ℚ
  reasonCodes : List String
  scoreContributions : List ScoreContribution
  output : O

structure EvaluationReport (O : Type) where
  ruleId : String
  ruleVersion : ℤ
  evaluatedCombinations : ℕ
  ruleMatches : List (RuleMatch O)
  rejectionCounts : List (String × ℕ)

/-- `OfflineRuleEngine` with its registries; `sha256` is `canonical_sha256`. -/
structure OfflineRuleEngine (P O : Type) where
  predicates : String → Option (PredicateDefinition P)
  outputs : String → Option (OutputAdapterDefinition P O)
  sha256 : RuleSpec → String

/-! ## Before the loop -/

section
variable {P O : Type}

variable (rule : RuleSpec)

def validateRequiredInputs (required : List (String × FactType)) (name : String) :
    Except RuleError Unit :=
  let missing := sortedMissing (required.map (·.1)) rule.inputs
  if missing.isEmpty then .ok ()
  else .error (.protocol (name ++ " requires missing inputs: " ++ ", ".intercalate missing))

/-- `self.predicates.resolve`, and the checks that follow it. -/
def OfflineRuleEngine.resolvePredicate (engine : OfflineRuleEngine P O) (rule : RuleSpec) (call : PredicateCall) :
    Except RuleError (PredicateDefinition P) := do
  match engine.predicates call.name with
  | none => throw (.unknownPredicate ("predicate is not registered: " ++ call.name))
  | some definition =>
    definition.validateArgs call.args
    validateRequiredInputs rule definition.requiredInputs definition.name
    return definition

/-- `self.outputs.resolve`, and the checks that follow it. -/
def OfflineRuleEngine.resolveOutput (engine : OfflineRuleEngine P O) (rule : RuleSpec) :
    Except RuleError (OutputAdapterDefinition P O) := do
  match engine.outputs rule.emit.adapter with
  | none => throw (.unknownOutputAdapter ("output adapter is not registered: " ++ rule.emit.adapter))
  | some output =>
    output.validateArgs rule.emit.args
    validateRequiredInputs rule output.requiredInputs output.name
    return output

/-- `sorted(facts, key=lambda item: item.fact_id)`. -/
def sortFacts (facts : List (Fact P)) : List (Fact P) := facts.insertionSort fun f g => f.factId ≤ g.factId

/-- `dict(zip(rule.inputs, combination))`. -/
def contextOf (combination : List (Fact P)) : Context P :=
  Mapping.ofItems (rule.inputs.zip combination)

/-! ## One combination -/

/-- The error of a definition whose inputs are not in the context, or not of the types it requires. -/
def wrongInput? (context : Context P) (definition : String × List (String × FactType)) : Option RuleError :=
  definition.2.findSome? fun (input, expected) =>
    match context.get? input with
    | none => some (.raised "KeyError")
    | some f =>
      if f.isA expected then none
      else some (.protocol (definition.1 ++ " input " ++ input ++ " has the wrong fact type"))

def validateContextTypes (context : Context P) (definitions : List (String × List (String × FactType))) :
    Except RuleError Unit :=
  match definitions.findSome? (wrongInput? context) with
  | none => .ok ()
  | some e => .error e

/-- The field that a relation of principals compares. -/
def relationField? (relation : String) : Option (Fact P → String) :=
  if relation = "same_principal" ∨ relation = "different_principal" then some (·.principalId)
  else if relation = "same_profile_revision" then some (·.profileRevisionId)
  else if relation = "same_scope" ∨ relation = "different_scope" then some (·.scopeKey)
  else none

/-- The values differ: `len(set(values)) != 1`. -/
def notOne (values : List String) : Bool := values.dedup.length != 1

/-- `_scope_rejection`: the reason code of a combination out of scope, empty for one in it. -/
def scopeRejection (scope : RuleScope) (context : Context P) : Except RuleError String :=
  let values := context.items.map (·.2)
  let projects := values.map (·.projectId)
  let environments := values.map (·.envId)
  if scope.sameProject && (projects.contains "" || notOne projects) then .ok "SCOPE_PROJECT_MISMATCH"
  else if scope.sameEnvironment && (environments.contains "" || notOne environments) then
    .ok "SCOPE_ENVIRONMENT_MISMATCH"
  else if scope.principalRelation = "any" then .ok ""
  else
    match relationField? scope.principalRelation with
    | none => .error (.raised "KeyError")
    | some field =>
      let selected := values.map field
      if selected.isEmpty || selected.contains "" then .ok "SCOPE_PRINCIPAL_CONTEXT_MISSING"
      else if scope.principalRelation.startsWith "same_" && notOne selected then
        .ok "SCOPE_PRINCIPAL_RELATION_MISMATCH"
      else if scope.principalRelation.startsWith "different_" && !notOne selected then
        .ok "SCOPE_PRINCIPAL_RELATION_MISMATCH"
      else .ok ""

/-- The loop over the predicates: the reason of the first that rejects, or all reason codes. -/
def runPredicates (context : Context P) : List (PredicateCall × PredicateDefinition P) → List String →
    Except RuleError (String ⊕ List String)
  | [], reasons => .ok (.inr reasons)
  | (call, definition) :: rest, reasons => do
    let result ← definition.evaluate context call.args
    match result with
    | none => throw (.protocol "predicate returned an invalid result")
    | some result =>
      if result.matched then runPredicates context rest (reasons ++ result.reasonCodes)
      else return .inl (result.reasonCodes.headD "PREDICATE_REJECTED")

/-- What the loop over the features has: the score, the contributions and the reason codes. -/
structure Scored where
  score : ℚ
  contributions : List ScoreContribution := []
  reasons : List String

/-- One round of the loop over the features. -/
def scoreFeature (context : Context P) (s : Scored) (feature : ScoreFeature × PredicateDefinition P) :
    Except RuleError Scored := do
  let result ← feature.2.evaluate context feature.1.predicate.args
  match result with
  | none => throw (.raised "AttributeError")
  | some result =>
    if 0 ≤ result.value ∧ result.value ≤ 1 then
      let contribution := result.value * feature.1.weight.value
      return {
        score := s.score + contribution
        contributions := s.contributions ++ [⟨feature.1.predicate.name, result.value, feature.1.weight.value,
          contribution, result.reasonCodes⟩]
        reasons := s.reasons ++ result.reasonCodes }
    else throw (.protocol "score predicate value must be between 0 and 1")

/-- `round(x)`: the nearest integer, of two the even one. -/
def roundHalfEven (x : ℚ) : ℤ :=
  let n := ⌊x⌋
  if x - n < 1 / 2 then n else if 1 / 2 < x - n then n + 1 else if n % 2 = 0 then n else n + 1

/-- `round(x, 6)`. -/
def round6 (x : ℚ) : ℚ := roundHalfEven (x * 10 ^ 6) / 10 ^ 6

/-- `max(0.0, min(1.0, score))`. -/
def clampScore (score : ℚ) : ℚ := max 0 (min 1 score)

/-- `dict.fromkeys`: the first occurrence of each. -/
def firstOccurrences (values : List String) : List String :=
  values.foldl (fun seen x => if seen.contains x then seen else seen ++ [x]) []

/-- What a rule is evaluated with. -/
structure Resolved (P O : Type) where
  predicates : List (PredicateCall × PredicateDefinition P)
  features : List (ScoreFeature × PredicateDefinition P)
  output : OutputAdapterDefinition P O

/-- All definitions with the inputs they require. -/
def Resolved.definitions (r : Resolved P O) : List (String × List (String × FactType)) :=
  r.predicates.map (fun d => (d.2.name, d.2.requiredInputs)) ++ r.features.map (fun d => (d.2.name, d.2.requiredInputs)) ++
    [(r.output.name, r.output.requiredInputs)]

/-- The match of a combination that passed. -/
def matchOf (sha256 : RuleSpec → String) (rule : RuleSpec) (r : Resolved P O) (context : Context P)
    (reasons : List String) : Except RuleError (RuleMatch O) := do
  let scored ← r.features.foldlM (scoreFeature context) { score := rule.scoreBase.value, reasons := reasons }
  let score := round6 (clampScore scored.score)
  let output ← r.output.emit context rule score (firstOccurrences scored.reasons) scored.contributions
  return {
    ruleId := rule.ruleId, ruleVersion := rule.version, ruleSha256 := sha256 rule
    factRefs := rule.inputs.map fun name => (name, ((context.get? name).map (·.factId)).getD "")
    score := score, reasonCodes := firstOccurrences scored.reasons
    scoreContributions := scored.contributions, output := output }

/-- One combination: the reason it is rejected for, or its match. -/
def judgeCombination (sha256 : RuleSpec → String) (rule : RuleSpec) (r : Resolved P O) (combination : List (Fact P)) :
    Except RuleError (String ⊕ RuleMatch O) := do
  let context := contextOf rule combination
  validateContextTypes context r.definitions
  let reason ← scopeRejection rule.scope context
  if reason != "" then return .inl reason
  let judged ← runPredicates context r.predicates []
  match judged with
  | .inl reason => return .inl reason
  | .inr reasons => (matchOf sha256 rule r context reasons).map .inr

/-! ## The loop -/

/-- What the loop over the combinations has. -/
structure Tally (O : Type) where
  evaluated : ℕ := 0
  ruleMatches : List (RuleMatch O) := []
  rejected : Mapping ℕ := .empty

/-- `rejected[reason] += 1`. -/
def countReason (rejected : Mapping ℕ) (reason : String) : Mapping ℕ :=
  rejected.set reason ((rejected.get? reason).getD 0 + 1)

/-- One round of the loop over the combinations. -/
def tallyCombination (sha256 : RuleSpec → String) (rule : RuleSpec) (r : Resolved P O) (tally : Tally O)
    (combination : List (Fact P)) : Except RuleError (Tally O) := do
  let judged ← judgeCombination sha256 rule r combination
  match judged with
  | .inl reason => return { tally with
      evaluated := tally.evaluated + 1, rejected := countReason tally.rejected reason }
  | .inr found =>
    let next : Tally O := { tally with
      evaluated := tally.evaluated + 1, ruleMatches := tally.ruleMatches ++ [found] }
    if rule.safety.maxMatches < next.ruleMatches.length then throw .budget
    return next

def emptyReport : EvaluationReport O := ⟨rule.ruleId, rule.version, 0, [], []⟩

/-- The report of the loop. -/
def reportOf (tally : Tally O) : EvaluationReport O where
  ruleId := rule.ruleId
  ruleVersion := rule.version
  evaluatedCombinations := tally.evaluated
  ruleMatches := tally.ruleMatches
  rejectionCounts := tally.rejected.items.insertionSort fun a b => a.1 ≤ b.1

def OfflineRuleEngine.evaluate (engine : OfflineRuleEngine P O) (rule : RuleSpec) (facts : Mapping (List (Fact P))) :
    Except RuleError (EvaluationReport O) := do
  if !rule.enabled then return emptyReport rule
  if rule.safety.network != "forbidden" || rule.safety.mutation != "forbidden" then
    throw (.protocol "offline evaluator requires forbidden network and mutation")
  if !((sortedMissing facts.keys rule.inputs).isEmpty && (sortedMissing rule.inputs facts.keys).isEmpty) then
    throw (.protocol "fact inputs do not exactly match RuleSpec inputs")
  let predicates ← rule.predicates.mapM fun call => do
    let definition ← engine.resolvePredicate rule call
    return (call, definition)
  let features ← rule.scoreFeatures.mapM fun feature => do
    let definition ← engine.resolvePredicate rule feature.predicate
    return (feature, definition)
  let output ← engine.resolveOutput rule
  let ordered := rule.inputs.map fun name => sortFacts ((facts.get? name).getD [])
  if ordered.any (·.isEmpty) then return emptyReport rule
  let tally ← (product ordered).foldlM (tallyCombination engine.sha256 rule ⟨predicates, features, output⟩) {}
  return reportOf rule tally

end

end ApiManger.Rules
