import ApiManger.Authorization.Clone
import ApiManger.Collection.OrderedPairs

/-!
# Expanding a policy

`expand_authorization_matrix` of `apiAnalysis/tool/authorization_policy.py`: one case for
each resource group, each owner and each subject among the selected principals. The digest
of a case is the parameter `stableHash` of what it is computed from.
-/

namespace ApiManger.Authorization
open Python Collection

/-- A principal as it is listed for an expansion. -/
structure ListedPrincipal where
  principal : AuthorizationPrincipal
  active : Bool := true

/-- The dictionary that `_stable_hash` gets for the key of a case. -/
structure CaseIdentity where
  policyKey : String
  policyVersionId : String
  policyVersion : ℕ
  resourceKey : String
  relationIds : List String
  resourceFamily : String
  action : String
  owner : String
  subject : String
  expected : Decision
  rule : String
  deriving DecidableEq

structure AuthorizationCaseSpec where
  caseKey : String
  resourceKey : String
  relationIds : List String
  resourceFamily : String
  action : String
  owner : AuthorizationPrincipal
  subject : AuthorizationPrincipal
  expectedDecision : Decision
  matchedRuleId : String
  reasonCodes : List String
  deriving DecidableEq

/-- `by_id`, where the last principal of an id stands. -/
def principalById (principals : List ListedPrincipal) (id : String) : Option AuthorizationPrincipal :=
  ((principals.filter (·.active)).reverse.find? (·.principal.principalId == id)).map (·.principal)

def selectedIds (policy : AuthorizationPolicy) : List String := policy.principalIds.filter (· != "")

def groupRelationIds (resource : Dict) : Except PyError (List String) :=
  let listed := Dict.get resource "relation_ids"
  (strings (if listed.truthy then listed else .arr [])).map fun ids => ids.insertionSort (· ≤ ·)

/-- `str(resource.get("resource_key") or ":".join(relation_ids))`. -/
def keyOr (resource : Dict) (relationIds : List String) : String :=
  let given := (Dict.get resource "resource_key").strOrEmpty
  if given = "" then ":".intercalate relationIds else given

/-- `str(resource.get("action") or policy.action or "read")`. -/
def groupAction (policy : AuthorizationPolicy) (resource : Dict) : String :=
  let given := (Dict.get resource "action").strOrEmpty
  if given != "" then given else if policy.action != "" then policy.action else "read"

section
variable (stableHash : CaseIdentity → String) (policy : AuthorizationPolicy) (rules : List AuthorizationPolicyRule)

/-- What the key of a case is computed from. -/
def AuthorizationCaseSpec.identity (c : AuthorizationCaseSpec) : CaseIdentity where
  policyKey := policy.policyKey
  policyVersionId := policy.policyVersionId
  policyVersion := if policy.version = 0 then 1 else policy.version
  resourceKey := c.resourceKey
  relationIds := c.relationIds
  resourceFamily := c.resourceFamily
  action := c.action
  owner := c.owner.principalId
  subject := c.subject.principalId
  expected := c.expectedDecision
  rule := c.matchedRuleId

def groupCase (resource : Dict) (relationIds : List String) (pair : AuthorizationPrincipal × AuthorizationPrincipal) :
    Except PyError AuthorizationCaseSpec := do
  let family := (Dict.get resource "resource_family").strOrEmpty
  let action := groupAction policy resource
  let expectation ← resolveAuthorizationExpectation policy rules ⟨pair.1, pair.2, family, action⟩
  let spec : AuthorizationCaseSpec := {
    caseKey := "", resourceKey := keyOr resource relationIds, relationIds := relationIds, resourceFamily := family
    action := action, owner := pair.1, subject := pair.2, expectedDecision := expectation.expectedDecision
    matchedRuleId := expectation.matchedRuleId, reasonCodes := expectation.reasonCodes }
  return { spec with caseKey := "authorization-case:" ++ stableHash (spec.identity policy) }

/-- Whether a pair of principal ids has a case. -/
def hasCase (owner subject : String) : Bool := policy.includeSelf || owner != subject

def groupCases (selected : List AuthorizationPrincipal) (resource : Dict) : Except PyError (List AuthorizationCaseSpec) := do
  let relationIds ← groupRelationIds resource
  if relationIds.isEmpty then throw (.valueError "authorization resource group requires relation ids")
  (orderedPairs (fun a b => hasCase policy a.principalId b.principalId) selected).mapM
    (groupCase stableHash policy rules resource relationIds)

def requiredCases (principals resources : ℕ) : ℕ :=
  principals * (if policy.includeSelf then principals else principals - 1) * resources

/-- The text of `AuthorizationMatrixBudgetExceeded`. -/
def budgetExceeded (required : ℕ) (budget : Int) : String :=
  "authorization matrix requires " ++ toString required ++ " cases but policy budget is " ++ toString budget ++
    "; narrow the principal/resource scope or create a new policy version"

def expandAuthorizationMatrix (principals : List ListedPrincipal) (resources : List Dict) :
    Except PyError (List AuthorizationCaseSpec) := do
  let missing := (selectedIds policy).filter fun id => (principalById principals id).isNone
  if !missing.isEmpty then
    throw (.valueError ("authorization policy principals are unavailable: " ++ ", ".intercalate missing))
  let selected := (selectedIds policy).filterMap (principalById principals)
  if selected.isEmpty then throw (.valueError "authorization policy requires at least one explicit principal")
  if resources.isEmpty then throw (.valueError "authorization policy requires at least one resource relation group")
  if !(decide (1 ≤ policy.caseBudget) && decide (policy.caseBudget ≤ 10000)) then
    throw (.valueError "authorization policy case budget must be between 1 and 10000")
  if policy.caseBudget < requiredCases policy selected.length resources.length then
    throw (.valueError (budgetExceeded (requiredCases policy selected.length resources.length) policy.caseBudget))
  if !(decide (2 ≤ policy.requestBudgetPerCase) && decide (policy.requestBudgetPerCase ≤ 10)) then
    throw (.valueError "authorization request budget per case must be between 2 and 10")
  let sorted := resources.insertionSort fun a b =>
    (Dict.get a "resource_key").strOrEmpty ≤ (Dict.get b "resource_key").strOrEmpty
  let groups ← sorted.mapM (groupCases stableHash policy rules selected)
  return groups.flatten

end

end ApiManger.Authorization
